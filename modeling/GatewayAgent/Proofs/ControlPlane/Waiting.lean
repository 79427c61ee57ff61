import GatewayAgent.ControlPlane.Deadline
import Mathlib.Data.ENat.Lattice

/-!
# Waiting up to a limit

A wait is cut at a limit. What is there by then is taken (`cutAt_of_le`), and what is later is
replaced (`cutAt_of_lt`); so a cut adds nothing but what it puts in the place of what is late
(`eq_or_eq_of_cutAt`). An executor cuts the wait for its processes, and the allowance of a caller
with a deadline cuts the wait for the executor.

Moments are counted in nanoseconds, and what never happens is at `⊤`.
-/

namespace GatewayAgent

/-- The moment at which a span ends, if it does. -/
def endOf (span : Option Duration) : ℕ∞ := span.elim ⊤ fun d => d.nanos

namespace Pending

variable {α : Type} {x : Pending α} {limit : Duration} {late : α}

/-- The moment from which there is nothing more to wait for. -/
def arrival : Pending α → ℕ∞
  | .after t _ => t.nanos
  | .never => ⊤
  | .panic _ => 0

theorem cutAt_of_le (h : x.arrival ≤ limit.nanos) (late : α) : x.cutAt limit late = x := by
  cases x with
  | after t v =>
    have hle : t ≤ limit := Nat.cast_le.mp h
    rw [cutAt, if_pos hle]
  | never => exact absurd h (not_le.mpr (ENat.natCast_lt_top limit.nanos))
  | panic payload => rfl

theorem cutAt_of_lt (h : limit.nanos < x.arrival) (late : α) :
    x.cutAt limit late = .after limit late := by
  cases x with
  | after t v =>
    have hlt : ¬t ≤ limit := Nat.not_le.mpr (Nat.cast_lt.mp h)
    rw [cutAt, if_neg hlt]
  | never => rfl
  | panic payload => exact absurd h not_lt_zero

theorem arrival_cutAt (x : Pending α) (limit : Duration) (late : α) :
    (x.cutAt limit late).arrival = min x.arrival limit.nanos := by
  rcases le_or_gt x.arrival limit.nanos with h | h
  · rw [cutAt_of_le h, min_eq_left h]
  · rw [cutAt_of_lt h, min_eq_right h.le]
    rfl

/-- A wait that is cut ends, unless it ends in a panic. -/
theorem cutAt_eq_after (hx : ∀ payload, x ≠ .panic payload) (limit : Duration) (late : α) :
    ∃ t v, x.cutAt limit late = .after t v ∧ t ≤ limit := by
  rcases le_or_gt x.arrival limit.nanos with h | h
  · rw [cutAt_of_le h]
    cases x with
    | after t v => exact ⟨t, v, rfl, Nat.cast_le.mp h⟩
    | never => exact absurd h (not_le.mpr (ENat.natCast_lt_top limit.nanos))
    | panic payload => exact absurd rfl (hx payload)
  · exact ⟨limit, late, cutAt_of_lt h late, Nat.le_refl limit.nanos⟩

/-- A cut adds nothing but what is put in the place of what is late. -/
theorem eq_or_eq_of_cutAt {t : Duration} {v : α} (h : x.cutAt limit late = .after t v) :
    x = .after t v ∨ v = late := by
  rcases le_or_gt x.arrival limit.nanos with hle | hlt
  · rw [cutAt_of_le hle] at h
    exact .inl h
  · rw [cutAt_of_lt hlt] at h
    exact .inr (Pending.after.inj h).2.symm

end Pending

namespace Pending

variable {α : Type}

/-- What comes of waiting when it begins only after some time. -/
def delayed (lead : Duration) : Pending α → Pending α
  | .after t v => .after ⟨lead.nanos + t.nanos⟩ v
  | .never => .never
  | .panic payload => .panic payload

end Pending

/-! ### What a caller allows -/

/-- What is left of a caller's deadline for a command. -/
def allowance (deadline : Option Duration) : Option Duration :=
  deadline.map (·.monus deadlineHeadroom)

section

variable {run : Execution} {deadline : Option Duration} {d : Duration}

theorem boundBy_of_le (h : run.arrival ≤ endOf (allowance deadline)) :
    Pending.boundBy run deadline = run := by
  cases deadline with
  | none => rfl
  | some d => exact Pending.cutAt_of_le h _

theorem boundBy_of_lt (h : endOf (allowance (some d)) < run.arrival) :
    Pending.boundBy run (some d) =
      .after (d.monus deadlineHeadroom) (.error (.deadlineExceeded d)) :=
  Pending.cutAt_of_lt h _

/-- A deadline adds nothing but the error that it has passed. -/
theorem eq_or_eq_of_boundBy {t : Duration} {result : CommandResult}
    (h : Pending.boundBy run deadline = .after t result) :
    run = .after t result ∨ ∃ d, result = .error (.deadlineExceeded d) := by
  cases deadline with
  | none => exact .inl h
  | some d => exact (Pending.eq_or_eq_of_cutAt h).imp_right fun hlate => ⟨d, hlate⟩

theorem arrival_boundBy (run : Execution) (deadline : Option Duration) :
    (Pending.boundBy run deadline).arrival = min run.arrival (endOf (allowance deadline)) := by
  cases deadline with
  | none => exact (min_eq_left le_top).symm
  | some d => exact Pending.arrival_cutAt run _ _

end

/-- The headroom is taken off in full, or nothing is left. -/
theorem nanos_monus_deadlineHeadroom (d : Duration) :
    ((d.monus deadlineHeadroom).nanos : ℤ) = max ((d.nanos : ℤ) - 50000000) 0 := by
  change ((d.nanos - 50000000 : ℕ) : ℤ) = _
  omega

/-- A wait that begins late, but by the headroom at most, still ends before the deadline. -/
theorem lead_add_le_deadline {lead t d : Duration} (hlead : lead ≤ deadlineHeadroom)
    (hd : lead ≤ d) (ht : t ≤ d.monus deadlineHeadroom) :
    (⟨lead.nanos + t.nanos⟩ : Duration) ≤ d := by
  have hmonus : t.nanos ≤ d.nanos - deadlineHeadroom.nanos := ht
  have hheadroom : lead.nanos ≤ deadlineHeadroom.nanos := hlead
  have hdeadline : lead.nanos ≤ d.nanos := hd
  change lead.nanos + t.nanos ≤ d.nanos
  omega

/-! ### Processes -/

namespace ProcessRun

/-- What comes of a process is there when it has run. -/
theorem arrival_execution (process : ProcessRun) (command : String) :
    (process.execution command).arrival = endOf process.runtime := by
  rw [execution]
  cases process.runtime <;> rfl

theorem execution_ne_panic (process : ProcessRun) (command : String) (payload : PanicPayload) :
    process.execution command ≠ .panic payload := by
  rw [execution]
  cases process.runtime <;> simp

end ProcessRun

end GatewayAgent
