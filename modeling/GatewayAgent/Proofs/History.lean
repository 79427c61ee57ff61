import Mathlib.Data.List.Basic

/-!
# Histories

A history records the steps of a run, each with the state that it found (`trace`). Some entries of
a history begin something and later entries may end it. An entry is *standing* if nothing after it
has ended what it began. `trace_snoc` says how one more step goes on record and `standing_snoc` how
one more entry changes what stands, which is all that an induction along a run needs.
-/

namespace GatewayAgent

/-! ### What has happened -/

section Trace

variable {σ ι α : Type} {next : σ → ι → σ} {entry : ι → σ → α}

/-- The history of a run that begins in a state. -/
def trace (next : σ → ι → σ) (entry : ι → σ → α) : σ → List ι → List α
  | _, [] => []
  | s, step :: run => entry step s :: trace next entry (next s step) run

theorem trace_snoc {s : σ} {run : List ι} {step : ι} :
    trace next entry s (run ++ [step]) =
      trace next entry s run ++ [entry step (run.foldl next s)] := by
  induction run generalizing s with
  | nil => rfl
  | cons first run ih => rw [List.cons_append, trace, ih, trace, List.cons_append, List.foldl_cons]

theorem exists_of_mem_trace {s : σ} {run : List ι} {x : α} (h : x ∈ trace next entry s run) :
    ∃ step ∈ run, ∃ s, x = entry step s := by
  induction run generalizing s with
  | nil => exact absurd h List.not_mem_nil
  | cons first run ih =>
    rcases List.mem_cons.mp h with rfl | h
    · exact ⟨first, List.mem_cons_self, s, rfl⟩
    · obtain ⟨step, hstep, found, rfl⟩ := ih h
      exact ⟨step, List.mem_cons_of_mem first hstep, found, rfl⟩

end Trace

/-! ### What stands -/

variable {α : Type} {begins : α → Prop} {ends : α → α → Prop} {l : List α} {x y : α}

/-- The entry `x` begins something that no later entry of `l` ends. -/
def Standing (begins : α → Prop) (ends : α → α → Prop) (l : List α) (x : α) : Prop :=
  ∃ before after, l = before ++ x :: after ∧ begins x ∧ ∀ y ∈ after, ¬ends x y

theorem not_standing_nil : ¬Standing begins ends [] x := by
  rintro ⟨before, after, h, -⟩
  simp at h

theorem standing_snoc :
    Standing begins ends (l ++ [y]) x ↔
      (x = y ∧ begins y) ∨ (Standing begins ends l x ∧ ¬ends x y) := by
  constructor
  · rintro ⟨before, after, h, hx, hafter⟩
    rcases List.eq_nil_or_concat after with rfl | ⟨rest, z, rfl⟩
    · obtain ⟨-, rfl⟩ := List.append_singleton_inj.mp h
      exact .inl ⟨rfl, hx⟩
    · rw [List.concat_eq_append, ← List.cons_append, ← List.append_assoc] at h
      obtain ⟨rfl, rfl⟩ := List.append_singleton_inj.mp h
      refine .inr ⟨⟨before, rest, rfl, hx, fun z hz => hafter z ?_⟩, hafter _ ?_⟩ <;> simp [*]
  · rintro (⟨rfl, hx⟩ | ⟨⟨before, after, rfl, hx, hafter⟩, hy⟩)
    · exact ⟨l, [], rfl, hx, by simp⟩
    · refine ⟨before, after ++ [y], by simp, hx, fun z hz => ?_⟩
      rcases List.mem_append.mp hz with hz | hz
      · exact hafter z hz
      · rwa [List.mem_singleton.mp hz]

end GatewayAgent
