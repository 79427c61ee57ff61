import GatewayAgent.Proofs.ControlPlane.Effect
import Mathlib.Data.List.Basic

/-!
# Clients that come back during a forced disconnect

A forced disconnect waits for its command: the gateway drops every connection of the user, and only
when the handler has heard of that does it forget the user's sessions. In between, the gateway may
accept the user's client again and report it, and other calls run as they come. A `Run` is any such
interleaving of one forced disconnect with connections that the gateway accepts and reports.

What becomes of a connection is decided by one thing, whether its report overtakes the handler:
`holds_iff_of_reported` says that the registry holds a reported connection unless it belongs to the
user and was reported before the handler resumed. So registry and gateway agree at the end exactly
if no client that came back was reported that early (`agreement_iff_no_report_overtakes`).
-/

namespace GatewayAgent

namespace Reconnection

/-! ### Scenes and runs -/

/-- What a handler does once its command has ended. -/
abbrev Resumption := CommandResult → AgentState → AgentState × Reply

/-- How far the forced disconnect has come. -/
inductive Phase where
  | pending
  /-- The handler waits for its command, which the gateway has not executed. -/
  | issued (line : CommandLine) (resume : Resumption)
  /-- The gateway has dropped the connections; the handler does not know yet. -/
  | executed (resume : Resumption)
  | answered (reply : Reply)

/-- The agent and its gateway. -/
structure Scene where
  agent : AgentState
  phase : Phase
  /-- The connections that are up. -/
  up : List ClientConnection
  /-- The connections that the gateway has had so far. -/
  known : List ClientConnection
  /-- Those whose notification is still under way. -/
  unreported : List ClientConnection

/-- What can happen next. -/
inductive Event where
  /-- The gateway accepts a connection and sends its notification. -/
  | accept (c : ClientConnection)
  /-- The agent handles the notification of a connection. -/
  | report (now : Instant) (c : ClientConnection)
  /-- The forced disconnect begins. -/
  | begin (now : Instant)
  /-- The gateway executes the command. -/
  | execute
  /-- The handler learns that the command has succeeded, and goes on to its end. -/
  | resume (o : CommandOutput)

namespace Scene

/-- A registry without a time to live, a gateway with some connections, and no call yet. -/
def start (sessions : Dictionary String Session) (files : FileSystem)
    (up : List ClientConnection) : Scene where
  agent := { registry := { ttl := none, sessions }, files }
  phase := .pending
  up
  known := up
  unreported := []

/-- The scene when the forced disconnect has made its first turn. -/
def afterTurn (sc : Scene) : Turn → Scene
  | .replied agent reply => { sc with agent, phase := .answered reply }
  | .waiting agent line resume => { sc with agent, phase := .issued line resume }

/-- All calls have finished. -/
def Finished (sc : Scene) : Prop := sc.unreported = [] ∧ ∃ reply, sc.phase = .answered reply

end Scene

/-- One event of an interleaving. The gateway gives a new connection an identifier that none of
its connections has had. -/
inductive Step (p : ControlPlane) (call : Forced) : Scene → Event → Scene → Prop
  | accept {sc : Scene} {c : ClientConnection} (hfresh : ∀ d ∈ sc.known, d.id ≠ c.id) :
      Step p call sc (.accept c)
        { sc with up := c :: sc.up, known := c :: sc.known, unreported := c :: sc.unreported }
  | report {sc : Scene} {now : Instant} {c : ClientConnection} (hc : c ∈ sc.unreported) :
      Step p call sc (.report now c)
        { sc with
          agent := (p.begin sc.agent now c.notification).state
          unreported := sc.unreported.filter fun d => d.id ≠ c.id }
  | begin {sc : Scene} {now : Instant} (hphase : sc.phase = .pending) :
      Step p call sc (.begin now) (sc.afterTurn (p.begin sc.agent now call.request))
  | execute {sc : Scene} {username : String} {resume : Resumption}
      (hphase : sc.phase = .issued (disconnectLine username) resume) :
      Step p call sc .execute
        { sc with
          phase := .executed resume
          up := sc.up.filter fun d => d.username ≠ username }
  | resume {sc : Scene} {resume : Resumption} {o : CommandOutput}
      (hphase : sc.phase = .executed resume) (ho : o.success = true) :
      Step p call sc (.resume o)
        { sc with
          agent := (resume (.ok o) sc.agent).1
          phase := .answered (resume (.ok o) sc.agent).2 }

/-- The interleavings from a scene on, with the events that make them up. -/
inductive Run (p : ControlPlane) (call : Forced) (first : Scene) : List Event → Scene → Prop
  | nil : Run p call first [] first
  | snoc {run : List Event} {sc sc' : Scene} {e : Event} (h : Run p call first run sc)
      (hstep : Step p call sc e sc') : Run p call first (run ++ [e]) sc'

/-- One event comes before another. -/
def Precedes (run : List Event) (e e' : Event) : Prop := [e, e'].Sublist run

/-- The gateway has accepted the connection after it executed the command. -/
def CameBack (run : List Event) (c : ClientConnection) : Prop := Precedes run .execute (.accept c)

/-- The connection was reported before the handler resumed. -/
def Overtakes (run : List Event) (c : ClientConnection) : Prop :=
  ∃ now o, Precedes run (.report now c) (.resume o)

variable {p : ControlPlane} {call : Forced} {sessions : Dictionary String Session}
  {files : FileSystem} {up : List ClientConnection} {run : List Event} {sc sc' : Scene}
  {c d : ClientConnection} {e e' x : Event}

theorem mem_snoc : e ∈ run ++ [x] ↔ e ∈ run ∨ e = x := by
  rw [List.mem_append, List.mem_singleton]

/-- An event that comes last is preceded by all others. -/
theorem precedes_snoc :
    Precedes (run ++ [x]) e e' ↔ Precedes run e e' ∨ (e' = x ∧ e ∈ run) := by
  -- Read from the end, the last event is either left out or the later of the two.
  rw [Precedes, Precedes, ← List.reverse_sublist, List.reverse_append, List.reverse_singleton,
    List.singleton_append, List.sublist_cons_iff]
  constructor
  · rintro (h | ⟨l, hl, hsub⟩)
    · exact .inl (List.reverse_sublist.mp h)
    · obtain ⟨rfl, rfl⟩ : e' = x ∧ [e] = l := by simpa using hl
      exact .inr ⟨rfl, by simpa using hsub⟩
  · rintro (h | ⟨rfl, hmem⟩)
    · exact .inl (List.reverse_sublist.mpr h)
    · exact .inr ⟨[e], rfl, by simpa using hmem⟩

theorem Precedes.mem_left (h : Precedes run e e') : e ∈ run := h.subset (by simp)

theorem Precedes.mem_right (h : Precedes run e e') : e' ∈ run := h.subset (by simp)

/-! ### What is under way -/

/-- The command is executed once and the handler resumes once, each when its time has come; and
when the handler resumes, it forgets the user's sessions. -/
def Phase.Consistent (username : String) (run : List Event) : Phase → Prop
  | .pending => .execute ∉ run ∧ ∀ o, .resume o ∉ run
  | .issued line resume =>
    (.execute ∉ run ∧ ∀ o, .resume o ∉ run) ∧ line = disconnectLine username ∧
      ∀ result s, (resume result s).1.registry = s.registry.afterForced username result
  | .executed resume =>
    (∀ o, .resume o ∉ run) ∧
      ∀ result s, (resume result s).1.registry = s.registry.afterForced username result
  | .answered _ => True

/-- What has happened in a phase does not change with an event that is no turn of the call. -/
theorem Phase.Consistent.snoc {phase : Phase} {username : String}
    (h : phase.Consistent username run) (hx : x ≠ .execute) (hx' : ∀ o, x ≠ .resume o) :
    phase.Consistent username (run ++ [x]) := by
  have hnot : ∀ {e}, e ∉ run → x ≠ e → e ∉ run ++ [x] := fun hrun hne hmem =>
    (mem_snoc.mp hmem).elim hrun fun heq => hne heq.symm
  cases phase with
  | pending => exact ⟨hnot h.1 hx, fun o => hnot (h.2 o) (hx' o)⟩
  | issued line resume => exact ⟨⟨hnot h.1.1 hx, fun o => hnot (h.1.2 o) (hx' o)⟩, h.2⟩
  | executed resume => exact ⟨fun o => hnot (h.1 o) (hx' o), h.2⟩
  | answered reply => exact trivial

/-- The phase of a call tells what has happened to it. -/
theorem phase_consistent (h : Run p call (.start sessions files up) run sc) :
    sc.phase.Consistent call.username run := by
  induction h with
  | nil => simp [Scene.start, Phase.Consistent]
  | @snoc run sc sc' e h hstep ih =>
    cases hstep with
    | accept hfresh => exact ih.snoc (by simp) (by simp)
    | report hc => exact ih.snoc (by simp) (by simp)
    | @begin now hphase =>
      rw [hphase] at ih
      have hnot := ih.snoc (x := .begin now) (by simp) (by simp)
      cases hturn : p.begin sc.agent now call.request with
      | replied agent reply => exact trivial
      | waiting agent line resume =>
        have hforces := forces_begin p sc.agent now call
        rw [hturn] at hforces
        cases hforces with
        | waiting hs hresume => exact ⟨hnot, rfl, hresume⟩
    | execute hphase =>
      rw [hphase] at ih
      obtain ⟨⟨-, hnot⟩, -, hresume⟩ := ih
      exact ⟨fun o hmem => hnot o (by simpa using hmem), hresume⟩
    | resume hphase ho => exact trivial

@[simp]
theorem Scene.known_afterTurn (sc : Scene) (t : Turn) : (sc.afterTurn t).known = sc.known := by
  cases t <;> rfl

@[simp]
theorem Scene.up_afterTurn (sc : Scene) (t : Turn) : (sc.afterTurn t).up = sc.up := by
  cases t <;> rfl

@[simp]
theorem Scene.unreported_afterTurn (sc : Scene) (t : Turn) :
    (sc.afterTurn t).unreported = sc.unreported := by
  cases t <;> rfl

@[simp]
theorem Scene.agent_afterTurn (sc : Scene) (t : Turn) : (sc.afterTurn t).agent = t.state := by
  cases t <;> rfl

/-- The gateway knows every connection that it has accepted or that was up. -/
theorem mem_known (h : Run p call (.start sessions files up) run sc)
    (hc : .accept c ∈ run ∨ c ∈ up) : c ∈ sc.known := by
  induction h with
  | nil => simpa [Scene.start] using hc
  | snoc h hstep ih =>
    cases hstep with
    | accept hfresh =>
      rw [mem_snoc, or_right_comm] at hc
      rcases hc with hc | hc
      · exact List.mem_cons_of_mem _ (ih hc)
      · obtain rfl : c = _ := by simpa using hc
        exact List.mem_cons_self
    | report hc' => exact ih (by simpa [mem_snoc] using hc)
    | begin hphase => simpa using ih (by simpa [mem_snoc] using hc)
    | execute hphase => exact ih (by simpa [mem_snoc] using hc)
    | resume hphase ho => exact ih (by simpa [mem_snoc] using hc)

/-- No other connection has the identifier of one that was accepted. -/
theorem eq_of_id_eq (h : Run p call (.start sessions files up) run sc) (hc : .accept c ∈ run)
    (hd : .accept d ∈ run ∨ d ∈ up) (hid : d.id = c.id) : d = c := by
  induction h with
  | nil => simp at hc
  | @snoc run sc sc' e h hstep ih =>
    cases hstep with
    | @accept new hfresh =>
      rw [mem_snoc] at hc
      rw [mem_snoc, or_right_comm] at hd
      -- The new connection has an identifier that none before it has had.
      have hnew : ∀ {b}, Event.accept b ∈ run ∨ b ∈ up → b.id ≠ new.id := fun hb =>
        hfresh _ (mem_known h hb)
      rcases hc with hc | hc <;> rcases hd with hd | hd
      · exact ih hc hd
      · obtain rfl : d = new := by simpa using hd
        exact absurd hid.symm (hnew (.inl hc))
      · obtain rfl : c = new := by simpa using hc
        exact absurd hid (hnew hd)
      · rw [show d = new by simpa using hd, show c = new by simpa using hc]
    | report hc' => exact ih (by simpa [mem_snoc] using hc) (by simpa [mem_snoc] using hd)
    | begin hphase => exact ih (by simpa [mem_snoc] using hc) (by simpa [mem_snoc] using hd)
    | execute hphase => exact ih (by simpa [mem_snoc] using hc) (by simpa [mem_snoc] using hd)
    | resume hphase ho => exact ih (by simpa [mem_snoc] using hc) (by simpa [mem_snoc] using hd)

/-- What is still to be reported was accepted. -/
theorem accepted_of_unreported (h : Run p call (.start sessions files up) run sc)
    (hc : c ∈ sc.unreported) : .accept c ∈ run := by
  induction h with
  | nil => simp [Scene.start] at hc
  | snoc h hstep ih =>
    rw [mem_snoc]
    cases hstep with
    | accept hfresh =>
      rcases List.mem_cons.mp hc with rfl | hc
      · exact .inr rfl
      · exact .inl (ih hc)
    | report hc' => exact .inl (ih (List.mem_of_mem_filter hc))
    | begin hphase => exact .inl (ih (by simpa using hc))
    | execute hphase => exact .inl (ih hc)
    | resume hphase ho => exact .inl (ih hc)

/-- What was reported was accepted. -/
theorem accepted_of_reported (h : Run p call (.start sessions files up) run sc) {now : Instant}
    (hc : .report now c ∈ run) : .accept c ∈ run := by
  induction h with
  | nil => simp at hc
  | snoc h hstep ih =>
    rw [mem_snoc] at hc ⊢
    rcases hc with hc | rfl
    · exact .inl (ih hc)
    · cases hstep with
      | report hc' => exact .inl (accepted_of_unreported h hc')

/-- What is still to be reported was not reported. -/
theorem not_reported_of_unreported (h : Run p call (.start sessions files up) run sc)
    (hc : c ∈ sc.unreported) (now : Instant) : .report now c ∉ run := by
  induction h with
  | nil => simp
  | snoc h hstep ih =>
    rw [mem_snoc, not_or]
    cases hstep with
    | @accept new hfresh =>
      refine ⟨fun hrep => ?_, by simp⟩
      rcases List.mem_cons.mp hc with rfl | hc
      · exact hfresh c (mem_known h (.inl (accepted_of_reported h hrep))) rfl
      · exact ih hc hrep
    | report hc' =>
      obtain ⟨hc, hid⟩ := List.mem_filter.mp hc
      refine ⟨ih hc, fun heq => ?_⟩
      rw [(Event.report.inj heq).2] at hid
      simp at hid
    | begin hphase => exact ⟨ih (by simpa using hc), by simp⟩
    | execute hphase => exact ⟨ih hc, by simp⟩
    | resume hphase ho => exact ⟨ih hc, by simp⟩

/-- No notification is lost. -/
theorem unreported_or_reported (h : Run p call (.start sessions files up) run sc)
    (hc : .accept c ∈ run) : c ∈ sc.unreported ∨ ∃ now, .report now c ∈ run := by
  induction h with
  | nil => simp at hc
  | @snoc run sc sc' e h hstep ih =>
    have hold : .accept c ∈ run → c ∈ sc.unreported ∨ ∃ now, .report now c ∈ run ++ [e] := by
      intro hc
      rcases ih hc with hun | ⟨now, hrep⟩
      · exact .inl hun
      · exact .inr ⟨now, mem_snoc.mpr (.inl hrep)⟩
    rw [mem_snoc] at hc
    cases hstep with
    | accept hfresh =>
      rcases hc with hc | hc
      · exact (hold hc).imp_left (List.mem_cons_of_mem _)
      · rw [Event.accept.inj hc]
        exact .inl List.mem_cons_self
    | @report now d hd =>
      have hc : .accept c ∈ run := by simpa using hc
      -- A report settles its own notification and no other.
      by_cases hid : c.id = d.id
      · rw [eq_of_id_eq h (accepted_of_unreported h hd) (.inl hc) hid]
        exact .inr ⟨now, mem_snoc.mpr (.inr rfl)⟩
      · exact (hold hc).imp_left fun hun => List.mem_filter.mpr ⟨hun, by simpa using hid⟩
    | begin hphase => simpa using hold (by simpa using hc)
    | execute hphase => exact hold (by simpa using hc)
    | resume hphase ho => exact hold (by simpa using hc)

/-! ### The registry along a run -/

/-- What an event does to the registry. -/
def Event.apply (username : String) (r : Registry) : Event → Registry
  | .report now c => r.notifyConnect now c.session
  | .resume _ => (r.removeByUsername username).1
  | _ => r

/-- A step changes the registry as its event says. -/
theorem registry_step (h : Run p call (.start sessions files up) run sc)
    (hstep : Step p call sc e sc') :
    sc'.agent.registry = e.apply call.username sc.agent.registry := by
  cases hstep with
  | accept hfresh => rfl
  | report hc => rfl
  | begin hphase =>
    rw [Scene.agent_afterTurn]
    exact (forces_begin p sc.agent _ call).registry_state
  | execute hphase => rfl
  | @resume resume o hphase ho =>
    have hphase' := phase_consistent h
    rw [hphase] at hphase'
    change (resume (.ok o) sc.agent).1.registry = _
    rw [hphase'.2, Registry.afterForced, CommandResult.succeeded, if_pos ho]
    rfl

/-- No step gives the registry a time to live. -/
theorem ttl_eq_none (h : Run p call (.start sessions files up) run sc) :
    sc.agent.registry.ttl = none := by
  induction h with
  | nil => rfl
  | snoc h hstep ih =>
    rw [registry_step h hstep]
    cases hstep with
    | report hc => rw [Event.apply, Registry.ttl_notifyConnect, ih]
    | _ => exact ih

/-! ### Which connections the registry holds -/

/-- Nothing but the end of the command makes a report overtake. -/
theorem overtakes_snoc (hx : ∀ o, x ≠ .resume o) :
    Overtakes (run ++ [x]) c ↔ Overtakes run c := by
  refine exists_congr fun now => exists_congr fun o => ?_
  rw [precedes_snoc]
  exact or_iff_left fun h => hx o h.1.symm

/-- The end of the command is overtaken by the reports that were made before it. -/
theorem overtakes_snoc_resume {o : CommandOutput} :
    Overtakes (run ++ [.resume o]) c ↔ Overtakes run c ∨ ∃ now, .report now c ∈ run := by
  constructor
  · rintro ⟨now, o', h⟩
    rcases precedes_snoc.mp h with h | ⟨-, hmem⟩
    · exact .inl ⟨now, o', h⟩
    · exact .inr ⟨now, hmem⟩
  · rintro (⟨now, o', h⟩ | ⟨now, hmem⟩)
    · exact ⟨now, o', precedes_snoc.mpr (.inl h)⟩
    · exact ⟨now, o, precedes_snoc.mpr (.inr ⟨rfl, hmem⟩)⟩

/-- The registry holds a reported connection, unless it is the user's and was reported before the
handler resumed. -/
theorem holds_iff_of_reported (h : Run p call (.start sessions files up) run sc) {now : Instant}
    (hc : .report now c ∈ run) :
    sc.agent.registry.Holds c ↔ ¬(c.username = call.username ∧ Overtakes run c) := by
  induction h with
  | nil => simp at hc
  | @snoc run sc sc' e h hstep ih =>
    rw [registry_step h hstep]
    cases hstep with
    | accept hfresh =>
      rw [overtakes_snoc (by simp)]
      exact ih (by simpa using hc)
    | @report now' d hd =>
      rw [overtakes_snoc (by simp), Event.apply]
      rcases mem_snoc.mp hc with hc | heq
      · -- An earlier report is of another connection, for this one was still under way.
        have hid : c.id ≠ d.id := fun hid => by
          rw [eq_of_id_eq h (accepted_of_unreported h hd) (.inl (accepted_of_reported h hc)) hid]
            at hc
          exact not_reported_of_unreported h hd now hc
        rw [Registry.holds_notifyConnect_of_ne hid]
        exact ih hc
      · obtain ⟨rfl, rfl⟩ := Event.report.inj heq
        have hnot : ¬Overtakes run c := fun ⟨now, o, hover⟩ =>
          not_reported_of_unreported h hd now hover.mem_left
        simp [hnot, Registry.holds_notifyConnect_self (ttl_eq_none h)]
    | begin hphase =>
      rw [overtakes_snoc (by simp)]
      exact ih (by simpa using hc)
    | execute hphase =>
      rw [overtakes_snoc (by simp)]
      exact ih (by simpa using hc)
    | @resume resume o hphase ho =>
      -- The handler resumes once, so until now nothing was overtaken and the connection was held.
      have hc : .report now c ∈ run := by simpa using hc
      have hphase' := phase_consistent h
      rw [hphase] at hphase'
      have hnot : ¬Overtakes run c := fun ⟨_, o, hover⟩ => hphase'.1 o hover.mem_right
      have hheld : sc.agent.registry.Holds c := (ih hc).mpr fun hboth => hnot hboth.2
      rw [Event.apply, Registry.holds_removeByUsername, overtakes_snoc_resume]
      simp only [hheld, true_and, not_and]
      exact ⟨fun hne heq => absurd heq hne, fun hno heq => hno heq (.inr ⟨now, hc⟩)⟩

/-- A session that was on record stays there, unless it is the user's. -/
theorem holds_of_held (h : Run p call (.start sessions files up) run sc) (hc : c ∈ up)
    (hne : c.username ≠ call.username)
    (hheld : (Scene.start sessions files up).agent.registry.Holds c) :
    sc.agent.registry.Holds c := by
  induction h with
  | nil => exact hheld
  | snoc h hstep ih =>
    rw [registry_step h hstep]
    cases hstep with
    | @report now d hd =>
      by_cases hid : c.id = d.id
      · obtain rfl : c = d := eq_of_id_eq h (accepted_of_unreported h hd) (.inr hc) hid
        exact Registry.holds_notifyConnect_self (ttl_eq_none h) now c
      · exact (Registry.holds_notifyConnect_of_ne hid now).mpr ih
    | resume hphase ho => exact Registry.holds_removeByUsername.mpr ⟨ih, hne⟩
    | _ => exact ih

/-- A connection that has come back is up. -/
theorem mem_up_of_cameBack (h : Run p call (.start sessions files up) run sc)
    (hc : CameBack run c) : c ∈ sc.up := by
  induction h with
  | nil => simp [CameBack, Precedes] at hc
  | snoc h hstep ih =>
    have hlast := precedes_snoc.mp hc
    cases hstep with
    | accept hfresh =>
      rcases hlast with hback | ⟨heq, -⟩
      · exact List.mem_cons_of_mem _ (ih hback)
      · rw [Event.accept.inj heq]
        exact List.mem_cons_self
    | report hd => exact ih (hlast.resolve_right (by simp))
    | begin hphase => simpa using ih (hlast.resolve_right (by simp))
    | execute hphase =>
      -- The command is executed only once, so nothing came back before.
      have hphase' := phase_consistent h
      rw [hphase] at hphase'
      exact absurd (hlast.resolve_right (by simp)).mem_left hphase'.1.1
    | resume hphase ho => exact ih (hlast.resolve_right (by simp))

/-- What is up was up at first or was accepted. -/
theorem mem_up_or_accepted (h : Run p call (.start sessions files up) run sc)
    (hc : c ∈ sc.up) : c ∈ up ∨ .accept c ∈ run := by
  induction h with
  | nil => exact .inl hc
  | snoc h hstep ih =>
    rw [mem_snoc, ← or_assoc]
    cases hstep with
    | accept hfresh =>
      rcases List.mem_cons.mp hc with rfl | hc
      · exact .inr rfl
      · exact .inl (ih hc)
    | report hd => exact .inl (ih hc)
    | begin hphase => exact .inl (ih (by simpa using hc))
    | execute hphase => exact .inl (ih (List.mem_of_mem_filter hc))
    | resume hphase ho => exact .inl (ih hc)

/-- **Registry and gateway after a forced disconnect.** When all calls have finished, the registry
holds every connection that came back exactly if no such connection of the user was reported before
the handler resumed. Those connections are still up, and other users lose nothing. -/
theorem agreement_iff_no_report_overtakes (h : Run p call (.start sessions files up) run sc)
    (hdone : sc.Finished) :
    ((∀ c, CameBack run c → sc.agent.registry.Holds c) ↔
        ∀ c, c.username = call.username → CameBack run c → ¬Overtakes run c) ∧
      (∀ c, CameBack run c → c ∈ sc.up) ∧
      ∀ c ∈ sc.up, c.username ≠ call.username →
        (c ∈ up → (Scene.start sessions files up).agent.registry.Holds c) →
        sc.agent.registry.Holds c := by
  have hiff : ∀ c, .accept c ∈ run →
      (sc.agent.registry.Holds c ↔ ¬(c.username = call.username ∧ Overtakes run c)) := by
    intro c hacc
    obtain hun | ⟨now, hrep⟩ := unreported_or_reported h hacc
    · rw [hdone.1] at hun
      exact absurd hun List.not_mem_nil
    · exact holds_iff_of_reported h hrep
  refine ⟨forall_congr' fun c => ?_, fun c => mem_up_of_cameBack h, fun c hc hne hheld => ?_⟩
  · constructor
    · intro hholds huser hback hover
      exact (hiff c hback.mem_right).mp (hholds hback) ⟨huser, hover⟩
    · intro hno hback
      exact (hiff c hback.mem_right).mpr fun hboth => hno hboth.1 hback hboth.2
  · rcases mem_up_or_accepted h hc with hup | hacc
    · exact holds_of_held h hup hne (hheld hup)
    · exact (hiff c hacc).mpr fun hboth => hne hboth.1

/-- A client of Alice. -/
def laptop : ClientConnection where
  id := "s1"
  username := "alice"
  vpnIp := "10.8.0.2"

/-- The same client when it has come back. -/
def laptopAgain : ClientConnection where
  id := "s2"
  username := "alice"
  vpnIp := "10.8.0.3"

/-- Alice is disconnected, and her client comes back before the handler resumes. -/
def comingBack : List Event :=
  [.accept laptop, .report ⟨0⟩ laptop, .begin ⟨1⟩, .execute, .accept laptopAgain]

/-- A user can come back while the command is on its way, and be reported when it has ended. -/
theorem run_comingBack :
    ∃ sc, Run {} (.disconnect "alice") (.start .empty {} []) comingBack sc ∧
      sc.phase = .executed (afterDisconnect "alice") ∧ sc.up = [laptopAgain] ∧
      sc.unreported = [laptopAgain] := by
  have started : Run {} (.disconnect "alice") (.start .empty {} []) [] _ := .nil
  have accepted := started.snoc (.accept (c := laptop) (by simp [Scene.start]))
  have reported := accepted.snoc (e := .report ⟨0⟩ laptop) (.report List.mem_cons_self)
  have executed := (reported.snoc (e := .begin ⟨1⟩) (.begin rfl)).snoc (.execute rfl)
  have back := executed.snoc
    (.accept (c := laptopAgain) (by simp [Scene.start, laptop, laptopAgain]))
  exact ⟨_, back, rfl, by simp [Scene.start, laptop, Forced.request], by simp [Scene.start]⟩

theorem cameBack_append (rest : List Event) : CameBack (comingBack ++ rest) laptopAgain :=
  List.Sublist.trans (.cons _ (.cons _ (.cons _ (.refl _)))) (List.sublist_append_left _ rest)

/-- The registry can lose a connection that is up: in this run Alice's client is reported before the
handler resumes, and at the end the registry does not hold it. -/
theorem early_report_lost :
    ∃ sc, Run {} (.disconnect "alice") (.start .empty {} [])
        (comingBack ++ [.report ⟨2⟩ laptopAgain, .resume { success := true }]) sc ∧
      sc.Finished ∧
      CameBack (comingBack ++ [.report ⟨2⟩ laptopAgain, .resume { success := true }])
        laptopAgain ∧
      laptopAgain ∈ sc.up ∧ ¬sc.agent.registry.Holds laptopAgain := by
  obtain ⟨sc, hrun, hphase, -, hun⟩ := run_comingBack
  have reported := hrun.snoc (e := .report ⟨2⟩ laptopAgain)
    (.report (by rw [hun]; exact List.mem_singleton_self _))
  have resumed := reported.snoc (.resume (o := { success := true }) hphase rfl)
  rw [List.append_assoc] at resumed
  refine ⟨_, resumed, ⟨by simp [hun], _, rfl⟩, cameBack_append _,
    mem_up_of_cameBack resumed (cameBack_append _), fun hheld => ?_⟩
  have hreport : .report ⟨2⟩ laptopAgain ∈
      comingBack ++ [.report ⟨2⟩ laptopAgain, .resume { success := true }] := by simp
  refine (holds_iff_of_reported resumed hreport).mp hheld ⟨rfl, ⟨2⟩, { success := true }, ?_⟩
  exact List.sublist_append_right comingBack _

/-- Reported after the handler has resumed, the same connection is held. -/
theorem late_report_held :
    ∃ sc, Run {} (.disconnect "alice") (.start .empty {} [])
        (comingBack ++ [.resume { success := true }, .report ⟨2⟩ laptopAgain]) sc ∧
      sc.Finished ∧ sc.agent.registry.Holds laptopAgain := by
  obtain ⟨sc, hrun, hphase, hup, hun⟩ := run_comingBack
  have resumed := hrun.snoc (.resume (o := { success := true }) hphase rfl)
  have reported := resumed.snoc (e := .report ⟨2⟩ laptopAgain)
    (.report (by rw [hun]; exact List.mem_singleton_self _))
  rw [List.append_assoc] at reported
  obtain ⟨sc', hrun', hdone⟩ : ∃ sc', Run {} (.disconnect "alice") (.start .empty {} []) _ sc' ∧
      sc'.Finished := ⟨_, reported, by simp [hun], _, rfl⟩
  refine ⟨sc', hrun', hdone, ?_⟩
  refine (agreement_iff_no_report_overtakes hrun' hdone).1.mpr ?_ _ (cameBack_append _)
  rintro c - hback ⟨now, o, hover⟩
  rw [CameBack, ← List.append_assoc, precedes_snoc, precedes_snoc] at hback
  rw [← List.append_assoc, precedes_snoc, precedes_snoc] at hover
  have hc : c ∈ sc.up := mem_up_of_cameBack hrun
    ((hback.resolve_right (by simp)).resolve_right (by simp))
  have hrep : .report now c ∈ comingBack := by
    rcases hover with (hover | ⟨-, hrep⟩) | ⟨heq, -⟩
    · exact hover.mem_left
    · exact hrep
    · simp at heq
  exact not_reported_of_unreported hrun (by rw [hun, ← hup]; exact hc) now hrep

end Reconnection

end GatewayAgent
