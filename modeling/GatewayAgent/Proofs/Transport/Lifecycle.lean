import GatewayAgent.Transport.Lifecycle
import Mathlib.Data.List.Basic

/-!
# A transport that many calls share

Any number of calls can be on their way on one transport at the same time: servers, graceful stops
and stops, each of which takes its next part whenever its turn comes. `SharedTransport` is the
transport with all these calls, and it keeps on record which of them have moved it to listening.

Two facts carry everything (`Sound`). As long as the transport is created no call has taken a part,
so a stop that has completed has left that state behind, for good. And a call either has moved the
transport to listening, and then the transport is stopped before the call returns, or it stands
outside and has done nothing to the transport.

Main statement: `lifecycle_of_run`, what holds along every interleaving of such calls.
-/

namespace GatewayAgent

/-! ### Calls and interleavings -/

/-- What is called on a transport. -/
inductive TransportCall where
  | serve
  | gracefulStop
  | stop
  deriving DecidableEq, Repr

/-- A call before its first part. -/
def TransportCall.task : TransportCall → TransportTask
  | serve => .serve .starting
  | gracefulStop => .gracefulStop 0
  | stop => .stop 0

/-- The call that a task carries out. -/
def TransportTask.call : TransportTask → TransportCall
  | serve _ | refused => .serve
  | gracefulStop _ => .gracefulStop
  | stop _ => .stop

/-- How many parts a server that may not start has before it. -/
def TransportTask.partsLeft : TransportTask → Nat
  | serve .starting => 2
  | refused => 1
  | _ => 0

/-- A stop of either kind that has completed. -/
def TransportTask.HasStopped : TransportTask → Prop
  | gracefulStop n => 2 ≤ n
  | stop n => 3 ≤ n
  | serve _ | refused => False

/-- What can happen next. Calls are known by their number. -/
inductive TransportEvent where
  /-- There is a new call. -/
  | call (c : TransportCall)
  /-- A call takes its next part. -/
  | part (i : Nat) (e : ServeEvent)

/-- Whether the event is a part of the call with this number. -/
def TransportEvent.isPartOf (i : Nat) : TransportEvent → Bool
  | call _ => false
  | part j _ => j == i

/-- An event is a part of a task if it says so. -/
theorem TransportEvent.eq_part_of_isPartOf {i : Nat} {event : TransportEvent}
    (h : event.isPartOf i = true) : ∃ e, event = .part i e := by
  cases event with
  | call c => cases h
  | part j e => exact ⟨e, by rw [eq_of_beq h]⟩

/-- The transport begins to listen. -/
def Transport.Opens (t t' : Transport) : Prop := t.state ≠ .listening ∧ t'.state = .listening

instance (t t' : Transport) : Decidable (t.Opens t') :=
  inferInstanceAs (Decidable (_ ∧ _))

/-- A transport with the calls on it. -/
structure SharedTransport where
  transport : Transport
  tasks : List TransportTask := []
  /-- The calls that have moved the transport to listening. -/
  openers : List Nat := []

namespace SharedTransport

/-- A transport that was just created. -/
def start (settings : TransportSettings) : SharedTransport := { transport := { settings } }

/-- The `i`th call, which is at `task`, takes its next part. -/
def advance (s : SharedTransport) (i : Nat) (task : TransportTask) (e : ServeEvent) :
    SharedTransport where
  transport := (task.step s.transport e).2
  tasks := s.tasks.set i (task.step s.transport e).1
  openers :=
    if s.transport.Opens (task.step s.transport e).2 then s.openers ++ [i] else s.openers

/-- Goes on with one event. -/
def step (s : SharedTransport) : TransportEvent → SharedTransport
  | .call c => { s with tasks := s.tasks ++ [c.task] }
  | .part i e =>
    match s.tasks[i]? with
    | none => s
    | some task => s.advance i task e

/-- Goes on with some events. -/
def run (s : SharedTransport) (events : List TransportEvent) : SharedTransport :=
  events.foldl step s

/-- The `i`th call, if there were so many. -/
def call? (s : SharedTransport) (i : Nat) : Option TransportCall := (s.tasks[i]?).map (·.call)

end SharedTransport

/-! ### Single parts -/

/-- No state comes before the first one. -/
theorem TransportState.eq_created_of_le {state : TransportState} (h : state ≤ .created) :
    state = .created := by
  cases state <;> first | rfl | exact absurd h (by decide)

/-- No state comes after the last one. -/
theorem TransportState.eq_stopped_of_le {state : TransportState} (h : .stopped ≤ state) :
    state = .stopped := by
  cases state <;> first | rfl | exact absurd h (by decide)

namespace TransportTask

variable {t : Transport} {e : ServeEvent} {task : TransportTask}

/-- A task stays a task of the same call. -/
theorem call_step (t : Transport) (e : ServeEvent) (task : TransportTask) :
    (task.step t e).1.call = task.call := by
  cases task with
  | serve p =>
    cases p with
    | starting =>
      rw [step]
      cases t.tryStart <;> rfl
    | _ => rfl
  | refused => rfl
  | gracefulStop n => rcases n with _ | _ | n <;> rfl
  | stop n => rcases n with _ | _ | _ | n <;> rfl

/-- Only a server that finds the transport created moves it to listening. -/
theorem opens_step_iff :
    t.Opens (task.step t e).2 ↔ task = serve .starting ∧ t.state = .created := by
  have hself : ¬t.Opens t := fun h => h.1 h.2
  cases task with
  | serve p =>
    cases p with
    | starting =>
      simp only [step, true_and]
      cases h : t.tryStart with
      | none => exact iff_of_false hself (Transport.tryStart_eq_none_iff.mp h)
      | some t' =>
        obtain ⟨hstate, rfl⟩ := Transport.tryStart_eq_some_iff.mp h
        exact iff_of_true ⟨by simp [hstate], rfl⟩ hstate
    | serving =>
      have hstep : ((serve .serving).step t e).2 = t := ServePhase.snd_step_serving t e
      rw [hstep]
      exact iff_of_false hself (by simp)
    | closing result => exact iff_of_false hself (by simp)
    | leaving result => exact iff_of_false (fun h => by cases h.2) (by simp)
    | returned result => exact iff_of_false hself (by simp)
  | refused => exact iff_of_false hself (by simp)
  | gracefulStop n =>
    refine iff_of_false ?_ (by simp)
    rcases n with _ | _ | n
    · rintro ⟨hne, heq⟩
      simp only [step, Transport.beginDrain] at heq
      cases h : t.state <;> simp_all
    · exact hself
    · exact hself
  | stop n =>
    refine iff_of_false ?_ (by simp)
    rcases n with _ | _ | _ | n
    · rintro ⟨hne, heq⟩
      simp only [step, Transport.beginStop] at heq
      cases h : t.state <;> simp_all
    · exact hself
    · exact hself
    · exact hself

/-- The first part of a call leaves the created state behind. -/
theorem state_step_ne_created (h : t.state = .created → task = task.call.task) :
    (task.step t e).2.state ≠ .created := by
  intro hstate
  have hcreated : t.state = .created :=
    TransportState.eq_created_of_le (hstate ▸ state_le_step t e task)
  rw [h hcreated] at hstate
  cases hcall : task.call <;>
    simp [hcall, TransportCall.task, step, Transport.tryStart, Transport.beginDrain,
      Transport.beginStop, hcreated] at hstate

/-- The call that has moved the transport to listening, and the state of the transport: it is
stopped before the call returns. -/
inductive Serves (state : TransportState) : TransportTask → Prop
  | serving : Serves state (serve .serving)
  | closing (result : Except TransportError Unit) : Serves state (serve (.closing result))
  | leaving (result : Except TransportError Unit) : Serves state (serve (.leaving result))
  | returned (result : Except TransportError Unit) (h : state = .stopped) :
      Serves state (serve (.returned result))

/-- Every part of a call that serves keeps up with the state of the transport. -/
theorem Serves.step (h : task.Serves t.state) :
    (task.step t e).1.Serves (task.step t e).2.state := by
  cases h with
  | serving =>
    change Serves (ServePhase.serving.step t e).2.state (serve (ServePhase.serving.step t e).1)
    simp only [ServePhase.step]
    split
    · exact .closing _
    · split
      · exact .closing _
      · split
        · exact .closing _
        · exact .serving
      · exact .serving
  | closing result => exact .leaving result
  | leaving result => exact .returned result rfl
  | returned result h => exact .returned result h

/-- Only a call of `serve` serves. -/
theorem Serves.call {state : TransportState} (h : task.Serves state) : task.call = .serve := by
  cases h <;> rfl

/-- A call that serves does so while the state goes on. -/
theorem Serves.mono {state state' : TransportState} (h : task.Serves state)
    (hle : state ≤ state') : task.Serves state' := by
  cases h with
  | serving => exact .serving
  | closing result => exact .closing result
  | leaving result => exact .leaving result
  | returned result h =>
    subst h
    exact .returned result (TransportState.eq_stopped_of_le hle)

/-- A call that has not moved the transport to listening. A server among them returns what it found
instead. -/
inductive StandsOutside : TransportTask → Prop
  | starting : StandsOutside (serve .starting)
  | refused : StandsOutside refused
  | returned {found : TransportState} (h : found ≠ .created) :
      StandsOutside (serve (.returned (.error (.invalidState found))))
  | gracefulStop (n : Nat) : StandsOutside (gracefulStop n)
  | stop (n : Nat) : StandsOutside (stop n)

/-- No call has moved the transport to listening when it begins. -/
theorem standsOutside_task (c : TransportCall) : c.task.StandsOutside := by
  cases c with
  | serve => exact .starting
  | gracefulStop => exact .gracefulStop 0
  | stop => exact .stop 0

/-- A server that does not move the transport to listening does nothing to it. -/
theorem StandsOutside.server_step (h : task.StandsOutside) (hserve : task.call = .serve)
    (hopens : ¬t.Opens (task.step t e).2) : (task.step t e).2 = t := by
  cases h with
  | starting =>
    rw [opens_step_iff, not_and] at hopens
    simp [TransportTask.step, Transport.tryStart_eq_none_iff.mpr (hopens rfl)]
  | refused => rfl
  | returned h => rfl
  | gracefulStop n => cases hserve
  | stop n => cases hserve

/-- What a server does that finds the transport not created. -/
theorem step_starting_of_not_opens (hopens : ¬t.Opens ((serve .starting).step t e).2) :
    ((serve .starting).step t e).1 = refused := by
  rw [opens_step_iff, not_and] at hopens
  simp [step, Transport.tryStart_eq_none_iff.mpr (hopens rfl)]

/-- A part that does not move the transport to listening leaves its call outside. -/
theorem StandsOutside.step (h : task.StandsOutside)
    (hfresh : t.state = .created → task = task.call.task)
    (hopens : ¬t.Opens (task.step t e).2) : (task.step t e).1.StandsOutside := by
  cases h with
  | starting =>
    rw [step_starting_of_not_opens hopens]
    exact .refused
  | refused => exact .returned fun hstate => by cases hfresh hstate
  | returned h => exact .returned h
  | gracefulStop n => rcases n with _ | _ | n <;> exact .gracefulStop _
  | stop n => rcases n with _ | _ | _ | n <;> exact .stop _

/-- A server that may not start has at most two parts before it. -/
theorem partsLeft_le (task : TransportTask) : task.partsLeft ≤ 2 := by
  unfold partsLeft
  split <;> simp

/-- Each part of a server that does not move the transport to listening is one fewer to take. -/
theorem StandsOutside.partsLeft_step (h : task.StandsOutside) (hserve : task.call = .serve)
    (hopens : ¬t.Opens (task.step t e).2) :
    (task.step t e).1.partsLeft = task.partsLeft - 1 := by
  cases h with
  | starting =>
    rw [step_starting_of_not_opens hopens]
    rfl
  | refused => rfl
  | returned h => rfl
  | gracefulStop n => cases hserve
  | stop n => cases hserve

/-- A server that stands outside with no part before it has returned the state that it found. -/
theorem StandsOutside.refused_of_partsLeft (h : task.StandsOutside) (hserve : task.call = .serve)
    (hleft : task.partsLeft = 0) :
    ∃ found, found ≠ TransportState.created ∧
      task = serve (.returned (.error (.invalidState found))) := by
  cases h with
  | starting => cases hleft
  | refused => cases hleft
  | returned h => exact ⟨_, h, rfl⟩
  | gracefulStop n => cases hserve
  | stop n => cases hserve

end TransportTask

/-! ### Interleavings -/

namespace SharedTransport

variable {s : SharedTransport} {i j : Nat} {c : TransportCall} {e : ServeEvent}
  {task : TransportTask}

/-- A part of a task changes the transport and the task. -/
theorem step_part (h : s.tasks[i]? = some task) : s.step (.part i e) = s.advance i task e := by
  simp only [step, h]

/-- A part of a task that is not there changes nothing. -/
theorem step_part_of_none (h : s.tasks[i]? = none) : s.step (.part i e) = s := by
  simp only [step, h]

/-- The task whose part it is takes its step. -/
theorem tasks_advance_self (h : s.tasks[i]? = some task) :
    (s.advance i task e).tasks[i]? = some (task.step s.transport e).1 := by
  obtain ⟨hi, -⟩ := List.getElem?_eq_some_iff.mp h
  exact List.getElem?_set_self hi

/-- The other tasks stay as they are. -/
theorem tasks_advance_of_ne (h : j ≠ i) :
    (s.advance i task e).tasks[j]? = s.tasks[j]? :=
  List.getElem?_set_ne h.symm

/-- Only an event that is a part of a task changes the task. -/
theorem tasks_step_of_not_isPartOf {event : TransportEvent} (hget : s.tasks[i]? = some task)
    (hpart : event.isPartOf i = false) : (s.step event).tasks[i]? = some task := by
  cases event with
  | call c =>
    obtain ⟨hlt, -⟩ := List.getElem?_eq_some_iff.mp hget
    exact (List.getElem?_append_left hlt).trans hget
  | part j e =>
    cases hother : s.tasks[j]? with
    | none => rwa [step_part_of_none hother]
    | some other =>
      rw [step_part hother, tasks_advance_of_ne (ne_of_beq_false hpart).symm]
      exact hget

/-- A part that moves the transport to listening puts its own call on record for it. -/
theorem mem_openers_advance :
    j ∈ (s.advance i task e).openers ↔
      j ∈ s.openers ∨ (j = i ∧ s.transport.Opens (task.step s.transport e).2) := by
  simp only [advance]
  split
  · next h => simp [h]
  · next h => simp [h]

/-- What holds of a transport and the calls on it. -/
structure Sound (s : SharedTransport) : Prop where
  /-- As long as the transport is created, no call has taken a part. -/
  fresh : s.transport.state = .created → s.openers = [] ∧
    ∀ (i : Nat) (task : TransportTask), s.tasks[i]? = some task → task = task.call.task
  /-- One call at most has moved the transport to listening. -/
  single : s.openers.length ≤ 1
  serves : ∀ i ∈ s.openers, ∃ task, s.tasks[i]? = some task ∧ task.Serves s.transport.state
  outside : ∀ (i : Nat) (task : TransportTask),
    s.tasks[i]? = some task → i ∉ s.openers → task.StandsOutside

/-- A transport that has just been created is sound. -/
theorem sound_start (settings : TransportSettings) : (start settings).Sound where
  fresh _ := ⟨rfl, fun i task h => by simp [start] at h⟩
  single := Nat.zero_le 1
  serves i h := by simp [start] at h
  outside i task h := by simp [start] at h

/-- A new call leaves the transport sound. -/
theorem Sound.call (h : s.Sound) (c : TransportCall) : (s.step (.call c)).Sound := by
  have hold : ∀ {j : Nat} {task : TransportTask}, (s.tasks ++ [c.task])[j]? = some task →
      s.tasks[j]? = some task ∨ task = c.task := by
    intro j task hj
    rw [List.getElem?_append] at hj
    split at hj
    · exact .inl hj
    · exact .inr (List.mem_singleton.mp (List.mem_of_getElem? hj))
  refine ⟨fun hstate => ⟨(h.fresh hstate).1, fun j task hj => ?_⟩, h.single, fun j hj => ?_,
    fun j task hj hnot => ?_⟩
  · rcases hold hj with hj | rfl
    · exact (h.fresh hstate).2 j task hj
    · cases c <;> rfl
  · obtain ⟨task, hget, hserves⟩ := h.serves j hj
    obtain ⟨hlt, -⟩ := List.getElem?_eq_some_iff.mp hget
    exact ⟨task, (List.getElem?_append_left hlt).trans hget, hserves⟩
  · rcases hold hj with hj | rfl
    · exact h.outside j task hj hnot
    · exact TransportTask.standsOutside_task c

/-- A part of a call leaves the transport sound. -/
theorem Sound.advance (h : s.Sound) (hget : s.tasks[i]? = some task) :
    (s.advance i task e).Sound := by
  have hfresh : s.transport.state = .created → task = task.call.task :=
    fun hstate => (h.fresh hstate).2 i task hget
  have hle := TransportTask.state_le_step s.transport e task
  have hmoved := TransportTask.state_step_ne_created (e := e) hfresh
  -- Who moves the transport to listening is the first one to do so, and was a server at its start.
  have hopens : s.transport.Opens (task.step s.transport e).2 →
      s.openers = [] ∧ (task.step s.transport e).1 = .serve .serving := by
    intro hopens
    obtain ⟨rfl, hstate⟩ := TransportTask.opens_step_iff.mp hopens
    exact ⟨(h.fresh hstate).1, by simp [TransportTask.step, Transport.tryStart, hstate]⟩
  refine ⟨fun hstate => absurd hstate hmoved, ?_, fun j hj => ?_, fun j other hother hnot => ?_⟩
  · by_cases ho : s.transport.Opens (task.step s.transport e).2
    · simp [SharedTransport.advance, ho, (hopens ho).1]
    · simpa [SharedTransport.advance, ho] using h.single
  · rcases eq_or_ne j i with rfl | hne
    · refine ⟨_, tasks_advance_self hget, ?_⟩
      rcases mem_openers_advance.mp hj with hj | ⟨-, ho⟩
      · obtain ⟨own, hown, hserves⟩ := h.serves j hj
        cases hget.symm.trans hown
        exact hserves.step
      · rw [(hopens ho).2]
        exact .serving
    · rcases mem_openers_advance.mp hj with hj | ⟨rfl, -⟩
      · obtain ⟨other, hother, hserves⟩ := h.serves j hj
        exact ⟨other, (tasks_advance_of_ne hne).trans hother, hserves.mono hle⟩
      · exact absurd rfl hne
  · rw [mem_openers_advance, not_or, not_and] at hnot
    rcases eq_or_ne j i with rfl | hne
    · cases hother.symm.trans (tasks_advance_self hget)
      exact (h.outside j task hget hnot.1).step hfresh (hnot.2 rfl)
    · exact h.outside j other ((tasks_advance_of_ne hne).symm.trans hother) hnot.1

/-- Every event leaves the transport sound. -/
theorem Sound.step (h : s.Sound) (event : TransportEvent) : (s.step event).Sound := by
  cases event with
  | call c => exact h.call c
  | part i e =>
    cases hget : s.tasks[i]? with
    | none =>
      rw [step_part_of_none hget]
      exact h
    | some task =>
      rw [step_part hget]
      exact h.advance hget

/-- In every run the transport is sound. -/
theorem Sound.run (h : s.Sound) (events : List TransportEvent) : (s.run events).Sound := by
  induction events generalizing s with
  | nil => exact h
  | cons event events ih => exact ih (h.step event)

/-! ### What stays -/

/-- No event takes the state back. -/
theorem state_le_step (s : SharedTransport) (event : TransportEvent) :
    s.transport.state ≤ (s.step event).transport.state := by
  cases event with
  | call c => exact Nat.le_refl _
  | part i e =>
    cases hget : s.tasks[i]? with
    | none =>
      rw [step_part_of_none hget]
      exact Nat.le_refl _
    | some task =>
      rw [step_part hget]
      exact TransportTask.state_le_step s.transport e task

/-- No run takes the state back. -/
theorem state_le_run (s : SharedTransport) (events : List TransportEvent) :
    s.transport.state ≤ (s.run events).transport.state := by
  induction events generalizing s with
  | nil => exact Nat.le_refl _
  | cons event events ih => exact Nat.le_trans (s.state_le_step event) (ih (s.step event))

/-- A call that was made stays made. -/
theorem call?_step (h : s.call? i = some c) (event : TransportEvent) :
    (s.step event).call? i = some c := by
  obtain ⟨task, hget, rfl⟩ := Option.map_eq_some_iff.mp h
  refine Option.map_eq_some_iff.mpr ?_
  cases hpart : event.isPartOf i with
  | false => exact ⟨task, tasks_step_of_not_isPartOf hget hpart, rfl⟩
  | true =>
    obtain ⟨e, rfl⟩ := TransportEvent.eq_part_of_isPartOf hpart
    rw [step_part hget]
    exact ⟨_, tasks_advance_self hget, TransportTask.call_step _ _ task⟩

/-- A call that was made stays made in every run. -/
theorem call?_run (h : s.call? i = some c) (events : List TransportEvent) :
    (s.run events).call? i = some c := by
  induction events generalizing s with
  | nil => exact h
  | cons event events ih => exact ih (call?_step h event)

/-- A call that has moved the transport to listening stays on record for it. -/
theorem mem_openers_step (h : i ∈ s.openers) (event : TransportEvent) :
    i ∈ (s.step event).openers := by
  cases event with
  | call c => exact h
  | part j e =>
    cases hget : s.tasks[j]? with
    | none => rwa [step_part_of_none hget]
    | some task =>
      rw [step_part hget]
      exact mem_openers_advance.mpr (.inl h)

/-- A call that has moved the transport to listening stays on record for it in every run. -/
theorem mem_openers_run (h : i ∈ s.openers) (events : List TransportEvent) :
    i ∈ (s.run events).openers := by
  induction events generalizing s with
  | nil => exact h
  | cons event events ih => exact ih (mem_openers_step h event)

/-- A transport that has left the created state is not moved to listening any more. -/
theorem openers_step_of_ne_created (h : s.transport.state ≠ .created) (event : TransportEvent) :
    (s.step event).openers = s.openers := by
  cases event with
  | call c => rfl
  | part i e =>
    cases hget : s.tasks[i]? with
    | none => rw [step_part_of_none hget]
    | some task =>
      rw [step_part hget]
      exact if_neg fun hopens => h (TransportTask.opens_step_iff.mp hopens).2

/-- Nobody moves a transport to listening that is past its creation. -/
theorem openers_run_of_ne_created (h : s.transport.state ≠ .created)
    (events : List TransportEvent) : (s.run events).openers = s.openers := by
  induction events generalizing s with
  | nil => rfl
  | cons event events ih =>
    have hstep : (s.step event).transport.state ≠ .created := fun hstate =>
      h (TransportState.eq_created_of_le (hstate ▸ s.state_le_step event))
    exact (ih hstep).trans (openers_step_of_ne_created h event)

/-! ### Servers that may not start -/

/-- A server that does not move the transport to listening leaves it alone. -/
theorem Sound.transport_part (h : s.Sound) (hcall : s.call? i = some .serve)
    (hnot : i ∉ (s.step (.part i e)).openers) :
    (s.step (.part i e)).transport = s.transport := by
  obtain ⟨task, hget, hserve⟩ := Option.map_eq_some_iff.mp hcall
  rw [step_part hget, mem_openers_advance, not_or, not_and] at hnot
  rw [step_part hget]
  exact (h.outside i task hget hnot.1).server_step hserve (hnot.2 rfl)

/-- A server that does not move the transport to listening comes closer to its return with a part of
its own, and stays as it is otherwise. -/
theorem Sound.partsLeft_step (h : s.Sound) (hget : s.tasks[i]? = some task)
    (hserve : task.call = .serve) (event : TransportEvent)
    (hnot : i ∉ (s.step event).openers) :
    ∃ task', (s.step event).tasks[i]? = some task' ∧
      task'.partsLeft = task.partsLeft - [event].countP (·.isPartOf i) := by
  cases hpart : event.isPartOf i with
  | false => exact ⟨task, tasks_step_of_not_isPartOf hget hpart, by simp [hpart]⟩
  | true =>
    obtain ⟨e, rfl⟩ := TransportEvent.eq_part_of_isPartOf hpart
    rw [step_part hget, mem_openers_advance, not_or, not_and] at hnot
    rw [step_part hget]
    refine ⟨_, tasks_advance_self hget, ?_⟩
    rw [(h.outside i task hget hnot.1).partsLeft_step hserve (hnot.2 rfl)]
    simp [hpart]

/-- A server that does not move the transport to listening comes closer to its return with each of
its parts. -/
theorem Sound.partsLeft_run (h : s.Sound) (hget : s.tasks[i]? = some task)
    (hserve : task.call = .serve) (events : List TransportEvent)
    (hnot : i ∉ (s.run events).openers) :
    ∃ task', (s.run events).tasks[i]? = some task' ∧
      task'.partsLeft = task.partsLeft - events.countP (·.isPartOf i) := by
  induction events generalizing s task with
  | nil => exact ⟨task, hget, rfl⟩
  | cons event events ih =>
    obtain ⟨next, hnext, hleft⟩ := h.partsLeft_step hget hserve event
      fun hmem => hnot (mem_openers_run hmem events)
    have hcall : (s.step event).call? i = some .serve :=
      call?_step (Option.map_eq_some_iff.mpr ⟨task, hget, hserve⟩) event
    have hnextServe : next.call = .serve := by simpa [call?, hnext] using hcall
    obtain ⟨last, hlast, hlastLeft⟩ := ih (h.step event) hnext hnextServe hnot
    refine ⟨last, hlast, ?_⟩
    rw [hlastLeft, hleft, Nat.sub_sub, ← List.countP_append, List.singleton_append]

/-- A server that does not move the transport to listening has returned after two parts. -/
theorem Sound.refused_of_countP (h : s.Sound) (hcall : s.call? i = some .serve)
    {events : List TransportEvent} (hnot : i ∉ (s.run events).openers)
    (hparts : 2 ≤ events.countP (·.isPartOf i)) :
    ∃ found, found ≠ TransportState.created ∧
      (s.run events).tasks[i]? = some (.serve (.returned (.error (.invalidState found)))) := by
  obtain ⟨task, hget, hserve⟩ := Option.map_eq_some_iff.mp hcall
  obtain ⟨last, hlast, hleft⟩ := h.partsLeft_run hget hserve events hnot
  have hlastServe : last.call = .serve := by simpa [call?, hlast] using call?_run hcall events
  have hdone : last.partsLeft = 0 := by
    have := task.partsLeft_le
    omega
  obtain ⟨found, hfound, rfl⟩ :=
    ((h.run events).outside i last hlast hnot).refused_of_partsLeft hlastServe hdone
  exact ⟨found, hfound, hlast⟩

/-! ### The lifecycle -/

/-- A stop that has completed has left the created state behind. -/
theorem Sound.state_ne_created (h : s.Sound) (hmem : task ∈ s.tasks) (hstopped : task.HasStopped) :
    s.transport.state ≠ .created := by
  intro hstate
  obtain ⟨i, hget⟩ := List.mem_iff_getElem?.mp hmem
  have htask := (h.fresh hstate).2 i task hget
  rw [htask] at hstopped
  cases hcall : task.call <;> simp [hcall, TransportCall.task, TransportTask.HasStopped] at hstopped

/-- A server that has moved the transport to listening returns from a transport that is stopped. -/
theorem Sound.state_eq_stopped (h : s.Sound) (hmem : i ∈ s.openers)
    {result : Except TransportError Unit} (hget : s.tasks[i]? = some (.serve (.returned result))) :
    s.transport.state = .stopped := by
  obtain ⟨task, htask, hserves⟩ := h.serves i hmem
  cases hget.symm.trans htask
  cases hserves with
  | returned _ hstopped => exact hstopped

/-- **The lifecycle of a transport.** Servers, graceful stops and stops are called on one transport
and take their parts in any order. Between any two moments of this

* the state of the transport does not go back;
* one call at most has moved the transport to listening, and it is a server;
* any other server does nothing to the transport, can only return that it may not start in a state
  that is not the created one, and has returned so after two parts;
* when a stop of either kind has completed, no further server moves the transport to listening;
* when the server that moved it to listening has returned, the transport is stopped. -/
theorem lifecycle_of_run (settings : TransportSettings) (earlier later : List TransportEvent) :
    let s := (start settings).run earlier
    let s' := s.run later
    s.transport.state ≤ s'.transport.state ∧
    (s'.openers.length ≤ 1 ∧ ∀ i ∈ s'.openers, s'.call? i = some .serve) ∧
    (∀ i, s.call? i = some .serve →
      (∀ e, i ∉ (s.step (.part i e)).openers →
        (s.step (.part i e)).transport = s.transport) ∧
      (∀ result, i ∉ s.openers → s.tasks[i]? = some (.serve (.returned result)) →
        ∃ found, found ≠ .created ∧ result = .error (.invalidState found)) ∧
      (i ∉ s'.openers → 2 ≤ later.countP (·.isPartOf i) →
        ∃ found, found ≠ .created ∧
          s'.tasks[i]? = some (.serve (.returned (.error (.invalidState found)))))) ∧
    ((∃ task ∈ s.tasks, task.HasStopped) → s'.openers = s.openers) ∧
    (∀ i ∈ s.openers, ∀ result, s.tasks[i]? = some (.serve (.returned result)) →
      s'.transport.state = .stopped) := by
  intro s s'
  have h : s.Sound := (sound_start settings).run earlier
  have h' : s'.Sound := h.run later
  refine ⟨s.state_le_run later, ⟨h'.single, fun i hi => ?_⟩, fun i hcall => ⟨?_, ?_, ?_⟩, ?_, ?_⟩
  · obtain ⟨task, hget, hserves⟩ := h'.serves i hi
    exact Option.map_eq_some_iff.mpr ⟨task, hget, hserves.call⟩
  · exact fun e hnot => h.transport_part hcall hnot
  · intro result hnot hget
    obtain ⟨found, hfound, heq⟩ := (h.outside i _ hget hnot).refused_of_partsLeft rfl rfl
    cases heq
    exact ⟨found, hfound, rfl⟩
  · exact fun hnot hparts => h.refused_of_countP hcall hnot hparts
  · rintro ⟨task, hmem, hstopped⟩
    exact openers_run_of_ne_created (h.state_ne_created hmem hstopped) later
  · intro i hi result hget
    have hstopped := h.state_eq_stopped hi hget
    exact TransportState.eq_stopped_of_le (hstopped ▸ s.state_le_run later)

/-- A server is drained; one that is called afterwards is told that the transport is stopped. -/
theorem openers_of_drained :
    let s := (start {}).run [.call .serve, .call .gracefulStop, .part 0 .busy, .part 1 .busy,
      .part 1 .busy]
    let s' := s.run [.part 0 .idle, .part 0 .idle, .part 0 .idle, .call .serve, .part 2 .idle,
      .part 2 .idle]
    s.openers = [0] ∧ s'.openers = s.openers ∧ s'.transport.state = .stopped ∧
      s'.tasks[2]? = some (.serve (.returned (.error (.invalidState .stopped)))) := by
  intro s s'
  obtain ⟨-, -, -, hstopped, -⟩ := lifecycle_of_run {}
    [.call .serve, .call .gracefulStop, .part 0 .busy, .part 1 .busy, .part 1 .busy]
    [.part 0 .idle, .part 0 .idle, .part 0 .idle, .call .serve, .part 2 .idle, .part 2 .idle]
  exact ⟨rfl, hstopped ⟨.gracefulStop 2, by simp [start, run, step, advance, TransportCall.task,
    TransportTask.step], Nat.le_refl 2⟩, rfl, rfl⟩

end SharedTransport

end GatewayAgent
