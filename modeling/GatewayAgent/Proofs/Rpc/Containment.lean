import GatewayAgent.Rpc.Interceptor
import GatewayAgent.Proofs.Rpc.Metrics

/-!
# What the interceptor chain lets through

Many requests go through the chain at the same time, and each of them is asked for its answer
whenever its turn comes or given up before it has one (`Traffic`). A request ends with the answer of
its handler, or with the answer to a panic, and is recorded when it ends and at no other time; so
what the metrics show is how many requests of a method have ended under a code. Only an answer whose
status cannot be read does not come through: the recording layer breaks over its headers
(`Headers.Breaks`), outside the layer that contains panics.

A body is asked for one frame after the other (`WatchedBody.read`). It shows what the handler's body
does up to its first panic; this shows as trailers, behind which there is nothing more.

Main statement: `chain_contains`.
-/

namespace GatewayAgent

/-! ### The code of an answer -/

/-- Whether the message in some headers stands for a text. -/
def Headers.MessageReadable (h : Headers) : Prop :=
  (Text.decode? (percentDecode (Text.encode ((h.find? messageHeader).getD "")))).isSome = true

instance (h : Headers) : Decidable h.MessageReadable := inferInstanceAs (Decidable (_ = true))

/-- The code that some headers carry. -/
def Headers.code (h : Headers) : Code :=
  match h.find? statusHeader with
  | none => .ok
  | some text => if h.MessageReadable then .ofText text else .unknown

/-- Some headers carry a status with details that are not Base64. -/
def Headers.Breaks (h : Headers) : Prop :=
  (h.find? statusHeader).isSome = true ∧
    (h.find? detailsHeader).any
      (fun details => (Base64.decodeUnpadded? (Text.encode details)).isNone) = true

instance (h : Headers) : Decidable h.Breaks := inferInstanceAs (Decidable (_ ∧ _))

/-- Octets are text exactly if no place in them is at fault. -/
theorem textFault?_eq_none_iff (position : Nat) (octets : Bytes) :
    textFault? position octets = none ↔ (Text.decode? octets).isSome = true := by
  simp only [Text.decode?, Option.isSome_map]
  fun_induction textFault? position octets with
  | case1 position => simp [Text.decodeChars?, Text.pieces]
  | case2 position a rest _ c r h _ ih =>
    rw [ih, Text.decodeChars?, Text.decodeChars?, Text.pieces, h, List.mapM_cons]
    cases (Text.pieces r).mapM id <;> simp
  | case3 position a rest _ r h _ =>
    rw [Text.decodeChars?, Text.pieces, h, List.mapM_cons]
    simp

theorem Headers.code_statusOf {h : Headers} {text : String}
    (hcode : h.find? statusHeader = some text) :
    (statusOf text ((h.find? messageHeader).getD "")).code = h.code := by
  have hiff : textFault? 0 (percentDecode (Text.encode ((h.find? messageHeader).getD ""))) = none ↔
      h.MessageReadable := textFault?_eq_none_iff 0 _
  simp only [code, hcode, statusOf]
  split
  · next hfault hmessage =>
    rw [if_pos (hiff.mp hfault)]
  · next hfault hmessage =>
    rw [if_pos (hiff.mp hfault)]
  · next fault _ hfault =>
    rw [if_neg fun hreadable => by simp [hiff.mpr hreadable] at hfault]

/-- Headers with details that are not Base64 break the recording layer; of any others it records
the code. -/
theorem recordedCode?_answered (r : Response WatchedBody) :
    recordedCode? (.ok r) = if r.headers.Breaks then none else some (some r.headers.code) := by
  cases hcode : r.headers.find? statusHeader with
  | none =>
    have hsound : ¬r.headers.Breaks := by simp [Headers.Breaks, hcode]
    simp only [recordedCode?, Headers.readStatus, Headers.code, hcode, if_neg hsound]
  | some text =>
    have hbreaks : r.headers.Breaks ↔
        ¬(r.headers.find? detailsHeader).all Headers.readableDetails = true := by
      cases hdetails : r.headers.find? detailsHeader with
      | none => simp [Headers.Breaks, hdetails]
      | some details => simp [Headers.Breaks, hcode, hdetails, Headers.readableDetails]
    by_cases hreadable : (r.headers.find? detailsHeader).all Headers.readableDetails = true
    · simp only [recordedCode?, Headers.readStatus, hcode, if_pos hreadable,
        Headers.code_statusOf hcode, if_neg fun h => hbreaks.mp h hreadable]
    · simp only [recordedCode?, Headers.readStatus, hcode, if_neg hreadable,
        if_pos (hbreaks.mpr hreadable)]

/-! ### Bodies -/

/-- The body panics. -/
def BodyEvent.IsPanic : BodyEvent → Prop
  | panic _ => True
  | pending | data _ | trailers _ | error _ | finish => False

/-- What is shown of an event of a body. -/
def BodyEvent.shown : BodyEvent → BodyPoll
  | pending => .pending
  | data content => .frame (.data content)
  | trailers headers => .frame (.trailers headers)
  | error text => .frame (.error text)
  | finish => .finished
  | panic _ => .frame (.trailers containedHeaders)

namespace WatchedBody

/-- Asks a body `n` times. -/
def read : (n : Nat) → WatchedBody → List BodyPoll × WatchedBody
  | 0, g => ([], g)
  | n + 1, g => (g.poll.1 :: (read n g.poll.2).1, (read n g.poll.2).2)

theorem read_add (n m : Nat) (g : WatchedBody) :
    g.read (n + m) = ((g.read n).1 ++ ((g.read n).2.read m).1, ((g.read n).2.read m).2) := by
  induction n generalizing g with
  | zero => simp [read]
  | succ n ih => rw [Nat.add_right_comm, read, ih, read, List.cons_append]

/-- Nothing more comes of a body whose events are over. -/
theorem read_of_over {g : WatchedBody} (h : g.inner = none ∨ g.inner = some []) (n : Nat) :
    g.read n = (List.replicate n .finished, g) := by
  have hpoll : g.poll = (.finished, g) := by
    rcases h with h | h <;> rw [poll, h]
  induction n with
  | zero => rfl
  | succ n ih => rw [read, hpoll, ih, List.replicate_succ]

/-- As long as it does not panic, a body shows what the handler's body does. -/
theorem read_events {events : List BodyEvent} (h : ∀ e ∈ events, ¬e.IsPanic)
    (rest : List BodyEvent) :
    (mk (some (events ++ rest))).read events.length =
      (events.map BodyEvent.shown, ⟨some rest⟩) := by
  induction events with
  | nil => rfl
  | cons e events ih =>
    rw [List.forall_mem_cons] at h
    have hpoll : (mk (some (e :: events ++ rest))).poll = (e.shown, ⟨some (events ++ rest)⟩) := by
      cases e with
      | panic payload => exact absurd trivial h.1
      | _ => rfl
    rw [List.length_cons, read, hpoll, ih h.2, List.map_cons]

/-- A body that does not panic shows all that the handler's body does, and nothing more. -/
theorem read_of_no_panic {b : Body} (h : ∀ e ∈ b, ¬e.IsPanic) (n : Nat) :
    (mk (some b)).read (b.length + n) =
      (b.map BodyEvent.shown ++ List.replicate n .finished, ⟨some []⟩) := by
  have hevents := read_events h []
  rw [List.append_nil] at hevents
  rw [read_add, hevents, read_of_over (.inr rfl)]

/-- A body that panics shows what the handler's body did before, then trailers, and nothing more. -/
theorem read_of_panic {before : List BodyEvent} (h : ∀ e ∈ before, ¬e.IsPanic)
    (payload : PanicPayload) (rest : List BodyEvent) (n : Nat) :
    (mk (some (before ++ .panic payload :: rest))).read (before.length + (1 + n)) =
      (before.map BodyEvent.shown ++
        .frame (.trailers containedHeaders) :: List.replicate n .finished, ⟨none⟩) := by
  have hpanic : (mk (some (.panic payload :: rest))).read (1 + n) =
      (.frame (.trailers containedHeaders) :: List.replicate n .finished, ⟨none⟩) := by
    have hpoll : (mk (some (.panic payload :: rest))).poll =
        (.frame (.trailers containedHeaders), ⟨none⟩) := rfl
    rw [Nat.add_comm, read, hpoll, read_of_over (.inl rfl)]
  rw [read_add, read_events h, hpanic]

end WatchedBody

/-! ### Handlers -/

/-- What a handler comes to in the end. -/
inductive HandlerOutcome where
  | panicked
  | failed (text : String)
  | answered (response : Response Body)

/-- What a handler comes to that was asked for its answer. -/
def HandlerCall.outcome : HandlerCall → HandlerOutcome
  | pending later => later.outcome
  | panic _ => .panicked
  | failed text => .failed text
  | answered response => .answered response

/-- What a handler comes to, if it takes the request. -/
def Handling.outcome? : Handling → Option HandlerOutcome
  | notReady _ => none
  | panic _ => some .panicked
  | called call => some call.outcome

/-- How often a handler makes wait. -/
def HandlerCall.waits : HandlerCall → Nat
  | pending later => later.waits + 1
  | panic _ | failed _ | answered _ => 0

@[inherit_doc HandlerCall.waits]
def Handling.waits : Handling → Nat
  | notReady _ | panic _ => 0
  | called call => call.waits

@[inherit_doc HandlerCall.waits]
def GuardedCall.waits : GuardedCall → Nat
  | pending later => later.waits + 1
  | failed _ | answered _ => 0

theorem containedResponse_code :
    containedResponse.headers.code = .internal ∧ ¬containedResponse.headers.Breaks := by
  decide +kernel

namespace HandlerOutcome

/-- What the caller gets. -/
def answer : HandlerOutcome → Except String (Response WatchedBody)
  | panicked => .ok containedResponse
  | failed text => .error text
  | answered response => .ok { headers := response.headers, body := ⟨some response.body⟩ }

/-- The code under which it is recorded, if there is an answer. -/
def code : HandlerOutcome → Option Code
  | panicked => some .internal
  | failed _ => none
  | answered response => some response.headers.code

/-- The recording layer breaks over the answer. -/
def Breaks : HandlerOutcome → Prop
  | panicked | failed _ => False
  | answered response => response.headers.Breaks

instance : (o : HandlerOutcome) → Decidable o.Breaks
  | panicked | failed _ => inferInstanceAs (Decidable False)
  | answered response => inferInstanceAs (Decidable response.headers.Breaks)

/-- Only an answer with a status and with details that are not Base64 does. -/
theorem breaks_iff {o : HandlerOutcome} :
    o.Breaks ↔ ∃ r, o = .answered r ∧ (r.headers.find? statusHeader).isSome = true ∧
      ∃ details, r.headers.find? detailsHeader = some details ∧
        Base64.decodeUnpadded? (Text.encode details) = none := by
  cases o with
  | panicked | failed text => simp [Breaks]
  | answered r => simp [Breaks, Headers.Breaks, Option.any_eq_true]

theorem recordedCode?_answer (o : HandlerOutcome) :
    recordedCode? o.answer = if o.Breaks then none else some o.code := by
  cases o with
  | panicked =>
    have hsound : ¬panicked.Breaks := id
    rw [answer, recordedCode?_answered, containedResponse_code.1, if_neg containedResponse_code.2,
      if_neg hsound, code]
  | failed text => rfl
  | answered response => exact recordedCode?_answered _

end HandlerOutcome

theorem HandlerCall.finish_guarded (call : HandlerCall) :
    call.guarded.finish = call.outcome.answer := by
  induction call with
  | pending later ih => exact ih
  | panic payload | failed text | answered response => rfl

theorem HandlerCall.waits_guarded (call : HandlerCall) : call.guarded.waits = call.waits := by
  induction call with
  | pending later ih => exact congrArg (· + 1) ih
  | panic payload | failed text | answered response => rfl

/-- A request that is taken comes to what its handler does. -/
theorem Handling.outcome_of_guarded {handling : Handling} {call : GuardedCall}
    (h : handling.guarded = .ok call) :
    ∃ o, handling.outcome? = some o ∧ call.finish = o.answer ∧ call.waits = handling.waits := by
  cases handling with
  | notReady text => cases h
  | panic payload =>
    cases h
    exact ⟨.panicked, rfl, rfl, rfl⟩
  | called call =>
    cases h
    exact ⟨call.outcome, rfl, call.finish_guarded, call.waits_guarded⟩

/-- Asking a call that goes on leaves it with the same end, and closer to it. Otherwise the call
ends and is recorded, or the recording layer breaks over its answer. -/
theorem LoggedCall.poll_cases {c : LoggedCall} {o : HandlerOutcome}
    (hfinish : c.call.finish = o.answer) (m : Metrics) (elapsed : Duration) :
    (∃ later, c.poll m elapsed = (.pending { c with call := later }, m) ∧
        later.finish = o.answer ∧ c.call.waits = later.waits + 1) ∨
      (¬o.Breaks ∧
        c.poll m elapsed = (.ended o.answer, m.recordCall c.method o.code elapsed)) ∨
      (o.Breaks ∧ c.poll m elapsed = (.broken, m)) := by
  have hcode := o.recordedCode?_answer
  obtain ⟨method, call⟩ := c
  cases call with
  | pending later => exact .inl ⟨later, rfl, hfinish, rfl⟩
  | failed text | answered response =>
    rw [GuardedCall.finish] at hfinish
    refine .inr ?_
    by_cases hbreaks : o.Breaks
    · rw [if_pos hbreaks, ← hfinish] at hcode
      exact .inr ⟨hbreaks, by simp only [poll, hcode]⟩
    · rw [if_neg hbreaks, ← hfinish] at hcode
      refine .inl ⟨hbreaks, ?_⟩
      rw [← hfinish]
      simp only [poll, hcode]

/-! ### Requests on their way -/

/-- Where a request is. -/
inductive ExchangePhase where
  /-- The handler takes no requests. -/
  | refused (text : String)
  | waiting (call : LoggedCall)
  | ended (result : Except String (Response WatchedBody))
  /-- The recording layer has panicked. -/
  | broken
  /-- The caller has given up. -/
  | abandoned

/-- Where a request is whose handler has come to its end. -/
def HandlerOutcome.phase (o : HandlerOutcome) : ExchangePhase :=
  if o.Breaks then .broken else .ended o.answer

theorem HandlerOutcome.phase_ne_waiting (o : HandlerOutcome) (call : LoggedCall) :
    o.phase ≠ .waiting call := by
  rw [phase]
  split_ifs <;> simp

/-- A request with what its handler does. -/
structure Exchange where
  method : String
  handling : Handling
  phase : ExchangePhase

namespace Exchange

/-- A request comes in. -/
def start (method : String) (handling : Handling) : Exchange where
  method
  handling
  phase :=
    match handling.guarded with
    | .error text => .refused text
    | .ok call => .waiting { method, call }

/-- The method and the code of a request that has ended. -/
def account? (x : Exchange) : Option (String × Option Code) :=
  match x.phase with
  | .ended _ => x.handling.outcome?.map fun o => (x.method, o.code)
  | .refused _ | .waiting _ | .broken | .abandoned => none

/-- What holds of a request on its way. -/
def Sound (x : Exchange) : Prop :=
  match x.phase with
  | .refused text => x.handling = .notReady text
  | .waiting c => c.method = x.method ∧
    ∃ o, x.handling.outcome? = some o ∧ c.call.finish = o.answer ∧ c.call.waits ≤ x.handling.waits
  | .ended result => ∃ o, x.handling.outcome? = some o ∧ ¬o.Breaks ∧ result = o.answer
  | .broken => ∃ o, x.handling.outcome? = some o ∧ o.Breaks
  | .abandoned => True

theorem sound_start (method : String) (handling : Handling) : (start method handling).Sound := by
  cases hguarded : handling.guarded with
  | error text =>
    cases handling with
    | notReady other =>
      cases hguarded
      rfl
    | panic payload => cases hguarded
    | called call => cases hguarded
  | ok call =>
    obtain ⟨o, ho, hfinish, hwaits⟩ := Handling.outcome_of_guarded hguarded
    simp only [Sound, start, hguarded, true_and]
    exact ⟨o, ho, hfinish, Nat.le_of_eq hwaits⟩

theorem account?_start (method : String) (handling : Handling) :
    (start method handling).account? = none := by
  simp only [account?, start]
  cases handling.guarded <;> rfl

end Exchange

/-- What can happen next. Requests are known by their number. -/
inductive TrafficEvent where
  | request (method : String) (handling : Handling)
  /-- A request is asked for its answer. -/
  | poll (i : Nat) (elapsed : Duration)
  | abandon (i : Nat)

/-- Whether the event asks the request with this number. -/
def TrafficEvent.isPollOf (i : Nat) : TrafficEvent → Bool
  | poll j _ => j == i
  | request .. | abandon _ => false

/-- The requests that have come in, and what the metrics show of them. -/
structure Traffic where
  metrics : Metrics
  exchanges : List Exchange := []

namespace Traffic

/-- Asks the `i`th request, which is `x` and waits with `c`. -/
def ask (s : Traffic) (i : Nat) (x : Exchange) (c : LoggedCall) (elapsed : Duration) : Traffic :=
  match c.poll s.metrics elapsed with
  | (.pending later, metrics) =>
    { metrics, exchanges := s.exchanges.set i { x with phase := .waiting later } }
  | (.ended result, metrics) =>
    { metrics, exchanges := s.exchanges.set i { x with phase := .ended result } }
  | (.broken, metrics) =>
    { metrics, exchanges := s.exchanges.set i { x with phase := .broken } }

/-- The `i`th request with the call that it waits for, if it waits. -/
def waiting? (s : Traffic) (i : Nat) : Option (Exchange × LoggedCall) :=
  s.exchanges[i]?.bind fun x =>
    match x.phase with
    | .waiting c => some (x, c)
    | .refused _ | .ended _ | .broken | .abandoned => none

/-- Goes on with one event. Only a request that waits can be asked or given up. -/
def step (s : Traffic) : TrafficEvent → Traffic
  | .request method handling => { s with exchanges := s.exchanges ++ [.start method handling] }
  | .poll i elapsed =>
    match s.waiting? i with
    | some (x, c) => s.ask i x c elapsed
    | none => s
  | .abandon i =>
    match s.waiting? i with
    | some (x, _) => { s with exchanges := s.exchanges.set i { x with phase := .abandoned } }
    | none => s

/-- Goes on with some events. -/
def run (s : Traffic) (events : List TrafficEvent) : Traffic := events.foldl step s

variable {s s' : Traffic} {m : Metrics} {i : Nat} {x : Exchange} {c : LoggedCall}
  {elapsed : Duration} {event : TrafficEvent}

/-- How many requests of a method have ended under a code. -/
def endedUnder (s : Traffic) (method : String) (code : Option Code) : Nat :=
  s.exchanges.countP fun x => x.account? = some (method, code)

/-- What holds of requests that have come in since the metrics showed `m`. -/
structure Sound (m : Metrics) (s : Traffic) : Prop where
  exchanges : ∀ x ∈ s.exchanges, x.Sound
  counted : ∀ method code, s.metrics.countOf ⟨.rpcRequests, Metrics.callLabels method code⟩ =
    m.countOf ⟨.rpcRequests, Metrics.callLabels method code⟩ + s.endedUnder method code
  timed : ∀ method code, s.metrics.durationCount ⟨.rpcDuration, Metrics.callLabels method code⟩ =
    m.durationCount ⟨.rpcDuration, Metrics.callLabels method code⟩ + s.endedUnder method code

theorem sound_start (m : Metrics) : Sound m { metrics := m } :=
  ⟨by simp, fun _ _ => rfl, fun _ _ => rfl⟩

theorem endedUnder_set (hget : s.exchanges[i]? = some x) (hopen : x.account? = none)
    (metrics : Metrics) (x' : Exchange) (method : String) (code : Option Code) :
    (Traffic.mk metrics (s.exchanges.set i x')).endedUnder method code =
      s.endedUnder method code + if x'.account? = some (method, code) then 1 else 0 := by
  obtain ⟨hi, hx⟩ := List.getElem?_eq_some_iff.mp hget
  simp only [endedUnder, List.countP_set hi, hx, hopen]
  simp

theorem forall_mem_set {P : Exchange → Prop} (h : ∀ y ∈ s.exchanges, P y) {x' : Exchange}
    (hx' : P x') : ∀ y ∈ s.exchanges.set i x', P y := by
  intro y hy
  rcases List.mem_or_eq_of_mem_set hy with hy | rfl
  · exact h y hy
  · exact hx'

/-- What neither records anything nor ends a request keeps the accounts. -/
theorem Sound.of_unchanged (h : s.Sound m) (hexchanges : ∀ x ∈ s'.exchanges, x.Sound)
    (hmetrics : s'.metrics = s.metrics)
    (hended : ∀ method code, s'.endedUnder method code = s.endedUnder method code) :
    s'.Sound m := by
  refine ⟨hexchanges, fun method code => ?_, fun method code => ?_⟩
  · rw [hmetrics, hended, h.counted]
  · rw [hmetrics, hended, h.timed]

theorem Sound.request (h : s.Sound m) (method : String) (handling : Handling) :
    (s.step (.request method handling)).Sound m := by
  refine h.of_unchanged (fun y hy => ?_) rfl fun method' code => ?_
  · rcases List.mem_append.mp hy with hy | hy
    · exact h.exchanges y hy
    · rw [List.mem_singleton.mp hy]
      exact Exchange.sound_start method handling
  · simp [endedUnder, step, Exchange.account?_start]

/-- A request that waits may go on waiting or be given up. -/
theorem Sound.set (h : s.Sound m) (hget : s.exchanges[i]? = some x)
    (hopen : x.account? = none) {x' : Exchange} (hx' : x'.Sound) (hopen' : x'.account? = none) :
    Sound m { s with exchanges := s.exchanges.set i x' } := by
  refine h.of_unchanged (forall_mem_set h.exchanges hx') rfl fun method code => ?_
  rw [endedUnder_set hget hopen, hopen', if_neg (by simp), Nat.add_zero]

/-- A request that waits and ends is recorded once. -/
theorem Sound.record (h : s.Sound m) (hget : s.exchanges[i]? = some x)
    (hopen : x.account? = none) {x' : Exchange} (hx' : x'.Sound) {method : String}
    {code : Option Code} (haccount : x'.account? = some (method, code)) :
    Sound m { metrics := s.metrics.recordCall method code elapsed
              exchanges := s.exchanges.set i x' } := by
  have hlabels : ∀ method' code', (if Metrics.callLabels method' code' =
      Metrics.callLabels method code then 1 else 0) =
        if x'.account? = some (method', code') then 1 else 0 := by
    intro method' code'
    simp only [haccount, Metrics.callLabels_inj, Option.some.injEq, Prod.mk.injEq,
      eq_comm (a := method), eq_comm (a := code)]
  refine ⟨forall_mem_set h.exchanges hx', fun method' code' => ?_, fun method' code' => ?_⟩
  · rw [endedUnder_set hget hopen, Metrics.countOf_recordCall, h.counted, hlabels, Nat.add_assoc]
  · rw [endedUnder_set hget hopen, Metrics.durationCount_recordCall, h.timed, hlabels,
      Nat.add_assoc]

theorem waiting?_eq_some_iff :
    s.waiting? i = some (x, c) ↔ s.exchanges[i]? = some x ∧ x.phase = .waiting c := by
  rw [waiting?, Option.bind_eq_some_iff]
  constructor
  · rintro ⟨y, hy, hmatch⟩
    cases hphase : y.phase with
    | waiting d =>
      simp only [hphase, Option.some.injEq, Prod.mk.injEq] at hmatch
      obtain ⟨rfl, rfl⟩ := hmatch
      exact ⟨hy, hphase⟩
    | refused text | ended result | broken | abandoned => simp [hphase] at hmatch
  · rintro ⟨hx, hphase⟩
    exact ⟨x, hx, by simp only [hphase]⟩

theorem Sound.ask (h : s.Sound m) (hget : s.exchanges[i]? = some x)
    (hphase : x.phase = .waiting c) : (s.ask i x c elapsed).Sound m := by
  have hx := h.exchanges x (List.mem_of_getElem? hget)
  have hopen : x.account? = none := by simp only [Exchange.account?, hphase]
  simp only [Exchange.Sound, hphase] at hx
  obtain ⟨hmethod, o, ho, hfinish, hwaits⟩ := hx
  rcases LoggedCall.poll_cases hfinish s.metrics elapsed with
    ⟨later, hpoll, hlater, hleft⟩ | ⟨hsound, hpoll⟩ | ⟨hbreaks, hpoll⟩
  · simp only [Traffic.ask, hpoll]
    refine h.set hget hopen ⟨hmethod, o, ho, hlater, ?_⟩ rfl
    dsimp only
    omega
  · have hended : Exchange.Sound { x with phase := .ended o.answer } := ⟨o, ho, hsound, rfl⟩
    simp only [Traffic.ask, hpoll, hmethod]
    exact h.record hget hopen hended (by simp [Exchange.account?, ho])
  · have hbroken : Exchange.Sound { x with phase := .broken } := ⟨o, ho, hbreaks⟩
    simp only [Traffic.ask, hpoll]
    exact h.set hget hopen hbroken rfl

theorem Sound.step (h : s.Sound m) (event : TrafficEvent) : (s.step event).Sound m := by
  cases event with
  | request method handling => exact h.request method handling
  | poll i elapsed =>
    simp only [Traffic.step]
    cases hwaiting : s.waiting? i with
    | none => exact h
    | some w =>
      obtain ⟨hget, hphase⟩ := waiting?_eq_some_iff.mp hwaiting
      exact h.ask hget hphase
  | abandon i =>
    simp only [Traffic.step]
    cases hwaiting : s.waiting? i with
    | none => exact h
    | some w =>
      obtain ⟨hget, hphase⟩ := waiting?_eq_some_iff.mp hwaiting
      exact h.set hget (by simp only [Exchange.account?, hphase]) trivial rfl

theorem Sound.run (h : s.Sound m) (events : List TrafficEvent) : (s.run events).Sound m := by
  induction events generalizing s with
  | nil => exact h
  | cons event events ih => exact ih (h.step event)

/-! ### Requests come to an end -/

theorem exchanges_ask_self (hget : s.exchanges[i]? = some x) {o : HandlerOutcome}
    (hfinish : c.call.finish = o.answer) (elapsed : Duration) :
    (∃ later, (s.ask i x c elapsed).exchanges[i]? =
        some { x with phase := .waiting { c with call := later } } ∧
      c.call.waits = later.waits + 1) ∨
    (s.ask i x c elapsed).exchanges[i]? = some { x with phase := o.phase } := by
  obtain ⟨hlt, -⟩ := List.getElem?_eq_some_iff.mp hget
  rcases LoggedCall.poll_cases hfinish s.metrics elapsed with
    ⟨later, hpoll, -, hleft⟩ | ⟨hsound, hpoll⟩ | ⟨hbreaks, hpoll⟩
  · refine .inl ⟨later, ?_, hleft⟩
    simp only [ask, hpoll, List.getElem?_set_self hlt]
  · refine .inr ?_
    simp only [ask, hpoll, List.getElem?_set_self hlt, HandlerOutcome.phase, if_neg hsound]
  · refine .inr ?_
    simp only [ask, hpoll, List.getElem?_set_self hlt, HandlerOutcome.phase, if_pos hbreaks]

theorem exchanges_ask_of_ne {j : Nat} (hne : j ≠ i) (c : LoggedCall) (elapsed : Duration) :
    (s.ask j x c elapsed).exchanges[i]? = s.exchanges[i]? := by
  unfold ask
  split
  · exact List.getElem?_set_ne hne
  · exact List.getElem?_set_ne hne
  · exact List.getElem?_set_ne hne

/-- Only a request that waits and is asked or given up is changed by an event. -/
theorem exchanges_step_of_other (hget : s.exchanges[i]? = some x)
    (hother : (∀ c, x.phase ≠ .waiting c) ∨ event.isPollOf i = false ∧ event ≠ .abandon i) :
    (s.step event).exchanges[i]? = some x := by
  cases event with
  | request method handling =>
    obtain ⟨hlt, -⟩ := List.getElem?_eq_some_iff.mp hget
    exact (List.getElem?_append_left hlt).trans hget
  | poll j elapsed =>
    simp only [step]
    cases hwaiting : s.waiting? j with
    | none => exact hget
    | some w =>
      obtain ⟨hgetj, hphase⟩ := waiting?_eq_some_iff.mp hwaiting
      have hne : j ≠ i := by
        rintro rfl
        cases hget.symm.trans hgetj
        rcases hother with hstill | ⟨hpoll, -⟩
        · exact hstill w.2 hphase
        · exact ne_of_beq_false hpoll rfl
      exact (exchanges_ask_of_ne hne w.2 elapsed).trans hget
  | abandon j =>
    simp only [step]
    cases hwaiting : s.waiting? j with
    | none => exact hget
    | some w =>
      obtain ⟨hgetj, hphase⟩ := waiting?_eq_some_iff.mp hwaiting
      have hne : j ≠ i := by
        rintro rfl
        cases hget.symm.trans hgetj
        rcases hother with hstill | ⟨-, habandon⟩
        · exact hstill w.2 hphase
        · exact habandon rfl
      exact (List.getElem?_set_ne hne).trans hget

theorem exchanges_run_of_not_waiting (hget : s.exchanges[i]? = some x)
    (hphase : ∀ c, x.phase ≠ .waiting c) (events : List TrafficEvent) :
    (s.run events).exchanges[i]? = some x := by
  induction events generalizing s with
  | nil => exact hget
  | cons event events ih => exact ih (exchanges_step_of_other hget (.inl hphase))

/-- Asking a request that waits brings it closer to its end. -/
theorem Sound.waits_step (h : s.Sound m) (hget : s.exchanges[i]? = some x)
    (hphase : x.phase = .waiting c) (habandon : event ≠ .abandon i) :
    (∃ o, x.handling.outcome? = some o ∧
      (s.step event).exchanges[i]? = some { x with phase := o.phase }) ∨
    ∃ later : LoggedCall,
      (s.step event).exchanges[i]? = some { x with phase := .waiting later } ∧
        c.call.waits = later.call.waits + [event].countP (·.isPollOf i) := by
  cases hpoll : event.isPollOf i with
  | false =>
    refine .inr ⟨c, ?_, by simp [hpoll]⟩
    rw [← hphase]
    exact exchanges_step_of_other hget (.inr ⟨hpoll, habandon⟩)
  | true =>
    cases event with
    | request method handling => cases hpoll
    | abandon j => cases hpoll
    | poll j elapsed =>
      have hj : j = i := eq_of_beq hpoll
      subst hj
      have hx := h.exchanges x (List.mem_of_getElem? hget)
      simp only [Exchange.Sound, hphase] at hx
      obtain ⟨-, o, ho, hfinish, -⟩ := hx
      simp only [Traffic.step, waiting?_eq_some_iff.mpr ⟨hget, hphase⟩]
      rcases exchanges_ask_self hget hfinish elapsed with ⟨later, hasked, hleft⟩ | hasked
      · exact .inr ⟨{ c with call := later }, hasked, by simpa [hpoll] using hleft⟩
      · exact .inl ⟨o, ho, hasked⟩

/-- A request that is asked more often than its handler makes wait has ended. -/
theorem Sound.ended_of_polls (h : s.Sound m) (hget : s.exchanges[i]? = some x)
    (hphase : x.phase = .waiting c) {events : List TrafficEvent}
    (habandon : .abandon i ∉ events) (hpolls : c.call.waits < events.countP (·.isPollOf i)) :
    ∃ o, x.handling.outcome? = some o ∧
      (s.run events).exchanges[i]? = some { x with phase := o.phase } := by
  induction events generalizing s x c with
  | nil => exact absurd hpolls (Nat.not_lt_zero _)
  | cons event events ih =>
    rw [List.mem_cons, not_or] at habandon
    rcases h.waits_step hget hphase (Ne.symm habandon.1) with
      ⟨o, ho, hended⟩ | ⟨later, hwaiting, hleft⟩
    · exact ⟨o, ho, exchanges_run_of_not_waiting hended o.phase_ne_waiting events⟩
    · rw [← List.singleton_append, List.countP_append] at hpolls
      have hmore : later.call.waits < events.countP (·.isPollOf i) := by omega
      have hend := ih (h.step event) hwaiting rfl habandon.2 hmore
      exact hend

/-! ### The chain -/

theorem containedHeaders_status : containedHeaders.find? statusHeader = some "13" := by
  decide +kernel

theorem containedResponse_status :
    containedResponse.headers.status? = some .internalError ∧
      containedResponse.headers.find? statusHeader = some "13" := by
  decide +kernel

/-- **What the interceptor chain lets through.** For all requests, whatever their handlers do and
in whatever order they are asked and given up:

* a request that has ended has the answer of its handler, unchanged, or the answer to a panic;
* the recording layer breaks over a request only where the headers of the answer carry a status with
  details that are not Base64, and there no request ends;
* a request that is asked more often than its handler makes wait has come to one or the other of
  this, if it is not given up;
* the metrics show, for every method and code, how many requests of the method have ended under the
  code, in the counter as well as in the histogram;
* the answer to a panic is an internal error without a body;
* a body without a panic shows what the handler's body does, and nothing more;
* a body with a panic shows what the handler's body does before it, then the trailers of an internal
  error, and nothing more. -/
theorem chain_contains (m : Metrics) (earlier later : List TrafficEvent) :
    let s := run { metrics := m } earlier
    (∀ x ∈ s.exchanges, ∀ result, x.phase = .ended result →
      ∃ o, x.handling.outcome? = some o ∧ ¬o.Breaks ∧ result = o.answer) ∧
    (∀ x ∈ s.exchanges, x.phase = .broken →
      ∃ r, x.handling.outcome? = some (.answered r) ∧
        (r.headers.find? statusHeader).isSome = true ∧
        ∃ details, r.headers.find? detailsHeader = some details ∧
          Base64.decodeUnpadded? (Text.encode details) = none) ∧
    (∀ i x c, s.exchanges[i]? = some x → x.phase = .waiting c → .abandon i ∉ later →
      x.handling.waits < later.countP (·.isPollOf i) →
      ∃ o, x.handling.outcome? = some o ∧
        (s.run later).exchanges[i]? =
          some { x with phase := if o.Breaks then .broken else .ended o.answer }) ∧
    (∀ method code,
      s.metrics.countOf ⟨.rpcRequests, Metrics.callLabels method code⟩ =
        m.countOf ⟨.rpcRequests, Metrics.callLabels method code⟩ + s.endedUnder method code ∧
      s.metrics.durationCount ⟨.rpcDuration, Metrics.callLabels method code⟩ =
        m.durationCount ⟨.rpcDuration, Metrics.callLabels method code⟩ +
          s.endedUnder method code) ∧
    (containedResponse.headers.status? = some .internalError ∧
      containedResponse.headers.find? statusHeader = some "13" ∧
      containedResponse.body.atEnd = true ∧
      ∀ n, (containedResponse.body.read n).1 = List.replicate n .finished) ∧
    (∀ b : Body, (∀ e ∈ b, ¬e.IsPanic) → ∀ n,
      ((WatchedBody.mk (some b)).read (b.length + n)).1 =
        b.map BodyEvent.shown ++ List.replicate n .finished) ∧
    (containedHeaders.find? statusHeader = some "13" ∧
      ∀ before : List BodyEvent, (∀ e ∈ before, ¬e.IsPanic) → ∀ payload rest n,
        let (shown, left) := (WatchedBody.mk (some (before ++ .panic payload :: rest))).read
          (before.length + (1 + n))
        shown = before.map BodyEvent.shown ++
          .frame (.trailers containedHeaders) :: List.replicate n .finished ∧
        left.atEnd = true) := by
  intro s
  have h : s.Sound m := (sound_start m).run earlier
  refine ⟨fun x hx result hphase => ?_, fun x hx hphase => ?_,
    fun i x c hget hphase habandon hpolls => ?_,
    fun method code => ⟨h.counted method code, h.timed method code⟩, ⟨?_, ?_, rfl, fun n => ?_⟩,
    fun b hb n => ?_, containedHeaders_status, fun before hbefore payload rest n => ?_⟩
  · have := h.exchanges x hx
    simpa only [Exchange.Sound, hphase] using this
  · have := h.exchanges x hx
    simp only [Exchange.Sound, hphase] at this
    obtain ⟨o, ho, hbreaks⟩ := this
    obtain ⟨r, rfl, hstatus, hdetails⟩ := HandlerOutcome.breaks_iff.mp hbreaks
    exact ⟨r, ho, hstatus, hdetails⟩
  · have hx := h.exchanges x (List.mem_of_getElem? hget)
    simp only [Exchange.Sound, hphase] at hx
    obtain ⟨-, o, ho, -, hwaits⟩ := hx
    exact h.ended_of_polls hget hphase habandon (Nat.lt_of_le_of_lt hwaits hpolls)
  · exact containedResponse_status.1
  · exact containedResponse_status.2
  · exact congrArg Prod.fst (WatchedBody.read_of_over (g := .empty) (.inl rfl) n)
  · rw [WatchedBody.read_of_no_panic hb]
  · rw [WatchedBody.read_of_panic hbefore]
    exact ⟨rfl, rfl⟩

/-- A handler that panics after it has made wait. -/
theorem late_panic_recorded :
    let s := run { metrics := {} }
      [.request "/a" (.called (.pending (.panic (.text "boom")))), .poll 0 ⟨1⟩, .poll 0 ⟨2⟩]
    s.metrics.countOf ⟨.rpcRequests, Metrics.callLabels "/a" (some .internal)⟩ = 1 := by
  obtain ⟨-, -, -, hcount, -⟩ := chain_contains {}
    [.request "/a" (.called (.pending (.panic (.text "boom")))), .poll 0 ⟨1⟩, .poll 0 ⟨2⟩] []
  intro s
  rw [(hcount "/a" (some .internal)).1]
  rfl

/-- Headers with the code 0 and a message that does not stand for a text. -/
def unreadableHeaders : Headers := .ofList [(statusHeader, "0"), (messageHeader, "%FF")]

/-- Headers with the code 0 and details in which there is a sign that is no digit. -/
def breakingHeaders : Headers := .ofList [(statusHeader, "0"), (detailsHeader, "!")]

/-- The code of unreadable headers is not the one under which the call is recorded, and over
breaking ones the recording layer panics: the call never ends and is not recorded. -/
theorem unreadable_answers_misrecorded :
    (let s := run { metrics := {} }
        [.request "/a" (.called (.answered { headers := unreadableHeaders, body := [] })),
          .poll 0 ⟨1⟩]
     unreadableHeaders.find? statusHeader = some "0" ∧ Code.ofText "0" = .ok ∧
      s.metrics.countOf ⟨.rpcRequests, Metrics.callLabels "/a" (some .ok)⟩ = 0 ∧
      s.metrics.countOf ⟨.rpcRequests, Metrics.callLabels "/a" (some .unknown)⟩ = 1) ∧
    (let s := run { metrics := {} }
        [.request "/a" (.called (.answered { headers := breakingHeaders, body := [] })),
          .poll 0 ⟨1⟩]
     (∃ x, s.exchanges[0]? = some x ∧ x.phase = .broken) ∧
      s.metrics.total .rpcRequests = 0) := by
  refine ⟨by decide +kernel, ?_, by decide +kernel⟩
  let handling : Handling := .called (.answered { headers := breakingHeaders, body := [] })
  have hget : (run { metrics := {} } [.request "/a" handling]).exchanges[0]? =
      some (.start "/a" handling) := rfl
  obtain ⟨o, ho, hbroken⟩ := ((sound_start {}).run [.request "/a" handling]).ended_of_polls hget rfl
    (show .abandon 0 ∉ [TrafficEvent.poll 0 ⟨1⟩] by simp) (by decide)
  cases ho
  exact ⟨_, hbroken, if_pos (by decide +kernel)⟩

end Traffic

end GatewayAgent
