import GatewayAgent.Proofs.ControlPlane.Failure
import GatewayAgent.Proofs.History
import Mathlib.Data.List.Induction

/-!
# The attributes of listed sessions

A listing shows the attributes that the gateway has reported of a client, and among them the times
that the registry has recorded, each under a name of its own. The gateway may have used these names
as well. The last activity is recorded of every session, so it always takes the place of what the
gateway has reported (`RecordOf`). An expiry need not be on record, and then an attribute of that
name is shown as if it were one. `listed_attributes` says what is shown, and that this is the only
case in which it is not what the registry holds.

A `Scene` is an agent with the calls that wait for their commands. Calls, what follows on their
commands, and other operations on the registry come in any order, with any time to live. The
invariant is `Backed`: every entry has the data of the last report under its identifier
(`LastReported`).
-/

namespace GatewayAgent

/-! ### Shown attributes -/

/-- The attribute of a time is shown if there is a time. -/
theorem find?_timeAttribute (name key : String) (t : Option Instant)
    (d : Dictionary String String) :
    (timeAttribute name t d).find? key =
      if key = name then (t.map Instant.rfc3339).or (d.find? key) else d.find? key := by
  cases t with
  | none => simp [timeAttribute]
  | some t =>
    rw [timeAttribute, Dictionary.find?_insert]
    split_ifs with h
    · rfl
    · rfl

namespace Session

/-- The session has the data of a connection, and it is known when it was last active. -/
structure RecordOf (s : Session) (c : ClientConnection) : Prop extends s.IsOf c where
  active : s.lastActivity.isSome

/-- The two times come before the session's own attributes of the same names. -/
theorem find?_listedMetadata (s : Session) (key : String) :
    (s.listedMetadata true).find? key =
      if key = "expires_at" then (s.expiresAt.map Instant.rfc3339).or (s.metadata.find? key)
      else if key = "last_activity" then
        (s.lastActivity.map Instant.rfc3339).or (s.metadata.find? key)
      else s.metadata.find? key := by
  rw [listedMetadata, if_pos rfl, find?_timeAttribute, find?_timeAttribute]
  by_cases hexpiry : key = "expires_at"
  · have hne : "expires_at" ≠ "last_activity" := by decide
    rw [hexpiry, if_pos rfl, if_pos rfl, if_neg hne]
  · rw [if_neg hexpiry, if_neg hexpiry]

/-- The expiry is shown as it is on record if there is one, or else if the gateway has not reported
an attribute of that name. -/
theorem shown_expiry_iff (expiry : Option Instant) (reported : Option String) :
    (expiry.map Instant.rfc3339).or reported = expiry.map Instant.rfc3339 ↔
      expiry.isSome ∨ reported = none := by
  cases expiry with
  | none => simp
  | some t => simp

end Session

/-! ### Entries that are kept -/

namespace Registry

/-- The operation records no session. It may change the traffic of one. -/
def Operation.RecordsNone : Operation → Prop
  | .add _ | .getOrCreate _ | .update _ _ => False
  | _ => True

/-- The entries of `r'` are entries of `r`, with the same data, and active at some time if they
were. -/
def Retains (r r' : Registry) : Prop :=
  ∀ id s', r'.sessions.find? id = some s' → ∃ s, r.sessions.find? id = some s ∧
    ∀ c : ClientConnection, c.id = id → s.RecordOf c → s'.RecordOf c

namespace Retains

variable {r r' r'' : Registry}

theorem refl (r : Registry) : r.Retains r := fun _ s hs => ⟨s, hs, fun _ _ h => h⟩

theorem trans (h : r.Retains r') (h' : r'.Retains r'') : r.Retains r'' := by
  intro id s'' hs''
  obtain ⟨s', hs', hdata'⟩ := h' id s'' hs''
  obtain ⟨s, hs, hdata⟩ := h id s' hs'
  exact ⟨s, hs, fun c hid hc => hdata' c hid (hdata c hid hc)⟩

/-- What is left of the entries is as it was. -/
theorem of_find? (h : ∀ id s', r'.sessions.find? id = some s' → r.sessions.find? id = some s') :
    r.Retains r' := fun id s' hs' => ⟨s', h id s' hs', fun _ _ hc => hc⟩

/-- What only leaves sessions out retains the others. -/
theorem of_filter {p : Session → Bool}
    (h : ∀ id, r'.sessions.find? id = (r.sessions.find? id).filter p) : r.Retains r' :=
  of_find? fun id _ hs' => (Option.filter_eq_some_iff.mp (h id ▸ hs')).1

end Retains

/-- The removal of a user's sessions retains the others. -/
theorem retains_removeByUsername (r : Registry) (username : String) :
    r.Retains (r.removeByUsername username).1 :=
  .of_filter (find?_removeByUsername r username)

/-- New traffic counters retain what a session shows of its connection. -/
theorem retains_updateTraffic (r : Registry) (now : Instant) (id : String)
    (bytesIn bytesOut : UInt64) :
    r.Retains (r.settle (r.updateTraffic now id bytesIn bytesOut)).1 := by
  cases hupdate : r.updateTraffic now id bytesIn bytesOut with
  | error e => exact .refl r
  | ok r' =>
    obtain ⟨-, s, draft, hlive, hdraft, rfl⟩ := update_eq_ok_iff.mp hupdate
    cases hdraft
    intro id' s' hs'
    rw [settle, find?_put, id_commit] at hs'
    split_ifs at hs' with hid
    · -- This is the session itself: its traffic and its times are new.
      subst hid
      cases hs'
      refine ⟨s, (live_eq_ok_iff.mp hlive).1, fun c hc hs => ?_⟩
      rw [commit]
      split_ifs <;>
        exact ⟨⟨hc.symm, hs.username, hs.clientIp, hs.vpnIp, hs.deviceId, hs.metadata⟩, rfl⟩
    · exact ⟨s', hs', fun _ _ hc => hc⟩

/-- An operation that records no session leaves no new entries and changes no data. -/
theorem retains_perform (r : Registry) (now : Instant) (op : Operation) (h : op.RecordsNone) :
    r.Retains (r.perform now op).1 := by
  cases op with
  | add s => exact absurd h id
  | getOrCreate s => exact absurd h id
  | update id change => exact absurd h not_false
  | updateTraffic id bytesIn bytesOut => exact retains_updateTraffic r now id bytesIn bytesOut
  | remove id =>
    refine .of_find? fun id' s' hs' => ?_
    change (r.settle (r.remove id)).1.sessions.find? id' = some s' at hs'
    rw [find?_settle_remove] at hs'
    split_ifs at hs'
    exact hs'
  | removeByUsername username => exact retains_removeByUsername r username
  | sweep => exact .of_filter (find?_sweep r now)
  | clear => exact .of_find? fun id s hs => by cases hs
  | _ => exact .refl r

/-- The end of a connection retains the other sessions. -/
theorem retains_notifyDisconnect (r : Registry) (now : Instant) (id : String)
    (bytesIn bytesOut : UInt64) : r.Retains (r.notifyDisconnect now id bytesIn bytesOut) := by
  rw [notifyDisconnect_eq_perform]
  exact (r.retains_perform now (.updateTraffic id bytesIn bytesOut) trivial).trans
    (retains_perform _ now (.remove id) trivial)

/-- What follows a command retains the sessions that it leaves. -/
theorem retains_afterForced (r : Registry) (username : String) (result : CommandResult) :
    r.Retains (r.afterForced username result) := by
  rw [afterForced]
  split_ifs
  · exact retains_removeByUsername r username
  · exact .refl r

end Registry

/-- A call that goes on when its command has ended records nothing. -/
theorem Resumes.retains {request : Request}
    {resume : CommandResult → AgentState → AgentState × Reply} (h : Resumes request resume)
    (result : CommandResult) (s : AgentState) :
    s.registry.Retains (resume result s).1.registry := by
  cases h with
  | command requestId command args => exact .refl _
  | disconnect username =>
    rw [registry_afterDisconnect]
    exact s.registry.retains_afterForced username result
  | reload username path routes dnsServers params =>
    rw [registry_afterReload]
    exact s.registry.retains_afterForced username result

namespace Listing

/-! ### Runs of an agent -/

/-- An agent, and how the calls go on that wait for a command. -/
structure Scene where
  agent : AgentState
  waiting : List (CommandResult → AgentState → AgentState × Reply) := []

/-- What can happen next. -/
inductive Event where
  /-- A call begins, and goes on to its reply or to the command that it waits for. -/
  | begins (now : Instant) (request : Request)
  /-- A command has ended, and the call that waits for it goes on to its reply. -/
  | resumes (i : Nat) (result : CommandResult)
  /-- There is another operation on the registry, such as a sweep, that records no session. -/
  | operates (now : Instant) (op : Registry.Operation) (recordsNone : op.RecordsNone)

/-- The gateway reports a connection. -/
def Event.Reports (e : Event) (c : ClientConnection) : Prop := ∃ now, e = .begins now c.notification

namespace Scene

/-- An agent without any sessions. -/
def start (ttl : Option Duration) (files : FileSystem) : Scene where
  agent := { registry := .new ttl, files }

/-- Begins a call. -/
def afterTurn (sc : Scene) : Turn → Scene
  | .replied agent _ => { sc with agent }
  | .waiting agent _ resume => { agent, waiting := sc.waiting ++ [resume] }

/-- Goes on with one event. -/
def step (p : ControlPlane) (sc : Scene) : Event → Scene
  | .begins now request => sc.afterTurn (p.begin sc.agent now request)
  | .resumes i result =>
    match sc.waiting[i]? with
    | some resume =>
      { agent := (resume result sc.agent).1, waiting := sc.waiting.eraseIdx i }
    | none => sc
  | .operates now op _ =>
    { sc with agent := { sc.agent with registry := (sc.agent.registry.perform now op).1 } }

/-- Goes on with some events. -/
def after (p : ControlPlane) (sc : Scene) (run : List Event) : Scene := run.foldl (step p) sc

theorem after_snoc {p : ControlPlane} {sc : Scene} {run : List Event} {e : Event} :
    sc.after p (run ++ [e]) = (sc.after p run).step p e := by
  rw [after, List.foldl_append]
  rfl

@[simp]
theorem agent_afterTurn (sc : Scene) (t : Turn) : (sc.afterTurn t).agent = t.state := by
  cases t <;> rfl

end Scene

/-! ### The last report -/

variable {p : ControlPlane} {sc : Scene} {run : List Event} {e : Event} {c : ClientConnection}
  {r r' : Registry}

/-- The last report under the identifier is that of the connection. -/
def LastReported (run : List Event) (c : ClientConnection) : Prop :=
  ∃ x, Standing (·.Reports c) (fun _ y => ∃ d, y.Reports d ∧ d.id = c.id) run x

/-- A connection was reported last by the last event, or before it if that reports no other under
the same id. -/
theorem lastReported_snoc :
    LastReported (run ++ [e]) c ↔
      e.Reports c ∨ (LastReported run c ∧ ¬∃ d, e.Reports d ∧ d.id = c.id) := by
  simp only [LastReported, standing_snoc, exists_or, exists_eq_left, exists_and_right]

/-! ### What the entries go back to -/

/-- Every entry has the data of the last report under its identifier. -/
def Backed (run : List Event) (r : Registry) : Prop :=
  ∀ id s, r.sessions.find? id = some s →
    ∃ c : ClientConnection, c.id = id ∧ LastReported run c ∧ s.RecordOf c

/-- What is not a report changes no data. -/
theorem Backed.of_retains (h : Backed run r) (hretains : r.Retains r')
    (hreport : ∀ d, ¬e.Reports d) : Backed (run ++ [e]) r' := by
  intro id s' hs'
  obtain ⟨s, hs, hdata⟩ := hretains id s' hs'
  obtain ⟨c, hid, hlast, hc⟩ := h id s hs
  refine ⟨c, hid, lastReported_snoc.mpr (.inr ⟨hlast, ?_⟩), hdata c hid hc⟩
  rintro ⟨d, hd, -⟩
  exact hreport d hd

/-- A report backs the session that it adds. -/
theorem Backed.of_report (h : Backed run r) (now : Instant) (c : ClientConnection) :
    Backed (run ++ [.begins now c.notification]) (r.notifyConnect now c.session) := by
  intro id s hs
  rw [Registry.find?_notifyConnect] at hs
  split_ifs at hs with hid
  · obtain rfl : r.stamp now c.session = s := Option.some.inj hs
    refine ⟨c, hid.symm, lastReported_snoc.mpr (.inl ⟨now, rfl⟩), ?_, rfl⟩
    exact Registry.isOf_stamp r now c
  · obtain ⟨d, hd, hlast, hs⟩ := h id s hs
    refine ⟨d, hd, lastReported_snoc.mpr (.inr ⟨hlast, ?_⟩), hs⟩
    rintro ⟨d', ⟨now', heq⟩, hid'⟩
    obtain ⟨-, hrequest⟩ := Event.begins.inj heq
    obtain ⟨hsame, -⟩ := Request.notifyConnect.inj hrequest
    exact hid (by rw [← hd, ← hid', ← hsame])

/-- A call that reports a connection backs the session that it adds. -/
theorem Backed.notifyConnect (h : Backed run r) (now : Instant)
    (id username clientIp vpnIp deviceId : String) (metadata : Dictionary String String) :
    Backed (run ++ [.begins now (.notifyConnect id username clientIp vpnIp deviceId metadata)])
      (r.notifyConnect now { id, username, clientIp, vpnIp, deviceId, metadata }) := by
  by_cases hvalid : id ≠ "" ∧ username ≠ ""
  · exact h.of_report now ⟨id, username, clientIp, vpnIp, deviceId, metadata, hvalid.1, hvalid.2⟩
  · -- A report without an identifier or a user is of no connection, and nothing is recorded.
    rw [Registry.notifyConnect_of_invalid hvalid]
    refine h.of_retains (.refl r) ?_
    rintro d ⟨now', heq⟩
    obtain ⟨-, hrequest⟩ := Event.begins.inj heq
    obtain ⟨rfl, rfl, -⟩ := Request.notifyConnect.inj hrequest
    exact hvalid ⟨d.id_ne, d.username_ne⟩

/-- The beginning of a call keeps to this. -/
theorem Backed.begins (h : Backed run sc.agent.registry) (p : ControlPlane) (now : Instant)
    (request : Request) :
    Backed (run ++ [.begins now request]) (p.begin sc.agent now request).state.registry := by
  by_cases hreport : request.IsReport
  · cases request with
    | notifyConnect id username clientIp vpnIp deviceId metadata =>
      exact h.notifyConnect now id username clientIp vpnIp deviceId metadata
    | notifyDisconnect id bytesIn bytesOut =>
      refine h.of_retains (Registry.retains_notifyDisconnect _ now id bytesIn bytesOut) ?_
      rintro d ⟨now', heq⟩
      cases heq
    | _ => exact absurd hreport id
  · rw [registry_begin hreport]
    refine h.of_retains (.refl _) ?_
    rintro d ⟨now', heq⟩
    obtain ⟨-, rfl⟩ := Event.begins.inj heq
    exact hreport trivial

/-- What holds along a run: the entries are backed, and the calls that wait are such as may. -/
structure Sound (run : List Event) (sc : Scene) : Prop where
  backed : Backed run sc.agent.registry
  resumes : ∀ resume ∈ sc.waiting, ∃ request, Resumes request resume

namespace Sound

/-- A scene that starts has nothing to show. -/
theorem start (ttl : Option Duration) (files : FileSystem) : Sound [] (.start ttl files) where
  backed id s hs := absurd hs (by simp [Scene.start])
  resumes resume hresume := absurd hresume List.not_mem_nil

/-- Every event leaves a sound scene. -/
theorem step (h : Sound run sc) (p : ControlPlane) (e : Event) :
    Sound (run ++ [e]) (sc.step p e) := by
  cases e with
  | begins now request =>
    have hbacked := h.backed.begins p now request
    refine ⟨by rwa [Scene.step, Scene.agent_afterTurn], fun resume hresume => ?_⟩
    rw [Scene.step] at hresume
    cases hturn : p.begin sc.agent now request with
    | replied agent reply =>
      rw [hturn] at hresume
      exact h.resumes resume hresume
    | waiting agent line resume' =>
      rw [hturn] at hresume
      rcases List.mem_append.mp hresume with hold | hnew
      · exact h.resumes resume hold
      · obtain rfl := List.mem_singleton.mp hnew
        exact ⟨request, resumes_of_waiting hturn⟩
  | resumes i result =>
    have hquiet : ∀ d, ¬(Event.resumes i result).Reports d := by
      rintro d ⟨now, heq⟩
      cases heq
    rw [Scene.step]
    cases hget : sc.waiting[i]? with
    | none => exact ⟨h.backed.of_retains (.refl _) hquiet, h.resumes⟩
    | some resume =>
      obtain ⟨request, hresume⟩ := h.resumes resume (List.mem_of_getElem? hget)
      refine ⟨h.backed.of_retains (hresume.retains result sc.agent) hquiet, fun resume' hmem => ?_⟩
      exact h.resumes resume' (List.mem_of_mem_eraseIdx hmem)
  | operates now op recordsNone =>
    refine ⟨h.backed.of_retains (Registry.retains_perform _ now op recordsNone) ?_, h.resumes⟩
    rintro d ⟨now', heq⟩
    cases heq

/-- In every run the scene is sound. -/
theorem after (p : ControlPlane) (ttl : Option Duration) (files : FileSystem) (run : List Event) :
    Sound run ((Scene.start ttl files).after p run) := by
  induction run using List.reverseRecOn with
  | nil => exact .start ttl files
  | append_singleton run e ih =>
    rw [Scene.after_snoc]
    exact ih.step p e

end Sound

/-! ### Listings -/

/-- **Attributes of listed sessions.** Whatever has happened to an agent, with any time to live, a
listing is answered, and each of its entries is an entry of the registry. Without statistics it has
no attributes. With statistics

* its last activity is shown as it is on record, and it is on record;
* what has another name than the two times is as the gateway has last reported it;
* its expiry is shown as it is on record if it is, and else as the gateway has reported it.

So it is shown exactly as it is on record, or not shown if it is not, if there is an expiry on
record or the gateway has reported none. -/
theorem listed_attributes (p : ControlPlane) (ttl : Option Duration) (files : FileSystem)
    (run : List Event) (executor : Executor) (now : Instant) (deadline : Option Duration)
    (usernameFilter : String) (includeStats : Bool) :
    let agent := ((Scene.start ttl files).after p run).agent
    ∃ total entries,
      (p.serve executor agent now deadline
        (.getActiveSessions usernameFilter includeStats)).reply =
          .after ⟨0⟩ (.ok (.sessions total entries)) ∧
      ∀ e ∈ entries, ∃ s c, agent.registry.sessions.find? e.id = some s ∧
        c.id = e.id ∧ LastReported run c ∧
        (includeStats = false → ∀ key, e.metadata.find? key = none) ∧
        (includeStats = true →
          (∃ last, s.lastActivity = some last ∧
            e.metadata.find? "last_activity" = some last.rfc3339) ∧
          (∀ key, key ≠ "last_activity" → key ≠ "expires_at" →
            e.metadata.find? key = c.metadata.find? key) ∧
          e.metadata.find? "expires_at" =
            (s.expiresAt.map Instant.rfc3339).or (c.metadata.find? "expires_at") ∧
          (e.metadata.find? "expires_at" = s.expiresAt.map Instant.rfc3339 ↔
            s.expiresAt.isSome ∨ c.metadata.find? "expires_at" = none)) := by
  intro agent
  have hsound : Sound run ((Scene.start ttl files).after p run) := .after p ttl files run
  refine ⟨_, (agent.registry.listFiltered now usernameFilter).map (·.listed includeStats), rfl, ?_⟩
  intro e he
  obtain ⟨s, hs, rfl⟩ := List.mem_map.mp he
  obtain ⟨id, hfind⟩ := (Registry.mem_list_iff.mp (Registry.mem_listFiltered_iff.mp hs).1).1
  obtain ⟨c, hid, hlast, hc⟩ := hsound.backed id s hfind
  have hsid : s.id = id := hc.id.trans hid
  refine ⟨s, c, ?_, hid.trans hsid.symm, hlast, ?_, ?_⟩
  · change agent.registry.sessions.find? s.id = some s
    rw [hsid]
    exact hfind
  · rintro rfl key
    rfl
  · rintro rfl
    have hshown : ∀ key, (s.listed true).metadata.find? key = _ := s.find?_listedMetadata
    obtain ⟨last, hactive⟩ := Option.isSome_iff_exists.mp hc.active
    have hexpiry : (s.listed true).metadata.find? "expires_at" =
        (s.expiresAt.map Instant.rfc3339).or (c.metadata.find? "expires_at") := by
      rw [hshown, if_pos rfl, hc.metadata]
    refine ⟨⟨last, hactive, ?_⟩, fun key hlastKey hexpiryKey => ?_, hexpiry, ?_⟩
    · rw [hshown, if_neg (by decide), if_pos rfl, hactive]
      rfl
    · rw [hshown, if_neg hexpiryKey, if_neg hlastKey, hc.metadata]
    · rw [hexpiry]
      exact Session.shown_expiry_iff s.expiresAt _

/-- A client of which the gateway reports an attribute with the name of an expiry. -/
def expiringCarol : ClientConnection where
  id := "s7"
  username := "carol"
  metadata := .ofList [("expires_at", "2099-01-01T00:00:00Z")]

/-- The registry has no time to live and holds no expiry, but one is listed. -/
theorem unrecorded_expiry_listed :
    let agent := ((Scene.start none {}).after {} [.begins ⟨0⟩ expiringCarol.notification]).agent
    ∃ s e, agent.registry.sessions.find? "s7" = some s ∧ s.expiresAt = none ∧
      (ControlPlane.serve {} (fun _ _ => .never) agent ⟨0⟩ none
          (.getActiveSessions "" true)).reply = .after ⟨0⟩ (.ok (.sessions 1 [e])) ∧
      e.id = "s7" ∧ e.metadata.find? "expires_at" = some "2099-01-01T00:00:00Z" :=
  ⟨_, _, rfl, rfl, rfl, rfl, rfl⟩

end Listing

end GatewayAgent
