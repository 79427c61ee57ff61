import GatewayAgent.Proofs.ControlPlane.Effect
import GatewayAgent.Proofs.History
import Mathlib.Data.List.Induction

/-!
# The sessions that are listed, from the history of calls

After any sequence of calls the listed sessions can be read off the history alone. A client is
*connected* if its last report has not been followed by anything that ends its session: the
report of its end, a new report under its identifier, or a command that had the gateway drop its
user (`Served.Ends`). `Agrees` is the invariant that ties the registry to the history;
`Agrees.outcome` says that every call preserves it, and `sessions_listed_exactly` reads the answer
of a listing off it.

There is no time to live here, so the clock readings of the calls do not matter.
-/

namespace GatewayAgent

namespace Replay

/-! ### Histories -/

/-- A call with everything that its outcome depends on but the state. -/
structure Call where
  request : Request
  now : Instant
  executor : Executor
  deadline : Option Duration

/-- What comes of a call in a state. -/
def Call.outcome (call : Call) (p : ControlPlane) (s : AgentState) : CallOutcome :=
  p.serve call.executor s call.now call.deadline call.request

/-- An agent without any sessions, whose sessions will not expire. -/
def start (files : FileSystem) : AgentState where
  registry := .new none
  files

/-- The state after a sequence of calls. -/
def after (p : ControlPlane) (s : AgentState) (calls : List Call) : AgentState :=
  calls.foldl (fun s call => (call.outcome p s).state) s

/-- A call that has been served, with the state that it found. -/
structure Served where
  call : Call
  found : AgentState

/-- A sequence of calls as they are served. -/
def history (p : ControlPlane) (s : AgentState) (calls : List Call) : List Served :=
  trace (fun s call => (call.outcome p s).state) Served.mk s calls

variable {p : ControlPlane} {s : AgentState} {calls : List Call} {call : Call}
  {served : List Served} {r : Registry} {c d : ClientConnection}

theorem after_snoc : after p s (calls ++ [call]) = (call.outcome p (after p s calls)).state := by
  rw [after, List.foldl_append]
  rfl

theorem history_snoc :
    history p s (calls ++ [call]) = history p s calls ++ [⟨call, after p s calls⟩] :=
  trace_snoc

/-! ### What ends a session -/

namespace Served

/-- The call had the gateway drop a user, and was told that this has succeeded. -/
def Drops (p : ControlPlane) (x : Served) (username : String) : Prop :=
  disconnectLine username ∈ (x.call.outcome p x.found).commands ∧
    Execution.succeeded ((disconnectLine username).run x.call.executor x.call.deadline) = true

/-- There is a directory for the files of users, and the file of the user is written. -/
def Writes (p : ControlPlane) (x : Served) (update : UserUpdate) : Prop :=
  ∃ dir, p.userConfigDir = some dir ∧
    (writeUserConfig x.found.files (Path.join dir update.username) update).2 = .ok ()

/-- The call ends the session of a connection that was reported before. -/
def Ends (p : ControlPlane) (c : ClientConnection) (x : Served) : Prop :=
  match x.call.request with
  | .notifyConnect id username _ _ _ _ => id = c.id ∧ username ≠ ""
  | .notifyDisconnect id _ _ => id = c.id
  | .disconnectUser username => username = c.username ∧ x.Drops p username
  | .updateUserRoutes username routes dnsServers reloadIfConnected params =>
    username = c.username ∧ reloadIfConnected = true ∧
      x.Writes p { username, routes, dnsServers, directives := params } ∧ x.Drops p username
  | _ => False

/-- When new routes have a user dropped, this was asked for and the file is written. -/
theorem written_of_drops {username : String} {routes dnsServers : List String} {reload : Bool}
    {params : Dictionary String String} {x : Served}
    (hrequest : x.call.request = .updateUserRoutes username routes dnsServers reload params)
    (h : x.Drops p username) :
    reload = true ∧ x.Writes p { username, routes, dnsServers, directives := params } := by
  have hcommands := h.1
  change _ ∈ ((p.begin x.found x.call.now x.call.request).perform x.call.executor
    x.call.deadline).commands at hcommands
  rw [hrequest] at hcommands
  cases hturn : p.begin x.found x.call.now
      (.updateUserRoutes username routes dnsServers reload params) with
  | replied state reply =>
    rw [hturn] at hcommands
    exact absurd hcommands List.not_mem_nil
  | waiting state line resume => exact written_of_waiting hturn

end Served

/-- The client's last report stands. -/
def Connected (p : ControlPlane) (served : List Served) (c : ClientConnection) : Prop :=
  ∃ x, Standing (fun x => x.call.request = c.notification) (fun _ y => y.Ends p c) served x

theorem not_connected_nil : ¬Connected p [] c := fun ⟨_, hx⟩ => not_standing_nil hx

theorem connected_snoc {y : Served} :
    Connected p (served ++ [y]) c ↔
      y.call.request = c.notification ∨ (Connected p served c ∧ ¬y.Ends p c) := by
  simp only [Connected, standing_snoc, exists_or, exists_eq_left, exists_and_right]

/-! ### The registry along a history -/

/-- The registry holds exactly the clients that are connected, and nothing else. -/
structure Agrees (p : ControlPlane) (served : List Served) (r : Registry) : Prop where
  ttl : r.ttl = none
  holdsAll : r.HoldsAll
  holds : ∀ c, r.Holds c ↔ Connected p served c

namespace Agrees

theorem nil (p : ControlPlane) : Agrees p [] (.new none) where
  ttl := rfl
  holdsAll id s hs := by simp at hs
  holds c := iff_of_false (fun ⟨s, hs, _⟩ => by simp at hs) not_connected_nil

/-- What a call must do to the registry. -/
theorem snoc {y : Served} {r' : Registry} (h : Agrees p served r) (httl : r'.ttl = none)
    (hall : r'.HoldsAll)
    (hholds : ∀ c, r'.Holds c ↔
      y.call.request = c.notification ∨ (r.Holds c ∧ ¬y.Ends p c)) :
    Agrees p (served ++ [y]) r' := by
  refine ⟨httl, hall, fun c => ?_⟩
  rw [connected_snoc, ← h.holds, hholds]

/-- A call that reports nothing and ends nothing. -/
theorem quiet {y : Served} (h : Agrees p served r)
    (hreport : ∀ c : ClientConnection, y.call.request ≠ c.notification)
    (hends : ∀ c, ¬y.Ends p c) : Agrees p (served ++ [y]) r :=
  h.snoc h.ttl h.holdsAll fun c => by simp [hreport, hends]

/-- A call that has a user dropped. -/
theorem drop {y : Served} {username : String} (h : Agrees p served r)
    (hreport : ∀ c : ClientConnection, y.call.request ≠ c.notification)
    (hends : ∀ c, y.Ends p c ↔ username = c.username ∧ y.Drops p username)
    (hturn : (p.begin y.found y.call.now y.call.request).Forces username r) :
    Agrees p (served ++ [y]) (y.call.outcome p y.found).state.registry := by
  have hregistry := hturn.registry_perform y.call.executor y.call.deadline
  by_cases hdrops : y.Drops p username
  · -- The handler has heard of the success, so every session of the user goes.
    rw [show (y.call.outcome p y.found).state.registry = (r.removeByUsername username).1 from
      hregistry.trans (if_pos hdrops)]
    refine h.snoc h.ttl (fun id s hs => ?_) fun c => ?_
    · rw [Registry.find?_removeByUsername] at hs
      exact h.holdsAll id s (Option.filter_eq_some_iff.mp hs).1
    · rw [Registry.holds_removeByUsername, hends, or_iff_right (hreport c), and_iff_left hdrops]
      exact and_congr_right' ne_comm
  · -- No command was given, or it did not succeed: nothing goes and nothing ends.
    rw [show (y.call.outcome p y.found).state.registry = r from hregistry.trans (if_neg hdrops)]
    exact h.quiet hreport fun c hc => hdrops ((hends c).mp hc).2

theorem notifyConnect {id username clientIp vpnIp deviceId : String}
    {metadata : Dictionary String String} {y : Served} (h : Agrees p served r)
    (hrequest : y.call.request = .notifyConnect id username clientIp vpnIp deviceId metadata) :
    Agrees p (served ++ [y]) (r.notifyConnect y.call.now
      { id, username, clientIp, vpnIp, deviceId, metadata }) := by
  have hends : ∀ c, y.Ends p c ↔ id = c.id ∧ username ≠ "" := by simp [Served.Ends, hrequest]
  by_cases hvalid : id ≠ "" ∧ username ≠ ""
  · obtain ⟨hid, hname⟩ := hvalid
    let d : ClientConnection := ⟨id, username, clientIp, vpnIp, deviceId, metadata, hid, hname⟩
    change Agrees p (served ++ [y]) (r.notifyConnect y.call.now d.session)
    refine h.snoc ?_ ?_ fun c => ?_
    · rw [Registry.ttl_notifyConnect, h.ttl]
    · exact Registry.holdsAll_notifyConnect h.ttl h.holdsAll y.call.now d
    · rw [Registry.holds_notifyConnect h.ttl, hrequest, hends, and_iff_left hname]
      refine or_congr ⟨fun heq => by rw [← heq]; rfl, fun heq => ?_⟩ Iff.rfl
      obtain ⟨h₁, h₂, h₃, h₄, h₅, h₆⟩ := Request.notifyConnect.inj heq
      exact ClientConnection.ext h₁ h₂ h₃ h₄ h₅ h₆
  · -- A report without an identifier or a user is of no connection and replaces none.
    rw [Registry.notifyConnect_of_invalid hvalid]
    refine h.quiet (fun c heq => hvalid ?_) fun c hc => hvalid ?_
    · rw [hrequest] at heq
      obtain ⟨rfl, rfl, -⟩ := Request.notifyConnect.inj heq
      exact ⟨c.id_ne, c.username_ne⟩
    · obtain ⟨rfl, hname⟩ := (hends c).mp hc
      exact ⟨c.id_ne, hname⟩

theorem notifyDisconnect {id : String} {bytesIn bytesOut : UInt64} {y : Served}
    (h : Agrees p served r) (hrequest : y.call.request = .notifyDisconnect id bytesIn bytesOut) :
    Agrees p (served ++ [y]) (r.notifyDisconnect y.call.now id bytesIn bytesOut) := by
  refine h.snoc ?_ (fun id' s hs => ?_) fun c => ?_
  · rw [Registry.ttl_notifyDisconnect, h.ttl]
  · rw [Registry.find?_notifyDisconnect] at hs
    split_ifs at hs
    exact h.holdsAll id' s hs
  · simp [Registry.holds_notifyDisconnect, Served.Ends, hrequest, ClientConnection.notification]

/-- Every call preserves the agreement. -/
theorem outcome (h : Agrees p served s.registry) (call : Call) :
    Agrees p (served ++ [⟨call, s⟩]) (call.outcome p s).state.registry := by
  obtain ⟨request, now, executor, deadline⟩ := call
  cases request with
  | notifyConnect id username clientIp vpnIp deviceId metadata => exact h.notifyConnect rfl
  | notifyDisconnect id bytesIn bytesOut => exact h.notifyDisconnect rfl
  | disconnectUser username =>
    exact h.drop (by simp [ClientConnection.notification]) (fun c => Iff.rfl)
      (forces_disconnectUser s username)
  | updateUserRoutes username routes dnsServers reloadIfConnected params =>
    refine h.drop (by simp [ClientConnection.notification])
      (fun c => and_congr_right fun _ => ?_)
      (forces_updateUserRoutes p s now ⟨username, routes, dnsServers, params⟩ reloadIfConnected)
    -- That the command was given tells that it was asked for and that the file is written.
    refine ⟨fun hends => hends.2.2, fun hdrops => ?_⟩
    obtain ⟨hreload, hwritten⟩ := Served.written_of_drops rfl hdrops
    exact ⟨hreload, hwritten, hdrops⟩
  | executeCommand requestId command args =>
    have hstate : ((p.begin s now (.executeCommand requestId command args)).perform executor
        deadline).state = s :=
      Turn.state_perform_of_resume (fun result s' => rfl) executor deadline
    change Agrees p _ ((p.begin s now (.executeCommand requestId command args)).perform executor
      deadline).state.registry
    rw [hstate]
    exact h.quiet (by simp [ClientConnection.notification]) (fun c => id)
  | healthCheck tier => exact h.quiet (by simp [ClientConnection.notification]) (fun c => id)
  | getActiveSessions usernameFilter includeStats =>
    exact h.quiet (by simp [ClientConnection.notification]) (fun c => id)
  | updateConfig => exact h.quiet (by simp [ClientConnection.notification]) (fun c => id)
  | streamLogs => exact h.quiet (by simp [ClientConnection.notification]) (fun c => id)
  | agentStream => exact h.quiet (by simp [ClientConnection.notification]) (fun c => id)

/-- The agreement holds after any sequence of calls. -/
theorem run (p : ControlPlane) (files : FileSystem) (calls : List Call) :
    Agrees p (history p (start files) calls) (after p (start files) calls).registry := by
  induction calls using List.reverseRecOn with
  | nil => exact .nil p
  | append_singleton calls call ih =>
    rw [history_snoc, after_snoc]
    exact ih.outcome call

end Agrees

/-! ### The answer of a listing -/

/-- An entry of a listing shows what was reported of a connection. -/
structure Shows (e : ListedSession) (c : ClientConnection) : Prop where
  id : e.id = c.id
  username : e.username = c.username
  clientIp : e.clientIp = c.clientIp
  vpnIp : e.vpnIp = c.vpnIp
  deviceId : e.deviceId = c.deviceId

theorem shows_listed {s : Session} (h : s.IsOf c) (includeStats : Bool) :
    Shows (s.listed includeStats) c :=
  ⟨h.id, h.username, h.clientIp, h.vpnIp, h.deviceId⟩

/-- Without expiries, the listed sessions are those on record that pass the filter. -/
theorem Agrees.mem_listFiltered_iff (h : Agrees p served r) {now : Instant}
    {usernameFilter : String} {s : Session} :
    s ∈ r.listFiltered now usernameFilter ↔
      (∃ id, r.sessions.find? id = some s) ∧
        (usernameFilter = "" ∨ s.username = usernameFilter) := by
  have hlist : s ∈ r.list now ↔ ∃ id, r.sessions.find? id = some s := by
    rw [Registry.mem_list_iff, and_iff_left_iff_imp]
    rintro ⟨id, hs⟩
    obtain ⟨c, -, -, hexp⟩ := h.holdsAll id s hs
    rw [Session.isExpiredAt, hexp, Option.any_none]
  rw [Registry.mem_listFiltered_iff, hlist]

theorem Agrees.nodup_ids (h : Agrees p served r) (now : Instant) (usernameFilter : String) :
    ((r.listFiltered now usernameFilter).map Session.id).Nodup := by
  have hkeyed : r.Keyed := by
    intro id s hs
    obtain ⟨c, rfl, hof, -⟩ := h.holdsAll id s hs
    exact hof.id
  rw [Registry.listFiltered]
  split_ifs
  · exact hkeyed.nodup_ids.sublist (List.filter_sublist.map _)
  · exact hkeyed.nodup_ids.sublist (List.filter_sublist.map _)

/-- **Listings follow the history.** After any sequence of calls, a listing has one entry for each
connected client that passes the filter, with the data of its last report, and no others; and it
counts its entries, up to the largest count that can be reported. -/
theorem sessions_listed_exactly (p : ControlPlane) (files : FileSystem) (calls : List Call)
    (executor : Executor) (now : Instant) (deadline : Option Duration) (usernameFilter : String)
    (includeStats : Bool) :
    ∃ total entries,
      (p.serve executor (after p (start files) calls) now deadline
        (.getActiveSessions usernameFilter includeStats)).reply =
          .after ⟨0⟩ (.ok (.sessions total entries)) ∧
      total = min (entries.length : Int) (Nat.pow 2 31 - 1) ∧
      (entries.map ListedSession.id).Nodup ∧
      (∀ e ∈ entries, ∃ c, Connected p (history p (start files) calls) c ∧
        (usernameFilter = "" ∨ c.username = usernameFilter) ∧ Shows e c) ∧
      ∀ c, Connected p (history p (start files) calls) c →
        (usernameFilter = "" ∨ c.username = usernameFilter) → ∃ e ∈ entries, Shows e c := by
  have hagrees := Agrees.run p files calls
  set s := after p (start files) calls
  refine ⟨_, (s.registry.listFiltered now usernameFilter).map (·.listed includeStats), rfl, ?_, ?_,
    ?_, fun c hc hfilter => ?_⟩
  · rw [List.length_map]
    rfl
  · rw [List.map_map]
    exact hagrees.nodup_ids now usernameFilter
  · intro e he
    obtain ⟨t, ht, rfl⟩ := List.mem_map.mp he
    obtain ⟨⟨id, hfind⟩, hfilter⟩ := hagrees.mem_listFiltered_iff.mp ht
    obtain ⟨c, rfl, hof, hexp⟩ := hagrees.holdsAll id t hfind
    refine ⟨c, (hagrees.holds c).mp ⟨t, hfind, hof, hexp⟩, ?_, shows_listed hof includeStats⟩
    rwa [← hof.username]
  · obtain ⟨t, hfind, hof, -⟩ := (hagrees.holds c).mpr hc
    refine ⟨_, List.mem_map_of_mem (hagrees.mem_listFiltered_iff.mpr ⟨⟨_, hfind⟩, ?_⟩),
      shows_listed hof includeStats⟩
    rwa [hof.username]

end Replay

end GatewayAgent
