import GatewayAgent.ControlPlane.Handlers
import GatewayAgent.Proofs.Session.Run

/-!
# What the calls do to the registry

A `ClientConnection` is what the gateway reports of a client that it has let in; the registry
*holds* it while a session with its data is on record. Of all the calls, only the notifications
and the two calls that have the gateway drop a user touch the registry. The latter are a `Forced`
disconnect: they leave the registry alone until their command has come back with success, and then
forget the sessions of their user (`forces_begin`).
-/

namespace GatewayAgent

/-! ### Connections -/

/-- A connection that the gateway has accepted. It has an identifier and belongs to a user. -/
@[ext]
structure ClientConnection where
  id : String
  username : String
  clientIp : String := ""
  vpnIp : String := ""
  deviceId : String := ""
  metadata : Dictionary String String := .empty
  id_ne : id ≠ "" := by decide
  username_ne : username ≠ "" := by decide

namespace ClientConnection

/-- The call by which the gateway reports a connection. -/
def notification (c : ClientConnection) : Request :=
  .notifyConnect c.id c.username c.clientIp c.vpnIp c.deviceId c.metadata

/-- The session of a connection, before the registry has added its times. -/
def session (c : ClientConnection) : Session where
  id := c.id
  username := c.username
  clientIp := c.clientIp
  vpnIp := c.vpnIp
  deviceId := c.deviceId
  metadata := c.metadata

end ClientConnection

/-- A session has the data of a connection, whatever its times and its traffic. -/
structure Session.IsOf (s : Session) (c : ClientConnection) : Prop where
  id : s.id = c.id
  username : s.username = c.username
  clientIp : s.clientIp = c.clientIp
  vpnIp : s.vpnIp = c.vpnIp
  deviceId : s.deviceId = c.deviceId
  metadata : s.metadata = c.metadata

/-- There is a session of the connection on record, and it never expires. -/
def Registry.Holds (r : Registry) (c : ClientConnection) : Prop :=
  ∃ s, r.sessions.find? c.id = some s ∧ s.IsOf c ∧ s.expiresAt = none

/-- Nothing is on record but sessions of connections, each under its identifier. -/
def Registry.HoldsAll (r : Registry) : Prop :=
  ∀ id s, r.sessions.find? id = some s →
    ∃ c : ClientConnection, c.id = id ∧ s.IsOf c ∧ s.expiresAt = none

namespace Registry

variable {r : Registry} {c d : ClientConnection}

/-- Nothing keeps a connection from being recorded. -/
theorem find?_notifyConnect (r : Registry) (now : Instant) (c : ClientConnection) (id : String) :
    (r.notifyConnect now c.session).sessions.find? id =
      if id = c.id then some (r.stamp now c.session) else r.sessions.find? id := by
  rw [notifyConnect, add_eq_ok_iff.mpr ⟨⟨c.id_ne, c.username_ne⟩, rfl⟩]
  exact find?_put r (r.stamp now c.session) id

theorem isOf_stamp (r : Registry) (now : Instant) (c : ClientConnection) :
    (r.stamp now c.session).IsOf c :=
  ⟨rfl, rfl, rfl, rfl, rfl, rfl⟩

/-- A listing shows the live sessions, of one user if it asks for one. -/
theorem mem_listFiltered_iff {now : Instant} {usernameFilter : String} {s : Session} :
    s ∈ r.listFiltered now usernameFilter ↔
      s ∈ r.list now ∧ (usernameFilter = "" ∨ s.username = usernameFilter) := by
  rw [listFiltered]
  split_ifs with hfilter
  · simp [hfilter]
  · simp [listByUsername_eq_filter, hfilter]

/-- Without a time to live, a report of a connection is held. -/
theorem holds_notifyConnect_self (h : r.ttl = none) (now : Instant) (c : ClientConnection) :
    (r.notifyConnect now c.session).Holds c := by
  refine ⟨r.stamp now c.session, ?_, isOf_stamp r now c, expiryFrom_of_ttl_eq_none h now⟩
  rw [find?_notifyConnect, if_pos rfl]

/-- A report leaves the sessions of other connections as they are. -/
theorem holds_notifyConnect_of_ne (h : c.id ≠ d.id) (now : Instant) :
    (r.notifyConnect now d.session).Holds c ↔ r.Holds c := by
  rw [Holds, Holds, find?_notifyConnect, if_neg h]

/-- The removal of a user's sessions takes the user's connections away. -/
theorem holds_removeByUsername {username : String} :
    (r.removeByUsername username).1.Holds c ↔ r.Holds c ∧ c.username ≠ username := by
  rw [Holds, Holds, find?_removeByUsername]
  constructor
  · rintro ⟨s, hs, hof, hexp⟩
    obtain ⟨hfind, hne⟩ := Option.filter_eq_some_iff.mp hs
    exact ⟨⟨s, hfind, hof, hexp⟩, by simpa [hof.username] using hne⟩
  · rintro ⟨⟨s, hs, hof, hexp⟩, hne⟩
    refine ⟨s, Option.filter_eq_some_iff.mpr ⟨hs, ?_⟩, hof, hexp⟩
    simpa [hof.username] using hne

/-- After a report, a connection is held if it was reported or was held and not replaced. -/
theorem holds_notifyConnect (h : r.ttl = none) (now : Instant) :
    (r.notifyConnect now d.session).Holds c ↔ d = c ∨ (r.Holds c ∧ d.id ≠ c.id) := by
  by_cases hid : d.id = c.id
  · rw [or_iff_left fun hboth => hboth.2 hid]
    constructor
    · rintro ⟨s, hs, hof, -⟩
      rw [find?_notifyConnect, if_pos hid.symm, Option.some.injEq] at hs
      subst hs
      exact ClientConnection.ext hof.id hof.username hof.clientIp hof.vpnIp hof.deviceId
        hof.metadata
    · rintro rfl
      exact holds_notifyConnect_self h now d
  · rw [holds_notifyConnect_of_ne (Ne.symm hid), or_iff_right fun heq => hid (by rw [heq]),
      and_iff_left hid]

/-- A report keeps what a registry without a time to live holds. -/
theorem holdsAll_notifyConnect (h : r.ttl = none) (hr : r.HoldsAll) (now : Instant)
    (d : ClientConnection) : (r.notifyConnect now d.session).HoldsAll := by
  intro id s hs
  rw [find?_notifyConnect] at hs
  split_ifs at hs with hid
  · rw [Option.some.injEq] at hs
    subst hs
    exact ⟨d, hid.symm, isOf_stamp r now d, expiryFrom_of_ttl_eq_none h now⟩
  · exact hr id s hs

@[simp]
theorem ttl_notifyConnect (r : Registry) (now : Instant) (s : Session) :
    (r.notifyConnect now s).ttl = r.ttl := by
  rw [notifyConnect]
  cases ha : r.add now s with
  | error e => rfl
  | ok r' => rw [(add_eq_ok_iff.mp ha).2, ttl_put]

/-- A session without an identifier or a user is not recorded. -/
theorem notifyConnect_of_invalid {s : Session} (h : ¬(s.id ≠ "" ∧ s.username ≠ "")) (r : Registry)
    (now : Instant) : r.notifyConnect now s = r := by
  rw [notifyConnect]
  cases ha : r.add now s with
  | error e => rfl
  | ok r' => exact absurd (add_eq_ok_iff.mp ha).1 h

/-- The report of an end is an update of the traffic and a removal, whether they succeed or not. -/
theorem notifyDisconnect_eq_perform (r : Registry) (now : Instant) (id : String)
    (bytesIn bytesOut : UInt64) :
    r.notifyDisconnect now id bytesIn bytesOut =
      ((r.perform now (.updateTraffic id bytesIn bytesOut)).1.perform now (.remove id)).1 := by
  simp only [notifyDisconnect, perform]
  cases r.updateTraffic now id bytesIn bytesOut with
  | error e =>
    simp only [settle]
    cases r.remove id <;> rfl
  | ok r' =>
    simp only [settle]
    cases r'.remove id <;> rfl

/-- The session is gone, and all others are as they were. -/
theorem find?_notifyDisconnect (r : Registry) (now : Instant) (id : String)
    (bytesIn bytesOut : UInt64) (id' : String) :
    (r.notifyDisconnect now id bytesIn bytesOut).sessions.find? id' =
      if id' = id ∧ id ≠ "" then none else r.sessions.find? id' := by
  rw [notifyDisconnect_eq_perform]
  refine (find?_settle_remove _ id id').trans ?_
  split_ifs with h
  · rfl
  · -- The update writes no other entry, and none at all for want of an identifier.
    change (r.settle (r.updateTraffic now id bytesIn bytesOut)).1.sessions.find? id' = _
    cases hu : r.updateTraffic now id bytesIn bytesOut with
    | error e => rfl
    | ok r' =>
      obtain ⟨hid, s, draft, -, -, rfl⟩ := update_eq_ok_iff.mp hu
      rw [settle, find?_put, id_commit, if_neg fun heq => h ⟨heq, hid⟩]

/-- The end of a connection takes this connection away. -/
theorem holds_notifyDisconnect {now : Instant} {id : String} {bytesIn bytesOut : UInt64} :
    (r.notifyDisconnect now id bytesIn bytesOut).Holds c ↔ r.Holds c ∧ id ≠ c.id := by
  rw [Holds, Holds, find?_notifyDisconnect]
  split_ifs with h
  · simp [h.1]
  · have hne : id ≠ c.id := fun hid => h ⟨hid.symm, hid ▸ c.id_ne⟩
    rw [and_iff_left hne]

@[simp]
theorem ttl_notifyDisconnect (r : Registry) (now : Instant) (id : String)
    (bytesIn bytesOut : UInt64) : (r.notifyDisconnect now id bytesIn bytesOut).ttl = r.ttl := by
  rw [notifyDisconnect_eq_perform, ttl_perform, ttl_perform]

end Registry

/-! ### Forced disconnects -/

/-- Whether a command has ended, and with success. -/
def CommandResult.succeeded : CommandResult → Bool
  | .ok o => o.success
  | .error _ => false

/-- What is left of the registry when a user's connections were to be dropped. -/
def Registry.afterForced (r : Registry) (username : String) (result : CommandResult) : Registry :=
  if CommandResult.succeeded result then (r.removeByUsername username).1 else r

/-- After a disconnection the registry has dropped the user, if the command has succeeded. -/
theorem registry_afterDisconnect (username : String) (result : CommandResult) (s : AgentState) :
    (afterDisconnect username result s).1.registry = s.registry.afterForced username result := by
  cases result with
  | ok o =>
    cases ho : o.success with
    | true => simp [afterDisconnect, Registry.afterForced, CommandResult.succeeded, ho]; rfl
    | false => simp [afterDisconnect, Registry.afterForced, CommandResult.succeeded, ho]
  | error e =>
    simp only [afterDisconnect, Registry.afterForced, CommandResult.succeeded]
    cases e.status? <;> rfl

/-- After a reload the registry has dropped the user, if the command has succeeded. -/
theorem registry_afterReload (username path : String) (result : CommandResult) (s : AgentState) :
    (afterReload username path result s).1.registry = s.registry.afterForced username result := by
  cases result with
  | ok o =>
    cases ho : o.success with
    | true => simp [afterReload, Registry.afterForced, CommandResult.succeeded, ho]; rfl
    | false => simp [afterReload, Registry.afterForced, CommandResult.succeeded, ho]
  | error e => rfl

/-- A call that has the gateway drop every connection of a user. -/
inductive Forced where
  /-- The user is to be disconnected. -/
  | disconnect (username : String)
  /-- The user is given new routes, and is to be disconnected so that they take effect. -/
  | reload (username : String) (routes dnsServers : List String)
      (params : Dictionary String String)

namespace Forced

/-- The user whose connections are dropped. -/
def username : Forced → String
  | .disconnect username => username
  | .reload username _ _ _ => username

/-- The call itself. -/
def request : Forced → Request
  | .disconnect username => .disconnectUser username
  | .reload username routes dnsServers params =>
    .updateUserRoutes username routes dnsServers true params

end Forced

/-- How a turn treats the registry: at first not at all, and once the command has ended, as
`Registry.afterForced` says. -/
inductive Turn.Forces (username : String) (r : Registry) : Turn → Prop
  | replied {s : AgentState} {reply : Reply} (hs : s.registry = r) :
      Forces username r (.replied s reply)
  | waiting {s : AgentState} {resume : CommandResult → AgentState → AgentState × Reply}
      (hs : s.registry = r)
      (hresume : ∀ result s', (resume result s').1.registry =
        s'.registry.afterForced username result) :
      Forces username r (.waiting s (disconnectLine username) resume)

/-- A call for a user leaves the registry as its first turn found it. -/
theorem Turn.Forces.registry_state {username : String} {r : Registry} {t : Turn}
    (h : t.Forces username r) : t.state.registry = r := by
  cases h with
  | replied hs => exact hs
  | waiting hs hresume => exact hs

/-- A call to disconnect a user touches no session but with its command. -/
theorem forces_disconnectUser (s : AgentState) (username : String) :
    (disconnectUser s username).Forces username s.registry := by
  rw [disconnectUser]
  split_ifs
  · exact .replied rfl
  · exact .waiting rfl (registry_afterDisconnect username)

/-- What follows the write of a file touches no session but with its command. -/
theorem forces_afterWrite (s : AgentState) (now : Instant) (username path : String)
    (reload : Bool) : (afterWrite s now username path reload).Forces username s.registry := by
  rw [afterWrite]
  split_ifs
  · exact .waiting rfl (registry_afterReload username path)
  · exact .replied rfl

/-- A call for new routes touches no session but with its command. -/
theorem forces_updateUserRoutes (p : ControlPlane) (s : AgentState) (now : Instant)
    (update : UserUpdate) (reload : Bool) :
    (p.updateUserRoutes s now update reload).Forces update.username s.registry := by
  rw [ControlPlane.updateUserRoutes]
  split_ifs
  · exact .replied rfl
  · exact .replied rfl
  cases p.userConfigDir with
  | none => exact .replied rfl
  | some dir =>
    simp only [writeUserFile]
    split
    · exact .replied rfl
    · next files _ => exact forces_afterWrite { s with files } now update.username _ reload

/-- New routes have a user dropped only if this was asked for and the file of the user is written;
what the command came to then decides how the call goes on. -/
theorem updateUserRoutes_eq_waiting {p : ControlPlane} {s : AgentState} {now : Instant}
    {update : UserUpdate} {reload : Bool} {state : AgentState} {line : CommandLine}
    {resume : CommandResult → AgentState → AgentState × Reply}
    (h : p.updateUserRoutes s now update reload = .waiting state line resume) :
    reload = true ∧ ∃ dir, p.userConfigDir = some dir ∧
      (writeUserConfig s.files (Path.join dir update.username) update).2 = .ok () ∧
      resume = afterReload update.username (Path.join dir update.username) := by
  rw [ControlPlane.updateUserRoutes] at h
  split_ifs at h
  cases hdir : p.userConfigDir with
  | none => simp [hdir] at h
  | some dir =>
    simp only [hdir, writeUserFile] at h
    split at h
    · simp at h
    · next files hwrite =>
      rw [afterWrite] at h
      split_ifs at h with hreload
      injection h with _ _ hresume
      exact ⟨(Bool.and_eq_true_iff.mp hreload).1, dir, rfl, by rw [hwrite], hresume.symm⟩

/-- A user of whom a file was not written, or who need not be dropped, is not dropped. -/
theorem written_of_waiting {p : ControlPlane} {s : AgentState} {now : Instant}
    {update : UserUpdate} {reload : Bool} {state : AgentState} {line : CommandLine}
    {resume : CommandResult → AgentState → AgentState × Reply}
    (h : p.updateUserRoutes s now update reload = .waiting state line resume) :
    reload = true ∧ ∃ dir, p.userConfigDir = some dir ∧
      (writeUserConfig s.files (Path.join dir update.username) update).2 = .ok () := by
  obtain ⟨hreload, dir, hdir, hwrite, -⟩ := updateUserRoutes_eq_waiting h
  exact ⟨hreload, dir, hdir, hwrite⟩

/-! ### Turns taken to their end -/

/-- What comes of a command under the deadline of the caller. -/
def CommandLine.run (line : CommandLine) (executor : Executor) (deadline : Option Duration) :
    Execution :=
  Pending.boundBy (executor line.command line.args) deadline

/-- Whether a command comes to an end, and with success. -/
def Execution.succeeded : Execution → Bool
  | .after _ result => CommandResult.succeeded result
  | _ => false

/-- The sessions of the user are forgotten if the command is given and succeeds, and only then. -/
theorem Turn.Forces.registry_perform {username : String} {r : Registry} {t : Turn}
    (h : t.Forces username r) (executor : Executor) (deadline : Option Duration) :
    (t.perform executor deadline).state.registry =
      if disconnectLine username ∈ (t.perform executor deadline).commands ∧
          Execution.succeeded ((disconnectLine username).run executor deadline) = true then
        (r.removeByUsername username).1
      else r := by
  cases h with
  | replied hs => simp [perform, hs]
  | @waiting s resume hs hresume =>
    have hcommands : disconnectLine username ∈
        ((Turn.waiting s (disconnectLine username) resume).perform executor deadline).commands :=
      List.mem_singleton_self _
    rw [if_congr (and_iff_right hcommands) rfl rfl]
    -- What is left is what the handler does when the command has ended, if it ever does.
    change (resumeWith s resume ((disconnectLine username).run executor deadline)).1.registry = _
    cases (disconnectLine username).run executor deadline with
    | after time result =>
      change (resume result s).1.registry = _
      rw [hresume, hs]
      rfl
    | never => exact hs
    | panic payload => exact hs

/-- A handler that changes nothing of a kind when its command has ended does not change it at all
after its wait. -/
theorem Turn.perform_waiting {α : Type} {f : AgentState → α} {s : AgentState} {line : CommandLine}
    {resume : CommandResult → AgentState → AgentState × Reply}
    (h : ∀ result s', f (resume result s').1 = f s') (executor : Executor)
    (deadline : Option Duration) :
    f ((Turn.waiting s line resume).perform executor deadline).state = f s := by
  change f (resumeWith s resume (line.run executor deadline)).1 = f s
  cases line.run executor deadline with
  | after time result => exact h result s
  | never => rfl
  | panic payload => rfl

/-- A handler that only passes on what came of its command leaves the agent as it was. -/
theorem Turn.state_perform_of_resume {s : AgentState} {line : CommandLine}
    {resume : CommandResult → AgentState → AgentState × Reply}
    (h : ∀ result s', (resume result s').1 = s') (executor : Executor)
    (deadline : Option Duration) :
    ((Turn.waiting s line resume).perform executor deadline).state = s :=
  Turn.perform_waiting (f := id) h executor deadline

/-- A forced disconnect does to the registry what `Turn.Forces` says. -/
theorem forces_begin (p : ControlPlane) (s : AgentState) (now : Instant) (call : Forced) :
    (p.begin s now call.request).Forces call.username s.registry := by
  cases call with
  | disconnect username => exact forces_disconnectUser s username
  | reload username routes dnsServers params =>
    exact forces_updateUserRoutes p s now ⟨username, routes, dnsServers, params⟩ true

end GatewayAgent
