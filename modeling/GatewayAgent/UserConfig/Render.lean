import GatewayAgent.Data.Dictionary
import GatewayAgent.Text.Blank
import GatewayAgent.Text.Quoted
import GatewayAgent.UserConfig.Route

/-!
# The text of a user's configuration file

One line per setting: a heading, the routes and the DNS servers in the order given, then the
further directives in the order of their names. Every entry is checked before its line is
written, and the first entry that fails the check is reported.
-/

namespace GatewayAgent

/-- The network settings asked for on behalf of one user. -/
structure UserUpdate where
  /-- The user whose file it is. -/
  username : String
  /-- Routes pushed to the client. -/
  routes : List String
  /-- DNS servers pushed to the client. -/
  dnsServers : List String
  /-- Further directives, by name. -/
  directives : Dictionary String String
  deriving Inhabited

/-- The kinds of entry that can be refused. -/
inductive EntryKind where
  | route
  | dnsServer
  | directiveName
  | directiveValue
  deriving DecidableEq, Repr

/-- The name of a kind of entry in messages. -/
def EntryKind.label : EntryKind → String
  | .route => "route"
  | .dnsServer => "DNS server"
  | .directiveName => "directive name"
  | .directiveValue => "directive value"

/-- An entry that is refused. -/
structure RefusedEntry where
  kind : EntryKind
  value : String
  deriving DecidableEq, Repr

/-- The wording of a refusal. -/
def RefusedEntry.message (r : RefusedEntry) : String :=
  "invalid " ++ r.kind.label ++ ": " ++ Text.quote r.value

/-- A line `name = value`. -/
def settingLine (name value : String) : String := name ++ " = " ++ value

/-- The line of a route. -/
def routeLine (route : String) : Except RefusedEntry String :=
  let route := Text.trim route
  if (Route.parse? route).isSome then .ok (settingLine "route" route)
  else .error ⟨.route, route⟩

/-- The line of a DNS server. -/
def dnsLine (server : String) : Except RefusedEntry String :=
  let server := Text.trim server
  if (IpAddress.parse? server).isSome then .ok (settingLine "dns" server)
  else .error ⟨.dnsServer, server⟩

/-- A lower-case ASCII letter, a digit or a dash. -/
def DirectiveChar (c : Char) : Bool :=
  ('a' ≤ c && c ≤ 'z') || Text.Digit c || c == '-'

/-- A name that a directive may have. -/
def DirectiveName (name : String) : Bool :=
  !name.isEmpty && name.toList.all DirectiveChar

/-- The line of a directive. The name is checked before the value. -/
def directiveLine (entry : String × String) : Except RefusedEntry String :=
  if !DirectiveName entry.1 then .error ⟨.directiveName, entry.1⟩
  else if entry.2.toList.any Text.Control then .error ⟨.directiveValue, entry.2⟩
  else .ok (settingLine entry.1 entry.2)

/-- The first line of a file. -/
def headingLine (username : String) : String := "# Generated by warden for " ++ username

namespace UserUpdate

/-- The directives in the order of their names. -/
def sortedDirectives (u : UserUpdate) : List (String × String) :=
  u.directives.entries.mergeSort fun a b => decide (a.1 ≤ b.1)

/-- The lines of the file. -/
def lines (u : UserUpdate) : Except RefusedEntry (List String) := do
  let routes ← u.routes.mapM routeLine
  let servers ← u.dnsServers.mapM dnsLine
  let directives ← u.sortedDirectives.mapM directiveLine
  pure (headingLine u.username :: routes ++ servers ++ directives)

/-- The text of the file: its lines, each with a newline behind it. -/
def render (u : UserUpdate) : Except RefusedEntry String :=
  u.lines.map fun ls => String.join (ls.map (· ++ "\n"))

end UserUpdate

end GatewayAgent
