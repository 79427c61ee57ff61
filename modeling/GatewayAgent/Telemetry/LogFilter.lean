import GatewayAgent.Text.Alphanumeric
import GatewayAgent.Text.Blank
import GatewayAgent.Text.Decimal

/-!
# Log filters

A filter decides which events reach the log. It is written as directives with commas between
them. A directive is a level for everything (`warn`), a target that shows everything (`warden`), a
target with a level (`warden::agent=debug`), or one of these for a span and its fields only
(`warden[call{peer}]=trace`). Of the directives whose target an event's target begins with, the
longest decides; a filter without any directive shows errors.

Reading goes through a directive one character at a time: `DirectivePart.step` says what may come
after what.
-/

namespace GatewayAgent

/-! ### Levels -/

/-- How grave an event is, and up to where a log shows events. -/
inductive LogLevel where
  | off
  | error
  | warn
  | info
  | debug
  | trace
  deriving DecidableEq, Repr

namespace LogLevel

/-- All levels, in the order of how much they show. -/
def all : List LogLevel := [off, error, warn, info, debug, trace]

/-- The name of a level. -/
def name : LogLevel → String
  | off => "off"
  | error => "error"
  | warn => "warn"
  | info => "info"
  | debug => "debug"
  | trace => "trace"

/-- How much a level shows. -/
def rank (l : LogLevel) : Nat := all.idxOf l

/-- Reads a level: its name in letters of either case, or its number. -/
def ofChars? (cs : List Char) : Option LogLevel :=
  match Text.unsigned? (all.length - 1) cs with
  | some n => all[n]?
  | none => all.find? fun l => l.name.toList = cs.map Char.toLower

end LogLevel

/-! ### Directives -/

/-- One rule of a filter. -/
structure LogDirective where
  /-- What the targets begin with that the rule is about; without it, the rule is about all. -/
  target : Option (List Char) := none
  level : LogLevel := .trace
  /-- Whether the rule holds within certain spans only. -/
  spans : Bool := false
  deriving DecidableEq, Repr

/-- Why a filter cannot be read. -/
inductive LogFilterFault where
  | directive
  | level
  deriving DecidableEq, Repr

/-- The wording of a fault. -/
def LogFilterFault.message : LogFilterFault → String
  | .directive => "invalid filter directive"
  | .level => "error parsing level filter: expected one of \"off\", \"error\", \"warn\", " ++
      "\"info\", \"debug\", \"trace\", or a number 0-5"

/-- The part of a directive that a character stands in. -/
inductive DirectivePart where
  | start
  /-- A word that may turn out to be a target or a level. -/
  | word
  | span
  /-- A field, with whether anything of it has been read. -/
  | field (begun : Bool)
  /-- Behind the fields. -/
  | fields
  /-- Behind a span. -/
  | closed
  /-- A level that begins at a position. -/
  | level (position : Nat)
  deriving DecidableEq, Repr

namespace DirectivePart

/-- The part of the next character, by the position of this one. -/
def step (position : Nat) (c : Char) : DirectivePart → Option DirectivePart
  | start =>
    if c = '[' then some span
    else if c = '-' || c = ':' || c = '_' || Text.Alphanumeric c then some word
    else none
  | word => some (if c = '=' then level (position + 1) else if c = '[' then span else word)
  | span =>
    some (if c = ']' then closed else if c = '\x7b' then field false else span)
  | field begun => if c = '\x7d' then if begun then some fields else none else some (field true)
  | fields => if c = ']' then some closed else none
  | closed => if c = '=' then some (level (position + 1)) else none
  | level p => some (level p)

/-- The part behind a text that begins at a position. -/
def run : Nat → List Char → DirectivePart → Option DirectivePart
  | _, [], p => some p
  | i, c :: r, p => (p.step i c).bind (run (i + 1) r)

end DirectivePart

namespace LogDirective

/-- The characters in front of the first `=` or bracket. -/
def targetOf (cs : List Char) : Option (List Char) :=
  some (cs.takeWhile fun c => c ≠ '=' && c ≠ '[') |>.filter (!·.isEmpty)

/-- Reads a directive. Its parts are told apart without the blanks around it, but the words are
taken with them, so that a blank before or behind a level spoils it. -/
def read (cs : List Char) : Except LogFilterFault LogDirective :=
  match DirectivePart.start.run 0 (Text.trimChars cs) with
  | some .word =>
    match LogLevel.ofChars? cs with
    | some level => .ok { level }
    | none => .ok { target := some cs }
  | some .closed => .ok { target := targetOf cs, spans := true }
  | some (.level position) =>
    let d : LogDirective := { target := targetOf cs, spans := (cs.take position).contains '[' }
    match cs.drop position with
    | [] => .ok d
    | rest =>
      match LogLevel.ofChars? rest with
      | some level => .ok { d with level }
      | none => .error .level
  | _ => .error .directive

/-- Whether a rule is about events of a target outside of spans. -/
def Covers (target : List Char) (d : LogDirective) : Bool :=
  !d.spans && d.target.all (·.isPrefixOf target)

/-- How specific a rule is. -/
def weight (d : LogDirective) : Nat := (d.target.map (·.length + 1)).getD 0

/-- The more specific of two rules; of two that are equally specific, the later one. -/
def prefer (best : Option LogDirective) (d : LogDirective) : Option LogDirective :=
  match best with
  | some b => if d.weight < b.weight then some b else some d
  | none => some d

end LogDirective

/-! ### Filters -/

/-- The rules of a log. -/
structure LogFilter where
  directives : List LogDirective
  deriving DecidableEq, Repr

namespace LogFilter

/-- The pieces of a text between its commas. -/
def pieces : List Char → List (List Char)
  | [] => [[]]
  | c :: r =>
    if c = ',' then [] :: pieces r
    else
      match pieces r with
      | p :: ps => (c :: p) :: ps
      | [] => [[c]]

/-- Reads a filter. -/
def read (s : String) : Except LogFilterFault LogFilter := do
  match ← ((pieces s.toList).filter (!·.isEmpty)).mapM LogDirective.read with
  | [] => .ok ⟨[{ level := .error }]⟩
  | ds => .ok ⟨ds⟩

/-- The rule that decides about events of a target. -/
def deciding? (f : LogFilter) (target : List Char) : Option LogDirective :=
  (f.directives.filter (·.Covers target)).foldl LogDirective.prefer none

/-- Whether an event of a target reaches the log. -/
def Shows (f : LogFilter) (target : String) (level : LogLevel) : Bool :=
  (f.deciding? target.toList).any fun d => level.rank ≤ d.level.rank

end LogFilter

end GatewayAgent
