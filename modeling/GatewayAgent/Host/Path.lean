/-!
# Paths

A path is a text whose parts stand between slashes. Empty parts and parts `.` behind the first
change nothing. `Path.parent?` and `Path.join` work on the text alone; what a path leads to is
decided by a file system.
-/

namespace GatewayAgent.Path

/-- The texts between the slashes, at least one. -/
def segments : List Char → List (List Char)
  | [] => [[]]
  | c :: r =>
    match segments r with
    | [] => [[c]]
    | s :: ss => if c = '/' then [] :: s :: ss else (c :: s) :: ss

/-- The texts between the slashes of a path. -/
def parts (p : String) : List String := (segments p.toList).map String.ofList

/-- Whether a path starts at the root. -/
def isAbsolute (p : String) : Bool := p.toList.head? = some '/'

/-- Whether a path ends with a slash. -/
def endsWithSlash (p : String) : Bool := p.toList.getLast? = some '/'

/-- The parts without those at the end that change nothing. A part `.` in front stays. -/
def dropIdle (ps : List String) : List String :=
  let kept := (ps.reverse.dropWhile fun s => s = "" || s = ".").reverse
  if kept.isEmpty && ps.head? = some "." then ["."] else kept

/-- The path without its last part, if it has one. -/
def parent? (p : String) : Option String :=
  if isAbsolute p then
    match dropIdle ((parts p).drop 1) with
    | [] => none
    | ps => some ("/" ++ "/".intercalate (dropIdle ps.dropLast))
  else
    match dropIdle (parts p) with
    | [] => none
    | ps => some ("/".intercalate (dropIdle ps.dropLast))

/-- The path without its last `n` parts, if it has as many. -/
def above? : (n : Nat) → String → Option String
  | 0, p => some p
  | n + 1, p => (parent? p).bind (above? n)

/-- The path of `name` as seen from `dir`. A name that starts at the root stands alone. -/
def join (dir name : String) : String :=
  if isAbsolute name || dir.isEmpty then name
  else if endsWithSlash dir then dir ++ name
  else dir ++ "/" ++ name

end GatewayAgent.Path
