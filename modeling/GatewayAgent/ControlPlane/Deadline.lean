import GatewayAgent.Command.Execution
import GatewayAgent.Rpc.Status
import GatewayAgent.Text.Decimal

/-!
# Deadlines of callers

A caller says how long it will wait in a header: one to eight digits and the letter of a unit.
`callerDeadline` reads it; a header in any other form counts as none. A command is given up a
little earlier than the caller would, so that the caller still learns why.
-/

namespace GatewayAgent

/-- A byte that a header value can hold: not a control character, but for the tab. -/
def HeaderByte (b : UInt8) : Bool := (0x20 ≤ b && b != 0x7F) || b == 0x09

/-- A byte of a header value that reads as text: visible ASCII, the space or the tab. -/
def HeaderTextByte (b : UInt8) : Bool := (0x20 ≤ b && b < 0x7F) || b == 0x09

/-- The text of a header value, if it is text. -/
def headerText? (value : Bytes) : Option (List Char) :=
  if value.all HeaderTextByte then some (value.map fun b => Char.ofNat b.toNat) else none

/-- The span that an amount of a unit is: hours, minutes, seconds, and the thousandths from
milliseconds to nanoseconds. -/
def timeoutSpan (amount : Nat) : Char → Option Duration
  | 'H' => some (Duration.ofSecs (amount * 3600))
  | 'M' => some (Duration.ofSecs (amount * 60))
  | 'S' => some (Duration.ofSecs amount)
  | 'm' => some (Duration.ofMillis amount)
  | 'u' => some (Duration.ofMicros amount)
  | 'n' => some (Duration.ofNanos amount)
  | _ => none

/-- The most digits that an amount may have. -/
def timeoutDigits : Nat := 8

/-- The span that a text of at most eight digits and a unit gives. -/
def parseTimeout (cs : List Char) : Option Duration :=
  match cs.getLast? with
  | none => none
  | some unit =>
    let digits := cs.dropLast
    if timeoutDigits < digits.length then none
    else (Text.digits? digits).bind (timeoutSpan · unit)

/-- How long a caller waits, by its header. -/
def callerDeadline (header : Option Bytes) : Option Duration :=
  (header.bind headerText?).bind parseTimeout

/-- How much earlier than the caller a command is given up. -/
def deadlineHeadroom : Duration := Duration.ofMillis 50

/-- A command bounded by the caller's deadline as well as by its executor. -/
def Pending.boundBy (run : Execution) : Option Duration → Execution
  | none => run
  | some deadline =>
    run.cutAt (deadline.monus deadlineHeadroom) (.error (.deadlineExceeded deadline))

/-- The status of an error that is reported as one: only a deadline is. -/
def CommandError.status? : CommandError → Option Status
  | .deadlineExceeded limit =>
    some (.deadlineExceeded ("command did not finish within " ++ limit.text))
  | _ => none

end GatewayAgent
