import GatewayAgent.Data.Dictionary
import GatewayAgent.Rpc.Status
import GatewayAgent.Text.Base64
import GatewayAgent.Text.Hex

/-!
# Headers of answers

An answer carries headers, and its end may carry more. A status travels in three of them: its code
as a numeral, its message with other characters than visible ASCII as `%` and two digits, and its
details in Base64. Whoever reads a status takes details in another form for a fault of his own
program and panics.
-/

namespace GatewayAgent

/-- Headers by their name. -/
abbrev Headers := Dictionary String String

/-- The name of the header with the code. -/
def statusHeader : String := "grpc-status"

/-- The name of the header with the message. -/
def messageHeader : String := "grpc-message"

/-- The name of the header with the details. -/
def detailsHeader : String := "grpc-status-details-bin"

/-- The octets that an encoded text stands for. A `%` without two digits stands for itself. -/
def percentDecode : Bytes → Bytes
  | 0x25 :: a :: b :: r =>
    match Text.Hex.octet? (Char.ofUInt8 a) (Char.ofUInt8 b) with
    | some x => x :: percentDecode r
    | none => 0x25 :: percentDecode (a :: b :: r)
  | x :: r => x :: percentDecode r
  | [] => []

/-- Where the first piece of some octets is that is not text, and how long it is. A piece that the
end cuts short has no length. -/
def textFault? (position : Nat) : Bytes → Option (Nat × Option Nat)
  | [] => none
  | a :: rest =>
    have := Text.length_decodeOne_le a rest
    match h : Text.decodeOne a rest with
    | (some _, r) =>
      have : r.length ≤ rest.length := by simpa [h] using this
      textFault? (position + (1 + rest.length - r.length)) r
    | (none, r) =>
      let cut := r.isEmpty && 0xC2 ≤ a && a ≤ 0xF4
      some (position, if cut then none else some (1 + rest.length - r.length))
  termination_by bs => bs.length

/-- What is said of octets that are not text. -/
def textFaultMessage : Nat × Option Nat → String
  | (position, some n) =>
    "invalid utf-8 sequence of " ++ toString n ++ " bytes from index " ++ toString position
  | (position, none) => "incomplete utf-8 byte sequence from index " ++ toString position

/-- What comes of reading the status in some headers. -/
inductive StatusReading where
  /-- There is none. -/
  | absent
  | status (s : Status)
  /-- The reader panics. -/
  | panic
  deriving DecidableEq, Repr

/-- The status of a code and an encoded message. A message that is not text makes the error
unknown. -/
def Headers.statusOf (code message : String) : Status :=
  let octets := percentDecode (Text.encode message)
  match textFault? 0 octets, Text.decode? octets with
  | none, some message => ⟨.ofText code, message⟩
  | none, none => ⟨.ofText code, ""⟩
  | some fault, _ =>
    ⟨.unknown, "Error deserializing status message header: " ++ textFaultMessage fault⟩

/-- Whether a text can be the details of a status. -/
def Headers.readableDetails (details : String) : Bool :=
  (Base64.decodeUnpadded? (Text.encode details)).isSome

/-- Reads the status in some headers. Only the code has to be there. -/
def Headers.readStatus (h : Headers) : StatusReading :=
  match h.find? statusHeader with
  | none => .absent
  | some code =>
    if (h.find? detailsHeader).all readableDetails then
      .status (statusOf code ((h.find? messageHeader).getD ""))
    else .panic

/-- The status in some headers, if there is one that can be read. -/
def Headers.status? (h : Headers) : Option Status :=
  match h.readStatus with
  | .status s => some s
  | .absent | .panic => none

/-- The headers of an internal error. -/
def containedHeaders : Headers :=
  .ofList [(statusHeader, "13"), (messageHeader, Status.internalError.message)]

end GatewayAgent
