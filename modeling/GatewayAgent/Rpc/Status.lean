/-!
# Call statuses

How a remote procedure call ends when it has no answer: a code and a message. The codes are
numbered from 0; every other number stands for an unknown error.
-/

namespace GatewayAgent

/-- The code of a status. -/
inductive Code where
  | ok
  | cancelled
  | unknown
  | invalidArgument
  | deadlineExceeded
  | notFound
  | alreadyExists
  | permissionDenied
  | resourceExhausted
  | failedPrecondition
  | aborted
  | outOfRange
  | unimplemented
  | internal
  | unavailable
  | dataLoss
  | unauthenticated
  deriving DecidableEq, Repr, Inhabited

namespace Code

/-- The codes in the order of their numbers. -/
def all : List Code :=
  [.ok, .cancelled, .unknown, .invalidArgument, .deadlineExceeded, .notFound, .alreadyExists,
    .permissionDenied, .resourceExhausted, .failedPrecondition, .aborted, .outOfRange,
    .unimplemented, .internal, .unavailable, .dataLoss, .unauthenticated]

/-- The code of a number. -/
def ofInt (n : Int) : Code :=
  match n with
  | .ofNat k => all.getD k .unknown
  | .negSucc _ => .unknown

/-- The name of a code. -/
def label : Code → String
  | .ok => "Ok"
  | .cancelled => "Cancelled"
  | .unknown => "Unknown"
  | .invalidArgument => "InvalidArgument"
  | .deadlineExceeded => "DeadlineExceeded"
  | .notFound => "NotFound"
  | .alreadyExists => "AlreadyExists"
  | .permissionDenied => "PermissionDenied"
  | .resourceExhausted => "ResourceExhausted"
  | .failedPrecondition => "FailedPrecondition"
  | .aborted => "Aborted"
  | .outOfRange => "OutOfRange"
  | .unimplemented => "Unimplemented"
  | .internal => "Internal"
  | .unavailable => "Unavailable"
  | .dataLoss => "DataLoss"
  | .unauthenticated => "Unauthenticated"

/-- The code that a text of one or two digits stands for. Only the shortest numeral of a code is
taken; everything else is an unknown error. -/
def ofText (s : String) : Code :=
  match all.zipIdx.find? fun e => toString e.2 = s with
  | some e => e.1
  | none => .unknown

end Code

/-- The label of an outcome in the metrics: the name of its code, or that the transport failed. -/
def outcomeLabel : Option Code → String
  | some c => c.label
  | none => "transport_error"

/-- How a call ends that has no answer. -/
structure Status where
  code : Code
  message : String
  deriving DecidableEq, Repr

namespace Status

/-- A malformed request. -/
def invalidArgument (message : String) : Status := ⟨.invalidArgument, message⟩

/-- The caller's time has run out. -/
def deadlineExceeded (message : String) : Status := ⟨.deadlineExceeded, message⟩

/-- A call that is declared but not provided. -/
def unimplemented (name : String) : Status := ⟨.unimplemented, name ++ " is not implemented"⟩

/-- What callers are told when a handler has panicked. -/
def internalError : Status := ⟨.internal, "internal server error"⟩

end Status

end GatewayAgent
