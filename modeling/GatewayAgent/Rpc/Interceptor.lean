import GatewayAgent.Rpc.Header
import GatewayAgent.Rpc.Metrics

/-!
# The interceptor chain

Two layers around the handler of every call. The inner one contains panics: a handler that panics
is answered with an internal error, and a body that panics while it is read ends with the trailers
of one. The outer one records every call that is answered, or whose transport fails, in the
metrics.

`Handling` is what a handler can do, panics among it; in `GuardedCall` and `BodyPoll` there is no
place for a panic any more. The outer layer has nothing around it: where it cannot read the status
in the headers of an answer it panics itself, and neither the answer nor the record comes of the
call.
-/

namespace GatewayAgent

/-! ### Bodies -/

/-- What a body does when it is asked for its next frame. -/
inductive BodyEvent where
  /-- Nothing is there yet. -/
  | pending
  | data (content : Bytes)
  | trailers (headers : Headers)
  | error (text : String)
  /-- There is nothing more. -/
  | finish
  | panic (payload : PanicPayload)

/-- A body: what it will do, one event each time it is asked. Behind its last event there is
nothing more. -/
abbrev Body := List BodyEvent

namespace Body

/-- Whether a body knows that nothing more will come. -/
def atEnd (b : Body) : Bool := b.isEmpty

/-- The number of octets that are still to come. -/
def size (b : Body) : Nat :=
  b.foldl (fun n e => match e with
    | .data content => n + content.length
    | _ => n) 0

end Body

/-- A piece of a body. -/
inductive Frame where
  | data (content : Bytes)
  | trailers (headers : Headers)
  | error (text : String)

/-- What comes of asking a guarded body. -/
inductive BodyPoll where
  | pending
  | frame (f : Frame)
  | finished

/-- A body whose panics are contained. After a panic the body is gone. -/
structure WatchedBody where
  inner : Option Body

namespace WatchedBody

/-- The body of an answer without one. -/
def empty : WatchedBody := ⟨none⟩

/-- Asks for the next frame. -/
def poll (g : WatchedBody) : BodyPoll × WatchedBody :=
  match g.inner with
  | none => (.finished, g)
  | some [] => (.finished, g)
  | some (e :: rest) =>
    let next : WatchedBody := ⟨some rest⟩
    match e with
    | .pending => (.pending, next)
    | .data content => (.frame (.data content), next)
    | .trailers headers => (.frame (.trailers headers), next)
    | .error text => (.frame (.error text), next)
    | .finish => (.finished, next)
    | .panic _ => (.frame (.trailers containedHeaders), ⟨none⟩)

/-- Whether nothing more will come for sure. -/
def atEnd (g : WatchedBody) : Bool :=
  match g.inner with
  | none => true
  | some b => b.atEnd

/-- The number of octets that are still to come. -/
def size (g : WatchedBody) : Nat :=
  match g.inner with
  | none => 0
  | some b => b.size

end WatchedBody

/-! ### Answers -/

/-- An answer with its headers. -/
structure Response (β : Type) where
  headers : Headers := .empty
  body : β

/-- What a handler does when it is asked for its answer: it makes wait, panics, fails in transport
or answers. -/
inductive HandlerCall where
  | pending (later : HandlerCall)
  | panic (payload : PanicPayload)
  | failed (text : String)
  | answered (response : Response Body)

/-- What a handler does with a request. -/
inductive Handling where
  /-- It takes no requests. -/
  | notReady (text : String)
  /-- It panics at once. -/
  | panic (payload : PanicPayload)
  | called (call : HandlerCall)

/-- A call whose panics are contained. -/
inductive GuardedCall where
  | pending (later : GuardedCall)
  | failed (text : String)
  | answered (response : Response WatchedBody)

/-- The answer to a call whose handler panicked. It has no body. -/
def containedResponse : Response WatchedBody where
  headers :=
    .ofList (("content-type", "application/grpc") :: containedHeaders.entries)
  body := .empty

/-- Contains the panics of a call and of the body of its answer. -/
def HandlerCall.guarded : HandlerCall → GuardedCall
  | pending later => .pending later.guarded
  | panic _ => .answered containedResponse
  | failed text => .failed text
  | answered r => .answered { headers := r.headers, body := ⟨some r.body⟩ }

/-- Contains the panics of a handler that takes requests, or says why it takes none. -/
def Handling.guarded : Handling → Except String GuardedCall
  | notReady text => .error text
  | panic _ => .ok (.answered containedResponse)
  | called call => .ok call.guarded

/-! ### Recording -/

/-- The code under which a call is recorded: the one in the headers of its answer, where they have
one, and none where the transport failed. Headers whose status cannot be read leave nothing to
record. -/
def recordedCode? : Except String (Response WatchedBody) → Option (Option Code)
  | .error _ => some none
  | .ok r =>
    match r.headers.readStatus with
    | .status status => some (some status.code)
    | .absent => some (some .ok)
    | .panic => none

/-- A call on its way through the recording layer. -/
structure LoggedCall where
  method : String
  call : GuardedCall

/-- What comes of asking a call. -/
inductive CallPoll where
  | pending (later : LoggedCall)
  | ended (result : Except String (Response WatchedBody))
  /-- The recording layer panics. -/
  | broken

/-- Asks a call for its answer after some time. Once it ends it is recorded. -/
def LoggedCall.poll (c : LoggedCall) (m : Metrics) (elapsed : Duration) : CallPoll × Metrics :=
  let ended (r : Except String (Response WatchedBody)) : CallPoll × Metrics :=
    match recordedCode? r with
    | some code => (.ended r, m.recordCall c.method code elapsed)
    | none => (.broken, m)
  match c.call with
  | .pending later => (.pending { c with call := later }, m)
  | .failed text => ended (.error text)
  | .answered r => ended (.ok r)

/-- Asks a call until it ends. -/
def GuardedCall.finish : GuardedCall → Except String (Response WatchedBody)
  | pending later => later.finish
  | failed text => .error text
  | answered r => .ok r

/-- Takes a request through the containing layer alone. -/
def containPanics (handling : Handling) : Except String (Response WatchedBody) :=
  match handling.guarded with
  | .error text => .error text
  | .ok call => call.finish

/-- What a caller is left with whose call the recording layer has broken. -/
def brokenCall : String := "Invalid status header, expected base64 encoded value"

/-- Takes a request through both layers. A request that is not taken is not recorded, and neither is
one that the recording layer breaks, which fails in transport. -/
def intercept (m : Metrics) (method : String) (elapsed : Duration) (handling : Handling) :
    Except String (Response WatchedBody) × Metrics :=
  match handling.guarded with
  | .error text => (.error text, m)
  | .ok call =>
    let result := call.finish
    match recordedCode? result with
    | some code => (result, m.recordCall method code elapsed)
    | none => (.error brokenCall, m)

end GatewayAgent
