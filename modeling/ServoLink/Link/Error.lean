import ServoLink.Frame.Basic

/-!
# Why link operations fail

A link refuses to send what its settings or its queue do not admit, refuses
to receive what its buffer cannot hold, and passes on what its stream
reports. A payload may also be refused by the message type it is read as.
-/

namespace ServoLink

/-- Why a link operation failed. -/
inductive LinkError where
  /-- The frame cannot be written. -/
  | frame (e : FrameError)
  /-- The send queue has no room for the frame. -/
  | queueFull (needed available : Nat)
  /-- The receive buffer has no room for the bytes. -/
  | receiveOverflow (length available : Nat)
  /-- The stream failed. -/
  | io (failure : IoFailure)
  /-- The stream came to its end. -/
  | closed
  deriving DecidableEq

namespace LinkError

/-- Whether draining the queue and trying again is the answer. -/
def isQueueFull : LinkError → Bool
  | .queueFull .. => true
  | _ => false

/-- Whether the payload can never be sent under the limit in force. -/
def isPayloadTooLarge : LinkError → Bool
  | .frame (.payloadTooLarge ..) => true
  | _ => false

/-- The text an error is shown with. -/
def message : LinkError → String
  | .frame e => s!"frame error: {e.message}"
  | .queueFull needed available =>
    s!"send queue full ({needed} bytes needed, {available} available)"
  | .receiveOverflow length available =>
    s!"receive buffer overflow ({length} bytes pushed, {available} available)"
  | .io failure => s!"link I/O error: {failure.text}"
  | .closed => "link closed by peer"

end LinkError

/-- Why an intact payload was refused. -/
inductive PayloadError where
  /-- It has not the size of its message type. -/
  | length (expected actual : Nat)
  /-- It speaks of an instance that does not exist. -/
  | instanceOutOfRange (index max : Nat)
  /-- Its content was refused for another reason. -/
  | invalid (reason : String)
  deriving DecidableEq

/-- The text an error is shown with. -/
def PayloadError.message : PayloadError → String
  | .length expected actual =>
    s!"payload length mismatch (expected {expected} bytes, got {actual})"
  | .instanceOutOfRange index max => s!"instance {index} out of range (max {max})"
  | .invalid reason => s!"invalid payload: {reason}"

end ServoLink
