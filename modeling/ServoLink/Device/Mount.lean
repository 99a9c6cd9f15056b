import ServoLink.Link.Endpoint
import ServoLink.Message.Motor

/-!
# Components on a link

A component keeps the values last sent or received under its keys. It does
not own the link: its values live somewhere inside the state that the link's
handlers act on, and an observer elsewhere may want to know when one arrives.
A mount says where and who. The order is fixed here for all components: a
value that arrives is first stored and then announced, so that an observer
that raises a fault finds it stored.
-/

namespace ServoLink

/-- The place of a component's values `α` inside a state `σ`, and the
observer of the values `μ` that arrive. -/
structure Mount (σ α μ : Type) where
  /-- Look the values up. -/
  get : σ → α
  /-- Replace them. -/
  set : α → σ → σ
  /-- Announce a value that has arrived. -/
  notify : μ → σ → Option Fault × σ

namespace Mount

/-- A mount whose values are the whole state, unobserved. -/
def whole (α μ : Type) : Mount α α μ where
  get := id
  set a _ := a
  notify _ s := (none, s)

/-- Take a value that has arrived: store it if the component admits it, then
announce it. -/
def receive {σ α μ : Type} (m : Mount σ α μ) (store : α → μ → Except PayloadError α)
    (value : μ) (s : σ) : Verdict × σ :=
  match store (m.get s) value with
  | .error reason => (.rejected reason, s)
  | .ok a =>
    match m.notify value (m.set a s) with
    | (none, s) => (.accepted, s)
    | (some fault, s) => (.failed fault, s)

end Mount

/-- Why an operation of a component failed. -/
inductive DeviceError where
  /-- The link refused the frame. -/
  | link (e : LinkError)
  /-- There is no instance of that number. -/
  | instanceOutOfRange (index max : Nat)
  /-- The motor is not in the mode that the setpoint is meant for. -/
  | modeMismatch (motor : UInt8) (expected actual : MotorMode)
  deriving DecidableEq

/-- The text an error is shown with. -/
def DeviceError.message : DeviceError → String
  | .link e => e.message
  | .instanceOutOfRange index max => s!"instance {index} out of range (max {max})"
  | .modeMismatch motor expected actual =>
    s!"motor {motor.toNat} is in {actual.name} mode, {expected.name} required"

namespace Endpoint

variable {σ : Type}

/-- Queue a message for a key. -/
def send {α : Type} [Message α] (e : Endpoint σ) (k : Key) (message : α) :
    Except DeviceError Nat × Endpoint σ :=
  match e.enqueue k (Message.write message) with
  | (.ok size, e) => (.ok size, e)
  | (.error err, e) => (.error (.link err), e)

/-- Ask the peer for the current value of a key. -/
def ask (e : Endpoint σ) (k : Key) : Except DeviceError Nat × Endpoint σ :=
  match e.request k with
  | (.ok size, e) => (.ok size, e)
  | (.error err, e) => (.error (.link err), e)

end Endpoint

end ServoLink
