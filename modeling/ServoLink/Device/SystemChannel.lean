import ServoLink.Component
import ServoLink.Device.Mount

/-!
# System messages

System messages are passed through as they are. The last one received is
kept; sending one keeps nothing.
-/

namespace ServoLink

/-- The system message last received. -/
structure SystemChannel where
  last : Bytes := []
  deriving DecidableEq, Inhabited

namespace SystemChannel

def rawKey : Key := ⟨Component.system, 1⟩

/-- Store a message that has arrived. -/
def store (_ : SystemChannel) (payload : Bytes) : Except PayloadError SystemChannel :=
  .ok { last := payload }

variable {σ : Type}

/-- Take the system messages of a link, of whatever length. -/
def bind (mount : Mount σ SystemChannel Bytes) (e : Endpoint σ) : Endpoint σ :=
  e.register rawKey { receive := fun f => mount.receive store f.payload }

/-- Send a message. -/
def sendRaw (e : Endpoint σ) (payload : Bytes) : Except DeviceError Nat × Endpoint σ :=
  match e.enqueue rawKey payload with
  | (.ok size, e) => (.ok size, e)
  | (.error err, e) => (.error (.link err), e)

end SystemChannel

end ServoLink
