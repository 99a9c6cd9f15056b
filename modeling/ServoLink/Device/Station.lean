import ServoLink.Device.Encoders
import ServoLink.Device.Motors
import ServoLink.Device.SystemChannel
import ServoLink.Device.Update

/-!
# A station with every component

A station keeps the values of all components of one side of a link. Its
journal lists the values that have been announced, oldest first.
-/

namespace ServoLink

/-- The values of all components. -/
structure Station where
  motors : Motors := .fresh
  encoders : Encoders := {}
  update : Update := {}
  system : SystemChannel := {}
  deriving DecidableEq, Inhabited

namespace Station

/-- A value that has arrived at a station. -/
inductive Notice where
  | motors (value : Motors.Value)
  | encoders (value : Encoders.Value)
  | update (value : Update.Value)
  | system (payload : Bytes)
  deriving DecidableEq

variable {σ : Type}

/-- Take the frames of every component for a station that lives in a larger
state. -/
def bind (mount : Mount σ Station Notice) (e : Endpoint σ) : Endpoint σ :=
  let motors : Mount σ Motors Motors.Value :=
    { get := fun s => (mount.get s).motors
      set := fun m s => mount.set { mount.get s with motors := m } s
      notify := fun v => mount.notify (.motors v) }
  let encoders : Mount σ Encoders Encoders.Value :=
    { get := fun s => (mount.get s).encoders
      set := fun m s => mount.set { mount.get s with encoders := m } s
      notify := fun v => mount.notify (.encoders v) }
  let update : Mount σ Update Update.Value :=
    { get := fun s => (mount.get s).update
      set := fun m s => mount.set { mount.get s with update := m } s
      notify := fun v => mount.notify (.update v) }
  let system : Mount σ SystemChannel Bytes :=
    { get := fun s => (mount.get s).system
      set := fun m s => mount.set { mount.get s with system := m } s
      notify := fun v => mount.notify (.system v) }
  SystemChannel.bind system (Update.bind update (Encoders.bind encoders (Motors.bind motors e)))

/-- A fresh link end whose state is a station that nobody observes. -/
def endpoint (config : LinkConfig) : Endpoint Station :=
  bind (.whole Station Notice) (.new config)

end Station

end ServoLink
