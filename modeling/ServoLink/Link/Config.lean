import ServoLink.Frame.Basic

/-!
# Link settings

A link has a frame format and two byte budgets, one for frames waiting to be
sent and one for bytes received.
-/

namespace ServoLink

/-- The settings of a link. -/
structure LinkConfig where
  /-- The frame format. -/
  frame : FrameConfig := {}
  /-- The most bytes the send queue holds. -/
  maxQueue : Nat := 2080
  /-- The most bytes the receive buffer holds, one largest frame apart. -/
  maxReceive : Nat := 2080
  deriving DecidableEq, Inhabited

/-- The receive budget enforced: at least one frame of the largest size, so
that a frame begun can always be completed. -/
def LinkConfig.receiveLimit (c : LinkConfig) : Nat :=
  max c.maxReceive c.frame.maxFrameLength

end ServoLink
