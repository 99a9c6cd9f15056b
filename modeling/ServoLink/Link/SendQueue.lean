import ServoLink.Link.Error

/-!
# The send queue

Encoded frames wait here for the transport. A frame is taken whole or not at
all, so what is drained is always a row of whole frames in the order they
came.
-/

namespace ServoLink

/-- The bytes waiting to be sent. -/
structure SendQueue where
  /-- The most bytes held. -/
  capacity : Nat
  /-- The bytes held, first to be sent first. -/
  bytes : Bytes := []

namespace SendQueue

/-- The number of bytes held. -/
def size (q : SendQueue) : Nat :=
  q.bytes.length

/-- The bytes that can still be taken. -/
def remaining (q : SendQueue) : Nat :=
  q.capacity - q.size

/-- Take an encoded frame. One that does not fit leaves the queue as it
was. -/
def enqueue (q : SendQueue) (encoded : Bytes) : Except LinkError Unit × SendQueue :=
  if encoded.length > q.remaining then
    (.error (.queueFull encoded.length q.remaining), q)
  else (.ok (), { q with bytes := q.bytes ++ encoded })

/-- Hand out every byte, leaving the queue empty. -/
def drain (q : SendQueue) : Bytes × SendQueue :=
  (q.bytes, { q with bytes := [] })

end SendQueue

end ServoLink
