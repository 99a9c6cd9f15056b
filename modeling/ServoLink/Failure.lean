/-!
# Failures from outside

Streams and files fail for reasons the link does not know. A failure carries
the kind it was reported under, on which the program's decisions rest, and
the text it is shown with. A fault is what a callback raises in place of an
answer.
-/

namespace ServoLink

/-- The kinds of input and output failure that the program tells apart. All
others are `other`. -/
inductive IoKind where
  | interrupted
  | wouldBlock
  | timedOut
  | notFound
  | permissionDenied
  | brokenPipe
  | unexpectedEof
  | invalidData
  | invalidInput
  | other
  deriving DecidableEq

/-- A call that was interrupted is made again. -/
def IoKind.isRetry : IoKind → Bool
  | .interrupted => true
  | _ => false

/-- A stream that has nothing to give or take at the moment is idle. -/
def IoKind.isIdle : IoKind → Bool
  | .wouldBlock | .timedOut => true
  | _ => false

/-- A failed call on a stream or a file. -/
structure IoFailure where
  /-- The kind it was reported under. -/
  kind : IoKind
  /-- The text it is shown with. -/
  text : String
  deriving DecidableEq

/-- What a callback raises in place of an answer. -/
structure Fault where
  /-- The text it was raised with. -/
  message : String
  deriving DecidableEq

end ServoLink
