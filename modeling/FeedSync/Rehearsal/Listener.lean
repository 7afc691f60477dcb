/-!
# Where scripted servers listen

A scripted server is reached at one host and port only; everywhere else nothing listens.
-/

namespace FeedSync.Rehearsal

/-- Where a server listens. -/
structure Listener where
  host : String
  port : Nat
  deriving DecidableEq, Repr

/-- The number of the host that a name stands for. -/
def hostNumber (name : String) : String := if name = "localhost" then "127.0.0.1" else name

/-- Whether a server is reached at a host and a port. -/
def Listener.isAt (listener : Listener) (host : String) (port : Nat) : Bool :=
  hostNumber host == listener.host && port == listener.port

end FeedSync.Rehearsal
