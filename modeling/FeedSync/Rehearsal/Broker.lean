import FeedSync.Broker.Publisher
import FeedSync.Rehearsal.Listener

/-!
# A scripted broker

A broker that refuses given methods and answers published messages from a script, and remembers the
methods that it received.
-/

namespace FeedSync.Rehearsal

open FeedSync.Broker

/-- What a broker does with a published message. -/
inductive MessageReply where
  | confirmation (confirmation : Confirmation)
  /-- It closes the channel or cuts the connection. -/
  | close
  deriving DecidableEq, Repr

/-- A broker that answers from a script. -/
structure ScriptedBroker where
  listener : Listener
  /-- Whether it lets nobody log in. -/
  refusesLogin : Bool := false
  /-- The names of the methods that it refuses. -/
  refused : List String := []
  /-- What it does with published messages, in order; those after them are confirmed. -/
  replies : List MessageReply := []
  /-- Whether there is a channel. -/
  hasChannel : Bool := false
  /-- The methods received. -/
  methods : List Method := []

namespace ScriptedBroker

/-- Whether a method can be sent. -/
def canReceive (broker : ScriptedBroker) : Method → Bool
  | .openConnection _ | .openChannel | .closeConnection .. => true
  | _ => broker.hasChannel

/-- Receives a method: whether it was done. -/
def perform (method : Method) : StateM ScriptedBroker Bool := fun broker =>
  if broker.canReceive method then
    let isDone := method.name ∉ broker.refused
    let hasChannel := match method with
      | .openConnection _ | .closeChannel .. | .closeConnection .. => false
      | _ => isDone
    (isDone, { broker with hasChannel, methods := broker.methods ++ [method] })
  else (false, broker)

/-- Says what became of the message published last. -/
def confirm : StateM ScriptedBroker (Option Confirmation) := fun broker =>
  let rest := { broker with replies := broker.replies.tail }
  match broker.replies.headD (.confirmation .ack) with
  | .confirmation confirmation => (some confirmation, rest)
  | .close => (none, { rest with hasChannel := false })

/-- Whether somebody can log in at an address. -/
def admits (broker : ScriptedBroker) (address : Address) : Bool :=
  !broker.refusesLogin && broker.listener.isAt address.host address.port

/-- Answers a publisher. What it reports is not kept. -/
def answer (now : Instant) : (q : Request) → StateM ScriptedBroker q.Reply
  | .login address => fun broker => (broker.admits address, broker)
  | .perform method => perform method
  | .confirmation => confirm
  | .now => return now
  | .log _ => return ()

end ScriptedBroker

end FeedSync.Rehearsal
