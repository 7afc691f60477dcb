import FeedSync.Broker.Address
import FeedSync.Log
import FeedSync.Program
import FeedSync.Time.Instant

/-!
# Talking to a broker

What programs ask a message broker. A program logs in, opens a connection and a channel, and sends
**methods** over them. A broker that does not do what a method asks closes the channel or the
connection instead; then nothing more can be sent over it. A published message is **confirmed** by
the broker, or refused.
-/

namespace FeedSync.Broker

/-- What a broker is told to do. Exchanges and queues are durable, and exchanges hand a message to
the queues that are bound with just its routing key. -/
inductive Method where
  | openConnection (virtualHost : String)
  | openChannel
  /-- Have every published message confirmed. -/
  | selectConfirms
  | declareExchange (name : String)
  | declareQueue (name : String)
  | bindQueue (queue exchange routingKey : String)
  /-- Publish a JSON text as a message that outlives the broker. -/
  | publish (exchange routingKey payload : String)
  | closeChannel (code : Nat) (text : String)
  | closeConnection (code : Nat) (text : String)
  deriving DecidableEq, Repr

namespace Method

/-- The name of a method. -/
def name : Method → String
  | .openConnection _ => "connection.open"
  | .openChannel => "channel.open"
  | .selectConfirms => "confirm.select"
  | .declareExchange _ => "exchange.declare"
  | .declareQueue _ => "queue.declare"
  | .bindQueue .. => "queue.bind"
  | .publish .. => "basic.publish"
  | .closeChannel .. => "channel.close"
  | .closeConnection .. => "connection.close"

/-- The bit that marks a declared thing as durable. -/
def durable : Int := 2

/-- The arguments of a method. -/
def arguments : Method → List (String × Datum)
  | .openConnection virtualHost => [("vhost", .text virtualHost)]
  | .openChannel => []
  | .selectConfirms => []
  | .declareExchange name => [("exchange", .text name), ("type", .text "direct"),
      ("durable", .bool true), ("flags", .integer durable)]
  | .declareQueue name => [("queue", .text name), ("durable", .bool true),
      ("flags", .integer durable)]
  | .bindQueue queue exchange routingKey => [("queue", .text queue), ("exchange", .text exchange),
      ("routing_key", .text routingKey)]
  | .publish exchange routingKey payload => [("exchange", .text exchange),
      ("routing_key", .text routingKey), ("flags", .integer 0),
      ("content_type", .text "application/json"), ("delivery_mode", .integer 2),
      ("payload", .text payload)]
  | .closeChannel code text => [("code", .integer code), ("text", .text text)]
  | .closeConnection code text => [("code", .integer code), ("text", .text text)]

end Method

/-- What a broker says about a published message. -/
inductive Confirmation where
  | ack
  | nack
  deriving DecidableEq, Repr

/-- What a publisher asks of its surroundings. -/
inductive Request where
  /-- Reach the broker at an address and log in. -/
  | login (address : Address)
  /-- Have a method done. -/
  | perform (method : Method)
  /-- Wait for the word about the message published last. -/
  | confirmation
  /-- Read the clock. -/
  | now
  /-- Report an event. -/
  | log (event : Event)

/-- The reply to a request: for what the broker is asked, whether it did it. -/
@[reducible]
def Request.Reply : Request → Type
  | .login _ => Bool
  | .perform _ => Bool
  | .confirmation => Option Confirmation
  | .now => Instant
  | .log _ => Unit

/-- The interface of a publisher to its surroundings. -/
abbrev Server : Interface := ⟨Request, Request.Reply⟩

/-- A computation that asks a broker. -/
abbrev Session (α : Type) := Program Server α

/-- Asks a broker. -/
abbrev ask (q : Request) : Session q.Reply := @Program.request Server q

end FeedSync.Broker
