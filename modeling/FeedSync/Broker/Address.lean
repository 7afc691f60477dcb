import FeedSync.Url.Query

/-!
# Addresses of brokers

The address of a message broker names the server, the account and the **virtual host**: one of the
separate spaces of exchanges and queues that a broker keeps.
-/

namespace FeedSync.Broker

open FeedSync.Text

/-- How a broker is reached. -/
structure Address where
  host : String
  port : Nat
  user : String
  password : String
  virtualHost : String
  deriving DecidableEq, Repr

namespace Address

/-- The port that is usual for a scheme. -/
def usualPort? : String → Option Nat
  | "amqp" => some 5672
  | "amqps" => some 5671
  | _ => none

/-- The settings that hold a number, each with the greatest one that it may hold. -/
def limits : List (String × Nat) := [
  ("frame_max", UInt32.size - 1), ("channel_max", UInt16.size - 1),
  ("heartbeat", UInt16.size - 1), ("connection_timeout", UInt64.size - 1)]

/-- The ways to log in that can be asked for. -/
def mechanisms : List String := ["amqplain", "anonymous", "external", "plain", "rabbit-cr-demo"]

/-- Whether the settings of an address can be used. Of settings with the same name the first one
counts. -/
def hasUsableSettings (url : Url) : Bool :=
  (limits.all fun (name, most) =>
    (url.settings.lookup name).all fun value => (unsigned? most value.toList).isSome) &&
  (url.settings.lookup "auth_mechanism").all fun value => value.toLower ∈ mechanisms

/-- A part of an address, or a default if it is empty. -/
def partOr (default : String) (cs : List Char) : Option String :=
  if cs.isEmpty then some default else Url.decoded? cs

/-- The address in a text. An address without any path means the virtual host `/`. -/
def ofText? (text : String) : Option Address := do
  let url ← Url.parse? none text
  let usual ← usualPort? url.scheme
  match url.path with
  | .opaqueText _ => none
  | .segments _ =>
    if !hasUsableSettings url then none
    else
      some {
        host := ← partOr "localhost" (url.host.getD [])
        port := url.port.getD usual
        user := ← partOr "guest" url.username
        password := ← partOr "guest" url.password
        virtualHost := ← match url.pathText with
          | [] => some "/"
          | path => Url.decoded? (path.drop 1) }

end Address

end FeedSync.Broker
