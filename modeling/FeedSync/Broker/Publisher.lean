import FeedSync.Article.Json
import FeedSync.Broker.Method
import FeedSync.Config

/-!
# Publishing articles

How the changes of articles reach the broker. A publisher sets up an exchange and a queue that is
bound to it, and publishes each change as a JSON text. A change counts as published once the broker
has confirmed it.
-/

namespace FeedSync

/-- The name of a change in log lines. -/
def Change.label : Change → String
  | .create => "Create"
  | .update => "Update"

namespace Broker

/-- Logs in to the broker at an address. -/
def login (text : String) : Session (Except InfraError Address) := do
  match Address.ofText? text with
  | none => return .error (.broker "接続")
  | some address =>
    if ← ask (.login address) then return .ok address else return .error (.broker "接続")

/-- Has methods done in order, until one is not done; the error tells its purpose. -/
def performAll : List (String × Method) → Session (Except InfraError Unit)
  | [] => return .ok ()
  | (purpose, method) :: rest => do
    if ← ask (.perform method) then performAll rest else return .error (.broker purpose)

/-- What is done to set up the exchange and the queue in a virtual host. -/
def setUp (settings : BrokerConfig) (virtualHost : String) : List (String × Method) := [
  ("接続", .openConnection virtualHost),
  ("チャネル作成", .openChannel),
  ("配信確認モードの有効化", .selectConfirms),
  ("exchangeの宣言", .declareExchange settings.exchange),
  ("queueの宣言", .declareQueue settings.queue),
  ("queueのバインド", .bindQueue settings.queue settings.exchange settings.routingKey)]

/-- An event of the publisher. -/
def event (level : Level) (message : String) (fields : List (String × Datum) := []) : Event :=
  { part := .broker, level, message, fields }

/-- Connects to the broker and sets up the exchange and the queue. -/
def connect (settings : BrokerConfig) : Session (Except InfraError Unit) := do
  match ← login settings.url with
  | .error e => return .error e
  | .ok address =>
    match ← performAll (setUp settings address.virtualHost) with
    | .error e => return .error e
    | .ok () =>
      ask <| .log <| event .info "RabbitMQに接続しました"
        [("exchange", .text settings.exchange), ("queue", .text settings.queue),
          ("routing_key", .text settings.routingKey)]
      return .ok ()

/-- Publishes the change of an article and waits until the broker has confirmed it. -/
def publish (settings : BrokerConfig) (a : Article) (isNew : Bool) :
    Session (Except InfraError Unit) := do
  let notice : Notice := { change := .ofIsNew isNew, article := a, timestamp := ← ask .now }
  let method := .publish settings.exchange settings.routingKey notice.toJson.compact
  if ← ask (.perform method) then
    match ← ask .confirmation with
    | none => return .error (.broker "配信確認の待機")
    | some .nack =>
      return .error
        (.backend s!"ブローカーが配信を拒否しました: external_id={a.externalId.toInt}")
    | some .ack =>
      ask (.log (event .debug "記事の変更を配信しました" [("action", .text notice.change.label)]))
      return .ok ()
  else return .error (.broker "メッセージ配信")

/-- What is done to close the channel and the connection. -/
def tearDown : List (String × Method) := [
  ("チャネルのクローズ", .closeChannel 200 "OK"),
  ("接続のクローズ", .closeConnection 200 "OK")]

/-- Closes the channel and the connection. -/
def close : Session (Except InfraError Unit) := do
  match ← performAll tearDown with
  | .error e => return .error e
  | .ok () =>
    ask (.log (event .info "RabbitMQ接続を閉じました"))
    return .ok ()

end Broker

end FeedSync
