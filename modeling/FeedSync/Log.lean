/-!
# Log events

What the library reports while it works. An event has a level, a message and named fields; who
writes the log decides which levels to show and how.
-/

namespace FeedSync

/-- How much an event matters, from least to most. -/
inductive Level where
  | trace
  | debug
  | info
  | warn
  | error
  deriving DecidableEq, Repr

/-- The place of a level in the order of importance. -/
def Level.rank : Level → Nat
  | .trace => 0
  | .debug => 1
  | .info => 2
  | .warn => 3
  | .error => 4

/-- The word for a level in log lines. -/
def Level.word : Level → String
  | .trace => "TRACE"
  | .debug => "DEBUG"
  | .info => "INFO"
  | .warn => "WARN"
  | .error => "ERROR"

/-- The value of a field of an event. -/
inductive Datum where
  | text (value : String)
  | integer (value : Int)
  | bool (value : Bool)
  deriving DecidableEq, Repr

/-- The parts of the program that report events. -/
inductive Part where
  | service
  | schedule
  | cycle
  | unitOfWork
  | feed
  | database
  | broker
  deriving DecidableEq, Repr

/-- The path by which log filters address a part. A filter for a path also covers the paths that
it begins. -/
def Part.target : Part → String
  | .service => "news_syncer"
  | .schedule => "news_syncer::app::scheduler"
  | .cycle => "news_syncer::app::sync"
  | .unitOfWork => "news_syncer::domain::ports"
  | .feed => "news_syncer::infra::source::ecb"
  | .database => "news_syncer::infra::storage::db"
  | .broker => "news_syncer::infra::broker::rabbitmq"

/-- Something worth reporting. -/
structure Event where
  part : Part
  level : Level
  message : String
  fields : List (String × Datum) := []
  deriving DecidableEq, Repr

/-- The activity in which events happen, with the fields that tell it from others of its kind. -/
structure Span where
  part : Part
  level : Level
  name : String
  fields : List (String × Datum) := []
  deriving DecidableEq, Repr

/-- An event together with the activities around it, the outermost first. -/
structure LogEntry where
  event : Event
  spans : List Span := []
  deriving DecidableEq, Repr

end FeedSync
