import FeedSync.Proofs.Yaml.Field
import FeedSync.Config

/-!
# The texts in a configuration

Each text in a configuration is written at a path of keys. Where a document holds a plain text at
that path and nowhere else, another text in its place changes that field of the configuration only.

## Main definitions

* `TextField`: a text in the configuration, with its path.

## Main statements

* `reader_of_at?`: the configuration that is read with another text in a field.
* `complete_put`, `validate_put`: completing and checking it depends on that text in no other way.
-/

namespace FeedSync.Config

open Yaml

/-- A text in the configuration. -/
inductive TextField where
  | databaseUrl
  | databaseHost
  | databaseUser
  | databasePassword
  | databaseName
  | sslMode
  | brokerUrl
  | exchange
  | routingKey
  | queue
  | baseUrl
  | logLevel
  deriving DecidableEq, Repr

namespace TextField

/-- The keys under which a text is written. -/
def path : TextField → List String
  | databaseUrl => ["database", "url"]
  | databaseHost => ["database", "host"]
  | databaseUser => ["database", "user"]
  | databasePassword => ["database", "password"]
  | databaseName => ["database", "dbname"]
  | sslMode => ["database", "sslmode"]
  | brokerUrl => ["rabbitmq", "url"]
  | exchange => ["rabbitmq", "exchange"]
  | routingKey => ["rabbitmq", "routing_key"]
  | queue => ["rabbitmq", "queue_name"]
  | baseUrl => ["api", "base_url"]
  | logLevel => ["log_level"]

/-- The text in a configuration, if there is one. -/
def get (c : Config) : TextField → Option String
  | databaseUrl => c.database.url
  | databaseHost => some c.database.host
  | databaseUser => some c.database.user
  | databasePassword => some c.database.password
  | databaseName => some c.database.database
  | sslMode => some c.database.sslMode
  | brokerUrl => some c.broker.url
  | exchange => some c.broker.exchange
  | routingKey => some c.broker.routingKey
  | queue => some c.broker.queue
  | baseUrl => some c.api.baseUrl
  | logLevel => some c.logLevel

/-- The configuration with another text in a field. -/
def put (v : String) (c : Config) : TextField → Config
  | databaseUrl => { c with database.url := some v }
  | databaseHost => { c with database.host := v }
  | databaseUser => { c with database.user := v }
  | databasePassword => { c with database.password := v }
  | databaseName => { c with database.database := v }
  | sslMode => { c with database.sslMode := v }
  | brokerUrl => { c with broker.url := v }
  | exchange => { c with broker.exchange := v }
  | routingKey => { c with broker.routingKey := v }
  | queue => { c with broker.queue := v }
  | baseUrl => { c with api.baseUrl := v }
  | logLevel => { c with logLevel := v }

variable {field : TextField} {u v : String} {c : Config}

theorem get_put (field : TextField) (v : String) (c : Config) :
    field.get (field.put v c) = some v := by
  cases field <;> rfl

theorem put_put (field : TextField) (u v : String) (c : Config) :
    field.put v (field.put u c) = field.put v c := by
  cases field <;> rfl

theorem complete_put (hv : v.isEmpty = false) (c : Config) :
    (field.put v c).complete = field.put v c.complete := by
  cases field <;> simp [put, complete, orText, hv]

theorem validate_put (hu : u.isEmpty = false) (hv : v.isEmpty = false) (c : Config) :
    (field.put v c).validate = (field.put u c).validate := by
  cases field with
  | baseUrl =>
    simp only [validate, put, hu, hv]
    rfl
  | _ => rfl

end TextField

/-! ### Reading -/

section Records

variable {document : Document} {u v : String} {f : String → String}

theorem ignoresRoot_word (bits : Nat) : (word bits).IgnoresRoot := .unsigned _

theorem ignoresRoot_databaseRecord : databaseRecord.IgnoresRoot :=
  .seq (.seq (.seq (.seq (.seq (.seq (.seq (.seq (.seq (.map _
    (.field _ (.nullable .text) _)) (.field _ .text _)) (.field _ (ignoresRoot_word 16) _))
    (.field _ .text _)) (.field _ .text _)) (.field _ .text _)) (.field _ .text _))
    (.field _ (ignoresRoot_word 32) _)) (.field _ (ignoresRoot_word 64) _))
    (.field _ (ignoresRoot_word 64) _)

theorem ignoresRoot_brokerRecord : brokerRecord.IgnoresRoot :=
  .seq (.seq (.seq (.seq (.map _ (.field _ (.nullable .boolean) _)) (.field _ .text _))
    (.field _ .text _)) (.field _ .text _)) (.field _ .text _)

theorem ignoresRoot_retryRecord : retryRecord.IgnoresRoot :=
  .seq (.seq (.map _ (.field _ (ignoresRoot_word 32) _)) (.field _ (ignoresRoot_word 64) _))
    (.field _ (ignoresRoot_word 64) _)

theorem ignoresRoot_apiRecord : apiRecord.IgnoresRoot :=
  .seq (.seq (.seq (.map _ (.field _ .text _)) (.field _ (ignoresRoot_word 32) _))
    (.field _ (ignoresRoot_word 64) _)) (.field _ ignoresRoot_retryRecord.reader _)

theorem ignoresRoot_syncRecord : syncRecord.IgnoresRoot :=
  .seq (.seq (.seq (.map _ (.field _ (ignoresRoot_word 64) _)) (.field _ (ignoresRoot_word 64) _))
    (.field _ (ignoresRoot_word 32) _)) (.field _ (ignoresRoot_word 32) _)

theorem ignoresRoot_record : record.IgnoresRoot :=
  .seq (.seq (.seq (.seq (.seq (.map _ (.field _ ignoresRoot_databaseRecord.reader _))
    (.field _ ignoresRoot_brokerRecord.reader _)) (.field _ ignoresRoot_apiRecord.reader _))
    (.field _ ignoresRoot_syncRecord.reader _)) (.field _ .text _)) (.field _ (.choice _) _)

/-! The fields of a record are read one after the other. -/

theorem databaseRecord_build (entry : String → Option Node) :
    databaseRecord.build document entry =
      ((Record.field "url" (nullable text) none).build document entry).bind fun url =>
      ((Record.field "host" text "").build document entry).bind fun host =>
      ((Record.field "port" (word 16) 0).build document entry).bind fun port =>
      ((Record.field "user" text "").build document entry).bind fun user =>
      ((Record.field "password" text "").build document entry).bind fun password =>
      ((Record.field "dbname" text "").build document entry).bind fun database =>
      ((Record.field "sslmode" text "").build document entry).bind fun sslMode =>
      ((Record.field "max_connections" (word 32) 0).build document entry).bind fun maxConnections =>
      ((Record.field "connect_timeout_secs" (word 64) 0).build document entry).bind
        fun connectTimeout =>
      ((Record.field "max_lifetime_secs" (word 64) 0).build document entry).map
        (DatabaseConfig.mk url host port user password database sslMode maxConnections
          connectTimeout) := by
  simp only [databaseRecord, Functor.map, Seq.seq, Record.seq, Record.pure, Option.bind_assoc,
    Option.bind_map, Option.bind_some, Function.comp_def]

theorem brokerRecord_build (entry : String → Option Node) :
    brokerRecord.build document entry =
      ((Record.field "enabled" (nullable boolean) none).build document entry).bind fun isEnabled =>
      ((Record.field "url" text "").build document entry).bind fun url =>
      ((Record.field "exchange" text "").build document entry).bind fun exchange =>
      ((Record.field "routing_key" text "").build document entry).bind fun routingKey =>
      ((Record.field "queue_name" text "").build document entry).map
        (BrokerConfig.mk isEnabled url exchange routingKey) := by
  simp only [brokerRecord, Functor.map, Seq.seq, Record.seq, Record.pure, Option.bind_assoc,
    Option.bind_map, Option.bind_some, Function.comp_def]

theorem apiRecord_build (entry : String → Option Node) :
    apiRecord.build document entry =
      ((Record.field "base_url" text "").build document entry).bind fun baseUrl =>
      ((Record.field "page_size" (word 32) 0).build document entry).bind fun pageSize =>
      ((Record.field "timeout_secs" (word 64) 0).build document entry).bind fun timeout =>
      ((Record.field "retry" retryRecord.reader {}).build document entry).map
        (ApiConfig.mk baseUrl pageSize timeout) := by
  simp only [apiRecord, Functor.map, Seq.seq, Record.seq, Record.pure, Option.bind_assoc,
    Option.bind_map, Option.bind_some, Function.comp_def]

theorem record_build (entry : String → Option Node) :
    record.build document entry =
      ((Record.field "database" databaseRecord.reader {}).build document entry).bind fun database =>
      ((Record.field "rabbitmq" brokerRecord.reader {}).build document entry).bind fun broker =>
      ((Record.field "api" apiRecord.reader {}).build document entry).bind fun api =>
      ((Record.field "sync" syncRecord.reader {}).build document entry).bind fun sync =>
      ((Record.field "log_level" text "").build document entry).bind fun logLevel =>
      ((Record.field "log_format" (choice [("json", LogFormat.json), ("text", .text)])
        .json).build document entry).map (Config.mk database broker api sync logLevel) := by
  simp only [record, Functor.map, Seq.seq, Record.seq, Record.pure, Option.bind_assoc,
    Option.bind_map, Option.bind_some, Function.comp_def]

theorem text_scalar (tag : Option String) (v : String) (style : Style) :
    text document (.scalar tag v style) = some v := rfl

theorem nullable_text {v : String} (hv : v.isEmpty = false) (hnull : isNull v = false) :
    nullable text document (.scalar none v .plain) = some (some v) := by
  simp [nullable, Document.resolve, hv, hnull, text]

variable {root : Node} (honce : root.plainTexts.count u = 1)
  (hf : ∀ other, other ≠ u → f other = other)

include honce hf

theorem reader_database {key : String} (change : DatabaseConfig → DatabaseConfig)
    (hat : root.at? document ["database", key] = some (.scalar none u .plain))
    (hkey : key ∈ databaseRecord.keys)
    (hbuild : ∀ entry, entry key = some (.scalar none u .plain) →
      databaseRecord.build document (Record.swap key (.scalar none (f u) .plain) entry) =
        (databaseRecord.build document entry).map change) :
    record.reader document (root.rename f) =
      (record.reader document root).map fun c => { c with database := change c.database } := by
  refine Record.reader_of_at? hat honce hf (by decide) fun inner hinner honce' entry hentry => ?_
  have hsection := Record.reader_of_leaf hinner honce' hf hkey hbuild
  simp [record_build, Record.field_swap hentry, Record.field_of_some hentry,
    Record.field_swap_of_ne, hsection, Option.map_bind, Function.comp_def, Option.bind_map]

theorem reader_broker {key : String} (change : BrokerConfig → BrokerConfig)
    (hat : root.at? document ["rabbitmq", key] = some (.scalar none u .plain))
    (hkey : key ∈ brokerRecord.keys)
    (hbuild : ∀ entry, entry key = some (.scalar none u .plain) →
      brokerRecord.build document (Record.swap key (.scalar none (f u) .plain) entry) =
        (brokerRecord.build document entry).map change) :
    record.reader document (root.rename f) =
      (record.reader document root).map fun c => { c with broker := change c.broker } := by
  refine Record.reader_of_at? hat honce hf (by decide) fun inner hinner honce' entry hentry => ?_
  have hsection := Record.reader_of_leaf hinner honce' hf hkey hbuild
  simp [record_build, Record.field_swap hentry, Record.field_of_some hentry,
    Record.field_swap_of_ne, hsection, Option.map_bind, Function.comp_def, Option.bind_map]

theorem reader_api {key : String} (change : ApiConfig → ApiConfig)
    (hat : root.at? document ["api", key] = some (.scalar none u .plain))
    (hkey : key ∈ apiRecord.keys)
    (hbuild : ∀ entry, entry key = some (.scalar none u .plain) →
      apiRecord.build document (Record.swap key (.scalar none (f u) .plain) entry) =
        (apiRecord.build document entry).map change) :
    record.reader document (root.rename f) =
      (record.reader document root).map fun c => { c with api := change c.api } := by
  refine Record.reader_of_at? hat honce hf (by decide) fun inner hinner honce' entry hentry => ?_
  have hsection := Record.reader_of_leaf hinner honce' hf hkey hbuild
  simp [record_build, Record.field_swap hentry, Record.field_of_some hentry,
    Record.field_swap_of_ne, hsection, Option.map_bind, Function.comp_def, Option.bind_map]

/-- **Another text in a field** of the document is another text in that field of the configuration,
and nothing else is read in another way. -/
theorem reader_of_at? {field : TextField}
    (hat : root.at? document field.path = some (.scalar none u .plain))
    (hu : u.isEmpty = false) (hv : (f u).isEmpty = false)
    (hnull : field = .databaseUrl → isNull u = false ∧ isNull (f u) = false) :
    record.reader document (root.rename f) =
      (record.reader document root).map fun c => field.put (f u) c := by
  have hdatabase {key : String}
      (hat : root.at? document ["database", key] = some (.scalar none u .plain)) :=
    reader_database honce hf (fun d => (field.put (f u) { database := d }).database) hat
  have hbroker {key : String}
      (hat : root.at? document ["rabbitmq", key] = some (.scalar none u .plain)) :=
    reader_broker honce hf (fun b => (field.put (f u) { broker := b }).broker) hat
  cases field with
  | databaseUrl =>
    obtain ⟨hnull, hnull'⟩ := hnull rfl
    refine hdatabase hat (by decide) fun entry h => ?_
    simp [databaseRecord_build, Record.field_swap h, Record.field_of_some h,
      Record.field_swap_of_ne, nullable_text, hu, hv, hnull, hnull', Option.map_bind,
      Function.comp_def, TextField.put]
  | databaseHost | databaseUser | databasePassword | databaseName | sslMode =>
    refine hdatabase hat (by decide) fun entry h => ?_
    simp [databaseRecord_build, Record.field_swap h, Record.field_of_some h,
      Record.field_swap_of_ne, text_scalar, Option.map_bind, Function.comp_def, TextField.put]
  | brokerUrl | exchange | routingKey | queue =>
    refine hbroker hat (by decide) fun entry h => ?_
    simp [brokerRecord_build, Record.field_swap h, Record.field_of_some h, Record.field_swap_of_ne,
      text_scalar, Option.map_bind, Function.comp_def, TextField.put]
  | baseUrl =>
    refine reader_api honce hf (fun a => { a with baseUrl := f u }) hat (by decide)
      fun entry h => ?_
    simp [apiRecord_build, Record.field_swap h, Record.field_of_some h, Record.field_swap_of_ne,
      text_scalar, Option.map_bind, Function.comp_def]
  | logLevel =>
    refine Record.reader_of_leaf hat honce hf (by decide) fun entry h => ?_
    simp [record_build, Record.field_swap h, Record.field_of_some h, Record.field_swap_of_ne,
      text_scalar, Option.map_bind, Function.comp_def, TextField.put]

end Records

end FeedSync.Config
