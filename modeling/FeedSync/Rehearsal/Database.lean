import FeedSync.Database.Address
import FeedSync.Database.Store
import FeedSync.Rehearsal.Listener
import FeedSync.Text.Blank
import FeedSync.Time.Rfc3339

/-!
# A scripted database

A database that runs no statements but answers them from a script, and remembers what it was asked.
The script has queues of replies, each for the statements with a certain beginning.
-/

namespace FeedSync.Rehearsal

open FeedSync.Database

/-- A prepared reply to a statement. -/
inductive ScriptedReply where
  /-- Some rows; times are given as text. -/
  | rows (rows : List Row)
  /-- A refusal in the words of the server. -/
  | refusal (message : String)
  /-- The connection is cut. -/
  | cut
  deriving DecidableEq, Repr, Inhabited

/-- Why a database refuses connections. -/
structure Refusal where
  code : String
  message : String
  deriving DecidableEq, Repr

/-- Whether a refusal may be over soon, so that connecting is tried again: the server has too many
connections, or it is still starting. -/
def Refusal.isPassing (refusal : Refusal) : Bool := refusal.code ∈ ["53300", "57P03"]

/-- A database that answers from a script. -/
structure ScriptedDatabase where
  listener : Listener
  /-- The replies for statements that begin in a certain way; the first entry that fits and has
  replies left is used. A statement without a reply gives no rows. -/
  script : List (String × List ScriptedReply) := []
  /-- Why every connection is refused, if it is. -/
  refusal : Option Refusal := none
  ledger : Ledger := {}
  /-- Whether the program has given up its connections. -/
  isClosed : Bool := false
  /-- How many transactions were begun. -/
  begun : Nat := 0
  /-- The transactions whose connections were cut. -/
  cut : List Nat := []
  /-- The migrations that transactions noted and have not committed. -/
  noted : List (Nat × Migration) := []
  /-- The statements received, with their parameters. -/
  statements : List (String × List Value) := []

namespace ScriptedDatabase

/-! ### Statements as the database sees them -/

/-- A line of SQL without its comment. -/
def withoutComment : List Char → List Char
  | '-' :: '-' :: _ => []
  | [] => []
  | c :: rest => c :: withoutComment rest

/-- A text with each run of blanks made one space and none at the ends. -/
def squeeze (cs : List Char) : List Char :=
  let words := (cs.splitBy fun a b => Text.isBlank a == Text.isBlank b).filter fun run =>
    !run.all Text.isBlank
  [' '].intercalate words

/-- The text of a statement on one line, without comments. -/
def oneLine (sql : String) : String :=
  let lines := (sql.splitOn "\n").map fun line => withoutComment line.toList ++ ['\n']
  String.ofList (squeeze lines.flatten)

/-! ### Replies -/

/-- The columns of a statement's result that hold times. -/
def timeColumns : Statement → List Nat
  | .heldArticles .. | .readState _ => [1]
  | _ => []

/-- A prepared row with its times read. -/
def readTimes (statement : Statement) (row : Row) : Row :=
  row.mapIdx fun i value =>
    match value with
    | .text s =>
      if i ∈ timeColumns statement then .ofInstant? (Instant.ofRfc3339? s) else .text s
    | value => value

/-- The entries of a script in the order of the bytes of their texts. -/
def inByteOrder (script : List (String × List ScriptedReply)) :
    List (String × List ScriptedReply) :=
  script.mergeSort fun a b =>
    compareOfLessAndEq a.1.toUTF8.toList b.1.toUTF8.toList != .gt

/-- Takes the next reply for a statement out of a script. -/
def take (text : String) : List (String × List ScriptedReply) →
    ScriptedReply × List (String × List ScriptedReply)
  | [] => (.rows [], [])
  | (beginning, reply :: replies) :: entries =>
    if text.startsWith beginning then (reply, (beginning, replies) :: entries)
    else
      let (taken, entries) := take text entries
      (taken, (beginning, reply :: replies) :: entries)
  | entry :: entries =>
    let (taken, entries) := take text entries
    (taken, entry :: entries)

/-- Receives a statement and answers it from the script. -/
def receive (sql : String) (parameters : List Value) : StateM ScriptedDatabase ScriptedReply :=
  fun db =>
    let text := oneLine sql
    let (reply, script) := take text db.script
    (reply, { db with script, statements := db.statements ++ [(text, parameters)] })

/-- Whether the first connection is made. It is tried until the time is over where it could still
succeed. -/
def connect (db : ScriptedDatabase) : Except DatabaseFault Unit :=
  match db.refusal with
  | some refusal => .error (if refusal.isPassing then .poolTimedOut else .server refusal.message)
  | none => .ok ()

/-- Whether the first connection to an address is made. -/
def connectTo (address : Address) (db : ScriptedDatabase) : Except DatabaseFault Unit :=
  if db.listener.isAt address.host address.port then db.connect else .error .poolTimedOut

/-- Whether a connection can be had: a transaction's own one, or any. -/
def connection (tx : Option Nat) (db : ScriptedDatabase) : Except DatabaseFault Unit :=
  match tx with
  | some tx => if tx ∈ db.cut then .error .disconnected else .ok ()
  | none => if db.isClosed then .error .poolClosed else .ok ()

/-- Receives a statement on a connection, if there is one. A transaction whose connection is cut has
none from then on. -/
def receiveOn (tx : Option Nat) (sql : String) (parameters : List Value) :
    StateM ScriptedDatabase (Except DatabaseFault (List Row)) := do
  match connection tx (← get) with
  | .error fault => return .error fault
  | .ok () =>
    match ← receive sql parameters with
    | .rows rows => return .ok rows
    | .refusal message => return .error (.server message)
    | .cut =>
      modify fun db => { db with cut := tx.toList ++ db.cut }
      return .error .disconnected

/-- Answers a request. -/
def answer : (q : Request Nat) → StateM ScriptedDatabase q.Reply
  | .begin => do
    match ← receiveOn none "BEGIN" [] with
    | .error fault => return .error fault
    | .ok _ =>
      modify fun db => { db with begun := db.begun + 1 }
      return .ok (← get).begun
  | .commit tx => do
    match ← receiveOn (some tx) "COMMIT" [] with
    | .error fault => return .error fault
    | .ok _ =>
      modify fun db =>
        let applied := (db.noted.filter (·.1 = tx)).map fun (_, m) => (m.version, m.digest)
        { db with ledger.applied := db.ledger.applied ++ applied }
      return .ok ()
  | .rollback tx => do return (← receiveOn (some tx) "ROLLBACK" []).map fun _ => ()
  | .run tx statement => do
    let rows ← receiveOn tx statement.text statement.parameters
    return rows.map (·.map (readTimes statement))
  | .ledger => do
    let db ← get
    return (connection none db).map fun () => db.ledger
  | .record tx migration => do
    modify fun db => { db with noted := db.noted ++ [(tx, migration)] }
    return .ok ()

end ScriptedDatabase

end FeedSync.Rehearsal
