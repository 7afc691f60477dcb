import FeedSync.Cycle.Save

/-!
# Handling a store by hand

Single steps with a store, for which transactions have names. The steps are the same for every
store: they are made of the calls of a cycle.
-/

namespace FeedSync.Rehearsal

/-- A write in a transaction. -/
inductive WriteStep where
  | upsert (article : Article)
  | upsertTags (tags : List Tag)
  | link (articleId : Int64) (tagIds : List Int64)
  deriving DecidableEq, Repr

/-- A step with a store. -/
inductive StoreStep where
  /-- Begin a transaction under a name; one that has the name already is forgotten. -/
  | begin (tx : String)
  | commit (tx : String)
  | rollback (tx : String)
  /-- Forget a transaction. -/
  | drop (tx : String)
  | write (tx : String) (write : WriteStep)
  /-- Do some writes in a unit of work, until one fails. -/
  | run (writes : List WriteStep)
  | held (sourceId : String) (externalIds : List Int64)
  | readState (sourceId : String)
  | writeState (state : SyncState)
  deriving DecidableEq, Repr

/-- What a step gives. -/
inductive StepValue where
  | nothing
  /-- The end of a unit of work. -/
  | finished
  | id (id : Int64)
  | held (held : Held)
  | state (state : SyncState)

/-- The result of a step. -/
structure StepResult where
  value : Except InfraError StepValue
  /-- For a unit of work, the results of the writes that were done. -/
  writes : List (Except InfraError StepValue) := []

variable {Tx : Type}

/-- Does a write. -/
def WriteStep.perform (tx : Tx) : WriteStep → Calls Tx (Tx × Except InfraError StepValue)
  | .upsert a => do
    let (tx, result) ← call (.upsert tx a)
    return (tx, result.map .id)
  | .upsertTags tags => do
    let (tx, result) ← call (.upsertTags tx tags)
    return (tx, result.map fun () => .nothing)
  | .link articleId tagIds => do
    let (tx, result) ← call (.link tx articleId tagIds)
    return (tx, result.map fun () => .nothing)

/-- Does writes one after the other until one fails. -/
def performAll : List WriteStep → Tx → Calls Tx (Tx × Except InfraError Unit)
  | [], tx => return (tx, .ok ())
  | w :: ws, tx => do
    match ← w.perform tx with
    | (tx, .ok _) => performAll ws tx
    | (tx, .error e) => return (tx, .error e)

variable {m : Type → Type} [Monad m]

/-- Takes a transaction out of the named ones and does something with it. -/
def withTransaction (name : String) (act : Tx → StateT (List (String × Tx)) m StepResult) :
    StateT (List (String × Tx)) m StepResult := do
  match (← get).lookup name with
  | none => return { value := .error (.backend s!"no transaction {name}") }
  | some tx =>
    modify (·.filter (·.1 != name))
    act tx

/-- Answers calls and notes the results of the writes among them. -/
def noting (answer : (c : Call Tx) → m c.Reply) :
    (c : Call Tx) → StateT (List (Except InfraError StepValue)) m c.Reply
  | .upsert tx a => do
    let (tx, result) ← answer (.upsert tx a)
    modify (· ++ [result.map .id])
    return (tx, result)
  | .upsertTags tx tags => do
    let (tx, result) ← answer (.upsertTags tx tags)
    modify (· ++ [result.map fun () => .nothing])
    return (tx, result)
  | .link tx articleId tagIds => do
    let (tx, result) ← answer (.link tx articleId tagIds)
    modify (· ++ [result.map fun () => .nothing])
    return (tx, result)
  | c => answer c

/-- Does a step with a store whose calls are answered in a monad. -/
def StoreStep.perform (answer : (c : Call Tx) → m c.Reply) :
    StoreStep → StateT (List (String × Tx)) m StepResult
  | .begin name => do
    match ← answer .begin with
    | .error e => return { value := .error e }
    | .ok tx =>
      modify fun named => (name, tx) :: named.filter (·.1 != name)
      return { value := .ok .nothing }
  | .commit name => withTransaction name fun tx => do
    return { value := (← answer (.commit tx)).map fun () => .nothing }
  | .rollback name => withTransaction name fun tx => do
    return { value := (← answer (.rollback tx)).map fun () => .nothing }
  | .drop name => withTransaction name fun _ => return { value := .ok .nothing }
  | .write name w => withTransaction name fun tx => do
    let (tx, value) ← StateT.lift ((w.perform tx).run answer)
    modify ((name, tx) :: ·)
    return { value }
  | .run ws => do
    let (result, writes) ← ((unitOfWork (performAll ws)).run (noting answer)).run []
    return { value := result.map fun () => .finished, writes }
  | .held sourceId externalIds => do
    return { value := (← answer (.held sourceId externalIds)).map .held }
  | .readState sourceId => do
    return { value := (← answer (.readState sourceId)).map .state }
  | .writeState state => do
    return { value := (← answer (.writeState state)).map fun () => .nothing }

end FeedSync.Rehearsal
