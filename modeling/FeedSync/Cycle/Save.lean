import FeedSync.Cycle.Call

/-!
# Saving one article

An article is saved in one **unit of work**: its row, its tags and their links are written in one
transaction, which is committed if all of it succeeded and rolled back otherwise. Whether the
article counts as new is asked right before its unit of work.
-/

namespace FeedSync

variable {Tx : Type}

/-- Does some work in a transaction of its own: commits it if the work succeeds, rolls it back if
the work fails. A failed rollback is reported and changes nothing. -/
def unitOfWork {α : Type} (work : Tx → Calls Tx (Tx × Except InfraError α)) :
    Calls Tx (Except InfraError α) := do
  match ← call .begin with
  | .error e => return .error e
  | .ok tx =>
    match ← work tx with
    | (tx, .ok a) =>
      match ← call (.commit tx) with
      | .error e => return .error e
      | .ok () => return .ok a
    | (tx, .error e) =>
      match ← call (.rollback tx) with
      | .error refusal =>
        report .unitOfWork .warn "ロールバックに失敗しました" [("error", .text refusal.message)]
      | .ok () => pure ()
      return .error e

/-- Writes an article and, if it has tags, the tags and the links to them. -/
def persist (a : Article) (tx : Tx) : Calls Tx (Tx × Except InfraError Unit) := do
  match ← call (.upsert tx a) with
  | (tx, .error e) => return (tx, .error e)
  | (tx, .ok id) =>
    if a.tags.isEmpty then return (tx, .ok ())
    else
      match ← call (.upsertTags tx a.tags) with
      | (tx, .error e) => return (tx, .error e)
      | (tx, .ok ()) => call (.link tx id a.tagIds)

/-- Saves an article of a source; the answer is whether it was new to the store. -/
def save (sourceId : String) (a : Article) : Calls Tx (Except InfraError Bool) := do
  match ← call (.held sourceId [a.externalId]) with
  | .error e => return .error e
  | .ok held =>
    match ← unitOfWork (persist a) with
    | .error e => return .error e
    | .ok () => return .ok (held.get? a.externalId).isNone

end FeedSync
