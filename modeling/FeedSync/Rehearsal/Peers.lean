import FeedSync.Article
import FeedSync.Error

/-!
# Peers for rehearsals

Stand-ins for what a cycle meets outside: a web that answers from a script, a source with a given
list of articles, and a publisher that only remembers what it was given.
-/

namespace FeedSync.Rehearsal

/-- A web that gives out prepared replies in order, whatever is asked for, and then always the
same one. -/
structure ScriptedWeb where
  replies : List (Except String String) := []
  fallback : Except String String := .error "no more responses"
  /-- The addresses asked for so far, each with the time of the request. -/
  requests : List (Nat × String) := []

/-- Asks a scripted web for the text at an address. -/
def ScriptedWeb.get (clock : Nat) (url : String) :
    StateM ScriptedWeb (Except InfraError String) := fun web =>
  let reply := web.replies.headD web.fallback
  (reply.mapError fun reason => .backend s!"モックHTTPエラー: {reason}",
    { web with replies := web.replies.tail, requests := web.requests ++ [(clock, url)] })

/-- A source with a given list of articles. -/
structure ListedSource where
  id : String
  articles : List Article := []
  /-- Why every fetch fails, if it does. -/
  failure : Option String := none
  /-- The page limits of the fetches so far. -/
  requestedPages : List UInt32 := []

/-- The name of every listed source. -/
def ListedSource.name : String := "Mock Source"

/-- Fetches from a listed source. -/
def ListedSource.fetch (maxPages : UInt32) :
    StateM ListedSource (Except InfraError (List Article)) := fun source =>
  let reply := match source.failure with
    | some reason => .error (.backend s!"モックソースエラー: {reason}")
    | none => .ok source.articles
  (reply, { source with requestedPages := source.requestedPages ++ [maxPages] })

/-- A publisher that remembers. -/
structure Publisher where
  /-- Whether it refuses everything, after having taken note of it. -/
  isFailing : Bool := false
  /-- The numbers of the articles that it refuses without taking note. -/
  refused : List Int64 := []
  published : List (Int64 × Bool) := []
  isClosed : Bool := false

/-- Gives an article to a publisher. -/
def Publisher.publish (a : Article) (isNew : Bool) :
    StateM Publisher (Except InfraError Unit) := fun publisher =>
  let refusal := .error (.backend "モック配信エラー")
  if a.externalId ∈ publisher.refused then (refusal, publisher)
  else
    (if publisher.isFailing then refusal else .ok (),
      { publisher with published := publisher.published ++ [(a.externalId, isNew)] })

end FeedSync.Rehearsal
