import FeedSync.Article

/-!
# Which articles a cycle stores

Of the articles that a source delivers, a cycle stores those inside the **window**, which were
published after the cutoff, and of these, for each number, the **latest version**, if the store
does not hold it already.
-/

namespace FeedSync

/-- The end of the past that a cycle does not look at: the given number of days before now, and the
first instant where the calendar does not reach that far. -/
def historyCutoff (now : Instant) (days : UInt32) : Instant :=
  (now.minusDays? days.toNat).getD Instant.first

/-- The articles published after the cutoff. -/
def insideWindow (cutoff : Instant) (articles : List Article) : List Article :=
  articles.filter fun a => cutoff < a.publishedAt

/-- Puts an article where the first article with its number stands, if it is strictly later than
that one, or at the end if there is none. -/
def keepLatest : List Article → Article → List Article
  | [], a => [a]
  | kept :: rest, a =>
    if kept.externalId = a.externalId then
      if kept.lastModified < a.lastModified then a :: rest else kept :: rest
    else kept :: keepLatest rest a

/-- The latest version of each article: of those with the same number the one modified last, of
equally late ones the first, where the first of all stands. -/
def latestVersions (articles : List Article) : List Article := articles.foldl keepLatest []

/-- Whether an article is unknown to the store, or strictly later than what it holds. -/
def isNews (stored : Int64 → Option Instant) (a : Article) : Bool :=
  match stored a.externalId with
  | some lastModified => lastModified < a.lastModified
  | none => true

/-- The articles that a cycle stores, given what the store holds. -/
def selectForSync (articles : List Article) (stored : Int64 → Option Instant) : List Article :=
  (latestVersions articles).filter (isNews stored)

end FeedSync
