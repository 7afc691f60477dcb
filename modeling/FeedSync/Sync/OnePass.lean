import FeedSync.Store.Table
import FeedSync.Sync.Selection

/-!
# Selecting in one pass

The selection can be made in one pass over the articles, with a table that tells where the version
kept of each number stands: a later version is put in its place, and an article with a new number
gets the next place. The pass looks up places by their index and has no answer if one of them lies
outside the list.
-/

namespace FeedSync

/-- What a pass over some articles has kept so far. -/
structure Pass where
  kept : List Article := []
  /-- The index of the version that was kept of a number. -/
  positions : Table Int64 Nat := .empty

namespace Pass

/-- The pass goes over one more article. -/
def step (p : Pass) (a : Article) : Option Pass :=
  match p.positions.get? a.externalId with
  | some i =>
    match p.kept[i]? with
    | some k =>
      some (if k.lastModified < a.lastModified then { p with kept := p.kept.set i a } else p)
    | none => none
  | none =>
    some { kept := p.kept ++ [a], positions := p.positions.set a.externalId p.kept.length }

/-- The pass goes over some more articles. -/
def steps (p : Pass) (articles : List Article) : Option Pass := articles.foldlM step p

end Pass

/-- The articles that a cycle stores, selected in one pass. -/
def selectInOnePass (articles : List Article) (stored : Int64 → Option Instant) :
    Option (List Article) :=
  (Pass.steps {} articles).map fun p => p.kept.filter (isNews stored)

end FeedSync
