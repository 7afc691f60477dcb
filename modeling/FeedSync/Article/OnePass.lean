import FeedSync.Article
import FeedSync.Store.Table

/-!
# Distinct tags in one pass

Tags can be made distinct in one pass over them, which notes the ids in the order in which they come
first, and for each id the label that came last. In the end the label of each id is looked up; there
is no answer if one of them is missing.
-/

namespace FeedSync.Tag

/-- What a pass over some tags has noted so far. -/
structure Notes where
  /-- The ids, each once. -/
  order : List Int64 := []
  /-- The label that came last with an id. -/
  labels : Table Int64 String := .empty

namespace Notes

/-- The notes with one more tag. -/
def add (n : Notes) (tag : Tag) : Notes where
  order := if (n.labels.get? tag.id).isNone then n.order ++ [tag.id] else n.order
  labels := n.labels.set tag.id tag.label

/-- The tag with an id, if a label was noted for it. -/
def tag? (n : Notes) (id : Int64) : Option Tag := (n.labels.get? id).map fun label => { id, label }

end Notes

/-- Tags with each id once, made in one pass. -/
def distinctInOnePass (tags : List Tag) : Option (List Tag) :=
  let notes := tags.foldl Notes.add {}
  notes.order.mapM notes.tag?

end FeedSync.Tag
