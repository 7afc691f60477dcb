import FeedSync.Proofs.Cycle.Scene
import FeedSync.Proofs.Selection
import FeedSync.Proofs.Trace

/-!
# The call protocol of a cycle

Which calls a cycle makes, in which order, and what it makes of the replies, whatever they are:
every call of the source, the stores and the publisher may succeed or fail. The calls of one article
are a closed stretch of the trace: its re-query, its unit of work, which is committed or rolled
back, and its publication. `Course` splits the trace of a whole cycle along the cycle's phases; what
is counted about a cycle in other modules starts from there.

## Main definitions

* `Writes`, `Works`, `Saves`, `Handles`, `HandlesAll` — the calls for one article, from the inside
  out, and for all articles.
* `Fate` — what became of a selected article.
* `Course` — the phases of a cycle that gets past its batch query.
* `Protocol` — the calls of a whole cycle.

## Main statements

* `yields_cycle` — the three ways in which a cycle goes.
* `handlesAll_of_yields` — the loop makes one stretch of calls for each article, in order, and
  counts what becomes of it.
* `cycle_keeps_protocol` — every cycle keeps the protocol.
-/

namespace FeedSync

open Program

variable {Tx : Type}

/-! ### Calls -/

namespace Call

/-- Whether a call reads a clock or writes to the log. All others are calls of the source, the
stores or the publisher. -/
def isAmbient : Call Tx → Bool
  | .external .now => true
  | .external .stopwatch => true
  | .external (.log _) => true
  | _ => false

/-- The number of the article that a call asks for, if it asks for a single one. -/
def asked? : Call Tx → Option Int64
  | .held _ [externalId] => some externalId
  | _ => none

/-- The number of the article that a call upserts. -/
def upserted? : Call Tx → Option Int64
  | .upsert _ a => some a.externalId
  | _ => none

end Call

/-- The reading of the clock that an exchange is. -/
def Exchange.reading? : Exchange (Collaborators Tx) → Option Instant
  | ⟨.external .now, now⟩ => some now
  | _ => none

namespace Cycle

/-- The calls of a trace that go to the source, the stores or the publisher. -/
def calls (t : Trace (Collaborators Tx)) : Trace (Collaborators Tx) :=
  t.filter fun x => !x.request.isAmbient

theorem calls_append (t t' : Trace (Collaborators Tx)) : calls (t ++ t') = calls t ++ calls t' :=
  List.filter_append t t'

/-! ### The calls for one article -/

/-- **The writes of an article** in a transaction: its row and, if it has tags, the tags and the
links to them, under the internal id that the row has got, up to the first one that fails. -/
inductive Writes (a : Article) (tx : Tx) :
    Trace (Collaborators Tx) → Tx → Except InfraError Unit → Prop
  | refused {tx' : Tx} {e : InfraError} :
      Writes a tx [⟨.upsert tx a, (tx', .error e)⟩] tx' (.error e)
  | untagged {tx' : Tx} {id : Int64} (htags : a.tags = []) :
      Writes a tx [⟨.upsert tx a, (tx', .ok id)⟩] tx' (.ok ())
  | tagsRefused {tx₁ tx' : Tx} {id : Int64} {e : InfraError} (htags : a.tags ≠ []) :
      Writes a tx [⟨.upsert tx a, (tx₁, .ok id)⟩, ⟨.upsertTags tx₁ a.tags, (tx', .error e)⟩]
        tx' (.error e)
  | linked {tx₁ tx₂ tx' : Tx} {id : Int64} {reply : Except InfraError Unit} (htags : a.tags ≠ []) :
      Writes a tx [⟨.upsert tx a, (tx₁, .ok id)⟩, ⟨.upsertTags tx₁ a.tags, (tx₂, .ok ())⟩,
        ⟨.link tx₂ id a.tagIds, (tx', reply)⟩] tx' reply

/-- **The unit of work of an article**: a transaction that is begun is ended once, with a commit if
all writes succeeded and with a rollback otherwise. -/
inductive Works (a : Article) : Trace (Collaborators Tx) → Except InfraError Unit → Prop
  | unbegun {e : InfraError} : Works a [⟨.begin, .error e⟩] (.error e)
  | committed {tx tx' : Tx} {t : Trace (Collaborators Tx)} {reply : Except InfraError Unit}
      (h : Writes a tx t tx' (.ok ())) :
      Works a (⟨.begin, .ok tx⟩ :: (t ++ [⟨.commit tx', reply⟩])) reply
  | rolledBack {tx tx' : Tx} {t : Trace (Collaborators Tx)} {e : InfraError}
      {reply : Except InfraError Unit} (h : Writes a tx t tx' (.error e)) :
      Works a (⟨.begin, .ok tx⟩ :: (t ++ [⟨.rollback tx', reply⟩])) (.error e)

/-- **The save of an article**: it is asked for once more, and is new if the answer does not have
its number; then follows its unit of work. -/
inductive Saves (sourceId : String) (a : Article) :
    Trace (Collaborators Tx) → Except InfraError Bool → Prop
  | unasked {e : InfraError} :
      Saves sourceId a [⟨.held sourceId [a.externalId], .error e⟩] (.error e)
  | failed {held : Held} {t : Trace (Collaborators Tx)} {e : InfraError}
      (h : Works a t (.error e)) :
      Saves sourceId a (⟨.held sourceId [a.externalId], .ok held⟩ :: t) (.error e)
  | stored {held : Held} {t : Trace (Collaborators Tx)} (h : Works a t (.ok ())) :
      Saves sourceId a (⟨.held sourceId [a.externalId], .ok held⟩ :: t)
        (.ok (held.get? a.externalId).isNone)

/-- What became of a selected article. -/
inductive Fate where
  /-- It was not saved. -/
  | failed
  /-- It was saved, as a new one or not, and the publisher, if there is one, gave this reply. -/
  | stored (isNew : Bool) (publication : Option (Except InfraError Unit))

/-- **The calls for an article**: its save and, if that succeeds and the cycle publishes, its
publication. -/
inductive Handles (settings : Settings) (a : Article) : Trace (Collaborators Tx) → Fate → Prop
  | failed {t : Trace (Collaborators Tx)} {e : InfraError}
      (h : Saves settings.sourceId a t (.error e)) : Handles settings a t .failed
  | unpublished {t : Trace (Collaborators Tx)} {isNew : Bool}
      (hpublishes : settings.publishes = false) (h : Saves settings.sourceId a t (.ok isNew)) :
      Handles settings a t (.stored isNew none)
  | published {t : Trace (Collaborators Tx)} {isNew : Bool} {reply : Except InfraError Unit}
      (hpublishes : settings.publishes = true) (h : Saves settings.sourceId a t (.ok isNew)) :
      Handles settings a (t ++ [⟨.external (.publish a isNew), reply⟩]) (.stored isNew (some reply))

/-! ### The calls for all articles -/

namespace Fate

/-- Whether the article was saved. -/
def isStored : Fate → Bool
  | stored _ _ => true
  | failed => false

/-- Whether the article was saved as a new one. -/
def isNew : Fate → Bool
  | stored isNew _ => isNew
  | failed => false

/-- Whether the article was saved as one that was known. -/
def isUpdate : Fate → Bool
  | stored isNew _ => !isNew
  | failed => false

/-- Whether the article was published. -/
def isPublished : Fate → Bool
  | stored _ (some (.ok ())) => true
  | _ => false

/-- Whether the article was not saved, or was saved and could not be published. -/
def isError : Fate → Bool
  | failed => true
  | stored _ (some (.error _)) => true
  | _ => false

end Fate

/-- Selected articles in order, each with what became of it. -/
abbrev Fates := List (Article × Fate)

namespace Fates

/-- The articles that were selected. -/
def articles (fates : Fates) : List Article := fates.map Prod.fst

/-- How many articles have a fate of some kind. -/
def count (kind : Fate → Bool) (fates : Fates) : Nat := fates.countP fun x => kind x.2

/-- The articles that were saved. -/
def stored (fates : Fates) : List Article := (fates.filter fun x => x.2.isStored).map Prod.fst

/-- The number of the article saved last. -/
def lastStored (fates : Fates) : Option Int64 := fates.stored.getLast?.map Article.externalId

/-- The progress of a cycle after some more articles. -/
def addTo (fates : Fates) (progress : Progress) : Progress where
  stats := { progress.stats with
    new := progress.stats.new + fates.count Fate.isNew
    updated := progress.stats.updated + fates.count Fate.isUpdate
    errors := progress.stats.errors + fates.count Fate.isError
    published := progress.stats.published + fates.count Fate.isPublished }
  lastStored := fates.lastStored.or progress.lastStored

end Fates

/-- **The calls for all articles**: one stretch after the other. -/
inductive HandlesAll (settings : Settings) : Trace (Collaborators Tx) → Fates → Prop
  | nil : HandlesAll settings [] []
  | cons {a : Article} {fate : Fate} {fates : Fates} {t t' : Trace (Collaborators Tx)}
      (h : Handles settings a t fate) (h' : HandlesAll settings t' fates) :
      HandlesAll settings (t ++ t') ((a, fate) :: fates)

/-! ### What the parts of a cycle call -/

variable {settings : Settings} {a : Article} {t : Trace (Collaborators Tx)}

/-- A report adds one exchange with the log, which is no call. -/
theorem yields_report_bind {part : Part} {level : Level} {message : String}
    {fields : List (String × Datum)} {α : Type} {f : Unit → Calls Tx α} {x : α}
    (h : Yields (report part level message fields >>= f) t x) :
    ∃ event rest, t = ⟨.external (.log event), ()⟩ :: rest ∧ Yields (f ()) rest x := by
  obtain ⟨_, rest, rfl, hrest⟩ := yields_request_bind.mp h
  exact ⟨_, rest, rfl, hrest⟩

/-- What a cycle writes for an article. -/
theorem writes_of_yields {tx : Tx} {reply : Tx × Except InfraError Unit}
    (h : Yields (persist a tx) t reply) : Writes a tx (calls t) reply.1 reply.2 := by
  rw [persist] at h
  obtain ⟨⟨tx₁, result⟩, rest, rfl, hupsert⟩ := yields_request_bind.mp h
  cases result with
  | error e =>
      obtain ⟨rfl, rfl⟩ := hupsert
      exact .refused
  | ok id =>
      simp only at hupsert
      split at hupsert
      · next htags =>
          obtain ⟨rfl, rfl⟩ := hupsert
          exact .untagged (List.isEmpty_iff.mp htags)
      · next htags =>
          have htags : a.tags ≠ [] := fun h => htags (List.isEmpty_iff.mpr h)
          obtain ⟨⟨tx₂, result⟩, rest, rfl, hlink⟩ := yields_request_bind.mp hupsert
          cases result with
          | error e =>
              obtain ⟨rfl, rfl⟩ := hlink
              exact .tagsRefused htags
          | ok u =>
              obtain rfl := yields_request.mp hlink
              exact .linked htags

/-- The calls of a unit of work. -/
theorem works_of_yields {result : Except InfraError Unit}
    (h : Yields (unitOfWork (persist a)) t result) : Works a (calls t) result := by
  rw [unitOfWork] at h
  obtain ⟨reply, rest, rfl, hbegin⟩ := yields_request_bind.mp h
  cases reply with
  | error e =>
      obtain ⟨rfl, rfl⟩ := hbegin
      exact .unbegun
  | ok tx =>
      obtain ⟨t₁, t₂, ⟨tx', result⟩, rfl, hwork, hend⟩ := yields_bind.mp hbegin
      have hwrites := writes_of_yields hwork
      change Works a (⟨.begin, .ok tx⟩ :: calls (t₁ ++ t₂)) _
      rw [calls_append]
      cases result with
      | ok u =>
          obtain ⟨reply, rest, rfl, hcommit⟩ := yields_request_bind.mp hend
          cases reply with
          | error e =>
              obtain ⟨rfl, rfl⟩ := hcommit
              exact .committed hwrites
          | ok u =>
              obtain ⟨rfl, rfl⟩ := hcommit
              exact .committed hwrites
      | error e =>
          obtain ⟨reply, rest, rfl, hrollback⟩ := yields_request_bind.mp hend
          cases reply with
          | ok u =>
              obtain ⟨rfl, rfl⟩ := hrollback
              exact .rolledBack hwrites
          | error refusal =>
              obtain ⟨event, rest, rfl, hdone⟩ := yields_report_bind hrollback
              obtain ⟨rfl, rfl⟩ := hdone
              exact .rolledBack hwrites

/-- The calls of a save. -/
theorem saves_of_yields {sourceId : String} {result : Except InfraError Bool}
    (h : Yields (save sourceId a) t result) : Saves sourceId a (calls t) result := by
  rw [save] at h
  obtain ⟨reply, rest, rfl, hquery⟩ := yields_request_bind.mp h
  cases reply with
  | error e =>
      obtain ⟨rfl, rfl⟩ := hquery
      exact .unasked
  | ok held =>
      obtain ⟨t₁, t₂, result, rfl, hwork, hend⟩ := yields_bind.mp hquery
      have hworks := works_of_yields hwork
      cases result with
      | error e =>
          obtain ⟨rfl, rfl⟩ := hend
          rw [List.append_nil]
          exact .failed hworks
      | ok u =>
          obtain ⟨rfl, rfl⟩ := hend
          rw [List.append_nil]
          exact .stored hworks

/-- A cycle that publishes calls the publisher once for each article, and counts the reply. -/
theorem published_of_yields {isNew : Bool} {stats stats' : Stats}
    (h : Yields (publish settings a isNew stats) t stats') :
    (settings.publishes = false ∧ calls t = [] ∧ stats' = stats) ∨
      (settings.publishes = true ∧ ∃ reply, calls t = [⟨.external (.publish a isNew), reply⟩] ∧
        stats' = match reply with
          | .ok () => { stats with published := stats.published + 1 }
          | .error _ => { stats with errors := stats.errors + 1 }) := by
  rw [publish] at h
  split at h
  · next hpublishes =>
      obtain ⟨reply, rest, rfl, hreply⟩ := yields_request_bind.mp h
      refine .inr ⟨hpublishes, reply, ?_⟩
      cases reply with
      | ok u =>
          obtain ⟨rfl, rfl⟩ := hreply
          exact ⟨rfl, rfl⟩
      | error e =>
          obtain ⟨event, rest, rfl, hdone⟩ := yields_report_bind hreply
          obtain ⟨rfl, rfl⟩ := hdone
          exact ⟨rfl, rfl⟩
  · next hpublishes =>
      obtain ⟨rfl, rfl⟩ := h
      exact .inl ⟨Bool.not_eq_true _ ▸ hpublishes, rfl, rfl⟩

/-- **The calls for one article**, and what the cycle counts. -/
theorem handles_of_yields {progress progress' : Progress}
    (h : Yields (handleArticle settings progress a) t progress') :
    ∃ fate, Handles settings a (calls t) fate ∧
      progress' = Fates.addTo [(a, fate)] progress := by
  rw [handleArticle] at h
  obtain ⟨t₁, t₂, result, rfl, hsave, hrest⟩ := yields_bind.mp h
  have hsaves := saves_of_yields hsave
  rw [calls_append]
  cases result with
  | error e =>
      obtain ⟨event, rest, rfl, hdone⟩ := yields_report_bind hrest
      obtain ⟨rfl, rfl⟩ := hdone
      refine ⟨.failed, ?_, rfl⟩
      change Handles settings a (calls t₁ ++ []) .failed
      rw [List.append_nil]
      exact .failed hsaves
  | ok isNew =>
      obtain ⟨t₃, t₄, stats, rfl, hpublish, hdone⟩ := yields_bind.mp hrest
      obtain ⟨rfl, rfl⟩ := hdone
      rw [List.append_nil]
      rcases published_of_yields hpublish with
        ⟨hpublishes, hcalls, rfl⟩ | ⟨hpublishes, reply, hcalls, rfl⟩
      · refine ⟨.stored isNew none, ?_, ?_⟩
        · rw [hcalls, List.append_nil]
          exact .unpublished hpublishes hsaves
        · cases isNew <;> rfl
      · refine ⟨.stored isNew (some reply), ?_, ?_⟩
        · rw [hcalls]
          exact .published hpublishes hsaves
        · cases isNew <;> cases reply <;> rfl

namespace Fates

theorem count_append (kind : Fate → Bool) (fates fates' : Fates) :
    (fates ++ fates').count kind = fates.count kind + fates'.count kind :=
  List.countP_append

theorem stored_append (fates fates' : Fates) :
    (fates ++ fates').stored = fates.stored ++ fates'.stored := by
  rw [stored, List.filter_append, List.map_append]
  rfl

/-- Of two stretches of articles the second one has the article saved last, if it has one that was
saved. -/
theorem lastStored_append (fates fates' : Fates) :
    (fates ++ fates').lastStored = fates'.lastStored.or fates.lastStored := by
  rw [lastStored, stored_append, List.getLast?_append, Option.map_or]
  rfl

/-- An article that was saved is either new or an update. -/
theorem length_stored (fates : Fates) :
    fates.stored.length = fates.count Fate.isNew + fates.count Fate.isUpdate := by
  induction fates with
  | nil => rfl
  | cons x fates ih =>
      rw [← List.singleton_append, stored_append, List.length_append, ih, count_append,
        count_append]
      obtain ⟨a, _ | ⟨_ | _, publication⟩⟩ := x
      · change 0 + _ = 0 + _ + (0 + _)
        omega
      · change 1 + _ = 0 + _ + (1 + _)
        omega
      · change 1 + _ = 1 + _ + (0 + _)
        omega

/-- The article stored last is the one saved last, if none was stored before. -/
theorem lastStored_addTo (fates : Fates) (stats : Stats) :
    (fates.addTo { stats }).lastStored = fates.lastStored :=
  Option.or_none

/-- The articles of two stretches are counted one after the other. -/
theorem addTo_append (fates fates' : Fates) (progress : Progress) :
    (fates ++ fates').addTo progress = fates'.addTo (fates.addTo progress) := by
  simp only [addTo, count_append, lastStored_append, Nat.add_assoc, Option.or_assoc]

end Fates

/-- **The calls for all articles**: one stretch for each, in order. The cycle counts what becomes of
them. -/
theorem handlesAll_of_yields {articles : List Article} {progress progress' : Progress}
    (h : Yields (handleAll settings progress articles) t progress') :
    ∃ fates : Fates, fates.articles = articles ∧ HandlesAll settings (calls t) fates ∧
      progress' = fates.addTo progress := by
  induction articles generalizing t progress with
  | nil =>
      obtain ⟨rfl, rfl⟩ := h
      exact ⟨[], rfl, .nil, rfl⟩
  | cons a rest ih =>
      rw [handleAll] at h
      obtain ⟨t₁, t₂, progress₁, rfl, harticle, hrest⟩ := yields_bind.mp h
      obtain ⟨fate, hhandles, rfl⟩ := handles_of_yields harticle
      obtain ⟨fates, rfl, hhandlesAll, rfl⟩ := ih hrest
      refine ⟨(a, fate) :: fates, rfl, ?_, (Fates.addTo_append [_] _ _).symm⟩
      rw [calls_append]
      exact .cons hhandles hhandlesAll

/-! ### The phases of a cycle -/

/-- **The end of a cycle**: the sync state of its source is read and, if that succeeds and the state
has a successor, written once, brought up to date for so many articles that were saved, the last of
which has the given number. Without a successor there is no reply, and nothing is written. -/
inductive Closes (settings : Settings) (synced : Nat) (lastStored : Option Int64) :
    Trace (Collaborators Tx) → Option (Except InfraError Unit) → Prop
  | unread {e : InfraError} :
      Closes settings synced lastStored [⟨.readState settings.sourceId, .error e⟩]
        (some (.error e))
  | overflown {state : SyncState} {now : Instant}
      (hadvance : advance? state now synced lastStored = none) :
      Closes settings synced lastStored [⟨.readState settings.sourceId, .ok state⟩] none
  | written {state state' : SyncState} {now : Instant} {reply : Except InfraError Unit}
      (hadvance : advance? state now synced lastStored = some state') :
      Closes settings synced lastStored [⟨.readState settings.sourceId, .ok state⟩,
        ⟨.writeState state', reply⟩] (some reply)

/-- The result of a cycle with some statistics, which ended with this reply about the sync state, or
without one. -/
def resultOf (stats : Stats) : Option (Except InfraError Unit) → Except CycleFault Stats
  | some (.ok ()) => .ok stats
  | some (.error e) => .error (.failed (.progress stats e))
  | none => .error (.overflow stats)

/-- The end of a cycle. -/
theorem closes_of_yields {progress : Progress} {reply : Option (Except InfraError Unit)}
    (h : Yields (updateState settings progress) t reply) :
    Closes settings progress.stats.synced progress.lastStored (calls t) reply := by
  rw [updateState] at h
  obtain ⟨read, rest, rfl, hread⟩ := yields_request_bind.mp h
  cases read with
  | error e =>
      obtain ⟨rfl, rfl⟩ := hread
      exact .unread
  | ok state =>
      obtain ⟨now, rest, rfl, hadvance⟩ := yields_request_bind.mp hread
      split at hadvance
      · next hnone =>
          obtain ⟨rfl, rfl⟩ := hadvance
          exact .overflown hnone
      · next state' hsome =>
          obtain ⟨written, rest, rfl, hdone⟩ := yields_request_bind.mp hadvance
          obtain ⟨rfl, rfl⟩ := hdone
          exact .written hsome

/-- The fetched articles inside the window, at a reading of the clock. -/
def windowAt (settings : Settings) (now : Instant) (fetched : List Article) : List Article :=
  insideWindow (historyCutoff now settings.historyDays) fetched

/-- The statistics of a cycle before it handles its first article. -/
def statsBefore (settings : Settings) (articles selected : List Article) : Stats where
  sourceId := settings.sourceId
  fetched := articles.length
  skipped := articles.length - selected.length

/-- **The course of a cycle** that gets past its batch query: what it was told, the stretches of its
trace, and how it counted. -/
structure Course (settings : Settings) (t : Trace (Collaborators Tx))
    (result : Except CycleFault Stats) where
  fetched : List Article
  /-- The reading of the clock that the window was computed from. -/
  now : Instant
  /-- What the store was said to hold of the articles inside the window. -/
  held : Held
  opening : Trace (Collaborators Tx)
  handling : Trace (Collaborators Tx)
  closing : Trace (Collaborators Tx)
  progress : Progress
  /-- The reply about the sync state. -/
  updated : Option (Except InfraError Unit)
  elapsed : Elapsed
  trace_eq : t = opening ++ (handling ++ closing)
  opening_eq : calls opening =
    [⟨.external (.fetch settings.maxPages), .ok fetched⟩,
      ⟨.held settings.sourceId ((windowAt settings now fetched).map Article.externalId), .ok held⟩]
  reading_eq : opening.findSome? Exchange.reading? = some now
  handled :
    let articles := windowAt settings now fetched
    let selected := selectForSync articles held.get?
    Yields (handleAll settings { stats := statsBefore settings articles selected } selected)
      handling progress
  closed : Closes settings progress.stats.synced progress.lastStored (calls closing) updated
  result_eq : result = resultOf { progress.stats with elapsed } updated

namespace Course

variable {result : Except CycleFault Stats} (c : Course settings t result)

/-- The articles inside the window. -/
def articles : List Article := windowAt settings c.now c.fetched

/-- The articles that are news. -/
def selected : List Article := selectForSync c.articles c.held.get?

/-- The statistics of the cycle. -/
def stats : Stats := { c.progress.stats with elapsed := c.elapsed }

/-- The calls of the whole cycle. -/
theorem calls_eq : calls t = ⟨.external (.fetch settings.maxPages), .ok c.fetched⟩ ::
    ⟨.held settings.sourceId (c.articles.map Article.externalId), .ok c.held⟩ ::
      (calls c.handling ++ calls c.closing) := by
  calc calls t = calls (c.opening ++ (c.handling ++ c.closing)) := congrArg calls c.trace_eq
    _ = calls c.opening ++ (calls c.handling ++ calls c.closing) := by
      rw [calls_append, calls_append]
    _ = _ := by rw [c.opening_eq]; rfl

/-- The reading of the clock is the first one of the cycle. -/
theorem findSome?_reading : t.findSome? Exchange.reading? = some c.now := by
  calc t.findSome? Exchange.reading?
    _ = (c.opening ++ (c.handling ++ c.closing)).findSome? Exchange.reading? :=
      congrArg _ c.trace_eq
    _ = some c.now := by rw [List.findSome?_append, c.reading_eq]; rfl

/-- **What became of the selected articles**, and how the cycle has counted it. -/
theorem exists_fates : ∃ fates : Fates, fates.articles = c.selected ∧
    HandlesAll settings (calls c.handling) fates ∧
    c.progress = fates.addTo { stats := statsBefore settings c.articles c.selected } :=
  handlesAll_of_yields c.handled

end Course

/-- **The end of a cycle** closes it, and tells the result that it closes with. -/
theorem closes_of_yields_conclude {started : Nat} {progress : Progress}
    {result : Except CycleFault Stats} (h : Yields (conclude settings started progress) t result) :
    ∃ updated elapsed, Closes settings progress.stats.synced progress.lastStored (calls t) updated ∧
      result = resultOf { progress.stats with elapsed } updated := by
  obtain ⟨t₁, t₂, updated, rfl, hupdate, hend⟩ := yields_bind.mp h
  have hcloses := closes_of_yields hupdate
  rw [calls_append]
  cases updated with
  | none =>
      obtain ⟨rfl, rfl⟩ := hend
      exact ⟨none, progress.stats.elapsed, (List.append_nil _).symm ▸ hcloses, rfl⟩
  | some updated =>
      obtain ⟨stopped, rest, rfl, hresult⟩ := yields_request_bind.mp hend
      refine ⟨some updated, Elapsed.ofNanos (stopped - started), ?_⟩
      cases updated with
      | error e =>
          obtain ⟨rfl, rfl⟩ := hresult
          exact ⟨(List.append_nil _).symm ▸ hcloses, rfl⟩
      | ok u =>
          obtain ⟨event, rest, rfl, hdone⟩ := yields_report_bind hresult
          obtain ⟨rfl, rfl⟩ := hdone
          exact ⟨(List.append_nil _).symm ▸ hcloses, rfl⟩

/-- What a cycle does with the articles inside the window. -/
theorem yields_store {started : Nat} {articles : List Article} {result : Except CycleFault Stats}
    (h : Yields (Cycle.store settings started articles) t result) :
    (∃ e, calls t = [⟨.held settings.sourceId (articles.map Article.externalId), .error e⟩] ∧
      result = .error (.failed (.filter e))) ∨
    ∃ held t₁ t₂ t₃ progress updated elapsed, t = t₁ ++ (t₂ ++ t₃) ∧
      calls t₁ = [⟨.held settings.sourceId (articles.map Article.externalId), .ok held⟩] ∧
      (let selected := selectForSync articles held.get?
      Yields (handleAll settings { stats := statsBefore settings articles selected } selected)
        t₂ progress) ∧
      Closes settings progress.stats.synced progress.lastStored (calls t₃) updated ∧
      result = resultOf { progress.stats with elapsed } updated := by
  rw [Cycle.store] at h
  obtain ⟨reply, rest, rfl, hquery⟩ := yields_request_bind.mp h
  cases reply with
  | error e =>
      obtain ⟨rfl, rfl⟩ := hquery
      exact .inl ⟨e, rfl, rfl⟩
  | ok held =>
      obtain ⟨event, rest, rfl, hselect⟩ := yields_report_bind hquery
      obtain ⟨t₂, t₃, progress, rfl, hhandle, hend⟩ := yields_bind.mp hselect
      obtain ⟨updated, elapsed, hcloses, hresult⟩ := closes_of_yields_conclude hend
      exact .inr ⟨held, [_, _], t₂, t₃, progress, updated, elapsed, rfl, rfl, hhandle, hcloses,
        hresult⟩

/-- **The three ways in which a cycle goes**: its source cannot be fetched, its batch query is
refused, or it takes its course. -/
theorem yields_cycle {result : Except CycleFault Stats}
    (h : Yields (cycle settings) t result) :
    (∃ e, calls t = [⟨.external (.fetch settings.maxPages), .error e⟩] ∧
      result = .error (.failed (.fetch e))) ∨
    (∃ fetched now e, calls t = [⟨.external (.fetch settings.maxPages), .ok fetched⟩,
        ⟨.held settings.sourceId ((windowAt settings now fetched).map Article.externalId),
          .error e⟩] ∧
      t.findSome? Exchange.reading? = some now ∧ result = .error (.failed (.filter e))) ∨
    Nonempty (Course settings t result) := by
  rw [cycle] at h
  obtain ⟨started, rest, rfl, hstart⟩ := yields_request_bind.mp h
  obtain ⟨event, rest, rfl, hfetch⟩ := yields_report_bind hstart
  obtain ⟨reply, rest, rfl, hreply⟩ := yields_request_bind.mp hfetch
  cases reply with
  | error e =>
      obtain ⟨rfl, rfl⟩ := hreply
      exact .inl ⟨e, rfl, rfl⟩
  | ok fetched =>
      obtain ⟨now, rest, rfl, hwindow⟩ := yields_request_bind.mp hreply
      obtain ⟨event₁, rest, rfl, hreport⟩ := yields_report_bind hwindow
      obtain ⟨event₂, rest, rfl, hstore⟩ := yields_report_bind hreport
      -- the exchanges up to here, among which only the fetch is a call
      let before : Trace (Collaborators Tx) :=
        [⟨.external .stopwatch, started⟩, ⟨.external (.log event), ()⟩,
          ⟨.external (.fetch settings.maxPages), .ok fetched⟩, ⟨.external .now, now⟩,
          ⟨.external (.log event₁), ()⟩, ⟨.external (.log event₂), ()⟩]
      have hbefore : ∀ t, calls (before ++ t) =
          ⟨.external (.fetch settings.maxPages), .ok fetched⟩ :: calls t := fun t => rfl
      right
      rcases yields_store hstore with ⟨e, hcalls, rfl⟩ |
        ⟨held, t₁, t₂, t₃, progress, updated, elapsed, rfl, hcalls, hhandle, hcloses, rfl⟩
      · exact .inl ⟨fetched, now, e, (hbefore _).trans (by rw [hcalls]; rfl), rfl, rfl⟩
      · exact .inr ⟨{
          fetched, now, held, progress, updated, elapsed
          opening := before ++ t₁
          handling := t₂
          closing := t₃
          trace_eq := rfl
          opening_eq := (hbefore t₁).trans (by rw [hcalls]; rfl)
          reading_eq := rfl
          handled := hhandle
          closed := hcloses
          result_eq := rfl }⟩

/-! ### What is called once -/

/-- The numbers of the articles that are asked for one by one, in order. -/
def asked (t : Trace (Collaborators Tx)) : List Int64 := t.filterMap fun x => x.request.asked?

/-- The numbers of the articles that are upserted, in order. -/
def upserted (t : Trace (Collaborators Tx)) : List Int64 := t.filterMap fun x => x.request.upserted?

variable {fate : Fate} {fates : Fates}

theorem asked_append (t t' : Trace (Collaborators Tx)) : asked (t ++ t') = asked t ++ asked t' :=
  List.filterMap_append

theorem upserted_append (t t' : Trace (Collaborators Tx)) :
    upserted (t ++ t') = upserted t ++ upserted t' :=
  List.filterMap_append

/-- The writes of an article begin with its only upsert, and ask for nothing. -/
theorem Writes.once {tx tx' : Tx} {reply : Except InfraError Unit} (h : Writes a tx t tx' reply) :
    asked t = [] ∧ upserted t = [a.externalId] := by
  cases h <;> exact ⟨rfl, rfl⟩

/-- A unit of work asks for nothing, and upserts its own article once at most. -/
theorem Works.once {reply : Except InfraError Unit} (h : Works a t reply) :
    asked t = [] ∧ (upserted t).Sublist [a.externalId] := by
  cases h with
  | unbegun => exact ⟨rfl, List.nil_sublist _⟩
  | @committed tx tx' t reply h =>
      change asked (t ++ [_]) = [] ∧ (upserted (t ++ [_])).Sublist _
      rw [asked_append, upserted_append, h.once.1, h.once.2]
      exact ⟨rfl, List.Sublist.refl _⟩
  | @rolledBack tx tx' t e reply h =>
      change asked (t ++ [_]) = [] ∧ (upserted (t ++ [_])).Sublist _
      rw [asked_append, upserted_append, h.once.1, h.once.2]
      exact ⟨rfl, List.Sublist.refl _⟩

/-- A save asks for its article once, and upserts it once at most. -/
theorem Saves.once {sourceId : String} {reply : Except InfraError Bool}
    (h : Saves sourceId a t reply) :
    asked t = [a.externalId] ∧ (upserted t).Sublist [a.externalId] := by
  cases h with
  | unasked => exact ⟨rfl, List.nil_sublist _⟩
  | failed h => exact ⟨congrArg (a.externalId :: ·) h.once.1, h.once.2⟩
  | stored h => exact ⟨congrArg (a.externalId :: ·) h.once.1, h.once.2⟩

/-- The calls for an article ask for it once, and upsert it once at most. -/
theorem Handles.once (h : Handles settings a t fate) :
    asked t = [a.externalId] ∧ (upserted t).Sublist [a.externalId] := by
  cases h with
  | failed h => exact h.once
  | unpublished _ h => exact h.once
  | published _ h =>
      rw [asked_append, upserted_append, h.once.1]
      exact ⟨rfl, (List.append_nil (upserted _)).symm ▸ h.once.2⟩

/-- **Each article is asked for once and upserted once at most**, in the order of the selection. -/
theorem HandlesAll.once (h : HandlesAll settings t fates) :
    asked t = fates.articles.map Article.externalId ∧
      (upserted t).Sublist (fates.articles.map Article.externalId) := by
  induction h with
  | nil => exact ⟨rfl, List.Sublist.refl _⟩
  | cons h _ ih =>
      rw [asked_append, upserted_append, h.once.1, ih.1]
      exact ⟨rfl, h.once.2.append ih.2⟩

/-! ### The protocol -/

/-- **The call protocol of a cycle**, as its trace and its result show it. -/
inductive Protocol (settings : Settings) (t : Trace (Collaborators Tx)) :
    Except CycleFault Stats → Prop
  /-- The source cannot be fetched: nothing else is called. -/
  | unfetched {e : InfraError}
      (hcalls : calls t = [⟨.external (.fetch settings.maxPages), .error e⟩]) :
      Protocol settings t (.error (.failed (.fetch e)))
  /-- The store cannot be asked what it holds of the articles inside the window: nothing is written
  or published. -/
  | unfiltered {fetched : List Article} {now : Instant} {e : InfraError}
      (hreading : t.findSome? Exchange.reading? = some now)
      (hcalls : calls t = [⟨.external (.fetch settings.maxPages), .ok fetched⟩,
        ⟨.held settings.sourceId ((windowAt settings now fetched).map Article.externalId),
          .error e⟩]) :
      Protocol settings t (.error (.failed (.filter e)))
  /-- The articles inside the window that are news are saved and published one after the other, each
  asked for once and upserted once at most; then the sync state is brought up to date, if its total
  holds the sum. -/
  | finished {fetched : List Article} {now : Instant} {held : Held} {fates : Fates}
      {handling closing : Trace (Collaborators Tx)} {stats : Stats}
      {updated : Option (Except InfraError Unit)}
      (hreading : t.findSome? Exchange.reading? = some now)
      (hcalls : calls t = ⟨.external (.fetch settings.maxPages), .ok fetched⟩ ::
        ⟨.held settings.sourceId ((windowAt settings now fetched).map Article.externalId),
          .ok held⟩ :: (handling ++ closing))
      (hselected : fates.articles = selectForSync (windowAt settings now fetched) held.get?)
      (hhandling : HandlesAll settings handling fates)
      (hdistinct : (fates.articles.map Article.externalId).Nodup)
      (hasked : asked handling = fates.articles.map Article.externalId)
      (hupserted : (upserted handling).Sublist (fates.articles.map Article.externalId))
      (hclosing : Closes settings fates.stored.length fates.lastStored closing updated) :
      Protocol settings t (resultOf stats updated)

end Cycle

end FeedSync
