import FeedSync.Feed.Fetch
import FeedSync.Proofs.Text.Digits
import FeedSync.Proofs.Trace
import Mathlib.Data.List.Forall2

/-!
# How a fetch goes from page to page

Which requests a fetch makes, when it waits, when it stops and what it ends with, whatever the
content API replies: every attempt at a page may bring a page, a text that is none, or an error. The
attempts at one page are a **visit**, a closed stretch of the trace; a fetch is a tour of visits to
the pages 0, 1, 2 and so on, which ends at the last page, at the limit, or at a page that cannot be
read.

## Main definitions

* `Addresses` — what the addresses of pages say.
* `Visit`, `Visit.calls`, `Visit.Made` — the attempts at one page.
* `Tour` — visits to pages in a row, each of which has brought its page.
* `Describes` — what the article of a record says.
* `Paging` — the calls and the result of a whole fetch.

## Main statements

* `Settings.addresses_pageUrl` — each page has its own address, in which its number stands.
* `visit_of_yields`, `tour_of_yields` — the loop over the attempts makes a visit, the loop over the
  pages a tour.
* `fetch_pages_and_retries` — every fetch ends, and goes from page to page as `Paging` says.
-/

namespace FeedSync.Feed

open Program

/-! ### Calls -/

/-- Whether a call writes to the log. -/
def Call.isLog : Call → Bool
  | .log _ => true
  | _ => false

/-- A trace without what it writes to the log: requests, waits and readings of the clock. -/
def calls (t : Trace Web) : Trace Web := t.filter fun x => !x.request.isLog

theorem calls_append (t t' : Trace Web) : calls (t ++ t') = calls t ++ calls t' :=
  List.filter_append t t'

/-! ### Addresses -/

/-- The character after which one more setting is put into the query of an address. -/
def queryMark (address : String) : Char := if '?' ∈ address.toList then '&' else '?'

/-- The characters of the address of a page: after the base address come the page size and the
number of the page, in decimal, as two more settings of its query. -/
def Settings.pageChars (settings : Settings) (page : Nat) : List Char :=
  settings.baseUrl.toList ++ queryMark settings.baseUrl ::
    ("pageSize=".toList ++ Text.decimal settings.pageSize.toNat ++
      ("&page=".toList ++ Text.decimal page))

/-- **The addresses of pages**: the size and the number of the page stand in the address, and no two
pages have the same one. -/
structure Addresses (settings : Settings) (address : Nat → String) : Prop where
  toList_eq : ∀ page, (address page).toList = settings.pageChars page
  injective : Function.Injective address

namespace Settings

/-- What the address of a page consists of. -/
theorem toList_pageUrl (settings : Settings) (page : Nat) :
    (settings.pageUrl page).toList = settings.pageChars page := by
  have hmark : (if settings.baseUrl.contains '?' then "&" else "?").toList =
      [queryMark settings.baseUrl] := by
    rw [String.contains_char_eq, queryMark]
    by_cases hquery : '?' ∈ settings.baseUrl.toList <;> simp [hquery]
  have hurl : settings.pageUrl page = settings.baseUrl ++
      (if settings.baseUrl.contains '?' then "&" else "?") ++ "pageSize=" ++
      toString settings.pageSize.toNat ++ "&page=" ++ toString page := rfl
  rw [hurl, pageChars]
  simp only [String.toList_append, hmark, Text.toList_toString, List.append_assoc,
    List.cons_append, List.nil_append]

/-- **Each page has its own address**, in which its number stands. -/
theorem addresses_pageUrl (settings : Settings) : Addresses settings settings.pageUrl := by
  refine ⟨settings.toList_pageUrl, fun page page' h => ?_⟩
  have hchars := congrArg String.toList h
  rw [toList_pageUrl, toList_pageUrl] at hchars
  simp only [pageChars, List.append_cancel_left_eq, List.cons.injEq, true_and] at hchars
  calc page = Text.digitsValue (Text.decimal page) := (Text.digitsValue_decimal page).symm
    _ = Text.digitsValue (Text.decimal page') := congrArg Text.digitsValue hchars
    _ = page' := Text.digitsValue_decimal page'

end Settings

/-! ### Attempts -/

/-- What the reply to a request comes to: the page in it, or why there is none. -/
def readReply (url : String) : Except InfraError String → Except InfraError Page
  | .error e => .error e
  | .ok text => (Page.ofText text).mapError (.decoding s!"ECBレスポンスの解析: {url}")

/-- An attempt is one request, whose reply is read. -/
theorem attempt_of_yields {url : String} {t : Trace Web} {outcome : Except InfraError Page}
    (h : Yields (attemptPage url) t outcome) :
    ∃ reply, t = [⟨.get url, reply⟩] ∧ outcome = readReply url reply := by
  rw [attemptPage] at h
  obtain ⟨reply, rest, rfl, hreply⟩ := yields_request_bind.mp h
  refine ⟨reply, ?_⟩
  cases reply with
  | error e =>
      obtain ⟨rfl, rfl⟩ := hreply
      exact ⟨rfl, rfl⟩
  | ok text =>
      simp only at hreply
      split at hreply
      · next fault hfault =>
          obtain ⟨rfl, rfl⟩ := hreply
          exact ⟨rfl, by rw [readReply, hfault]; rfl⟩
      · next p hp =>
          obtain ⟨rfl, rfl⟩ := hreply
          exact ⟨rfl, by rw [readReply, hp]; rfl⟩

/-! ### Visits -/

/-- The attempts at a page: the replies to all of them but the last one, and to that one. -/
structure Visit where
  number : Nat
  failed : List (Except InfraError String)
  last : Except InfraError String

/-- The calls for attempts at a page, the first of which is counted as given: always the same
request, and between two of them the wait after the first one of both. -/
def attemptCalls (settings : Settings) (number first : Nat)
    (failed : List (Except InfraError String)) (last : Except InfraError String) : Trace Web :=
  (failed.zipIdx first).flatMap (fun (reply, attempt) =>
    [⟨.get (settings.pageUrl number), reply⟩, ⟨.wait (settings.backoff attempt), ()⟩]) ++
  [⟨.get (settings.pageUrl number), last⟩]

namespace Visit

/-- What a reply in a visit comes to. -/
def read (settings : Settings) (v : Visit) (reply : Except InfraError String) :
    Except InfraError Page :=
  readReply (settings.pageUrl v.number) reply

/-- What a visit has brought: the page, or the error of its last attempt. -/
def outcome (settings : Settings) (v : Visit) : Except InfraError Page := v.read settings v.last

/-- The calls of a visit. -/
def calls (settings : Settings) (v : Visit) : Trace Web :=
  attemptCalls settings v.number 1 v.failed v.last

/-- **A visit as it is made**: it goes on after failed attempts only, and as long as there are
attempts left. -/
structure Made (settings : Settings) (v : Visit) : Prop where
  failed : ∀ reply ∈ v.failed, ∃ e, v.read settings reply = .error e
  inTime : v.failed.length < max 1 settings.maxAttempts.toNat
  ended : (∃ p, v.outcome settings = .ok p) ∨
    v.failed.length + 1 = max 1 settings.maxAttempts.toNat

/-- Numbers of 32 bits suffice to count the pages up to a visit and its attempts. -/
def FitsWords (v : Visit) : Prop :=
  v.number + 1 < UInt32.size ∧ v.failed.length + 1 < UInt32.size

end Visit

variable {settings : Settings} {t : Trace Web}

/-- A visit to a page below a limit of 32 bits can be counted in 32 bits. -/
theorem Visit.Made.fitsWords {v : Visit} (h : v.Made settings) (limit : UInt32)
    (hlimit : v.number < limit.toNat) : v.FitsWords := by
  have hin := h.inTime
  have hpages := limit.toNat_lt
  have hattempts := settings.maxAttempts.toNat_lt
  constructor
  · change _ < 2 ^ 32
    omega
  · change _ < 2 ^ 32
    omega

/-- The error of a page that all its attempts have failed at. -/
def exhausted (settings : Settings) (outcome : Except InfraError Page) : Except InfraError Page :=
  outcome.mapError (.retriesExhausted settings.attempts)

/-- The calls for some attempts, of which the first one has failed. -/
theorem attemptCalls_cons (number first : Nat) (reply last : Except InfraError String)
    (failed : List (Except InfraError String)) :
    attemptCalls settings number first (reply :: failed) last =
      ⟨.get (settings.pageUrl number), reply⟩ :: ⟨.wait (settings.backoff first), ()⟩ ::
        attemptCalls settings number (first + 1) failed last := by
  simp [attemptCalls]

/-- The attempts from the given one on: failed ones, each with a wait after it, and a last one,
which brings the page or is the last that is left. -/
theorem attempts_of_yields {number retries attempt : Nat} {outcome : Except InfraError Page}
    (h : Yields (retryPage settings number retries attempt) t outcome) :
    ∃ failed last, calls t = attemptCalls settings number attempt failed last ∧
      (∀ reply ∈ failed, ∃ e, readReply (settings.pageUrl number) reply = .error e) ∧
      failed.length ≤ retries ∧
      ((∃ p, readReply (settings.pageUrl number) last = .ok p) ∨ failed.length = retries) ∧
      outcome = exhausted settings (readReply (settings.pageUrl number) last) := by
  induction retries generalizing attempt t with
  | zero =>
      rw [retryPage] at h
      obtain ⟨t₁, t₂, read, rfl, hattempt, hend⟩ := yields_bind.mp h
      obtain ⟨reply, rfl, rfl⟩ := attempt_of_yields hattempt
      refine ⟨[], reply, ?_, nofun, (Nat.le_refl _), .inr rfl, ?_⟩ <;>
      cases hread : readReply (settings.pageUrl number) reply <;>
      · rw [hread] at hend
        obtain ⟨rfl, rfl⟩ := hend
        rfl
  | succ retries ih =>
      rw [retryPage] at h
      obtain ⟨t₁, t₂, read, rfl, hattempt, hend⟩ := yields_bind.mp h
      obtain ⟨reply, rfl, rfl⟩ := attempt_of_yields hattempt
      cases hread : readReply (settings.pageUrl number) reply with
      | ok p =>
          rw [hread] at hend
          obtain ⟨rfl, rfl⟩ := hend
          exact ⟨[], reply, rfl, nofun, Nat.zero_le _, .inl ⟨p, hread⟩, by rw [hread]; rfl⟩
      | error e =>
          rw [hread] at hend
          obtain ⟨_, rest, rfl, hwait⟩ := yields_request_bind.mp hend
          obtain ⟨_, rest, rfl, hretry⟩ := yields_request_bind.mp hwait
          obtain ⟨failed, last, hcalls, hfailed, hlength, hended, rfl⟩ := ih hretry
          refine ⟨reply :: failed, last, ?_, ?_, Nat.succ_le_succ hlength,
            hended.imp_right (congrArg Nat.succ), rfl⟩
          · rw [attemptCalls_cons, ← hcalls]
            rfl
          · exact List.forall_mem_cons.mpr ⟨⟨e, hread⟩, hfailed⟩

/-- A page has the attempts of the settings, and at least one. -/
theorem toNat_attempts (settings : Settings) :
    settings.attempts.toNat = max 1 settings.maxAttempts.toNat := by
  rw [Settings.attempts]
  change (if settings.maxAttempts ≤ 1 then (1 : UInt32) else settings.maxAttempts).toNat = _
  split
  · next h =>
      have h : settings.maxAttempts.toNat ≤ 1 := UInt32.le_iff_toNat_le.mp h
      exact (Nat.max_eq_left h).symm
  · next h =>
      have h : ¬ settings.maxAttempts.toNat ≤ 1 := fun h' => h (UInt32.le_iff_toNat_le.mpr h')
      exact (Nat.max_eq_right (by omega)).symm

/-- **The loop over the attempts makes a visit.** -/
theorem visit_of_yields {number : Nat} {outcome : Except InfraError Page}
    (h : Yields (fetchPage settings number) t outcome) :
    ∃ v : Visit, v.number = number ∧ v.Made settings ∧ calls t = v.calls settings ∧
      outcome = exhausted settings (v.outcome settings) := by
  rw [fetchPage] at h
  obtain ⟨failed, last, hcalls, hfailed, hlength, hended, hresult⟩ := attempts_of_yields h
  rw [toNat_attempts] at hlength hended
  refine ⟨⟨number, failed, last⟩, rfl, ⟨hfailed, ?_, hended.imp_right fun h => ?_⟩, hcalls, hresult⟩
  · change failed.length < _
    omega
  · change failed.length + 1 = _
    omega

/-! ### Tours -/

/-- Visits to pages in a row from the given one on, each of which has brought its page. -/
structure Tour (settings : Settings) (first : Nat) (visits : List Visit) (pages : List Page) :
    Prop where
  numbers : visits.map Visit.number = List.range' first visits.length
  made : ∀ v ∈ visits, v.Made settings
  outcomes : visits.map (Visit.outcome settings) = pages.map .ok

/-- Each of some pages in a row, from the one with the given number on, says that more pages
follow. -/
def Continue (first : Nat) (pages : List Page) : Prop :=
  ∀ i p, pages[i]? = some p → first + i + 1 < p.info.numPages.toNat

theorem Tour.nil (first : Nat) : Tour settings first [] [] := ⟨rfl, nofun, rfl⟩

/-- A visit before a tour. -/
theorem Tour.cons {first : Nat} {v : Visit} {p : Page} {visits : List Visit} {pages : List Page}
    (hnumber : v.number = first) (hmade : v.Made settings) (hpage : v.outcome settings = .ok p)
    (h : Tour settings (first + 1) visits pages) :
    Tour settings first (v :: visits) (p :: pages) where
  numbers := by rw [List.map_cons, hnumber, h.numbers]; rfl
  made := List.forall_mem_cons.mpr ⟨hmade, h.made⟩
  outcomes := by rw [List.map_cons, List.map_cons, hpage, h.outcomes]

theorem Tour.length_eq {first : Nat} {visits : List Visit} {pages : List Page}
    (h : Tour settings first visits pages) : visits.length = pages.length := by
  simpa using congrArg List.length h.outcomes

/-- The visits of a tour have the numbers from its first one on. -/
theorem Tour.number_lt {first : Nat} {visits : List Visit} {pages : List Page}
    (h : Tour settings first visits pages) {v : Visit} (hv : v ∈ visits) :
    v.number < first + pages.length := by
  have hmem : v.number ∈ visits.map Visit.number := List.mem_map_of_mem hv
  rw [h.numbers, List.mem_range'_1, h.length_eq] at hmem
  exact hmem.2

theorem Continue.nil (first : Nat) : Continue first [] := nofun

theorem Continue.cons {first : Nat} {p : Page} {pages : List Page}
    (hp : first + 1 < p.info.numPages.toNat) (h : Continue (first + 1) pages) :
    Continue first (p :: pages) := by
  intro i q hq
  cases i with
  | zero =>
      obtain rfl : p = q := Option.some.inj hq
      exact hp
  | succ i =>
      have := h i q hq
      omega

/-- **How a tour of at most so many pages ends**, with its calls and what it gives. -/
inductive TourEnds (settings : Settings) (left first : Nat) :
    Trace Web → Except InfraError (List Content) → Prop
  /-- All pages that were asked for were read, and the last one of them is the last of all or the
  last that may be asked for. -/
  | read {visits : List Visit} {pages : List Page} (tour : Tour settings first visits pages)
      (hlength : pages.length ≤ left) (hmore : Continue first pages.dropLast)
      (hdone : pages.length = left ∨
        ∃ p, pages.getLast? = some p ∧ p.info.numPages.toNat ≤ first + pages.length) :
      TourEnds settings left first (visits.flatMap (Visit.calls settings))
        (.ok (pages.flatMap Page.content))
  /-- The attempts at a page ran out. -/
  | stopped {visits : List Visit} {pages : List Page} {last : Visit} {e : InfraError}
      (tour : Tour settings first visits pages)
      (hlength : pages.length < left) (hmore : Continue first pages)
      (hnumber : last.number = first + pages.length) (hmade : last.Made settings)
      (hlast : last.outcome settings = .error e) :
      TourEnds settings left first (visits.flatMap (Visit.calls settings) ++ last.calls settings)
        (.error (.retriesExhausted settings.attempts e))

/-- A tour goes on after a page that says so. -/
theorem TourEnds.cons {left first : Nat} {v : Visit} {p : Page} {t : Trace Web}
    {result : Except InfraError (List Content)} (hnumber : v.number = first)
    (hmade : v.Made settings) (hpage : v.outcome settings = .ok p)
    (hp : first + 1 < p.info.numPages.toNat) (h : TourEnds settings left (first + 1) t result) :
    TourEnds settings (left + 1) first (v.calls settings ++ t) (result.map (p.content ++ ·)) := by
  cases h with
  | @read visits pages tour hlength hmore hdone =>
      refine .read (tour.cons hnumber hmade hpage) (Nat.succ_le_succ hlength) ?_ ?_
      · cases pages with
        | nil => exact .nil first
        | cons q pages => exact hmore.cons hp
      · rcases hdone with hleft | ⟨q, hq, hnum⟩
        · exact .inl (congrArg Nat.succ hleft)
        · refine .inr ⟨q, by rw [List.getLast?_cons, hq]; rfl, ?_⟩
          rw [List.length_cons]
          omega
  | @stopped visits pages last e tour hlength hmore hlastNumber hlastMade hlast =>
      rw [← List.append_assoc]
      refine .stopped (tour.cons hnumber hmade hpage) (Nat.succ_lt_succ hlength) (hmore.cons hp) ?_
        hlastMade hlast
      rw [hlastNumber, List.length_cons]
      omega

/-- **The loop over the pages makes a tour.** What it gives is what was fetched before, followed by
the records of its own pages. -/
theorem tour_of_yields {left first : Nat} {fetched : List Content}
    {result : Except InfraError (List Content)}
    (h : Yields (fetchPages settings left first fetched) t result) :
    ∃ own, TourEnds settings left first (calls t) own ∧ result = own.map (fetched ++ ·) := by
  induction left generalizing first fetched t with
  | zero =>
      obtain ⟨rfl, rfl⟩ := h
      refine ⟨_, .read (.nil first) (Nat.le_refl _) (.nil first) (.inl rfl), ?_⟩
      exact congrArg Except.ok (List.append_nil fetched).symm
  | succ left ih =>
      rw [fetchPages] at h
      obtain ⟨t₁, t₂, reply, rfl, hvisit, hrest⟩ := yields_bind.mp h
      obtain ⟨v, hnumber, hmade, hcalls, rfl⟩ := visit_of_yields hvisit
      rw [calls_append, hcalls]
      cases hpage : v.outcome settings with
      | error e =>
          rw [hpage] at hrest
          obtain ⟨rfl, rfl⟩ := hrest
          refine ⟨.error (.retriesExhausted settings.attempts e), ?_, rfl⟩
          change TourEnds settings (left + 1) first (v.calls settings ++ []) _
          rw [List.append_nil]
          exact .stopped (.nil first) (Nat.succ_pos left) (.nil first) hnumber hmade hpage
      | ok p =>
          rw [hpage] at hrest
          obtain ⟨_, rest, rfl, hgo⟩ := yields_request_bind.mp hrest
          split at hgo
          · next hlast =>
              obtain ⟨rfl, rfl⟩ := hgo
              refine ⟨_, .read (Tour.cons hnumber hmade hpage (.nil (first + 1)))
                (Nat.succ_le_succ (Nat.zero_le left)) (.nil first) (.inr ⟨p, rfl, hlast⟩), ?_⟩
              rw [List.flatMap_singleton]
              rfl
          · next hlast =>
              obtain ⟨own, htour, rfl⟩ := ih hgo
              refine ⟨_, htour.cons hnumber hmade hpage (Nat.not_le.mp hlast), ?_⟩
              cases own with
              | error e => rfl
              | ok own => exact congrArg Except.ok (List.append_assoc fetched p.content own)

/-! ### Articles -/

/-- Whether both times of a record can be read. -/
def isReadable (now : Instant) (c : Content) : Bool :=
  (Instant.ofDateText? now c.date).isSome && (Instant.ofEpochMillis? c.lastModified).isSome

/-- **What the article of a record says.** -/
structure Describes (now : Instant) (c : Content) (a : Article) : Prop where
  sourceId : a.sourceId = "ecb"
  externalId : a.externalId = c.id
  title : a.title = c.title
  description : a.description = c.description
  summary : a.summary = c.summary
  body : a.body = c.body
  author : a.author = c.author
  canonicalUrl : a.canonicalUrl = c.canonicalUrl
  /-- It has the record's picture, if the address of that is not empty. -/
  imageUrl : ∀ url, a.imageUrl = some url ↔
    url ≠ "" ∧ ∃ media, c.leadMedia = some media ∧ media.imageUrl = some url
  publishedAt : Instant.ofDateText? now c.date = some a.publishedAt
  lastModified : Instant.ofEpochMillis? c.lastModified = some a.lastModified
  duration : a.duration = c.duration
  tags : a.tags = c.tags.getD []

/-- A record becomes the article that it describes, if both of its times can be read. -/
theorem toArticle_cases (now : Instant) (c : Content) :
    (isReadable now c = true ∧ ∃ a, c.toArticle now = .ok a ∧ Describes now c a) ∨
      (isReadable now c = false ∧ ∃ omission, c.toArticle now = .error omission) := by
  rw [Content.toArticle, isReadable]
  cases hdate : Instant.ofDateText? now c.date with
  | none => exact .inr ⟨rfl, _, rfl⟩
  | some publishedAt =>
      cases hmodified : Instant.ofEpochMillis? c.lastModified with
      | none => exact .inr ⟨rfl, _, rfl⟩
      | some lastModified =>
          refine .inl ⟨rfl, _, rfl, ?_⟩
          refine ⟨rfl, rfl, rfl, rfl, rfl, rfl, rfl, rfl, fun url => ?_, hdate, hmodified, rfl, rfl⟩
          simp only [Content.imageUrl, Option.filter_eq_some_iff, Option.bind_eq_some_iff,
            Bool.not_eq_true', ← Bool.not_eq_true, String.isEmpty_iff]
          exact and_comm

/-- **The articles of some records**: one for each record that can be read, in order, and nothing is
asked for. -/
theorem articles_of_yields {now : Instant} {contents : List Content} {articles : List Article}
    (h : Yields (toArticles now contents) t articles) :
    calls t = [] ∧ List.Forall₂ (Describes now) (contents.filter (isReadable now)) articles := by
  induction contents generalizing t articles with
  | nil =>
      obtain ⟨rfl, rfl⟩ := h
      exact ⟨rfl, .nil⟩
  | cons c contents ih =>
      rw [toArticles] at h
      rcases toArticle_cases now c with ⟨hread, a, ha, hdescribes⟩ | ⟨hread, omission, ho⟩
      · rw [ha] at h
        obtain ⟨t₁, t₂, rest, rfl, hrest, rfl, rfl⟩ := yields_bind.mp h
        obtain ⟨hcalls, hall⟩ := ih hrest
        rw [List.append_nil, List.filter_cons_of_pos hread]
        exact ⟨hcalls, .cons hdescribes hall⟩
      · rw [ho] at h
        obtain ⟨_, rest, rfl, hrest⟩ := yields_request_bind.mp h
        obtain ⟨hcalls, hall⟩ := ih hrest
        rw [List.filter_cons_of_neg (Bool.eq_false_iff.mp hread)]
        exact ⟨hcalls, hall⟩

/-! ### Whole fetches -/

/-- **How a fetch goes from page to page**, as its calls and its result show it. Pages are counted
from 0, and all that is counted fits into 32 bits. -/
inductive Paging (settings : Settings) (maxPages : UInt32) :
    Trace Web → Except InfraError (List Article) → Prop
  /-- The pages were read one after the other, up to the first one that is the last by its own
  count, or up to the limit. The records on them that can be read become the articles. -/
  | fetched {visits : List Visit} {pages : List Page} {now : Instant} {articles : List Article}
      (tour : Tour settings 0 visits pages) (hwords : ∀ v ∈ visits, v.FitsWords)
      (hlength : pages.length ≤ maxPages.toNat) (hmore : Continue 0 pages.dropLast)
      (hdone : pages.length = maxPages.toNat ∨
        ∃ p, pages.getLast? = some p ∧ p.info.numPages.toNat ≤ pages.length)
      (harticles : List.Forall₂ (Describes now)
        ((pages.flatMap Page.content).filter (isReadable now)) articles) :
      Paging settings maxPages (visits.flatMap (Visit.calls settings) ++ [⟨.now, now⟩])
        (.ok articles)
  /-- The attempts at a page ran out: nothing else is asked for, and the error tells how many
  attempts a page has and what the last one met. -/
  | stopped {visits : List Visit} {pages : List Page} {last : Visit} {attempts : UInt32}
      {e : InfraError} (tour : Tour settings 0 visits pages)
      (hwords : ∀ v ∈ visits ++ [last], v.FitsWords)
      (hlength : pages.length < maxPages.toNat) (hmore : Continue 0 pages)
      (hnumber : last.number = pages.length) (hmade : last.Made settings)
      (hattempts : attempts.toNat = max 1 settings.maxAttempts.toNat)
      (hspent : last.failed.length + 1 = attempts.toNat)
      (hlast : last.outcome settings = .error e) :
      Paging settings maxPages (visits.flatMap (Visit.calls settings) ++ last.calls settings)
        (.error (.retriesExhausted attempts e))

/-- **Every fetch ends, and goes from page to page**, whatever answers its requests: a script of
replies, or surroundings with a state of any kind. The page that is asked for stands in the address
of each request. -/
theorem fetch_pages_and_retries {σ : Type} (handle : (q : Web.Request) → StateM σ (Web.Reply q))
    (s : σ) (settings : Settings) (maxPages : UInt32) :
    Paging settings maxPages (calls (trace handle (fetch settings maxPages) s))
        (run handle (fetch settings maxPages) s).1 ∧
      Addresses settings settings.pageUrl := by
  refine ⟨?_, settings.addresses_pageUrl⟩
  have h : Yields (fetch settings maxPages) (trace handle (fetch settings maxPages) s)
      (run handle (fetch settings maxPages) s).1 := (yields_trace _ _).1
  generalize trace handle (fetch settings maxPages) s = t at h ⊢
  generalize (run handle (fetch settings maxPages) s).1 = result at h ⊢
  rw [fetch] at h
  obtain ⟨t₁, t₂, reply, rfl, hpages, hrest⟩ := yields_bind.mp h
  obtain ⟨own, htour, rfl⟩ := tour_of_yields hpages
  rw [calls_append]
  generalize calls t₁ = t₁ at htour ⊢
  cases htour with
  | @read visits pages tour hlength hmore hdone =>
      obtain ⟨now, rest, rfl, hclock⟩ := yields_request_bind.mp hrest
      obtain ⟨t₃, t₄, articles, rfl, harticles, rfl, rfl⟩ := yields_bind.mp hclock
      obtain ⟨hcalls, hall⟩ := articles_of_yields harticles
      have hnow : calls (⟨.now, now⟩ :: (t₃ ++ [])) = [⟨.now, now⟩] := by
        rw [List.append_nil]
        exact congrArg (List.cons _) hcalls
      rw [hnow]
      refine .fetched tour (fun v hv => (tour.made v hv).fitsWords maxPages ?_) hlength
        hmore ?_ hall
      · have := tour.number_lt hv
        omega
      · simpa only [Nat.zero_add] using hdone
  | @stopped visits pages last e tour hlength hmore hnumber hmade hlast =>
      obtain ⟨rfl, rfl⟩ := hrest
      change Paging settings maxPages (_ ++ []) _
      rw [List.append_nil]
      refine .stopped tour ?_ hlength hmore (hnumber.trans (Nat.zero_add _)) hmade
        (toNat_attempts settings) ?_ hlast
      · intro v hv
        rcases List.mem_append.mp hv with hv | hv
        · refine (tour.made v hv).fitsWords maxPages ?_
          have := tour.number_lt hv
          omega
        · obtain rfl := List.mem_singleton.mp hv
          exact hmade.fitsWords maxPages (by omega)
      · rw [toNat_attempts]
        refine hmade.ended.resolve_left ?_
        rintro ⟨p, hp⟩
        nomatch hlast.symm.trans hp

end FeedSync.Feed
