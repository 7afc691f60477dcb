import FeedSync.Config.Settings
import FeedSync.Proofs.Config.Fields
import FeedSync.Proofs.Config.Reference
import FeedSync.Proofs.Feed.Paging

/-!
# Accepted configurations

A configuration is completed before it is checked, and the check looks at two things only: the
address of the content API and the order of the waits. That is enough. No default is zero or empty,
so nothing is zero or empty in an accepted configuration that must not be; and a value that the text
gives is never replaced.

## Main definitions

* `Config.IsSafe` — a configuration that can be run with.
* `Writes`, `Config.Keeps` — what a text says, and a configuration that has it all.
* `Config.Violates` — why a completed configuration is refused.

## Main statements

* `accepted_configurations_are_safe` — what is accepted, and what is refused.
-/

namespace FeedSync

open Program

/-! ### The first request of a fetch -/

/-- A fetch that may fetch a page begins with a request for the first one. -/
theorem Feed.exists_get_of_yields {settings : Feed.Settings} {maxPages : UInt32}
    (hpos : 0 < maxPages.toNat) {t : Trace Feed.Web} {result : Except InfraError (List Article)}
    (h : Yields (Feed.fetch settings maxPages) t result) :
    ∃ reply rest, t = ⟨.get (settings.pageUrl 0), reply⟩ :: rest := by
  obtain ⟨pages, hpages⟩ := Nat.exists_eq_add_one_of_ne_zero (Nat.ne_of_gt hpos)
  rw [Feed.fetch, hpages] at h
  obtain ⟨t₁, rest₁, _, rfl, hfetch, -⟩ := yields_bind.mp h
  rw [Feed.fetchPages] at hfetch
  obtain ⟨t₂, rest₂, _, rfl, hpage, -⟩ := yields_bind.mp hfetch
  rw [Feed.fetchPage] at hpage
  generalize settings.attempts.toNat - 1 = retries at hpage
  have hattempt : ∃ t₃ rest₃ outcome, t₂ = t₃ ++ rest₃ ∧
      Yields (Feed.attemptPage (settings.pageUrl 0)) t₃ outcome := by
    cases retries with
    | zero | succ =>
      rw [Feed.retryPage] at hpage
      obtain ⟨t₃, rest₃, outcome, heq, hattempt, -⟩ := yields_bind.mp hpage
      exact ⟨t₃, rest₃, outcome, heq, hattempt⟩
  obtain ⟨t₃, rest₃, outcome, rfl, hattempt⟩ := hattempt
  obtain ⟨reply, rfl, -⟩ := Feed.attempt_of_yields hattempt
  exact ⟨reply, (rest₃ ++ rest₂) ++ rest₁, by simp⟩

namespace Config

open Yaml

/-! ### What was read -/

/-- A number of so many bits is below its bound. -/
theorem lt_of_word {bits n : Nat} {document : Document} {node : Node}
    (h : word bits document node = some n) : n < 2 ^ bits := by
  rw [word, unsigned] at h
  obtain ⟨text, -, h⟩ := Option.bind_eq_some_iff.mp h
  have hbound : ∀ o : Option Nat,
      (o.bind fun m => if m ≤ 2 ^ bits - 1 then some m else none) = some n → n ≤ 2 ^ bits - 1 := by
    intro o ho
    obtain ⟨m, -, hm⟩ := Option.bind_eq_some_iff.mp ho
    split at hm
    · exact Option.some.inj hm ▸ ‹_›
    · cases hm
  have hle : n ≤ 2 ^ bits - 1 := by
    rw [unsigned?] at h
    split at h <;> exact hbound _ h
  have hpos : 0 < 2 ^ bits := Nat.two_pow_pos bits
  omega

/-- A configuration that was read is built from the entries of some node. -/
theorem exists_build_of_ofText? {text : String} {c : Config} (h : record.ofText? text = some c) :
    ∃ document entry, record.build document entry = some c := by
  rw [Record.ofText?] at h
  obtain ⟨content, -, h⟩ := Option.bind_eq_some_iff.mp h
  cases content with
  | nothing => exact ⟨_, _, h⟩
  | document document =>
    obtain ⟨seen, -, hbuild⟩ := Record.exists_build_of_reader h
    exact ⟨_, _, hbuild⟩

/-- The numbers of a configuration that was read have few enough bits. -/
theorem NumberField.get_lt (field : NumberField) {text : String} {c : Config}
    (h : record.ofText? text = some c) : field.get c < 2 ^ field.bits := by
  obtain ⟨document, entry, hbuild⟩ := exists_build_of_ofText? h
  rcases field.hasFieldAt.origin hbuild with hzero | ⟨node, hread⟩
  · rw [hzero]
    exact Nat.two_pow_pos _
  · exact lt_of_word hread

/-- **A text writes a value** at a path of keys: its document has a node there that is read as the
value. -/
def Writes {α : Type} (text : String) (path : List String) (reader : Reader α) (v : α) : Prop :=
  ∃ document node, Content.ofText? text = some (.document document) ∧
    document.valueAt? path document.root = some node ∧ reader document node = some v

/-- What a text writes at the path of a field is in the field. -/
theorem Writes.get_eq {α : Type} {text : String} {path : List String} {reader : Reader α}
    {default v : α} {get : Config → α} {c : Config} (hwrites : Writes text path reader v)
    (hfield : record.HasFieldAt path reader default get) (h : record.ofText? text = some c) :
    get c = v := by
  obtain ⟨document, node, hcontent, hat, hread⟩ := hwrites
  rw [Record.ofText?, hcontent] at h
  exact Option.some.inj ((hfield.read h hat).symm.trans hread)

/-! ### What is accepted -/

/-- **A configuration that can be run with**: all numbers are positive and fit into their types, no
text is empty that must be there, and the waits are in order. -/
structure IsSafe (c : Config) : Prop where
  baseUrl : c.api.baseUrl ≠ ""
  backoff : 1 ≤ c.api.retry.initialBackoff ∧ c.api.retry.initialBackoff ≤ c.api.retry.maxBackoff
  numbers : ∀ field : NumberField, 1 ≤ field.get c ∧ field.get c < 2 ^ field.bits
  texts : ∀ field ∈ [TextField.databaseHost, .databaseName, .sslMode, .brokerUrl, .exchange,
    .routingKey, .queue, .logLevel], ∃ s, field.get c = some s ∧ s ≠ ""

/-- **A configuration has what a text says**: each number that is not zero, each text that is not
empty, and all other values. -/
structure Keeps (c : Config) (text : String) : Prop where
  numbers : ∀ (field : NumberField) (n : Nat), Writes text field.path (word field.bits) n →
    n ≠ 0 → field.get c = n
  texts : ∀ (field : TextField) (s : String), Writes text field.path field.reader (some s) →
    s ≠ "" → field.get c = some s
  enabled : ∀ b, Writes text ["rabbitmq", "enabled"] (nullable boolean) b → c.broker.isEnabled = b
  logFormat : ∀ format, Writes text ["log_format"] logFormatReader format → c.logFormat = format

/-- **Why a completed configuration is refused.** -/
inductive Violates (c : Config) : String → Prop
  | baseUrl (h : c.api.baseUrl = "") : Violates c "api.base_url が設定されていません"
  | backoff (hurl : c.api.baseUrl ≠ "") (h : c.api.retry.maxBackoff < c.api.retry.initialBackoff) :
      Violates c "api.retry.max_backoff_ms は initial_backoff_ms 以上である必要があります"

/-- What the check looks at. -/
theorem validate_cases (c : Config) :
    (c.validate = .ok () ∧ c.api.baseUrl ≠ "" ∧
      c.api.retry.initialBackoff ≤ c.api.retry.maxBackoff) ∨
    ∃ reason, c.validate = .error (.invalidValue reason) ∧ c.Violates reason := by
  rw [validate]
  split
  · next hurl => exact .inr ⟨_, rfl, .baseUrl (String.isEmpty_iff.mp hurl)⟩
  · next hurl =>
    have hurl : c.api.baseUrl ≠ "" := mt String.isEmpty_iff.mpr hurl
    split
    · next hbackoff => exact .inr ⟨_, rfl, .backoff hurl hbackoff⟩
    · next hbackoff => exact .inl ⟨rfl, hurl, Nat.not_lt.mp hbackoff⟩

/-- **The three ways in which a text is read**: it cannot be read, its configuration is refused, or
it is accepted. -/
theorem ofYaml_cases (env : Environment) (text : String) :
    (ofYaml env text = .error .unreadable ∧ record.ofText? (expand env text) = none) ∨
    ∃ c, record.ofText? (expand env text) = some c ∧
      ((∃ reason, ofYaml env text = .error (.invalidValue reason) ∧ c.complete.Violates reason) ∨
        (ofYaml env text = .ok c.complete ∧ c.complete.api.baseUrl ≠ "" ∧
          c.complete.api.retry.initialBackoff ≤ c.complete.api.retry.maxBackoff)) := by
  rw [ofYaml_eq]
  cases hread : record.ofText? (expand env text) with
  | none => exact .inl ⟨rfl, rfl⟩
  | some c =>
    refine .inr ⟨c, rfl, ?_⟩
    rw [finish]
    rcases c.complete.validate_cases with ⟨hvalid, hsafe⟩ | ⟨reason, hvalid, hviolates⟩
    · rw [hvalid]
      exact .inr ⟨rfl, hsafe⟩
    · rw [hvalid]
      exact .inl ⟨reason, rfl, hviolates⟩

/-- A completed configuration has positive numbers that fit into their types. -/
theorem NumberField.get_complete_fits (field : NumberField) {text : String} {c : Config}
    (h : record.ofText? text = some c) :
    1 ≤ field.get c.complete ∧ field.get c.complete < 2 ^ field.bits := by
  obtain ⟨hpos, hfits⟩ := field.default_fits
  rw [field.get_complete]
  refine ⟨orNumber_pos hpos _, ?_⟩
  rw [orNumber]
  split
  · exact hfits
  · exact field.get_lt h

/-- A completed configuration has what its text says. -/
theorem keeps_complete {text : String} {c : Config} (h : record.ofText? text = some c) :
    c.complete.Keeps text where
  numbers field n hwrites hn := by
    rw [field.get_complete, hwrites.get_eq field.hasFieldAt h, orNumber_of_ne hn]
  texts field s hwrites hs := by
    rw [field.get_complete, hwrites.get_eq field.hasFieldAt h, Option.map_some, orText_of_ne hs]
  enabled b hwrites := (hwrites.get_eq hasFieldAt_enabled h : c.broker.isEnabled = b)
  logFormat format hwrites := (hwrites.get_eq hasFieldAt_logFormat h : c.logFormat = format)

/-- **Accepted configurations are safe**, whatever the text and the environment are. What is
accepted can be run with: the ticker has a period, every cycle has time and asks for a page; it has
everything that the text says once its references are expanded, and completing it once more changes
nothing. What is refused for its values really is at fault. -/
theorem accepted_configurations_are_safe (env : Environment) (text : String) :
    (∀ c, ofYaml env text = .ok c →
      c.IsSafe ∧ c.Keeps (expand env text) ∧ c.complete = c ∧
      0 < c.schedule.interval ∧ 0 < c.schedule.timeout ∧
      ∀ t result, Yields (Feed.fetch c.feedSettings c.cycleSettings.maxPages) t result →
        ∃ reply rest, t = ⟨.get (c.feedSettings.pageUrl 0), reply⟩ :: rest) ∧
    ∀ reason, ofYaml env text = .error (.invalidValue reason) →
      ∃ c, record.ofText? (expand env text) = some c ∧ c.complete.Violates reason := by
  rcases ofYaml_cases env text with ⟨hyaml, -⟩ | ⟨c, hread, ⟨reason, hyaml, hviolates⟩ |
    ⟨hyaml, hurl, hbackoff⟩⟩
  · rw [hyaml]
    constructor <;> rintro _ ⟨⟩
  · rw [hyaml]
    constructor
    · rintro _ ⟨⟩
    · rintro _ ⟨⟩
      exact ⟨c, hread, hviolates⟩
  · rw [hyaml]
    constructor
    case right => rintro _ ⟨⟩
    rintro _ ⟨⟩
    have hnumber := fun field : NumberField => field.get_complete_fits hread
    have hpages : 0 < c.complete.cycleSettings.maxPages.toNat := by
      obtain ⟨hpos, hlt⟩ := hnumber .maxPages
      have hword : c.complete.cycleSettings.maxPages.toNat = c.complete.sync.maxPages :=
        UInt32.toNat_ofNat_of_lt' hlt
      rw [hword]
      exact hpos
    have htext : ∀ field ∈ [TextField.databaseHost, .databaseName, .sslMode, .brokerUrl, .exchange,
        .routingKey, .queue, .logLevel], field.default ≠ "" := by
      decide
    refine ⟨⟨hurl, ⟨(hnumber .initialBackoff).1, hbackoff⟩, hnumber, fun field hfield =>
      TextField.get_complete_ne (htext field hfield) c⟩, keeps_complete hread, c.complete_complete,
      ?_, ?_, fun t result => Feed.exists_get_of_yields hpages⟩
    · exact Nat.mul_pos (by decide) (hnumber .interval).1
    · exact Nat.mul_pos (by decide) (hnumber .syncTimeout).1

/-- A configuration that says half of what there is to say about waits, an interval of zero, and an
exchange with the name of a variable. -/
def halfSpecified (maxBackoff : String) : String :=
  "api:\n  base_url: https://example.com/\n  retry:\n    max_backoff_ms: " ++ maxBackoff ++
    "\nsync:\n  interval_secs: 0\n  max_pages_per_sync: 2\n" ++
    "rabbitmq:\n  exchange: \"$\x7bEXCHANGE\x7d\"\n"

/-- Without the variable the exchange has its default, and so has the interval. The longest wait is
compared with the default of the first one: 1500 ms are enough, 500 ms are not. -/
theorem half_specified_configurations :
    (∃ c, ofYaml (fun _ => none) (halfSpecified "1500") = .ok c ∧ c.IsSafe ∧
      c.broker.exchange = "news_fetcher" ∧ c.sync.interval = 300 ∧ c.sync.maxPages = 2) ∧
    ∃ c, record.ofText? (expand (fun _ => none) (halfSpecified "500")) = some c ∧
      c.complete.Violates
        "api.retry.max_backoff_ms は initial_backoff_ms 以上である必要があります" := by
  constructor
  · have hread : (ofYaml (fun _ => none) (halfSpecified "1500")).map
        (fun c => (c.broker.exchange, c.sync.interval, c.sync.maxPages)) =
        .ok ("news_fetcher", 300, 2) := by
      decide +kernel
    cases hyaml : ofYaml (fun _ => none) (halfSpecified "1500") with
    | error e =>
      rw [hyaml] at hread
      cases hread
    | ok c =>
      rw [hyaml] at hread
      simp only [Except.map, Except.ok.injEq, Prod.mk.injEq] at hread
      exact ⟨c, rfl, ((accepted_configurations_are_safe _ _).1 c hyaml).1, hread⟩
  · refine (accepted_configurations_are_safe _ _).2 _ ?_
    decide +kernel

end Config

end FeedSync
