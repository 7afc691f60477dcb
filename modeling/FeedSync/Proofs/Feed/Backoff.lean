import FeedSync.Proofs.Config.Accepted
import FeedSync.Time.Duration

/-!
# The waits between attempts

Between two attempts at a page a fetch waits twice as long as before, up to the longest wait. The
wait is computed in words: the factor has 32 bits and stays at the greatest one from then on, and so
does the product of the first wait and the factor. The second limit never shows, since the longest
wait comes before it. The first one does: from the thirty-third attempt on the factor is one less
than a power of two, and later far less, so that a wait may be shorter than it would be if it went
on doubling.

## Main definitions

* `doublings` — the factor, in words.
* `waitInWords` — the wait after an attempt, in words.
* `waits` — the waits of a trace.

## Main statements

* `length_waitInWords` — computing in words is computing with numbers of any size.
* `waits_of_yields` — what a fetch waits after each attempt.
* `waits_double_up_to_word` — the waits of an accepted configuration, and when they double.
-/

namespace FeedSync.Feed

open Program

/-! ### Waits in words -/

/-- The greatest factor. -/
def greatestFactor : UInt32 := 4294967295

/-- A factor doubled, and at most the greatest one. -/
def double (factor : UInt32) : UInt32 :=
  if 2 * factor.toNat < UInt32.size then 2 * factor else greatestFactor

/-- The factor after so many doublings. -/
def doublings : Nat → UInt32
  | 0 => 1
  | n + 1 => double (doublings n)

/-- **The factor is a power of two**, up to the greatest factor. -/
theorem toNat_doublings (n : Nat) : (doublings n).toNat = min (2 ^ n) (2 ^ 32 - 1) := by
  induction n with
  | zero => rfl
  | succ n ih =>
      rw [doublings, double, Nat.pow_succ]
      split
      · next hfits =>
          have htwo : (2 : UInt32).toNat = 2 := rfl
          rw [UInt32.toNat_mul, htwo, Nat.mod_eq_of_lt hfits]
          rw [UInt32.size] at hfits
          omega
      · next hmore =>
          have hgreatest : greatestFactor.toNat = 2 ^ 32 - 1 := rfl
          rw [UInt32.size] at hmore
          omega

/-- The wait after an attempt, counted from one, in words: the first wait times the factor, and at
most the longest one. -/
def waitInWords (first longest : UInt64) (attempt : UInt32) : Duration :=
  let earlier := if attempt = 0 then 0 else attempt - 1
  ((Duration.ofMillis first).times (doublings earlier.toNat)).shorter (.ofMillis longest)

/-- The wait after an attempt, with its factor as it is. -/
theorem backoff_eq (settings : Settings) (attempt : Nat) : settings.backoff attempt =
    min (settings.initialBackoff * min (2 ^ (attempt - 1)) (2 ^ 32 - 1)) settings.maxBackoff :=
  rfl

/-- **Computing a wait in words is computing it with numbers of any size**: where the product does
not fit into words, the longest wait is shorter. -/
theorem length_waitInWords (settings : Settings) {first longest : UInt64}
    (hfirst : first.toNat = settings.initialBackoff)
    (hlongest : longest.toNat = settings.maxBackoff) (attempt : UInt32) :
    (waitInWords first longest attempt).length = settings.backoff attempt.toNat * 1000000 := by
  have hearlier : (if attempt = 0 then 0 else attempt - 1 : UInt32).toNat = attempt.toNat - 1 := by
    by_cases hzero : attempt = 0
    · subst hzero
      rfl
    · have hpos : 1 ≤ attempt := by
        rw [UInt32.le_iff_toNat_le]
        exact Nat.pos_of_ne_zero fun h => hzero (UInt32.toNat_inj.mp h)
      rw [if_neg hzero, UInt32.toNat_sub_of_le _ _ hpos]
      rfl
  have hcap : longest.toNat * 1000000 ≤ Duration.longest.length := by
    have hword := longest.toNat_lt
    have hlength : Duration.longest.length + 1 = 2 ^ 64 * 1000000000 := by decide
    omega
  rw [waitInWords, Duration.length_shorter, Duration.length_times, Duration.length_ofMillis,
    Duration.length_ofMillis, hearlier, toNat_doublings, backoff_eq, ← hfirst, ← hlongest,
    Nat.mul_right_comm, Nat.min_assoc, Nat.min_eq_right hcap, Nat.mul_min_mul_right]

/-! ### How waits double -/

variable {settings : Settings} {attempt : Nat}

/-- **A wait is the first one, doubled for each attempt before, and at most the longest one**, if
the factor has no more than 32 bits or the longest wait comes before the greatest factor. -/
theorem backoff_of_fits
    (h : attempt ≤ 32 ∨ settings.maxBackoff ≤ settings.initialBackoff * (2 ^ 32 - 1)) :
    settings.backoff attempt =
      min (settings.initialBackoff * 2 ^ (attempt - 1)) settings.maxBackoff := by
  rw [backoff_eq]
  rcases Nat.lt_or_ge (2 ^ (attempt - 1)) (2 ^ 32) with hfits | hmore
  · rw [Nat.min_eq_left (Nat.le_sub_one_of_lt hfits)]
  · have hlate : 32 ≤ attempt - 1 := (Nat.pow_le_pow_iff_right (by decide)).mp hmore
    have hcap := h.resolve_left (by omega)
    have hgreatest : 2 ^ 32 - 1 ≤ 2 ^ (attempt - 1) := Nat.le_trans (Nat.sub_le _ _) hmore
    rw [Nat.min_eq_right hgreatest, Nat.min_eq_right hcap,
      Nat.min_eq_right (Nat.le_trans hcap (Nat.mul_le_mul_left _ hgreatest))]

/-- **Otherwise a wait is the first one times the greatest factor**, and shorter than it would be
if it went on doubling. -/
theorem backoff_of_not_fits (hfirst : 1 ≤ settings.initialBackoff) (hlate : 32 < attempt)
    (hcap : settings.initialBackoff * (2 ^ 32 - 1) < settings.maxBackoff) :
    settings.backoff attempt = settings.initialBackoff * (2 ^ 32 - 1) ∧
      settings.backoff attempt <
        min (settings.initialBackoff * 2 ^ (attempt - 1)) settings.maxBackoff := by
  have hmore : 2 ^ 32 ≤ 2 ^ (attempt - 1) := Nat.pow_le_pow_right (by decide) (by omega)
  have hwait : settings.backoff attempt = settings.initialBackoff * (2 ^ 32 - 1) := by
    rw [backoff_eq, Nat.min_eq_right (Nat.le_trans (Nat.sub_le _ _) hmore),
      Nat.min_eq_left (Nat.le_of_lt hcap)]
  have hshort : settings.initialBackoff * (2 ^ 32 - 1) <
      settings.initialBackoff * 2 ^ (attempt - 1) :=
    Nat.mul_lt_mul_of_pos_left (Nat.lt_of_lt_of_le (by decide) hmore) hfirst
  exact ⟨hwait, hwait ▸ Nat.lt_min.mpr ⟨hshort, hcap⟩⟩

/-! ### The waits of a trace -/

/-- How long a call waits, if it does. -/
def Call.wait? : Call → Option Nat
  | .wait millis => some millis
  | _ => none

/-- Whether a call is a request. -/
def Call.isGet : Call → Bool
  | .get _ => true
  | _ => false

/-- The waits of a trace, in order. -/
def waits (t : Trace Web) : List Nat := t.filterMap fun x => x.request.wait?

/-- How many requests a trace has. -/
def requests (t : Trace Web) : Nat := t.countP fun x => x.request.isGet

/-- What is written to the log is no wait. -/
theorem waits_calls (t : Trace Web) : waits (calls t) = waits t := by
  rw [waits, waits, calls, List.filterMap_filter]
  refine List.filterMap_congr fun x _ => ?_
  obtain ⟨call, reply⟩ := x
  cases call <;> rfl

/-- What is written to the log is no request. -/
theorem requests_calls (t : Trace Web) : requests (calls t) = requests t := by
  rw [requests, requests, calls, List.countP_filter]
  refine List.countP_congr fun x _ => ?_
  obtain ⟨call, reply⟩ := x
  cases call <;> rfl

/-- The waits of some attempts: one after each attempt that has failed. -/
theorem waits_attemptCalls (number first : Nat) (failed : List (Except InfraError String))
    (last : Except InfraError String) : waits (attemptCalls settings number first failed last) =
      (List.range' first failed.length).map settings.backoff := by
  induction failed generalizing first with
  | nil => rfl
  | cons reply failed ih =>
      rw [attemptCalls_cons, List.length_cons, List.range'_succ, List.map_cons, ← ih]
      rfl

/-- The requests of some attempts. -/
theorem requests_attemptCalls (number first : Nat) (failed : List (Except InfraError String))
    (last : Except InfraError String) :
    requests (attemptCalls settings number first failed last) = failed.length + 1 := by
  induction failed generalizing first with
  | nil => rfl
  | cons reply failed ih =>
      rw [attemptCalls_cons, List.length_cons, ← ih (first + 1), requests,
        List.countP_cons_of_pos rfl, List.countP_cons_of_neg Bool.false_ne_true, requests]

/-- **What a fetch waits at a page**: after each attempt but the last one the wait for its
number. -/
theorem waits_of_yields {page : Nat} {t : Trace Web} {outcome : Except InfraError Page}
    (h : Yields (fetchPage settings page) t outcome) :
    requests t ≤ max 1 settings.maxAttempts.toNat ∧
      waits t = (List.range' 1 (requests t - 1)).map settings.backoff := by
  obtain ⟨v, -, hmade, hcalls, -⟩ := visit_of_yields h
  have hwaits : waits t = (List.range' 1 v.failed.length).map settings.backoff := by
    rw [← waits_calls, hcalls]
    exact waits_attemptCalls _ _ _ _
  have hrequests : requests t = v.failed.length + 1 := by
    rw [← requests_calls, hcalls]
    exact requests_attemptCalls _ _ _ _
  rw [hrequests, hwaits]
  exact ⟨hmade.inTime, rfl⟩

/-! ### Accepted configurations -/

/-- **Waits double as long as a word holds the factor.** In an accepted configuration the waits are
in order and fit into words, and computing a wait in words is computing it with numbers of any size.
After each attempt at a page but the last one, a fetch waits the first wait, doubled for each
attempt before, and at most the longest one, if the attempt is one of the first thirty-two or the
longest wait is no more than the greatest factor allows. Otherwise the factor stays at the greatest
one, and the wait is too short. -/
theorem waits_double_up_to_word {env : Environment} {text : String} {c : Config}
    (hyaml : Config.ofYaml env text = .ok c) :
    let settings := c.feedSettings
    let first := settings.initialBackoff
    let longest := settings.maxBackoff
    (1 ≤ first ∧ first ≤ longest ∧ longest < 2 ^ 64) ∧
      (∀ attempt : UInt32, (waitInWords (.ofNat first) (.ofNat longest) attempt).length =
        settings.backoff attempt.toNat * 1000000) ∧
      (∀ attempt, attempt ≤ 32 ∨ longest ≤ first * (2 ^ 32 - 1) →
        settings.backoff attempt = min (first * 2 ^ (attempt - 1)) longest) ∧
      (∀ attempt, 32 < attempt → first * (2 ^ 32 - 1) < longest →
        settings.backoff attempt = first * (2 ^ 32 - 1) ∧
          settings.backoff attempt < min (first * 2 ^ (attempt - 1)) longest) ∧
      ∀ page t outcome, Yields (fetchPage settings page) t outcome →
        requests t ≤ max 1 settings.maxAttempts.toNat ∧
          waits t = (List.range' 1 (requests t - 1)).map settings.backoff := by
  intro settings first longest
  obtain ⟨hfirst, horder, hword⟩ : 1 ≤ first ∧ first ≤ longest ∧ longest < 2 ^ 64 := by
    rcases Config.ofYaml_cases env text with ⟨hrefused, -⟩ | ⟨read, hread, ⟨_, hrefused, -⟩ |
      ⟨haccepted, -, horder⟩⟩
    · nomatch hrefused.symm.trans hyaml
    · nomatch hrefused.symm.trans hyaml
    · obtain rfl := Except.ok.inj (haccepted.symm.trans hyaml)
      exact ⟨(Config.NumberField.get_complete_fits .initialBackoff hread).1, horder,
        (Config.NumberField.get_complete_fits .maxBackoff hread).2⟩
  exact ⟨⟨hfirst, horder, hword⟩, fun attempt => length_waitInWords settings
      (UInt64.toNat_ofNat_of_lt' (Nat.lt_of_le_of_lt horder hword))
      (UInt64.toNat_ofNat_of_lt' hword) attempt,
    fun attempt => backoff_of_fits, fun attempt => backoff_of_not_fits hfirst,
    fun page t outcome => waits_of_yields⟩

/-- A configuration with many attempts, a first wait of a millisecond and a longest one of a hundred
days. -/
def patientConfiguration : String :=
  "api:\n  base_url: https://example.com/\n  retry:\n    max_attempts: 34\n" ++
    "    initial_backoff_ms: 1\n    max_backoff_ms: 8589934592\n"

/-- After its thirty-third attempt a fetch waits a millisecond less than twice as long as before. -/
theorem patient_wait_is_short : ∃ c,
    Config.ofYaml (fun _ => none) patientConfiguration = .ok c ∧
      c.feedSettings.backoff 32 = 2147483648 ∧ c.feedSettings.backoff 33 = 4294967295 ∧
      c.feedSettings.backoff 33 <
        min (c.feedSettings.initialBackoff * 2 ^ 32) c.feedSettings.maxBackoff := by
  have hread : (Config.ofYaml (fun _ => none) patientConfiguration).map
      (fun c => (c.feedSettings.initialBackoff, c.feedSettings.maxBackoff)) =
      .ok (1, 8589934592) := by
    decide +kernel
  cases hyaml : Config.ofYaml (fun _ => none) patientConfiguration with
  | error e =>
      rw [hyaml] at hread
      nomatch hread
  | ok c =>
      rw [hyaml] at hread
      simp only [Except.map, Except.ok.injEq, Prod.mk.injEq] at hread
      obtain ⟨hfirst, hlongest⟩ := hread
      obtain ⟨-, -, hdoubles, hstays, -⟩ := waits_double_up_to_word hyaml
      obtain ⟨hwait, hshort⟩ := hstays 33 (by decide) (by rw [hfirst, hlongest]; decide)
      refine ⟨c, rfl, ?_, ?_, hshort⟩
      · rw [hdoubles 32 (.inl (by decide)), hfirst, hlongest]
        decide
      · rw [hwait, hfirst]
        decide

end FeedSync.Feed
