import FeedSync.Text.FixedPoint

/-!
# The statistics of a cycle

What one cycle did, in numbers, and the line that reports it.
-/

namespace FeedSync

open FeedSync.Text

/-- A span of time. -/
structure Elapsed where
  seconds : Nat := 0
  nanos : Nat := 0
  deriving DecidableEq, Repr, Inhabited

namespace Elapsed

/-- A span of time given in nanoseconds. -/
def ofNanos (n : Nat) : Elapsed := ⟨n / 1000000000, n % 1000000000⟩

/-- The span in seconds as the nearest sum of two doubles. -/
def toFloat (e : Elapsed) : Float := Float.ofNat e.seconds + Float.ofNat e.nanos / 1e9

/-- The span in seconds with two decimal places: the double's exact value, rounded once, a tie to
the even neighbour. -/
def secondsText (e : Elapsed) : String :=
  let (num, den) := doubleQuotient e.toFloat.toBits
  String.ofList (hundredths (roundQuotient (100 * num) den))

end Elapsed

/-- The numbers of one cycle. -/
structure Stats where
  sourceId : String
  /-- Articles inside the window. -/
  fetched : Nat := 0
  new : Nat := 0
  updated : Nat := 0
  /-- Articles that were left out because the store holds them already. -/
  skipped : Nat := 0
  errors : Nat := 0
  published : Nat := 0
  elapsed : Elapsed := {}
  deriving DecidableEq, Repr, Inhabited

namespace Stats

/-- The articles that were stored: what the cycle adds to the source's total. -/
def synced (s : Stats) : Nat := s.new + s.updated

/-- The line that reports a cycle. -/
def summary (s : Stats) : String :=
  s!"{s.sourceId}同期完了: 取得{s.fetched}件、新規{s.new}件、更新{s.updated}件、" ++
    s!"スキップ{s.skipped}件、エラー{s.errors}件、配信{s.published}件（{s.elapsed.secondsText}秒）"

end Stats

end FeedSync
