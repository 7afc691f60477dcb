import FeedSync.Error

/-!
# Failures of a run

Why a run of the program failed, and how it is told to the user: first what was being done, then
what it was caused by, step by step.
-/

namespace FeedSync

/-- Why a run failed. -/
inductive Failure where
  /-- The configuration at a path cannot be used. -/
  | configuration (path : String) (cause : InfraError)
  | database (cause : InfraError)
  | broker (cause : InfraError)
  | cycle (cause : SyncError)
  | timedOut
  deriving DecidableEq, Repr

namespace Failure

/-- What was being done when a run failed. -/
def message : Failure → String
  | .configuration path _ => s!"設定の読み込みに失敗: {path}"
  | .database _ => "データベースの初期化に失敗"
  | .broker _ => "RabbitMQへの接続に失敗"
  | .cycle _ => "同期に失敗"
  | .timedOut => "同期がタイムアウトしました"

/-- What a failure was caused by, step by step. -/
def causes : Failure → List String
  | .configuration _ cause | .database cause | .broker cause => cause.trail
  | .cycle cause => cause.trail
  | .timedOut => []

/-- The lines about a cause: the first one after a mark, the others below it. -/
def indented (mark text : String) : List String :=
  match text.splitOn "\n" with
  | [] => [mark]
  | line :: lines => (mark ++ line) :: lines.map ("".pushn ' ' mark.length ++ ·)

/-- The mark of a cause with a number. -/
def numberMark (n : Nat) : String :=
  let digits := toString n
  "".pushn ' ' (5 - digits.length) ++ digits ++ ": "

/-- The lines about causes, which are numbered if there is more than one. -/
def causeLines : List String → List String
  | [] => []
  | [cause] => ["", "Caused by:"] ++ indented "    " cause
  | causes =>
    ["", "Caused by:"] ++
      (causes.mapIdx fun n cause => indented (numberMark n) cause).flatten

/-- The lines that tell about a failure. -/
def report (failure : Failure) : List String :=
  s!"Error: {failure.message}".splitOn "\n" ++ causeLines failure.causes

end Failure

end FeedSync
