import FeedSync.Program

/-!
# What programs do on the way

`Program.run` tells how a program ends. This module looks at every point in between: a program that
is stopped after some of its requests leaves the state that it has reached by then, and nothing of
what it would have done later happens.

`Program.Upholds` is the logic for such points. It says that a program keeps an **invariant** at
every point between two requests and meets a **postcondition** at its end, as long as some
**assumption** about its surroundings holds at every point that it passes.

## Main statements

* `Upholds.after` — the invariant holds at every point of a run.
* `Upholds.run` — the postcondition holds at the end of a run.
* `Upholds.bind` — two programs in a row, by the state in between.
* `forall_after` — what holds up to the end of a run holds at every point.
-/

namespace FeedSync

namespace Program

variable {I : Interface} {α β σ : Type}

/-- The rest of a program and the state after so many of its requests were answered. A program that
is stopped there leaves this state behind. -/
def after (handle : (q : I.Request) → StateM σ (I.Reply q)) :
    Nat → Program I α → σ → Program I α × σ
  | 0, p, s => (p, s)
  | _ + 1, done a, s => (done a, s)
  | n + 1, ask q next, s => after handle n (next (handle q s).1) (handle q s).2

/-- **What a program upholds** when its requests are answered by `handle`: as long as the assumption
holds at the points that it passes, the invariant holds there too, and at its end the
postcondition. -/
def Upholds (handle : (q : I.Request) → StateM σ (I.Reply q)) (assumed inv : σ → Prop) :
    Program I α → (α → σ → Prop) → σ → Prop
  | done a, post, s => assumed s → inv s ∧ post a s
  | ask q next, post, s =>
    assumed s → inv s ∧ Upholds handle assumed inv (next (handle q s).1) post (handle q s).2

/-- Whether a program has come to its end. -/
def isDone : Program I α → Bool
  | done _ => true
  | ask _ _ => false

variable {handle : (q : I.Request) → StateM σ (I.Reply q)} {assumed inv : σ → Prop}

/-! ### Points of a run -/

/-- Points after points are points. -/
theorem after_add (m n : Nat) (p : Program I α) (s : σ) :
    after handle (m + n) p s = after handle n (after handle m p s).1 (after handle m p s).2 := by
  induction m generalizing p s with
  | zero => rw [Nat.zero_add]; rfl
  | succ m ih =>
      rw [Nat.add_right_comm]
      cases p with
      | done a => cases n <;> rfl
      | ask q next => exact ih _ _

/-- Nothing happens after the end: what holds at the points up to the end holds at all points. -/
theorem forall_after {P : σ → Prop} {p : Program I α} {s : σ} {m : Nat}
    (hdone : (after handle m p s).1.isDone = true)
    (h : ∀ n < m + 1, P (after handle n p s).2) (n : Nat) : P (after handle n p s).2 := by
  have hstays : ∀ k (p : Program I α) (s : σ), p.isDone = true → (after handle k p s).2 = s := by
    rintro (_ | k) (a | ⟨q, next⟩) s hp
    · rfl
    · rfl
    · rfl
    · nomatch hp
  rcases Nat.lt_or_ge n (m + 1) with hn | hn
  · exact h n hn
  · obtain ⟨k, rfl⟩ := Nat.exists_eq_add_of_le (Nat.le_of_lt hn)
    rw [after_add, hstays k _ _ hdone]
    exact h m (Nat.lt_succ_self m)

/-- A run of two programs in a row goes on from the end of the first one. -/
theorem run_bind_of_run {p : Program I α} {f : α → Program I β} {a : α} {s s' : σ}
    (h : run handle p s = (a, s')) : run handle (p >>= f) s = run handle (f a) s' := by
  rw [run_bind]
  change run handle (f (run handle p s).1) (run handle p s).2 = _
  rw [h]

/-- **A program for each element of a list.** If each of them succeeds and takes what is known of
the state one step further, all of them in a row do. -/
theorem run_mapM_of_forall {γ κ ε : Type} {p : γ → Program I (Except ε α)} {known : σ → κ → Prop}
    {step : κ → γ → κ} {l : List γ} {s : σ} {v : κ}
    (h : ∀ c ∈ l, ∀ s v, known s v →
      ∃ a s', run handle (p c) s = (.ok a, s') ∧ known s' (step v c))
    (hv : known s v) :
    (∀ reply ∈ (run handle (l.mapM p) s).1, reply.isOk = true) ∧
      known (run handle (l.mapM p) s).2 (l.foldl step v) := by
  induction l generalizing s v with
  | nil => exact ⟨nofun, hv⟩
  | cons c l ih =>
      obtain ⟨hc, hl⟩ := List.forall_mem_cons.mp h
      obtain ⟨a, s₁, hrun, hknown⟩ := hc s v hv
      obtain ⟨hreplies, hend⟩ := ih hl hknown
      rw [List.mapM_cons, run_bind_of_run hrun, run_bind_of_run (Prod.eta _).symm]
      exact ⟨List.forall_mem_cons.mpr ⟨rfl, hreplies⟩, hend⟩

/-! ### The logic -/

/-- What holds of a program may be shown under the assumption at its start. -/
theorem Upholds.of_assumed {p : Program I α} {post : α → σ → Prop} {s : σ}
    (h : assumed s → Upholds handle assumed inv p post s) :
    Upholds handle assumed inv p post s := by
  cases p with
  | done a => exact fun hs => h hs hs
  | ask q next => exact fun hs => h hs hs

/-- **Two programs in a row**: the second one starts from what the first one ends with. -/
theorem Upholds.bind {p : Program I α} {f : α → Program I β} {post : β → σ → Prop} {s : σ}
    (h : Upholds handle assumed inv p (fun a s => Upholds handle assumed inv (f a) post s) s) :
    Upholds handle assumed inv (p >>= f) post s := by
  induction p generalizing s with
  | done a => exact Upholds.of_assumed fun hs => (h hs).2
  | ask q next ih => exact fun hs => ⟨(h hs).1, ih _ (h hs).2⟩

/-- A weaker postcondition. -/
theorem Upholds.weaken {p : Program I α} {post post' : α → σ → Prop} {s : σ}
    (h : Upholds handle assumed inv p post s) (hpost : ∀ a s, post a s → post' a s) :
    Upholds handle assumed inv p post' s := by
  induction p generalizing s with
  | done a => exact fun hs => ⟨(h hs).1, hpost a s (h hs).2⟩
  | ask q next ih => exact fun hs => ⟨(h hs).1, ih _ (h hs).2⟩

/-- **The invariant holds at every point of a run**, if the assumption does. -/
theorem Upholds.after {p : Program I α} {post : α → σ → Prop} {s : σ}
    (h : Upholds handle assumed inv p post s)
    (hassumed : ∀ n, assumed (Program.after handle n p s).2) (n : Nat) :
    inv (Program.after handle n p s).2 := by
  induction n generalizing p s with
  | zero =>
      cases p with
      | done a => exact (h (hassumed 0)).1
      | ask q next => exact (h (hassumed 0)).1
  | succ n ih =>
      cases p with
      | done a => exact (h (hassumed 0)).1
      | ask q next => exact ih (h (hassumed 0)).2 fun n => hassumed (n + 1)

/-- **The postcondition holds at the end of a run**, if the assumption holds at each of its
points. -/
theorem Upholds.run {p : Program I α} {post : α → σ → Prop} {s : σ}
    (h : Upholds handle assumed inv p post s)
    (hassumed : ∀ n, assumed (Program.after handle n p s).2) :
    post (Program.run handle p s).1 (Program.run handle p s).2 := by
  induction p generalizing s with
  | done a => exact (h (hassumed 0)).2
  | ask q next ih => exact ih _ (h (hassumed 0)).2 fun n => hassumed (n + 1)

end Program

end FeedSync
