import FeedSync.Proofs.Program

/-!
# Two runs that agree

What a program does not look at cannot change what it does. To say so, two runs are compared: they
start from two states that are alike in what matters, and every request of the one has its
counterpart in the other. `Program.Agree` is the logic for such pairs of runs.

## Main statements

* `Agree.request` — single requests.
* `Agree.bind` — two programs in a row.
-/

namespace FeedSync

namespace Program

variable {I : Interface} {α α' β β' σ : Type}

/-- **Two programs agree** when their requests are answered by `handle`: from any states that are
alike they end in states that are alike, with values that are related by the postcondition. -/
def Agree (handle : (q : I.Request) → StateM σ (I.Reply q)) (alike : σ → σ → Prop)
    (p : Program I α) (p' : Program I α') (post : α → α' → Prop) : Prop :=
  ∀ s s', alike s s' → post (run handle p s).1 (run handle p' s').1 ∧
    alike (run handle p s).2 (run handle p' s').2

variable {handle : (q : I.Request) → StateM σ (I.Reply q)} {alike : σ → σ → Prop}

/-- Programs that ask nothing agree on their values. -/
theorem Agree.pure {a : α} {a' : α'} {post : α → α' → Prop} (h : post a a') :
    Agree handle alike (Pure.pure a) (Pure.pure a') post :=
  fun _ _ hs => ⟨h, hs⟩

/-- Single requests agree if the handler answers them alike. -/
theorem Agree.request {q q' : I.Request} {post : I.Reply q → I.Reply q' → Prop}
    (h : ∀ s s', alike s s' → post (handle q s).1 (handle q' s').1 ∧
      alike (handle q s).2 (handle q' s').2) :
    Agree handle alike (Program.request q) (Program.request q') post :=
  h

/-- **Programs in a row agree** if their first parts do, and their second parts on all values that
the first ones can end with. -/
theorem Agree.bind {p : Program I α} {p' : Program I α'} {f : α → Program I β}
    {f' : α' → Program I β'} {post : β → β' → Prop} (mid : α → α' → Prop)
    (h : Agree handle alike p p' mid)
    (hf : ∀ a a', mid a a' → Agree handle alike (f a) (f' a') post) :
    Agree handle alike (p >>= f) (p' >>= f') post := by
  intro s s' hs
  obtain ⟨hmid, hends⟩ := h s s' hs
  rw [run_bind_of_run (Prod.eta (run handle p s)).symm,
    run_bind_of_run (Prod.eta (run handle p' s')).symm]
  exact hf _ _ hmid _ _ hends

end Program

end FeedSync
