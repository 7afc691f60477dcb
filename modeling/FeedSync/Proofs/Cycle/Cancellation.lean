import FeedSync.Proofs.Cycle.Alone

/-!
# Cycles that are dropped on the way

A cycle can be given up between any two of its calls, because it takes too long or because the
program shuts down. Nothing of what it would have done later happens then, and the transaction that
it may have open is forgotten. What it leaves behind is **partway**: some number of whole saves, and
among the publications none that runs ahead of its commit.

## Main statements

* `partway_after` — so it is at every point of every cycle without other writers.
-/

namespace FeedSync

open Cycle

/-- What a cycle leaves behind that was to save some selected articles: the saves of the first `k`
of them, each of them whole; the articles published so far are the first of those committed; and
the sync states are as they were, unless the cycle has written its own. -/
def Partway (s : Store) (selected : List Article) (v : View) : Prop :=
  ∃ k ≤ selected.length,
    v.committed = s.saved (selected.take k) ∧
    v.content = (s.settleAll (selected.take k)).content ∧
    v.published <+: v.committed ∧
    (v.written = [] → v.states = s.states)

variable {s : Store}

/-- Between two saves a cycle is partway. -/
theorem partway_handleAll (settings : Settings) (done rest : List Article) :
    Partway s (done ++ rest) ((Scene.start s).view.handleAll settings s done) := by
  refine ⟨done.length, ?_, ?_, ?_, ?_, fun _ => rfl⟩
  · rw [List.length_append]
    exact Nat.le_add_right _ _
  · rw [List.take_left]
    rfl
  · rw [List.take_left]
    rfl
  · change (if settings.publishes then s.saved done else []) <+: s.saved done
    split
    · exact List.prefix_rfl
    · exact List.nil_prefix

/-- After the commit of an article, and before it is published, a cycle is partway. -/
theorem partway_save (settings : Settings) (done : List Article) (a : Article)
    (rest : List Article) : Partway s (done ++ a :: rest)
      (((Scene.start s).view.handleAll settings s done).save
        (s.settleAll done) a) := by
  have htake : (done ++ a :: rest).take (done.length + 1) = done ++ [a] := by
    rw [List.take_append, List.take_of_length_le (Nat.le_succ _)]
    simp
  refine ⟨done.length + 1, ?_, ?_, ?_, ?_, fun _ => rfl⟩
  · rw [List.length_append, List.length_cons]
    omega
  · rw [htake, Store.saved_concat]
    rfl
  · rw [htake, Store.settleAll_append]
    rfl
  · change (if settings.publishes then s.saved done else []) <+: s.saved done ++ _
    split
    · exact List.prefix_append _ _
    · exact List.nil_prefix

/-- **A cycle can be dropped at any point**: after any number of its calls, whatever failures are
planned and whatever its collaborators reply, it leaves behind whole saves only, has published
nothing that is not committed, and has changed no sync state but by its own last step. -/
theorem partway_after (w : Replies) (settings : Settings) (hundisturbed : s.Undisturbed) (n : Nat) :
    Partway s.asked (selection w settings s)
      (Program.after (Scene.answer w alone) n (cycle settings) (Scene.start s)).2.view := by
  refine Program.Upholds.after (keeps_cycle (I := Partway s.asked (selection w settings s)) w
    settings hundisturbed ?_ ?_ ?_) (fun _ => trivial) n
  · intro done rest heq
    rw [heq]
    exact partway_handleAll settings done rest
  · intro done a rest heq
    rw [heq]
    exact partway_save settings done a rest
  · intro states state
    obtain ⟨k, hk, hcommitted, hcontent, hpublished, -⟩ :=
      partway_handleAll (s := s.asked) settings (selection w settings s) []
    rw [List.append_nil] at hk hcommitted hcontent
    exact ⟨k, hk, hcommitted, hcontent, hpublished, fun h => nomatch h⟩

/-- A cycle that is dropped right after a commit has not published the article, and is partway. -/
theorem partway_after_commit :
    let a := Article.bare 1 .epoch [⟨7, "rates"⟩]
    let w := Replies.listing [a]
    let sc := (Program.after (Scene.answer w alone) 14 (cycle .daily) (Scene.start {})).2
    sc.committed = [a] ∧ sc.published = [] ∧
      Partway (Store.asked {}) (selection w .daily {}) sc.view :=
  ⟨rfl, rfl, partway_after _ _ (by decide) 14⟩

end FeedSync
