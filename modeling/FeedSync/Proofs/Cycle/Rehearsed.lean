import FeedSync.Proofs.Cycle.Scene
import FeedSync.Proofs.Timed
import FeedSync.Rehearsal.World

/-!
# Rehearsed cycles are scenes

Cycles are rehearsed in a `World`, where calls can also be disturbed or take time. If nothing of
that kind happens and the source is a list, a rehearsed cycle is a cycle without other writers: it
ends with the same result and leaves the same store behind. So what is shown of scenes holds of
rehearsals.

## Main statements

* `Rehearses.answer` — every call gets the same reply, and does the same to the store.
* `perform_cycle` — a rehearsed cycle ends as the scene of a cycle does.
-/

namespace FeedSync

namespace Rehearsal

/-- A world in which every call reaches its collaborator and takes no time, and the source is a
list. -/
structure World.Calm (world : World) : Prop where
  failing : ∀ kind, world.disturbances.failing kind = []
  commitDelay : world.disturbances.commitDelay = 0
  fetchDelay : world.disturbances.fetchDelay = 0
  publishDelay : world.disturbances.publishDelay = 0
  listed : ∃ source, world.source = .listed source

/-- What the source, the clock and the publisher of a calm world reply. -/
def replied (t : Timed World) : (c : External) → c.Reply
  | .fetch maxPages =>
    match t.world.source with
    | .listed source => (source.fetch maxPages).1
    | .feed _ => .ok []
  | .now => t.world.now
  | .stopwatch => t.clock * 1000000
  | .publish a isNew =>
    match t.world.publisher with
    | some publisher => (publisher.publish a isNew).1
    | none => .ok ()
  | .log _ => ()

/-- The replies of a calm world, which are the same at any time. -/
def repliesOf (t : Timed World) (hnow : t.world.now.nanos < nanosPerSecond) : Replies where
  fetch maxPages := replied t (.fetch maxPages)
  clock _ := t.world.now
  regular _ := hnow
  stopwatch _ := t.clock * 1000000
  publish _ a isNew := replied t (.publish a isNew)

/-- **A world rehearses** the calls to a store: it is calm, has that store, and gives known replies
to all other calls. -/
structure Rehearses (replies : (c : External) → c.Reply) (t : Timed World) (s : Store) : Prop where
  calm : t.world.Calm
  store : t.world.store = s
  replies : replied t = replies

variable {α β : Type} {t t' : Timed World} {s : Store} {replies : (c : External) → c.Reply}

/-! ### Steps in a calm world -/

/-- In a calm world every call reaches its collaborator. -/
theorem unlessDisturbed_of_calm (kind : Disturbed) (act : Step (Except InfraError α))
    (hcalm : t.world.Calm) : ∃ made,
      unlessDisturbed kind act t = act { t with world := { t.world with made } } := by
  let made := fun k => if k = kind then t.world.made kind + 1 else t.world.made k
  have hnone : disturb kind t = (.ok none, { t with world := { t.world with made } }) := by
    change (Except.ok (if t.world.made kind + 1 ∈ t.world.disturbances.failing kind then _
      else none), _) = _
    rw [hcalm.failing, if_neg List.not_mem_nil]
  exact ⟨made, Act.bind_of_ok hnone⟩

/-- A world goes on rehearsing when its store, its counts or its log have changed. -/
theorem Rehearses.update (h : Rehearses replies t s) (s' : Store) (made : Disturbed → Nat)
    (log : List Event) :
    Rehearses replies { t with world := { t.world with store := s', made, log } } s' where
  calm := ⟨h.calm.failing, h.calm.commitDelay, h.calm.fetchDelay, h.calm.publishDelay,
    h.calm.listed⟩
  store := rfl
  replies := by
    rw [← h.replies]
    funext c
    cases c <;> rfl

/-- A step that changes the world takes no time. -/
theorem touch_of_eq {f : World → α × World} {a : α} {world : World} (h : f t.world = (a, world)) :
    Act.touch f t = (.ok a, { t with world }) := by
  change (Except.ok (f t.world).1, { t with world := (f t.world).2 }) = _
  rw [h]

/-- What a publisher replies depends on what it refuses only. -/
theorem publish_fst (publisher : Publisher) (a : Article) (isNew : Bool) :
    (publisher.publish a isNew).1 =
      if a.externalId ∈ publisher.refused ∨ publisher.isFailing = true then
        .error (.backend "モック配信エラー")
      else .ok () := by
  rw [Publisher.publish]
  by_cases ha : a.externalId ∈ publisher.refused
  · rw [if_pos ha, if_pos (.inl ha)]
  · rw [if_neg ha]
    simp only [ha, false_or]

/-- A publisher goes on refusing the same articles. -/
theorem publish_after_publish (publisher : Publisher) (a b : Article) (isNew isNew' : Bool) :
    ((publisher.publish a isNew).2.publish b isNew').1 = (publisher.publish b isNew').1 := by
  have hsame : (publisher.publish a isNew).2.refused = publisher.refused ∧
      (publisher.publish a isNew).2.isFailing = publisher.isFailing := by
    rw [Publisher.publish]
    split
    · exact ⟨rfl, rfl⟩
    · exact ⟨rfl, rfl⟩
  rw [publish_fst, publish_fst, hsame.1, hsame.2]

/-- Where there is no delay nothing waits. -/
theorem wait_of_eq_zero (delay : World → Nat) (p : Step α) (h : delay t.world = 0) :
    (do
      Act.wait (← Act.look delay)
      p) t = p t := by
  have hlook : Act.look delay t = (.ok 0, t) := by rw [← h]; rfl
  have hwait : Act.wait 0 t = (.ok (), t) := rfl
  exact (Act.bind_of_ok hlook).trans (Act.bind_of_ok hwait)

/-- A fetch gets the known reply. -/
theorem Rehearses.fetch (h : Rehearses replies t s) (maxPages : UInt32) :
    ∃ t', Rehearsal.fetch maxPages t = (.ok (replies (.fetch maxPages)), t') ∧
      Rehearses replies t' s := by
  obtain ⟨source, hsource⟩ := h.calm.listed
  have hreply : ∀ pages, replies (.fetch pages) = (source.fetch pages).1 := fun pages => by
    rw [← h.replies, replied, hsource]
  have hlook : Act.look World.source t = (.ok (.listed source), t) := by rw [← hsource]; rfl
  let t₁ : Timed World :=
    { t with world := { t.world with source := .listed (source.fetch maxPages).2 } }
  have hrun : Rehearsal.fetch maxPages t = (.ok (source.fetch maxPages).1, t₁) := by
    rw [Rehearsal.fetch, wait_of_eq_zero _ _ h.calm.fetchDelay]
    exact Act.bind_of_ok hlook
  refine ⟨t₁, hreply maxPages ▸ hrun, ⟨⟨h.calm.failing, h.calm.commitDelay, h.calm.fetchDelay,
    h.calm.publishDelay, ⟨_, rfl⟩⟩, h.store, ?_⟩⟩
  funext c
  cases c with
  | fetch pages => exact (hreply pages).symm
  | now => exact congrFun h.replies .now
  | stopwatch => exact congrFun h.replies .stopwatch
  | publish a isNew => exact congrFun h.replies (.publish a isNew)
  | log event => rfl

/-- A publication gets the known reply. -/
theorem Rehearses.publish (h : Rehearses replies t s) (a : Article) (isNew : Bool) :
    ∃ t', Rehearsal.publish a isNew t = (.ok (replies (.publish a isNew)), t') ∧
      Rehearses replies t' s := by
  rw [Rehearsal.publish, wait_of_eq_zero _ _ h.calm.publishDelay]
  cases hpublisher : t.world.publisher with
  | none =>
      have hreply : replies (.publish a isNew) = .ok () := by
        rw [← h.replies, replied, hpublisher]
      rw [hreply]
      refine ⟨t, touch_of_eq ?_, h⟩
      simp only [hpublisher]
  | some publisher =>
      have hreply : ∀ b isNew, replies (.publish b isNew) = (publisher.publish b isNew).1 :=
        fun b isNew => by rw [← h.replies, replied, hpublisher]
      let world := { t.world with publisher := some (publisher.publish a isNew).2 }
      rw [hreply]
      refine ⟨{ t with world }, touch_of_eq ?_, ⟨⟨h.calm.failing, h.calm.commitDelay,
        h.calm.fetchDelay, h.calm.publishDelay, h.calm.listed⟩, h.store, ?_⟩⟩
      · simp only [hpublisher]
        rfl
      · funext c
        cases c with
        | fetch pages => exact congrFun h.replies (.fetch pages)
        | now => exact congrFun h.replies .now
        | stopwatch => exact congrFun h.replies .stopwatch
        | publish b isNew' =>
            exact (publish_after_publish publisher a b isNew isNew').trans (hreply b isNew').symm
        | log event => rfl

/-- **The calls that are not about the store** get the known replies. -/
theorem Rehearses.answerExternal (h : Rehearses replies t s) (c : External) :
    ∃ t', Rehearsal.answerExternal c t = (.ok (replies c), t') ∧ Rehearses replies t' s := by
  cases c with
  | fetch maxPages => exact h.fetch maxPages
  | now => exact ⟨t, h.replies ▸ rfl, h⟩
  | stopwatch => exact ⟨t, h.replies ▸ rfl, h⟩
  | publish a isNew => exact h.publish a isNew
  | log event => exact ⟨_, rfl, h.store ▸ h.update t.world.store t.world.made _⟩

/-- **Every call gets the same reply, and does the same to the store.** -/
theorem Rehearses.answer (h : Rehearses replies t s) (c : Call Transaction) :
    ∃ t', Rehearsal.answer c t = (.ok (s.answer replies c).1, t') ∧
      Rehearses replies t' (s.answer replies c).2 := by
  obtain rfl := h.store
  cases c with
  | held sourceId ids => exact ⟨_, rfl, h.update _ t.world.made t.world.log⟩
  | begin =>
      obtain ⟨made, hmade⟩ := unlessDisturbed_of_calm .begin (return .ok []) h.calm
      exact ⟨_, hmade, h.update _ made t.world.log⟩
  | upsert tx a => exact ⟨_, rfl, h.update _ t.world.made t.world.log⟩
  | upsertTags tx tags => exact ⟨_, rfl, h⟩
  | link tx id tagIds => exact ⟨_, rfl, h⟩
  | commit tx =>
      obtain ⟨made, hmade⟩ := unlessDisturbed_of_calm .commit (do
        Act.wait (← Act.look (·.disturbances.commitDelay))
        onStore fun s => (.ok (), s.commit tx)) h.calm
      refine ⟨_, hmade.trans ?_, h.update _ made t.world.log⟩
      refine (wait_of_eq_zero _ _ ?_).trans rfl
      exact h.calm.commitDelay
  | rollback tx =>
      obtain ⟨made, hmade⟩ := unlessDisturbed_of_calm .rollback
        (onStore fun s => (.ok (), s.rollback)) h.calm
      exact ⟨_, hmade, h.update _ made t.world.log⟩
  | readState sourceId =>
      obtain ⟨made, hmade⟩ := unlessDisturbed_of_calm .readState
        (Act.look fun w => .ok (w.store.stateOf sourceId)) h.calm
      exact ⟨_, hmade, h.update _ made t.world.log⟩
  | writeState state => exact ⟨_, rfl, h.update _ t.world.made t.world.log⟩
  | external c => exact h.answerExternal c

/-! ### A whole cycle -/

/-- **What holds of a scene without other writers holds of a rehearsal**: any calls of a cycle end
with the same result, and with the same store. -/
theorem Rehearses.perform {w : Replies} {sc : Scene} (p : Calls Transaction α)
    (hreplies : ∀ calls, w.external calls = replies) (h : Rehearses replies t sc.store) :
    ∃ t', Rehearsal.perform p t = (.ok (Program.run (Scene.answer w alone) p sc).1, t') ∧
      Rehearses replies t' (Program.run (Scene.answer w alone) p sc).2.store := by
  induction p generalizing t sc with
  | done a => exact ⟨t, rfl, h⟩
  | ask c next ih =>
      obtain ⟨t₁, ht₁, h₁⟩ := h.answer c
      rw [← hreplies sc.calls] at ht₁ h₁
      let sc₁ := (Scene.answer w alone c sc).2
      obtain ⟨t₂, ht₂, h₂⟩ :=
        ih (Scene.answer w alone c sc).1 (hreplies sc.calls ▸ h₁ : Rehearses _ t₁ sc₁.store)
      exact ⟨t₂, (Act.bind_of_ok ht₁).trans ht₂, h₂⟩

/-- **A rehearsed cycle in a calm world** ends with the result of the cycle's scene, and leaves the
store that the scene leaves. -/
theorem perform_cycle (settings : Cycle.Settings) (hcalm : t.world.Calm)
    (hnow : t.world.now.nanos < nanosPerSecond) :
    ∃ t', Rehearsal.perform (FeedSync.cycle settings) t =
        (.ok (Cycle.outcome (repliesOf t hnow) settings t.world.store).1, t') ∧
      t'.world.store = (Cycle.outcome (repliesOf t hnow) settings t.world.store).2.store := by
  have hreplies : ∀ calls, (repliesOf t hnow).external calls = replied t := by
    intro calls
    funext c
    cases c <;> rfl
  have hstart : Rehearses (replied t) t (Scene.start t.world.store).store := ⟨hcalm, rfl, rfl⟩
  obtain ⟨t', hrun, h⟩ := hstart.perform (FeedSync.cycle settings) hreplies
  exact ⟨t', hrun, h.store⟩

end Rehearsal

end FeedSync
