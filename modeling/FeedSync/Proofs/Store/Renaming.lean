import FeedSync.Proofs.Store.Ids
import Mathlib.Logic.Equiv.Fintype

/-!
# Stores up to their internal ids

Which internal ids the rows of a store have depends on the order in which they came, and on what
else has used ids up. What the rows hold does not. Two stores hold the **same rows up to internal
ids** if a renaming of internal ids takes the rows of the one to those of the other. In sound stores
no two rows share an id, so it is enough that the articles are the same.

## Main definitions

* `Store.articleOf` — the article of a key.
* `Store.SameRows` — the same rows up to internal ids.

## Main statements

* `sameRows_of_articleOf` — sound stores with the same articles have the same rows up to internal
  ids.
-/

namespace FeedSync

/-- Internal ids that tell some things apart can be renamed to any others that do. -/
theorem exists_renaming {κ : Type} {f g : κ → Int64} (hf : Function.Injective f)
    (hg : Function.Injective g) : ∃ ρ : Equiv.Perm Int64, ∀ k, ρ (f k) = g k := by
  classical
  have hfinite : Finite Int64 :=
    Finite.of_injective (fun i : Int64 => i.toBitVec.toFin) fun i j h =>
      Int64.toBitVec.inj (BitVec.toFin_inj.mp h)
  have := Fintype.ofFinite Int64
  let e : { x // x ∈ Set.range f } ≃ { x // x ∈ Set.range g } :=
    (Equiv.ofInjective f hf).symm.trans (Equiv.ofInjective g hg)
  refine ⟨e.extendSubtype, fun k => ?_⟩
  rw [e.extendSubtype_apply_of_mem _ ⟨k, rfl⟩]
  change ((Equiv.ofInjective g hg) ((Equiv.ofInjective f hf).symm ⟨f k, _⟩) : Int64) = g k
  rw [Equiv.ofInjective_symm_apply]
  rfl

namespace Store

/-- The article of a key. -/
def articleOf (s : Store) (key : Article.Key) : Option Article :=
  (s.row? key).map StoredArticle.article

/-- **The same rows up to internal ids**, of some keys: a renaming of internal ids takes the rows of
one store to those of the other. -/
def SameRows (keys : Article.Key → Prop) (s s' : Store) : Prop :=
  ∃ ρ : Equiv.Perm Int64, ∀ key, keys key →
    s'.row? key = (s.row? key).map fun row => { row with id := ρ row.id }

variable {s s' : Store} {pending pending' : Write → Prop} {keys : Article.Key → Prop}

/-- **Sound stores with the same articles have the same rows up to internal ids.** -/
theorem sameRows_of_articleOf (h : s.Sound pending) (h' : s'.Sound pending')
    (harticles : ∀ key, keys key → s.articleOf key = s'.articleOf key) :
    SameRows keys s s' := by
  -- the keys that both stores have a row of, with these rows
  let Shared := { x : Article.Key × StoredArticle × StoredArticle //
    s.row? x.1 = some x.2.1 ∧ s'.row? x.1 = some x.2.2 }
  have hext : ∀ x y : Shared, x.1.1 = y.1.1 → x = y := by
    rintro ⟨⟨key, row, row'⟩, hrow, hrow'⟩ ⟨⟨_, row₁, row₁'⟩, hrow₁, hrow₁'⟩ rfl
    obtain rfl : row = row₁ := Option.some.inj (hrow.symm.trans hrow₁)
    obtain rfl : row' = row₁' := Option.some.inj (hrow'.symm.trans hrow₁')
    rfl
  have hleft : Function.Injective fun x : Shared => x.1.2.1.id := fun x y hid =>
    hext x y (h.owner _ _ _ (.inl ⟨_, x.2.1, hid⟩) (.inl ⟨_, y.2.1, rfl⟩))
  have hright : Function.Injective fun x : Shared => x.1.2.2.id := fun x y hid =>
    hext x y (h'.owner _ _ _ (.inl ⟨_, x.2.2, hid⟩) (.inl ⟨_, y.2.2, rfl⟩))
  obtain ⟨ρ, hρ⟩ := exists_renaming hleft hright
  refine ⟨ρ, fun key hkey => ?_⟩
  have harticle := harticles key hkey
  rw [articleOf, articleOf] at harticle
  cases hrow : s.row? key with
  | none =>
      rw [hrow] at harticle
      exact Option.map_eq_none_iff.mp harticle.symm
  | some row =>
      rw [hrow] at harticle
      obtain ⟨row', hrow', heq⟩ := Option.map_eq_some_iff.mp harticle.symm
      have hid : ρ row.id = row'.id := hρ ⟨(key, row, row'), hrow, hrow'⟩
      rw [hrow', Option.map_some, hid, ← heq]

end Store

end FeedSync
