import FeedSync.Proofs.Trace

/-!
# Programs that are carried out by programs

The requests of a program may be carried out by other programs, which ask a different interface. The
calls of a cycle, for example, are carried out by statements of a database. What the program asks in
the end is an **expansion** of its own trace: each exchange is replaced by a trace of the program
that carries out its request and ends with its reply.

## Main definitions

* `Trace.Stretches` — a trace of one stretch for each exchange of another trace.
* `Expands` — such a trace where the stretches carry out the exchanges.

## Main statements

* `run_run` — a program that is carried out by others runs as if they were its handler.
* `yields_run` — its traces are the expansions of the traces of the program.
-/

namespace FeedSync

variable {I J : Interface}

/-- **One stretch for each exchange**: a trace that consists of stretches in order, of which each
has a relation to an exchange of another trace. -/
def Trace.Stretches (R : Exchange I → Trace J → Prop) : Trace I → Trace J → Prop
  | [], u => u = []
  | x :: t, u => ∃ u₁ u₂, u = u₁ ++ u₂ ∧ R x u₁ ∧ Stretches R t u₂

/-- The stretches for two traces in a row. -/
theorem Trace.stretches_append {R : Exchange I → Trace J → Prop} {t₁ t₂ : Trace I} {u : Trace J} :
    Stretches R (t₁ ++ t₂) u ↔
      ∃ u₁ u₂, u = u₁ ++ u₂ ∧ Stretches R t₁ u₁ ∧ Stretches R t₂ u₂ := by
  induction t₁ generalizing u with
  | nil =>
      constructor
      · exact fun h => ⟨[], u, rfl, rfl, h⟩
      · rintro ⟨_, u₂, rfl, rfl, h⟩
        exact h
  | cons x t₁ ih =>
      constructor
      · rintro ⟨v, _, rfl, hx, h⟩
        obtain ⟨u₁, u₂, rfl, h₁, h₂⟩ := ih.mp h
        exact ⟨v ++ u₁, u₂, (List.append_assoc ..).symm, ⟨v, u₁, rfl, hx, h₁⟩, h₂⟩
      · rintro ⟨_, u₂, rfl, ⟨v, u₁, rfl, hx, h₁⟩, h₂⟩
        exact ⟨v, u₁ ++ u₂, List.append_assoc .., hx, ih.mpr ⟨u₁, u₂, rfl, h₁, h₂⟩⟩

/-- Each exchange has its stretch. -/
theorem Trace.exists_stretch {R : Exchange I → Trace J → Prop} {t : Trace I} {u : Trace J}
    (h : Stretches R t u) : ∀ x ∈ t, ∃ v, R x v ∧ v ⊆ u := by
  induction t generalizing u with
  | nil => exact List.forall_mem_nil _
  | cons x t ih =>
      obtain ⟨u₁, u₂, rfl, hx, hrest⟩ := h
      refine List.forall_mem_cons.mpr ⟨⟨u₁, hx, List.subset_append_left u₁ u₂⟩, fun y hy => ?_⟩
      obtain ⟨v, hv, hsubset⟩ := ih hrest y hy
      exact ⟨v, hv, List.Subset.trans hsubset (List.subset_append_right u₁ u₂)⟩

/-- What stands in a stretch stands in that of an exchange. -/
theorem Trace.exists_of_mem_stretches {R : Exchange I → Trace J → Prop} {t : Trace I} {u : Trace J}
    (h : Stretches R t u) : ∀ y ∈ u, ∃ x ∈ t, ∃ v, R x v ∧ y ∈ v := by
  induction t generalizing u with
  | nil =>
      obtain rfl := h
      exact List.forall_mem_nil _
  | cons x t ih =>
      obtain ⟨u₁, u₂, rfl, hx, hrest⟩ := h
      refine List.forall_mem_append.mpr ⟨fun y hy => ⟨x, List.mem_cons_self, u₁, hx, hy⟩, ?_⟩
      intro y hy
      obtain ⟨z, hz, hstretch⟩ := ih hrest y hy
      exact ⟨z, List.mem_cons_of_mem x hz, hstretch⟩

namespace Program

variable {α : Type}

/-- **A program that is carried out by others** runs as if these were its handler. -/
theorem run_run {m : Type → Type} [Monad m] [LawfulMonad m]
    (handle : (q : J.Request) → m (J.Reply q)) (carry : (q : I.Request) → Program J (I.Reply q))
    (p : Program I α) : run handle (run carry p) = run (fun q => run handle (carry q)) p := by
  induction p with
  | done a => rfl
  | ask q next ih =>
      rw [run, run, run_bind]
      exact bind_congr fun reply => ih reply

/-- **An expansion of a trace**: each request is carried out, and ends with its reply. -/
abbrev Expands (carry : (q : I.Request) → Program J (I.Reply q)) : Trace I → Trace J → Prop :=
  Trace.Stretches fun x u => Yields (carry x.request) u x.reply

/-- **What a program asks that is carried out by others** are the expansions of its traces. -/
theorem yields_run {carry : (q : I.Request) → Program J (I.Reply q)} {p : Program I α} {u : Trace J}
    {a : α} : Yields (run carry p) u a ↔ ∃ t, Yields p t a ∧ Expands carry t u := by
  induction p generalizing u with
  | done b =>
      constructor
      · rintro ⟨rfl, rfl⟩
        exact ⟨[], ⟨rfl, rfl⟩, rfl⟩
      · rintro ⟨_, ⟨rfl, rfl⟩, rfl⟩
        exact ⟨rfl, rfl⟩
  | ask q next ih =>
      rw [run, yields_bind]
      constructor
      · rintro ⟨u₁, u₂, reply, rfl, hcarry, hrest⟩
        obtain ⟨t, hyields, hexpands⟩ := (ih reply).mp hrest
        exact ⟨⟨q, reply⟩ :: t, ⟨reply, t, rfl, hyields⟩, u₁, u₂, rfl, hcarry, hexpands⟩
      · rintro ⟨_, ⟨reply, t, rfl, hyields⟩, u₁, u₂, rfl, hcarry, hexpands⟩
        exact ⟨u₁, u₂, reply, rfl, hcarry, (ih reply).mpr ⟨t, hyields, hexpands⟩⟩

end Program

end FeedSync
