import FeedSync.Proofs.Program

/-!
# Traces of programs

A program asks one request after the other, and what it asks next depends on the replies so far. A
**trace** writes down both. `Program.Yields` tells which traces a program can have when nothing is
known of its surroundings, so that every request may get any reply; what holds of all these traces
holds in all surroundings. `Program.Answered` tells which of them come about when the requests are
answered by a handler.

## Main statements

* `yields_bind`, `yields_request_bind` — the traces of a program follow its construction.
* `yields_trace` — a run yields its trace.
* `run_eq_of_answered`, `trace_eq_of_answered` — a run ends as any trace with its replies says, and
  has no other trace.
* `Finds.after` — what the requests of a trace find holds at each point of the run.
-/

namespace FeedSync

/-- A request and the reply that it got. -/
structure Exchange (I : Interface) where
  request : I.Request
  reply : I.Reply request

/-- Requests in order, each with its reply. -/
abbrev Trace (I : Interface) := List (Exchange I)

namespace Program

variable {I : Interface} {α β σ : Type}

/-- **What a program can do**: it asks the requests of a trace, gets the replies of the trace,
whatever they are, and ends with a value. -/
def Yields : Program I α → Trace I → α → Prop
  | done a, t, b => t = [] ∧ b = a
  | ask q next, t, b => ∃ reply rest, t = ⟨q, reply⟩ :: rest ∧ (next reply).Yields rest b

/-- The replies of a trace are those of a handler, which goes from one state to another. -/
def Answered (handle : (q : I.Request) → StateM σ (I.Reply q)) : σ → Trace I → σ → Prop
  | s, [], s' => s' = s
  | s, x :: t, s' =>
    x.reply = (handle x.request s).1 ∧ Answered handle (handle x.request s).2 t s'

/-- The trace of a run. -/
def trace (handle : (q : I.Request) → StateM σ (I.Reply q)) : Program I α → σ → Trace I
  | done _, _ => []
  | ask q next, s => ⟨q, (handle q s).1⟩ :: trace handle (next (handle q s).1) (handle q s).2

variable {handle : (q : I.Request) → StateM σ (I.Reply q)}

/-! ### Traces follow the construction of programs -/

/-- A request can get any reply. -/
theorem yields_request_bind {q : I.Request} {f : I.Reply q → Program I β} {t : Trace I} {b : β} :
    Yields (request q >>= f) t b ↔ ∃ reply rest, t = ⟨q, reply⟩ :: rest ∧ (f reply).Yields rest b :=
  Iff.rfl

/-- **Two programs in a row** have the traces of the first one followed by those of the second. -/
theorem yields_bind {p : Program I α} {f : α → Program I β} {t : Trace I} {b : β} :
    Yields (p >>= f) t b ↔ ∃ t₁ t₂ a, t = t₁ ++ t₂ ∧ Yields p t₁ a ∧ Yields (f a) t₂ b := by
  induction p generalizing t with
  | done a =>
      constructor
      · exact fun h => ⟨[], t, a, rfl, ⟨rfl, rfl⟩, h⟩
      · rintro ⟨_, t₂, _, rfl, ⟨rfl, rfl⟩, h⟩
        exact h
  | ask q next ih =>
      constructor
      · rintro ⟨reply, rest, rfl, h⟩
        obtain ⟨t₁, t₂, a, rfl, h₁, h₂⟩ := (ih reply).mp h
        exact ⟨⟨q, reply⟩ :: t₁, t₂, a, rfl, ⟨reply, t₁, rfl, h₁⟩, h₂⟩
      · rintro ⟨_, t₂, a, rfl, ⟨reply, t₁, rfl, h₁⟩, h₂⟩
        exact ⟨reply, t₁ ++ t₂, rfl, (ih reply).mpr ⟨t₁, t₂, a, rfl, h₁, h₂⟩⟩

/-- A single request. -/
theorem yields_request {q : I.Request} {t : Trace I} {reply : I.Reply q} :
    Yields (request q) t reply ↔ t = [⟨q, reply⟩] := by
  constructor
  · rintro ⟨_, _, rfl, rfl, rfl⟩
    rfl
  · rintro rfl
    exact ⟨reply, [], rfl, rfl, rfl⟩

/-! ### Traces of runs -/

/-- Replies in a row. -/
theorem answered_append {s s' : σ} {t₁ t₂ : Trace I} :
    Answered handle s (t₁ ++ t₂) s' ↔ ∃ m, Answered handle s t₁ m ∧ Answered handle m t₂ s' := by
  induction t₁ generalizing s with
  | nil =>
      constructor
      · exact fun h => ⟨s, rfl, h⟩
      · rintro ⟨_, rfl, h⟩
        exact h
  | cons x t₁ ih =>
      constructor
      · rintro ⟨hreply, h⟩
        obtain ⟨m, h₁, h₂⟩ := ih.mp h
        exact ⟨m, ⟨hreply, h₁⟩, h₂⟩
      · rintro ⟨m, ⟨hreply, h₁⟩, h₂⟩
        exact ⟨hreply, ih.mpr ⟨m, h₁, h₂⟩⟩

/-- **A run yields its trace**, of which the replies are those of the handler. -/
theorem yields_trace (p : Program I α) (s : σ) :
    Yields p (trace handle p s) (run handle p s).1 ∧
      Answered handle s (trace handle p s) (run handle p s).2 := by
  induction p generalizing s with
  | done a => exact ⟨⟨rfl, rfl⟩, rfl⟩
  | ask q next ih =>
      obtain ⟨hyields, hanswered⟩ := ih (handle q s).1 (handle q s).2
      exact ⟨⟨_, _, rfl, hyields⟩, rfl, hanswered⟩

/-- **A run ends as any trace with its replies says**: what a program does is determined by what it
is told. -/
theorem run_eq_of_answered {p : Program I α} {t : Trace I} {a : α} {s s' : σ}
    (hyields : Yields p t a) (hanswered : Answered handle s t s') : run handle p s = (a, s') := by
  induction p generalizing t s with
  | done b =>
      obtain ⟨rfl, rfl⟩ := hyields
      obtain rfl : s' = s := hanswered
      rfl
  | ask q next ih =>
      obtain ⟨reply, rest, rfl, hrest⟩ := hyields
      obtain ⟨hreply, hanswered⟩ := hanswered
      obtain rfl : reply = (handle q s).1 := hreply
      exact ih _ hrest hanswered

/-- **A program has one trace** for the replies of a handler. -/
theorem trace_eq_of_answered {p : Program I α} {t : Trace I} {a : α} {s s' : σ}
    (hyields : Yields p t a) (hanswered : Answered handle s t s') : trace handle p s = t := by
  induction p generalizing t s with
  | done b => exact hyields.1.symm
  | ask q next ih =>
      obtain ⟨reply, rest, rfl, hrest⟩ := hyields
      obtain ⟨hreply, hanswered⟩ := hanswered
      obtain rfl : reply = (handle q s).1 := hreply
      exact congrArg (_ :: ·) (ih _ hrest hanswered)

/-- A trace of two programs in a row goes on from the end of the first one. -/
theorem trace_bind_of_run {p : Program I α} {f : α → Program I β} {a : α} {s s' : σ}
    (h : run handle p s = (a, s')) :
    trace handle (p >>= f) s = trace handle p s ++ trace handle (f a) s' := by
  induction p generalizing s with
  | done b =>
      obtain ⟨rfl, rfl⟩ := Prod.mk.inj h
      rfl
  | ask q next ih => exact congrArg (_ :: ·) (ih _ h)

/-! ### What requests find -/

/-- **What the requests of a trace find**: each one is asked in a state where a property of state
and request holds. -/
def Finds (handle : (q : I.Request) → StateM σ (I.Reply q)) (P : σ → I.Request → Prop) :
    σ → Trace I → Prop
  | _, [] => True
  | s, x :: t => P s x.request ∧ Finds handle P (handle x.request s).2 t

variable {P : σ → I.Request → Prop}

/-- Requests in a row. -/
theorem finds_append {s m : σ} {t₁ t₂ : Trace I} (h : Answered handle s t₁ m) :
    Finds handle P s (t₁ ++ t₂) ↔ Finds handle P s t₁ ∧ Finds handle P m t₂ := by
  induction t₁ generalizing s with
  | nil =>
      obtain rfl : m = s := h
      exact ⟨fun h => ⟨trivial, h⟩, And.right⟩
  | cons x t₁ ih => exact (and_congr_right fun _ => ih h.2).trans and_assoc.symm

/-- A property of all requests in all states is found. -/
theorem finds_of_forall {s : σ} {t : Trace I} (h : ∀ x ∈ t, ∀ s, P s x.request) :
    Finds handle P s t := by
  induction t generalizing s with
  | nil => trivial
  | cons x t ih =>
      obtain ⟨hx, ht⟩ := List.forall_mem_cons.mp h
      exact ⟨hx s, ih ht⟩

/-- A request finds the state of the start, and all others what it has left. -/
theorem finds_trace_request_bind {q : I.Request} {f : I.Reply q → Program I β} {s : σ} :
    Finds handle P s (trace handle (request q >>= f) s) ↔
      P s q ∧ Finds handle P (handle q s).2 (trace handle (f (handle q s).1) (handle q s).2) :=
  Iff.rfl

/-- Two programs in a row: the requests of the second one find what the first one has left. -/
theorem finds_trace_bind {p : Program I α} {f : α → Program I β} {s : σ} :
    Finds handle P s (trace handle (p >>= f) s) ↔ Finds handle P s (trace handle p s) ∧
      Finds handle P (run handle p s).2
        (trace handle (f (run handle p s).1) (run handle p s).2) := by
  rw [trace_bind_of_run (Prod.eta (run handle p s)).symm, finds_append (yields_trace p s).2]

/-- **What is found along a trace is found at each point of the run.** -/
theorem Finds.after {p : Program I α} {s s' : σ} {n : Nat} {q : I.Request}
    {next : I.Reply q → Program I α} (h : Finds handle P s (trace handle p s))
    (hafter : Program.after handle n p s = (ask q next, s')) : P s' q := by
  induction n generalizing p s with
  | zero =>
      obtain ⟨rfl, rfl⟩ := Prod.mk.inj hafter
      exact h.1
  | succ n ih =>
      cases p with
      | done a => cases congrArg Prod.fst hafter
      | ask q' next' => exact ih h.2 hafter

end Program

end FeedSync
