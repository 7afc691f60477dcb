/-!
# Programs that ask their surroundings

Everything that talks to something outside (a store, a broker, a clock) is written as a `Program`:
a tree of requests with one branch for each reply. A program does nothing by itself; `Program.run`
runs it in a monad that can answer its requests. The same program thus runs against stores in
memory, scripted peers, or the statements of a database, and a statement about a program holds for
all of them.

## Main statements

* `Program` is a lawful monad.
* `run_pure`, `run_bind`, `run_request` — running a program follows its construction.
-/

namespace FeedSync

/-- What programs can ask for, and what they get in reply. -/
structure Interface where
  Request : Type
  Reply : Request → Type

/-- A computation that asks requests of an interface and ends with a value. -/
inductive Program (I : Interface) (α : Type) : Type where
  | done (a : α)
  | ask (request : I.Request) (next : I.Reply request → Program I α)

namespace Program

variable {I : Interface} {α β : Type}

/-- Goes on with another program when a program has ended. -/
def bind : Program I α → (α → Program I β) → Program I β
  | done a, f => f a
  | ask request next, f => ask request fun reply => (next reply).bind f

instance : Monad (Program I) where
  pure := done
  bind := bind

theorem bind_done (p : Program I α) : p.bind done = p := by
  induction p with
  | done a => rfl
  | ask request next ih => simp [bind, ih]

theorem bind_bind {γ : Type} (p : Program I α) (f : α → Program I β) (g : β → Program I γ) :
    (p.bind f).bind g = p.bind fun a => (f a).bind g := by
  induction p with
  | done a => rfl
  | ask request next ih => simp [bind, ih]

instance : LawfulMonad (Program I) :=
  LawfulMonad.mk' _ bind_done (fun _ _ => rfl) bind_bind

/-- Asks one request. -/
def request (q : I.Request) : Program I (I.Reply q) := ask q done

/-- Runs a program in a monad that answers its requests. -/
def run {m : Type → Type} [Monad m] (handle : (q : I.Request) → m (I.Reply q)) :
    Program I α → m α
  | done a => pure a
  | ask q next => do (next (← handle q)).run handle

variable {m : Type → Type} [Monad m] (handle : (q : I.Request) → m (I.Reply q))

@[simp]
theorem run_pure (a : α) : run handle (pure a : Program I α) = pure a := rfl

@[simp]
theorem run_request [LawfulMonad m] (q : I.Request) : run handle (request q) = handle q := by
  simp [request, run]

@[simp]
theorem run_bind [LawfulMonad m] (p : Program I α) (f : α → Program I β) :
    run handle (p >>= f) = run handle p >>= fun a => run handle (f a) := by
  induction p with
  | done a => simp [Bind.bind, bind, run]
  | ask q next ih =>
    simp only [Bind.bind, bind, run] at ih ⊢
    simp [ih]

end Program

end FeedSync
