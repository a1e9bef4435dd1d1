import Mathlib.Logic.Function.Basic

set_option autoImplicit false

namespace Shared

-- A program that may raise, and that asks its surroundings to perform operations.
inductive Process (ε : Type) {Op : Type} (Reply : Op → Type) (α : Type) where
  | done (value : α)
  | raise (error : ε)
  | perform (op : Op) (next : Reply op → Process ε Reply α)

namespace Process

variable {ε Op α β : Type} {Reply : Op → Type}

def bind (x : Process ε Reply α) (f : α → Process ε Reply β) : Process ε Reply β :=
  match x with
  | .done a => f a
  | .raise e => .raise e
  | .perform op next => .perform op fun reply => (next reply).bind f

def handle (x : Process ε Reply α) (handler : ε → Process ε Reply α) : Process ε Reply α :=
  match x with
  | .done a => .done a
  | .raise e => handler e
  | .perform op next => .perform op fun reply => (next reply).handle handler

instance : Monad (Process ε Reply) where
  pure := .done
  bind := bind

instance : MonadExcept ε (Process ε Reply) where
  throw := .raise
  tryCatch := handle

def ask (op : Op) : Process ε Reply (Reply op) := .perform op .done

def ofExcept : Except ε α → Process ε Reply α
  | .ok a => .done a
  | .error e => .raise e

@[simp] theorem done_bind (a : α) (f : α → Process ε Reply β) :
    (Process.done a : Process ε Reply α) >>= f = f a := rfl

@[simp] theorem pure_eq (a : α) : (pure a : Process ε Reply α) = .done a := rfl

@[simp] theorem raise_bind (e : ε) (f : α → Process ε Reply β) :
    (Process.raise e : Process ε Reply α) >>= f = .raise e := rfl

@[simp] theorem perform_bind (op : Op) (next : Reply op → Process ε Reply α)
    (f : α → Process ε Reply β) :
    Process.perform op next >>= f = .perform op fun reply => next reply >>= f := rfl

@[simp] theorem ask_bind (op : Op) (f : Reply op → Process ε Reply β) :
    (ask op : Process ε Reply (Reply op)) >>= f = .perform op f := rfl

theorem bind_done (x : Process ε Reply α) : (x >>= fun a => .done a) = x := by
  induction x with
  | done a => rfl
  | raise e => rfl
  | perform op next ih => exact congrArg (perform op) (funext ih)

theorem bind_bind {γ : Type} (x : Process ε Reply α) (f : α → Process ε Reply β)
    (g : β → Process ε Reply γ) : x >>= f >>= g = x >>= fun a => f a >>= g := by
  induction x with
  | done a => rfl
  | raise e => rfl
  | perform op next ih => exact congrArg (perform op) (funext ih)

instance : LawfulMonad (Process ε Reply) :=
  LawfulMonad.mk' _ bind_done (fun _ _ => rfl) bind_bind

theorem ofExcept_bind (x : Except ε α) (f : α → Except ε β) :
    (ofExcept (x >>= f) : Process ε Reply β) = ofExcept x >>= fun a => ofExcept (f a) := by
  cases x <;> rfl

-- The outcome when every operation gets the one answer that the surroundings have for it.
def under (answers : (op : Op) → Reply op) : Process ε Reply α → Except ε α
  | .done a => .ok a
  | .raise e => .error e
  | .perform op next => (next (answers op)).under answers

section Under

variable {answers : (op : Op) → Reply op}

@[simp] theorem under_done (a : α) : (Process.done a : Process ε Reply α).under answers = .ok a := rfl

@[simp] theorem under_raise (e : ε) :
    (Process.raise e : Process ε Reply α).under answers = .error e := rfl

@[simp] theorem under_perform (op : Op) (next : Reply op → Process ε Reply α) :
    (Process.perform op next).under answers = (next (answers op)).under answers := rfl

@[simp] theorem under_bind (x : Process ε Reply α) (f : α → Process ε Reply β) :
    (x >>= f).under answers = (x.under answers).bind fun a => (f a).under answers := by
  induction x with
  | done a => rfl
  | raise e => rfl
  | perform op next ih => exact ih (answers op)

end Under

-- The operations of a program, with their answers, up to its end.
inductive Trace : Process ε Reply α → List (Sigma Reply) → Except ε α → Prop where
  | done (a : α) : Trace (.done a) [] (.ok a)
  | raise (e : ε) : Trace (.raise e) [] (.error e)
  | perform {op : Op} {next : Reply op → Process ε Reply α} {events : List (Sigma Reply)}
      {result : Except ε α} (reply : Reply op) (rest : Trace (next reply) events result) :
      Trace (.perform op next) (⟨op, reply⟩ :: events) result

end Process

-- The operations that a program may perform in each of its phases.
structure Protocol {Op : Type} (Reply : Op → Type) where
  Phase : Type
  allows : Phase → Op → Prop
  next : Phase → (op : Op) → Reply op → Phase

namespace Protocol

variable {ε Op α β : Type} {Reply : Op → Type} (P : Protocol Reply)

-- Whatever the answers are, the program keeps to the protocol from this phase on.
def Obeys (post : α → P.Phase → Prop) (fail : ε → P.Phase → Prop) :
    P.Phase → Process ε Reply α → Prop
  | phase, .done a => post a phase
  | phase, .raise e => fail e phase
  | phase, .perform op next =>
    P.allows phase op ∧ ∀ reply, Obeys post fail (P.next phase op reply) (next reply)

variable {P} {phase : P.Phase} {x : Process ε Reply α} {post mid : α → P.Phase → Prop}
  {fail : ε → P.Phase → Prop}

theorem Obeys.done {a : α} (holds : post a phase) :
    P.Obeys post fail phase (Process.done a : Process ε Reply α) := holds

theorem Obeys.mono {post' : α → P.Phase → Prop} {fail' : ε → P.Phase → Prop}
    (obeys : P.Obeys post fail phase x) (implies : ∀ a s, post a s → post' a s)
    (raises : ∀ e s, fail e s → fail' e s) : P.Obeys post' fail' phase x := by
  induction x generalizing phase with
  | done a => exact implies a phase obeys
  | raise e => exact raises e phase obeys
  | perform op next ih => exact ⟨obeys.1, fun reply => ih reply (obeys.2 reply)⟩

theorem Obeys.bind {f : α → Process ε Reply β} {post : β → P.Phase → Prop}
    (first : P.Obeys mid fail phase x) (rest : ∀ a s, mid a s → P.Obeys post fail s (f a)) :
    P.Obeys post fail phase (x >>= f) := by
  induction x generalizing phase with
  | done a => exact rest a phase first
  | raise e => exact first
  | perform op next ih => exact ⟨first.1, fun reply => ih reply (first.2 reply)⟩

theorem Obeys.ofExcept {result : Except ε α} (ok : ∀ a, result = .ok a → post a phase)
    (error : ∀ e, result = .error e → fail e phase) :
    P.Obeys post fail phase (Process.ofExcept result) := by
  cases result with
  | ok a => exact ok a rfl
  | error e => exact error e rfl

end Protocol

namespace Process

variable {ε Op α β : Type} {Reply : Op → Type} {allowed : Op → Prop}

def Uses (allowed : Op → Prop) : Process ε Reply α → Prop
  | .done _ => True
  | .raise _ => True
  | .perform op next => allowed op ∧ ∀ reply, (next reply).Uses allowed

theorem Uses.bind {x : Process ε Reply α} {f : α → Process ε Reply β} (first : x.Uses allowed)
    (rest : ∀ a, (f a).Uses allowed) : (x >>= f).Uses allowed := by
  induction x with
  | done a => exact rest a
  | raise e => trivial
  | perform op next ih => exact ⟨first.1, fun reply => ih reply (first.2 reply)⟩

theorem Uses.handle {x : Process ε Reply α} {handler : ε → Process ε Reply α}
    (body : x.Uses allowed) (rest : ∀ e, (handler e).Uses allowed) :
    (x.handle handler).Uses allowed := by
  induction x with
  | done a => trivial
  | raise e => exact rest e
  | perform op next ih => exact ⟨body.1, fun reply => ih reply (body.2 reply)⟩

theorem Uses.ofExcept (result : Except ε α) :
    (Process.ofExcept result : Process ε Reply α).Uses allowed := by
  cases result <;> trivial

theorem Uses.ask {op : Op} (permitted : allowed op) :
    (Process.ask op : Process ε Reply (Reply op)).Uses allowed := ⟨permitted, fun _ => trivial⟩

theorem Uses.mono {allowed' : Op → Prop} {x : Process ε Reply α} (uses : x.Uses allowed)
    (implies : ∀ op, allowed op → allowed' op) : x.Uses allowed' := by
  induction x with
  | done a => trivial
  | raise e => trivial
  | perform op next ih => exact ⟨implies op uses.1, fun reply => ih reply (uses.2 reply)⟩

theorem Uses.keeps {P : Protocol Reply} {Inv : P.Phase → Prop} {phase : P.Phase}
    {x : Process ε Reply α} (uses : x.Uses allowed) (holds : Inv phase)
    (kept : ∀ phase op, Inv phase → allowed op →
      P.allows phase op ∧ ∀ reply, Inv (P.next phase op reply)) :
    P.Obeys (fun _ s => Inv s) (fun _ s => Inv s) phase x := by
  induction x generalizing phase with
  | done a => exact holds
  | raise e => exact holds
  | perform op next ih =>
    obtain ⟨permitted, still⟩ := kept phase op holds uses.1
    exact ⟨permitted, fun reply => ih reply (uses.2 reply) (still reply)⟩

theorem Uses.obeys {P : Protocol Reply} {phase : P.Phase} {x : Process ε Reply α}
    (uses : x.Uses allowed)
    (unnoticed : ∀ op, allowed op → P.allows phase op ∧ ∀ reply, P.next phase op reply = phase) :
    P.Obeys (fun _ s => s = phase) (fun _ s => s = phase) phase x := by
  refine uses.keeps rfl ?_
  rintro _ op rfl permitted
  exact unnoticed op permitted

theorem Uses.obeys_bind {P : Protocol Reply} {phase : P.Phase} {x : Process ε Reply α}
    {f : α → Process ε Reply β} {post : β → P.Phase → Prop} {fail : ε → P.Phase → Prop}
    (uses : x.Uses allowed)
    (unnoticed : ∀ op, allowed op → P.allows phase op ∧ ∀ reply, P.next phase op reply = phase)
    (raises : ∀ e, fail e phase) (rest : ∀ a, P.Obeys post fail phase (f a)) :
    P.Obeys post fail phase (x >>= f) := by
  have first : P.Obeys (fun _ s => s = phase) fail phase x := by
    refine (uses.obeys unnoticed).mono (fun _ _ same => same) ?_
    rintro e _ rfl
    exact raises e
  refine first.bind ?_
  rintro a _ rfl
  exact rest a

end Process

end Shared
