/-!
# Dialogues

A program that acts on its surroundings is a dialogue: it asks for an operation, and how it goes on
depends on the reply. What an operation does is not part of the program. The same dialogue runs
against a store in memory and against a database server, and a statement about the operations that
a program asks for holds for both.
-/
namespace Passbook

/-- A program that asks for operations; `Reply op` is the type of the reply to `op`. -/
inductive Dialogue {Op : Type} (Reply : Op → Type) (α : Type) : Type
  | done (result : α)
  | ask (op : Op) (next : Reply op → Dialogue Reply α)

namespace Dialogue

variable {Op Op' : Type} {Reply : Op → Type} {Reply' : Op' → Type} {α β γ : Type}

/-- Goes on with another dialogue once there is a result. -/
def andThen (d : Dialogue Reply α) (f : α → Dialogue Reply β) : Dialogue Reply β :=
  match d with
  | done a => f a
  | ask op next => ask op fun reply => (next reply).andThen f

instance : Monad (Dialogue Reply) where
  pure := done
  bind := andThen

def perform (op : Op) : Dialogue Reply (Reply op) := ask op done

/-- The dialogue among more kinds of operations. -/
def embed (wrap : Op → Op') (unwrap : ∀ op, Reply' (wrap op) → Reply op) :
    Dialogue Reply α → Dialogue Reply' α
  | done a => done a
  | ask op next => ask (wrap op) fun reply => (next (unwrap op reply)).embed wrap unwrap

@[simp] theorem pure_eq (a : α) : (pure a : Dialogue Reply α) = done a := rfl

@[simp] theorem bind_eq (d : Dialogue Reply α) (f : α → Dialogue Reply β) :
    d >>= f = d.andThen f := rfl

@[simp] theorem done_andThen (a : α) (f : α → Dialogue Reply β) : (done a).andThen f = f a := rfl

@[simp] theorem ask_andThen (op : Op) (next : Reply op → Dialogue Reply α)
    (f : α → Dialogue Reply β) :
    (ask op next).andThen f = ask op fun reply => (next reply).andThen f := rfl

@[simp] theorem andThen_done (d : Dialogue Reply α) : d.andThen done = d := by
  induction d with
  | done a => rfl
  | ask op next ih => simp [ih]

theorem andThen_assoc (d : Dialogue Reply α) (f : α → Dialogue Reply β)
    (g : β → Dialogue Reply γ) :
    (d.andThen f).andThen g = d.andThen fun a => (f a).andThen g := by
  induction d with
  | done a => rfl
  | ask op next ih => simp [ih]

instance : LawfulMonad (Dialogue Reply) :=
  LawfulMonad.mk' _ (fun d => andThen_done d) (fun _ _ => rfl) andThen_assoc

end Dialogue

end Passbook
