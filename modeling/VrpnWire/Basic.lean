import Mathlib.Data.Nat.Defs

/-!
# Results, panics and checked `usize` arithmetic

A call of the crate returns its `Result` or panics. A call that borrows a
buffer mutably hands the buffer back in whatever state it left it, on `Err`
as on `Ok`, so a step maps the buffer to an outcome that carries it.
`usize` is 64 bits wide and checked as in a debug build: overflow panics.
No allocation, and so no `Bytes`, holds more than `isize::MAX` bytes.
-/

set_option autoImplicit false

namespace VrpnWire.Basic

inductive BytesRequired where
  | exactly (n : Nat)
  | atLeast (n : Nat)
  deriving DecidableEq, Repr

inductive Error where
  | needMoreData (r : BytesRequired)
  | outOfBuffer
  | trailingCharacters
  | otherMessage (s : String)
  deriving DecidableEq, Repr

inductive Outcome (σ α : Type) where
  | ok (a : α) (s : σ)
  | err (e : Error) (s : σ)
  | panic
  deriving DecidableEq, Repr

def Step (σ α : Type) : Type := σ → Outcome σ α

variable {σ α β : Type}

def Outcome.bind : Outcome σ α → (α → Step σ β) → Outcome σ β
  | .ok a s, f => f a s
  | .err e s, _ => .err e s
  | .panic, _ => .panic

@[simp] theorem Outcome.ok_bind (a : α) (s : σ) (f : α → Step σ β) :
    (Outcome.ok a s).bind f = f a s := rfl

@[simp] theorem Outcome.err_bind (e : Error) (s : σ) (f : α → Step σ β) :
    (Outcome.err e s : Outcome σ α).bind f = .err e s := rfl

@[simp] theorem Outcome.panic_bind (f : α → Step σ β) :
    (Outcome.panic : Outcome σ α).bind f = .panic := rfl

instance : Monad (Step σ) where
  pure a s := .ok a s
  bind x f s := (x s).bind f

namespace Step

@[simp] theorem pure_apply (a : α) (s : σ) : (pure a : Step σ α) s = .ok a s := rfl

@[simp] theorem bind_apply (x : Step σ α) (f : α → Step σ β) (s : σ) :
    (x >>= f) s = (x s).bind f := rfl

def fail (e : Error) : Step σ α := fun s => .err e s

def orPanic : Option α → Step σ α
  | some a => fun s => .ok a s
  | none => fun _ => .panic

def assertEq (a b : Nat) : Step σ Unit := fun s => if a = b then .ok () s else .panic

def runOn {τ : Type} (x : Step τ α) (t : τ) : Step σ (α × τ) := fun s =>
  match x t with
  | .ok a t' => .ok (a, t') s
  | .err e _ => .err e s
  | .panic => .panic

@[simp] theorem fail_apply (e : Error) (s : σ) : (fail e : Step σ α) s = .err e s := rfl

@[simp] theorem orPanic_some (a : α) (s : σ) : (orPanic (some a) : Step σ α) s = .ok a s := rfl

@[simp] theorem orPanic_none (s : σ) : (orPanic none : Step σ α) s = .panic := rfl

@[simp] theorem assertEq_self (a : Nat) (s : σ) : (assertEq a a : Step σ Unit) s = .ok () s := by
  simp [assertEq]

end Step

def usizeMax : Nat := 18446744073709551615

def isizeMax : Nat := 9223372036854775807

def u32Max : Nat := 4294967295

def usizeAdd (a b : Nat) : Option Nat := if a+b ≤ usizeMax then some (a+b) else none

def usizeSub (a b : Nat) : Option Nat := if b ≤ a then some (a-b) else none

theorem usizeAdd_of_le {a b : Nat} (h : a+b ≤ usizeMax) : usizeAdd a b = some (a+b) := if_pos h

theorem usizeSub_of_le {a b : Nat} (h : b ≤ a) : usizeSub a b = some (a-b) := if_pos h

theorem usizeSub_of_lt {a b : Nat} (h : a < b) : usizeSub a b = none := if_neg (by omega)

end VrpnWire.Basic
