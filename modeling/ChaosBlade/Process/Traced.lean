/-
Process.Traced: calls that start processes.

A coroutine that runs commands leaves two things behind: the processes it
started, in order, and what it returned or raised. An exception ends the
call but does not undo a process, so `started` is not part of the result.
What a process answers is given where it is started.
-/
import ChaosBlade.Py.Json

namespace ChaosBlade.Process

open Py

/-- What a call leaves behind, over processes of type `π`. -/
structure Traced (π α : Type) where
  started : List π
  result : Except PyError α

namespace Traced

variable {π α β : Type}

protected def pure (a : α) : Traced π α := ⟨[], .ok a⟩

protected def bind (x : Traced π α) (f : α → Traced π β) : Traced π β :=
  match x.result with
  | .error e => ⟨x.started, .error e⟩
  | .ok a => ⟨x.started ++ (f a).started, (f a).result⟩

instance : Monad (Traced π) where
  pure := Traced.pure
  bind := Traced.bind

def ofExcept (x : Except PyError α) : Traced π α := ⟨[], x⟩

def start (p : π) (answer : Except PyError α) : Traced π α := ⟨[p], answer⟩

def attempt (x : Traced π α) : Traced π (Option α) := ⟨x.started, .ok x.result.toOption⟩

def recover (handler : PyError → α) (x : Traced π α) : Traced π α :=
  match x.result with
  | .ok _ => x
  | .error e => ⟨x.started, .ok (handler e)⟩

def mapStarted {ρ : Type} (f : π → ρ) (x : Traced π α) : Traced ρ α := ⟨x.started.map f, x.result⟩

/-! ## What is returned -/

@[simp] theorem result_pure (a : α) : (pure a : Traced π α).result = .ok a := rfl

@[simp] theorem result_bind (x : Traced π α) (f : α → Traced π β) :
    (x >>= f).result = x.result >>= fun a => (f a).result := by
  show (Traced.bind x f).result = _
  unfold Traced.bind
  cases x.result <;> rfl

variable {x : Traced π α}

theorem returns_bind {f : α → Traced π β} :
    Returns (x >>= f).result ↔ ∃ a, x.result = .ok a ∧ Returns (f a).result := by
  rw [result_bind]
  cases x.result <;> simp [bind, Except.bind]

theorem returns_bind_of_ok {a : α} (h : x.result = .ok a)
    (f : α → Traced π β) : Returns (x >>= f).result ↔ Returns (f a).result := by
  rw [result_bind, h]
  rfl

@[simp] theorem result_ofExcept (x : Except PyError α) : (ofExcept x : Traced π α).result = x := rfl

@[simp] theorem result_start (p : π) (answer : Except PyError α) :
    (start p answer).result = answer := rfl

@[simp] theorem result_attempt (x : Traced π α) : x.attempt.result = .ok x.result.toOption := rfl

theorem result_recover_of_ok {a : α} (h : x.result = .ok a)
    (handler : PyError → α) : (x.recover handler).result = .ok a := by
  unfold recover
  rw [h]
  exact h

/-! ## What is started -/

@[simp] theorem started_pure (a : α) : (pure a : Traced π α).started = [] := rfl

@[simp] theorem started_ofExcept (x : Except PyError α) :
    (ofExcept x : Traced π α).started = [] := rfl

@[simp] theorem started_start (p : π) (answer : Except PyError α) :
    (start p answer).started = [p] := rfl

@[simp] theorem started_attempt (x : Traced π α) : x.attempt.started = x.started := rfl

@[simp] theorem started_recover (handler : PyError → α) (x : Traced π α) :
    (x.recover handler).started = x.started := by
  unfold recover
  cases x.result <;> rfl

@[simp] theorem started_mapStarted {ρ : Type} (f : π → ρ) (x : Traced π α) :
    (x.mapStarted f).started = x.started.map f := rfl

@[simp] theorem result_mapStarted {ρ : Type} (f : π → ρ) (x : Traced π α) :
    (x.mapStarted f).result = x.result := rfl

theorem mem_started_bind {f : α → Traced π β} {p : π} :
    p ∈ (x >>= f).started ↔ p ∈ x.started ∨ ∃ a, x.result = .ok a ∧ p ∈ (f a).started := by
  show p ∈ (Traced.bind x f).started ↔ _
  unfold Traced.bind
  cases x.result <;> simp

end Traced

end ChaosBlade.Process
