/-
Merge.Register: a register that is filled once and can be
overridden.

A register is offered values one after the other. It takes an offer if it
is empty, or if the offer overrides. So the last overriding offer wins,
and only without one the value it began with, or else the first offer.
-/
import Mathlib.Data.List.Induction

namespace ChaosBlade.Merge

open List

variable {V : Type}

/-- A value that is offered, if there is one, and whether it overrides. -/
structure Offer (V : Type) where
  value : Option V
  overrides : Bool

def step (cur : Option V) (o : Offer V) : Option V :=
  if cur.isNone || o.overrides then o.value.or cur else cur

def run (cur : Option V) (os : List (Offer V)) : Option V := os.foldl step cur

@[simp] theorem run_nil (cur : Option V) : run cur [] = cur := rfl

@[simp] theorem run_cons (cur : Option V) (o : Offer V) (os : List (Offer V)) :
    run cur (o :: os) = run (step cur o) os := rfl

theorem run_append (cur : Option V) (os os' : List (Offer V)) :
    run cur (os ++ os') = run (run cur os) os' := foldl_append

variable {cur : Option V}

theorem step_of_value {o : Offer V} {v : V} (hv : o.value = some v)
    (h : cur = none ∨ o.overrides = true) : step cur o = some v := by
  unfold step
  rcases h with rfl | h <;> simp [*]

theorem step_of_none {o : Offer V} (h : o.value = none) : step cur o = cur := by
  unfold step
  rw [h, Option.none_or, ite_self]

variable {os : List (Offer V)}

theorem run_eq_none : run cur os = none ↔ cur = none ∧ ∀ o ∈ os, o.value = none := by
  induction os generalizing cur with
  | nil => simp
  | cons o os ih =>
    have hstep : step cur o = none ↔ cur = none ∧ o.value = none := by
      unfold step
      cases cur <;> cases o.overrides <;> cases o.value <;> simp
    rw [run_cons, ih, hstep, forall_mem_cons, and_assoc]

theorem run_silent (h : ∀ o ∈ os, o.value = none) : run cur os = cur := by
  induction os with
  | nil => rfl
  | cons o os ih =>
    obtain ⟨ho, hos⟩ := forall_mem_cons.mp h
    rw [run_cons, step_of_none ho, ih hos]

theorem run_keeps {v : V} (h : ∀ o ∈ os, o.overrides = true → ∀ w, o.value = some w → w = v) :
    run (some v) os = some v := by
  induction os with
  | nil => rfl
  | cons o os ih =>
    obtain ⟨ho, hos⟩ := forall_mem_cons.mp h
    have hstep : step (some v) o = some v := by
      unfold step
      cases hov : o.overrides with
      | false => simp
      | true =>
        cases hval : o.value with
        | none => simp
        | some w => simp [ho hov w hval]
    rw [run_cons, hstep]
    exact ih hos

def Kept (cur : Option V) (os : List (Offer V)) : Prop :=
  ∀ earlier o later v, os = earlier ++ o :: later → o.value = some v →
    (run cur earlier = none ∨ o.overrides = true) → run cur os = some v

/-- Every overriding offer has the value of each offer that was taken before it: of the
overriding ones, and of the first that has one if the register was empty. -/
def Agree (cur : Option V) (os : List (Offer V)) : Prop :=
  ∀ earlier o between o' later v w, os = earlier ++ o :: (between ++ o' :: later) →
    o.value = some v → o'.value = some w → o'.overrides = true →
    (o.overrides = true ∨ cur = none ∧ ∀ p ∈ earlier, p.value = none) → v = w

theorem kept_iff_agree : Kept cur os ↔ Agree cur os := by
  constructor
  · intro h earlier o between o' later v w hos hv hw hover htaken
    have hfirst : run cur earlier = none ∨ o.overrides = true := by
      rcases htaken with hover' | hempty
      · exact .inr hover'
      · exact .inl (run_eq_none.mpr hempty)
    have hsplit : os = (earlier ++ o :: between) ++ o' :: later := by rw [hos]; simp
    have hone := h earlier o _ v hos hv hfirst
    have htwo := h _ o' later w hsplit hw (.inr hover)
    exact Option.some.inj (hone.symm.trans htwo)
  · intro h earlier o later v hos hv htaken
    have hcond : o.overrides = true ∨ cur = none ∧ ∀ p ∈ earlier, p.value = none := by
      rcases htaken with hempty | hover
      · exact .inr (run_eq_none.mp hempty)
      · exact .inl hover
    rw [hos, run_append, run_cons, step_of_value hv htaken]
    refine run_keeps fun o' ho' hover w hw => ?_
    obtain ⟨between, rest, rfl⟩ := append_of_mem ho'
    exact (h earlier o between o' rest v w hos hv hw hover hcond).symm

/-! ## The value in force -/

/-- The last overriding offer with a value, else the value the register began with, else
the first offer. -/
def inForce (cur : Option V) (os : List (Offer V)) : Option V :=
  ((os.filter Offer.overrides).filterMap Offer.value).getLast?.or
    (cur.or (os.filterMap Offer.value).head?)

open Offer

theorem run_eq_inForce (cur : Option V) (os : List (Offer V)) : run cur os = inForce cur os := by
  induction os using List.reverseRecOn with
  | nil => simp [inForce]
  | append_singleton os o ih =>
    have hhead : ((os ++ [o]).filterMap value).head? =
        (os.filterMap value).head?.or o.value := by cases hval : o.value <;> simp [hval]
    have hlast : (((os ++ [o]).filter overrides).filterMap value).getLast? =
        (if o.overrides then o.value else none).or
          ((os.filter overrides).filterMap value).getLast? := by
      cases hov : o.overrides <;> cases hval : o.value <;> simp [hov, hval]
    rw [run_append, run_cons, run_nil, ih]
    unfold step inForce
    rw [hhead, hlast]
    generalize ((os.filter overrides).filterMap value).getLast? = last
    generalize (os.filterMap value).head? = head
    cases o.overrides <;> cases o.value <;> cases last <;> cases cur <;> cases head <;> rfl

theorem run_run (cur : Option V) (os : List (Offer V)) : run (run cur os) os = run cur os := by
  simp only [run_eq_inForce, inForce]
  generalize ((os.filter overrides).filterMap value).getLast? = last
  generalize (os.filterMap value).head? = head
  cases last <;> cases cur <;> cases head <;> rfl

end ChaosBlade.Merge
