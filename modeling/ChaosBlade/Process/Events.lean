/-
Process.Events: systems that take one event after another.

An interleaving of several parties is one list of events: the order of the
list is the order in which the parties took their steps. A step is a total
function; an event that is not possible in a state leaves it as it is, so
every list is a run and a theorem about every interleaving is one about
every list.
-/
import Mathlib.Data.List.Induction

namespace ChaosBlade.Process

section

variable {σ ε : Type} {step : σ → ε → σ}

def after (step : σ → ε → σ) (s : σ) (events : List ε) : σ := events.foldl step s

@[simp] theorem after_nil (s : σ) : after step s [] = s := rfl

@[simp] theorem after_cons (s : σ) (e : ε) (es : List ε) :
    after step s (e :: es) = after step (step s e) es := rfl

@[simp] theorem after_append (s : σ) (es fs : List ε) :
    after step s (es ++ fs) = after step (after step s es) fs :=
  List.foldl_append

theorem after_history {P : List ε → σ → Prop} {s : σ} (h0 : P [] s)
    (hstep : ∀ es e, P es (after step s es) → P (es ++ [e]) (step (after step s es) e))
    (events : List ε) : P events (after step s events) := by
  -- on the reversed list, so that the last event comes off first
  induction events using List.reverseRecOn with
  | nil => exact h0
  | append_singleton es e ih =>
    rw [after_append]
    exact hstep es e ih

theorem after_rel {R : σ → σ → Prop} (hstep : ∀ {s t} e, R s t → R (step s e) (step t e)) :
    ∀ {s t : σ} (events : List ε), R s t → R (after step s events) (after step t events)
  | _, _, [], h => h
  | _, _, e :: es, h => after_rel hstep es (hstep e h)

def AllSteps (step : σ → ε → σ) (C : σ → ε → Prop) : σ → List ε → Prop
  | _, [] => True
  | s, e :: es => C s e ∧ AllSteps step C (step s e) es

theorem allSteps_append {C : σ → ε → Prop} {s : σ} {es fs : List ε} :
    AllSteps step C s (es ++ fs) ↔ AllSteps step C s es ∧ AllSteps step C (after step s es) fs := by
  induction es generalizing s with
  | nil => simp [AllSteps]
  | cons e es ih => simp [AllSteps, ih, and_assoc]

/-- A condition that can be decided at each step can be decided along a run. -/
def decideAllSteps (step : σ → ε → σ) (C : σ → ε → Prop) [∀ s e, Decidable (C s e)] :
    ∀ s es, Decidable (AllSteps step C s es)
  | _, [] => .isTrue trivial
  | s, e :: es =>
    have := decideAllSteps step C (step s e) es
    inferInstanceAs (Decidable (C s e ∧ AllSteps step C (step s e) es))

instance {C : σ → ε → Prop} [∀ s e, Decidable (C s e)] (s : σ) (es : List ε) :
    Decidable (AllSteps step C s es) :=
  decideAllSteps step C s es

theorem after_of_allSteps {C : σ → ε → Prop} {P : σ → Prop}
    (hstep : ∀ s e, C s e → P s → P (step s e)) {s : σ} {events : List ε}
    (hall : AllSteps step C s events) (h : P s) : P (after step s events) := by
  induction events generalizing s with
  | nil => exact h
  | cons e es ih => exact ih hall.2 (hstep s e hall.1 h)

end

end ChaosBlade.Process
