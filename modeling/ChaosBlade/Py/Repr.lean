/-
Py.Repr: the text of a value where writing it can raise.

`repr` calls itself on the items of a list and the values of a dict, one
call on the stack for each level, and an integer has at most 4300 digits
in a text.
-/
import ChaosBlade.Py.JsonDecode

namespace ChaosBlade.Py.Json

def reprError : PyError :=
  ⟨.recursionError, "maximum recursion depth exceeded while getting the repr of an object"⟩

def tooLong (n : Int) : Bool := intMaxStrDigits < (toString n.natAbs).length

mutual

/-- The call `repr(v)` with room for `stack` nested calls. -/
def tryRepr : Nat → Json → Except PyError String
  | 0, _ => .error reprError
  | _ + 1, .int n => if tooLong n then .error digitsError else .ok (repr (.int n))
  | stack + 1, .arr xs => do return "[" ++ join ", " (← tryReprItems stack xs) ++ "]"
  | stack + 1, .obj fs => do return "\x7b" ++ join ", " (← tryReprFields stack fs) ++ "\x7d"
  | _ + 1, v => .ok (repr v)
termination_by structural _ v => v

def tryReprItems : Nat → List Json → Except PyError (List String)
  | _, [] => .ok []
  | stack, x :: xs => do return (← tryRepr stack x) :: (← tryReprItems stack xs)
termination_by structural _ xs => xs

def tryReprField : Nat → String × Json → Except PyError String
  | stack, (k, v) => do return reprStr k ++ ": " ++ (← tryRepr stack v)
termination_by structural _ f => f

def tryReprFields : Nat → List (String × Json) → Except PyError (List String)
  | _, [] => .ok []
  | stack, f :: fs => do return (← tryReprField stack f) :: (← tryReprFields stack fs)
termination_by structural _ fs => fs

end

/-- The call `str(v)`; a text is its own. -/
def tryStr (stack : Nat) : Json → Except PyError String
  | .str s => .ok s
  | v => tryRepr stack v

/-! ## What can be written -/

mutual

def levels : Json → Nat
  | .arr xs => levelsItems xs + 1
  | .obj fs => levelsFields fs + 1
  | _ => 1

def levelsItems : List Json → Nat
  | [] => 0
  | x :: xs => max (levels x) (levelsItems xs)

def levelsFields : List (String × Json) → Nat
  | [] => 0
  | (_, v) :: fs => max (levels v) (levelsFields fs)

end

mutual

def ints : Json → List Int
  | .int n => [n]
  | .arr xs => intsItems xs
  | .obj fs => intsFields fs
  | _ => []

def intsItems : List Json → List Int
  | [] => []
  | x :: xs => ints x ++ intsItems xs

def intsFields : List (String × Json) → List Int
  | [] => []
  | (_, v) :: fs => ints v ++ intsFields fs

end

/-- The value nests no deeper than the stack has room for, and has no integer that is too
long. -/
def Writable (stack : Nat) (v : Json) : Prop :=
  v.levels ≤ stack ∧ ∀ n ∈ v.ints, tooLong n = false

theorem returns_bind_pure {α β : Type} {x : Except PyError α} {f : α → β} :
    Returns (x >>= fun a => pure (f a)) ↔ Returns x := by
  cases x <;> simp [bind, Except.bind, pure, Except.pure]

theorem one_le_levels (v : Json) : 1 ≤ v.levels := by
  cases v <;> simp [levels]

mutual

theorem tryRepr_returns : ∀ (v : Json) (stack : Nat),
    Returns (tryRepr stack v) ↔ v.levels ≤ stack ∧ ∀ n ∈ v.ints, tooLong n = false
  | v, 0 => by
    have hone := one_le_levels v
    have hfalse : ¬ v.levels ≤ 0 := by omega
    cases v <;> simp [tryRepr, hfalse]
  | .null, stack + 1 => by simp [tryRepr, levels, ints]
  | .bool _, stack + 1 => by simp [tryRepr, levels, ints]
  | .float _ _, stack + 1 => by simp [tryRepr, levels, ints]
  | .str _, stack + 1 => by simp [tryRepr, levels, ints]
  | .int n, stack + 1 => by cases h : tooLong n <;> simp [tryRepr, levels, ints, h]
  | .arr xs, stack + 1 => by
    rw [tryRepr, returns_bind_pure, tryReprItems_returns xs stack, levels, ints]
    simp
  | .obj fs, stack + 1 => by
    rw [tryRepr, returns_bind_pure, tryReprFields_returns fs stack, levels, ints]
    simp

theorem tryReprItems_returns : ∀ (xs : List Json) (stack : Nat),
    Returns (tryReprItems stack xs) ↔
      levelsItems xs ≤ stack ∧ ∀ n ∈ intsItems xs, tooLong n = false
  | [], stack => by simp [tryReprItems, levelsItems, intsItems]
  | x :: xs, stack => by
    rw [tryReprItems, returns_bind (p := Returns (tryReprItems stack xs)) ?_,
      tryRepr_returns x stack, tryReprItems_returns xs stack, levelsItems, intsItems]
    · simp only [List.mem_append, Nat.max_le, or_imp, forall_and]
      tauto
    · exact fun _ => returns_bind_pure

theorem tryReprFields_returns : ∀ (fs : List (String × Json)) (stack : Nat),
    Returns (tryReprFields stack fs) ↔
      levelsFields fs ≤ stack ∧ ∀ n ∈ intsFields fs, tooLong n = false
  | [], stack => by simp [tryReprFields, levelsFields, intsFields]
  | (k, v) :: fs, stack => by
    have hfield : Returns (tryReprField stack (k, v)) ↔
        v.levels ≤ stack ∧ ∀ n ∈ v.ints, tooLong n = false := by
      rw [tryReprField, returns_bind_pure, tryRepr_returns v stack]
    rw [tryReprFields, returns_bind (p := Returns (tryReprFields stack fs)) ?_, hfield,
      tryReprFields_returns fs stack, levelsFields, intsFields]
    · simp only [List.mem_append, Nat.max_le, or_imp, forall_and]
      tauto
    · exact fun _ => returns_bind_pure

end

mutual

theorem tryRepr_eq : ∀ {v : Json} {stack : Nat} {text : String},
    tryRepr stack v = .ok text → text = repr v
  | v, 0, _, h => by cases v <;> cases h
  | .null, _ + 1, _, h | .bool _, _ + 1, _, h | .float _ _, _ + 1, _, h | .str _, _ + 1, _, h =>
    (Except.ok.inj h).symm
  | .int n, _ + 1, _, h => by
    rw [tryRepr] at h
    split at h
    · cases h
    · exact (Except.ok.inj h).symm
  | .arr xs, _ + 1, _, h => by
    obtain ⟨texts, htexts, htext⟩ := bind_eq_ok.mp h
    rw [← Except.ok.inj htext, tryReprItems_eq htexts, repr]
  | .obj fs, _ + 1, _, h => by
    obtain ⟨texts, htexts, htext⟩ := bind_eq_ok.mp h
    rw [← Except.ok.inj htext, tryReprFields_eq htexts, repr]

theorem tryReprItems_eq : ∀ {xs : List Json} {stack : Nat} {texts : List String},
    tryReprItems stack xs = .ok texts → texts = reprItems xs
  | [], _, _, h => (Except.ok.inj h).symm
  | x :: xs, _, _, h => by
    obtain ⟨text, htext, h⟩ := bind_eq_ok.mp h
    obtain ⟨texts, htexts, h⟩ := bind_eq_ok.mp h
    rw [← Except.ok.inj h, tryRepr_eq htext, tryReprItems_eq htexts, reprItems]

theorem tryReprFields_eq : ∀ {fs : List (String × Json)} {stack : Nat} {texts : List String},
    tryReprFields stack fs = .ok texts → texts = reprFields fs
  | [], _, _, h => (Except.ok.inj h).symm
  | (k, v) :: fs, _, _, h => by
    obtain ⟨field, hfield, h⟩ := bind_eq_ok.mp h
    obtain ⟨texts, htexts, h⟩ := bind_eq_ok.mp h
    obtain ⟨text, htext, hfield⟩ := bind_eq_ok.mp hfield
    rw [← Except.ok.inj h, ← Except.ok.inj hfield, tryRepr_eq htext, tryReprFields_eq htexts,
      reprFields]

end

theorem tryStr_eq {v : Json} {stack : Nat} {text : String} (h : tryStr stack v = .ok text) :
    text = v.toStr := by
  cases v with
  | str s => exact (Except.ok.inj h).symm
  | null | bool b | int n | float t b | arr xs | obj fs => exact tryRepr_eq h

theorem tryStr_returns (stack : Nat) (v : Json) :
    Returns (tryStr stack v) ↔ (∀ s, v ≠ .str s) → Writable stack v := by
  cases v with
  | str s => simp [tryStr]
  | null | bool b | int n | float t b | arr xs | obj fs =>
    simp only [tryStr, tryRepr_returns, Writable, ne_eq, reduceCtorEq, not_false_eq_true,
      implies_true, forall_const]

end ChaosBlade.Py.Json
