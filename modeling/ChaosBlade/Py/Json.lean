/-
Py.Json: the Python values a JSON document loads to.

Tool-call arguments reach the screeners as `json.loads` leaves them, so a
field can have any of these types. A float is carried by what the code
can observe of it: its `repr` text and whether it is non-zero. An object
is its list of fields; `json.loads` never yields a repeated key, and
`get?` reads the first. A value that `json.loads` could build is taken to
be shallow enough for `repr` and its integers short enough for `str`.
-/
import ChaosBlade.Py.Str
import Mathlib.Data.List.Forall2

namespace ChaosBlade.Py

inductive Json where
  | null
  | bool (b : Bool)
  | int (n : Int)
  | float (text : String) (nonzero : Bool)
  | str (s : String)
  | arr (xs : List Json)
  | obj (fs : List (String × Json))

/-! ## Exceptions -/

inductive ExcClass where
  | typeError
  | attributeError
  | valueError
  | recursionError
  | nameError
  | overflowError
  | validationError
  | toolGuardError
  | zeroDivisionError
  deriving DecidableEq

def ExcClass.name : ExcClass → String
  | .typeError => "TypeError"
  | .attributeError => "AttributeError"
  | .valueError => "ValueError"
  | .recursionError => "RecursionError"
  | .nameError => "NameError"
  | .overflowError => "OverflowError"
  | .validationError => "ValidationError"
  | .toolGuardError => "ToolGuardError"
  | .zeroDivisionError => "ZeroDivisionError"

structure PyError where
  cls : ExcClass
  msg : String
  deriving DecidableEq

theorem bind_eq_ok {ε α β : Type} {x : Except ε α} {f : α → Except ε β} {r : β} :
    (x >>= f) = .ok r ↔ ∃ a, x = .ok a ∧ f a = .ok r := by
  cases x with
  | error e | ok a => simp [bind, Except.bind]

theorem map_eq_ok {ε α β : Type} {x : Except ε α} {f : α → β} {r : β} :
    x.map f = .ok r ↔ ∃ a, x = .ok a ∧ f a = r := by
  cases x with
  | error e | ok a => simp [Except.map]

theorem mapM_eq_ok {ε α β : Type} {f : α → Except ε β} : ∀ {xs : List α} {ys : List β},
    xs.mapM f = .ok ys ↔ List.Forall₂ (fun a b => f a = .ok b) xs ys
  | [], ys => by cases ys <;> simp [pure, Except.pure]
  | a :: xs, ys => by
    simp only [List.mapM_cons, bind_eq_ok, mapM_eq_ok]
    constructor
    · rintro ⟨b, hb, bs, hbs, hys⟩
      cases hys
      exact .cons hb hbs
    · intro h
      cases h with
      | cons hb hbs => exact ⟨_, hb, _, hbs, rfl⟩

theorem toOption_eq_some {ε α : Type} {x : Except ε α} {v : α} :
    x.toOption = some v ↔ x = .ok v := by cases x <;> simp [Except.toOption]

def Returns {α : Type} (x : Except PyError α) : Prop := ∃ a, x = .ok a

@[simp] theorem returns_ok {α : Type} (a : α) : Returns (.ok a : Except PyError α) := ⟨a, rfl⟩

@[simp] theorem not_returns_error {α : Type} (e : PyError) :
    ¬ Returns (.error e : Except PyError α) := by
  rintro ⟨a, h⟩
  cases h

@[simp] theorem returns_map {α β : Type} {x : Except PyError α} {f : α → β} :
    Returns (x.map f) ↔ Returns x := by cases x <;> simp [Except.map]

theorem returns_bind {α β : Type} {x : Except PyError α} {f : α → Except PyError β}
    {p : Prop} (hf : ∀ a, Returns (f a) ↔ p) : Returns (x >>= f) ↔ Returns x ∧ p := by
  cases x with
  | error e => simp [bind, Except.bind]
  | ok a => simpa [bind, Except.bind] using hf a

theorem Returns.orElse {α : Type} {c : Prop} [Decidable c] {a : α} {x : Except PyError α}
    (h : Returns x) : Returns (if c then .ok a else x) := by
  split
  · exact returns_ok a
  · exact h

/-! ## Types, truth and text -/

namespace Json

def typeName : Json → String
  | .null => "NoneType"
  | .bool _ => "bool"
  | .int _ => "int"
  | .float _ _ => "float"
  | .str _ => "str"
  | .arr _ => "list"
  | .obj _ => "dict"

def truthy : Json → Bool
  | .null => false
  | .bool b => b
  | .int n => n ≠ 0
  | .float _ nonzero => nonzero
  | .str s => s ≠ ""
  | .arr xs => !xs.isEmpty
  | .obj fs => !fs.isEmpty

def get? (fs : List (String × Json)) (k : String) : Option Json := fs.lookup k

def hexByte (n : Nat) : List Char :=
  [Nat.digitChar (n / 16), Nat.digitChar (n % 16)]

def reprChar (q c : Char) : List Char :=
  if c = '\\' then ['\\', '\\']
  else if c = q then ['\\', q]
  else if c = '\n' then ['\\', 'n']
  else if c = '\r' then ['\\', 'r']
  else if c = '\t' then ['\\', 't']
  else if c.toNat < 32 ∨ c.toNat = 127 then ['\\', 'x'] ++ hexByte c.toNat
  else [c]

/-- The literal `repr(s)`: single quotes, unless only the single quote occurs
in `s`. -/
def reprStr (s : String) : String :=
  let q := if hasChar '\'' s && !hasChar '"' s then '"' else '\''
  String.ofList ([q] ++ s.toList.flatMap (reprChar q) ++ [q])

mutual

def repr : Json → String
  | .null => "None"
  | .bool true => "True"
  | .bool false => "False"
  | .int n => toString n
  | .float text _ => text
  | .str s => reprStr s
  | .arr xs => "[" ++ join ", " (reprItems xs) ++ "]"
  | .obj fs => "\x7b" ++ join ", " (reprFields fs) ++ "\x7d"

def reprItems : List Json → List String
  | [] => []
  | x :: xs => repr x :: reprItems xs

def reprFields : List (String × Json) → List String
  | [] => []
  | (k, v) :: fs => (reprStr k ++ ": " ++ repr v) :: reprFields fs

end

def toStr : Json → String
  | .str s => s
  | v => repr v

def strOrEmpty (v : Option Json) : String :=
  match v with
  | some v => if v.truthy then v.toStr else ""
  | none => ""

@[simp] theorem strOrEmpty_none : strOrEmpty none = "" := rfl

@[simp] theorem strOrEmpty_str (s : String) : strOrEmpty (some (.str s)) = s := by
  by_cases h : s = "" <;> simp [strOrEmpty, truthy, toStr]

@[simp] theorem toStr_str (s : String) : (Json.str s).toStr = s := rfl

@[simp] theorem truthy_str (s : String) : (Json.str s).truthy = decide (s ≠ "") := rfl

/-! ### Equality -/

mutual

def same : Json → Json → Bool
  | .null, .null => true
  | .bool a, .bool b => a == b
  | .int m, .int n => m == n
  | .float s p, .float t q => s == t && p == q
  | .str s, .str t => s == t
  | .arr xs, .arr ys => sameItems xs ys
  | .obj fs, .obj gs => sameFields fs gs
  | _, _ => false
termination_by structural v => v

def sameItems : List Json → List Json → Bool
  | [], [] => true
  | x :: xs, y :: ys => same x y && sameItems xs ys
  | _, _ => false
termination_by structural xs => xs

def sameField : String × Json → String × Json → Bool
  | (k, v), (l, w) => k == l && same v w
termination_by structural f => f

def sameFields : List (String × Json) → List (String × Json) → Bool
  | [], [] => true
  | f :: fs, g :: gs => sameField f g && sameFields fs gs
  | _, _ => false
termination_by structural fs => fs

end

mutual

theorem eq_of_same : ∀ {v w : Json}, same v w = true → v = w
  | .null, w, h => by cases w <;> simp_all [same]
  | .bool a, w, h => by cases w <;> simp_all [same]
  | .int a, w, h => by cases w <;> simp_all [same]
  | .float a b, w, h => by cases w <;> simp_all [same]
  | .str a, w, h => by cases w <;> simp_all [same]
  | .arr xs, w, h => by
    cases w with
    | arr ys => rw [@eq_of_sameItems xs ys (by simpa [same] using h)]
    | _ => simp [same] at h
  | .obj fs, w, h => by
    cases w with
    | obj gs => rw [@eq_of_sameFields fs gs (by simpa [same] using h)]
    | _ => simp [same] at h

theorem eq_of_sameItems : ∀ {xs ys : List Json}, sameItems xs ys = true → xs = ys
  | [], ys, h => by cases ys <;> simp_all [sameItems]
  | x :: xs, ys, h => by
    cases ys with
    | nil => simp [sameItems] at h
    | cons y ys =>
      simp only [sameItems, Bool.and_eq_true] at h
      rw [eq_of_same h.1, eq_of_sameItems h.2]

theorem eq_of_sameFields : ∀ {fs gs : List (String × Json)}, sameFields fs gs = true → fs = gs
  | [], gs, h => by cases gs <;> simp_all [sameFields]
  | (k, v) :: fs, gs, h => by
    cases gs with
    | nil => simp [sameFields] at h
    | cons g gs =>
      obtain ⟨l, w⟩ := g
      simp only [sameFields, sameField, Bool.and_eq_true, beq_iff_eq] at h
      rw [h.1.1, eq_of_same h.1.2, eq_of_sameFields h.2]

end

mutual

theorem same_self : ∀ v : Json, same v v = true
  | .null => rfl
  | .bool a => by simp [same]
  | .int a => by simp [same]
  | .float a b => by simp [same]
  | .str a => by simp [same]
  | .arr xs => by simpa [same] using sameItems_self xs
  | .obj fs => by simpa [same] using sameFields_self fs

theorem sameItems_self : ∀ xs : List Json, sameItems xs xs = true
  | [] => rfl
  | x :: xs => by simp [sameItems, same_self x, sameItems_self xs]

theorem sameFields_self : ∀ fs : List (String × Json), sameFields fs fs = true
  | [] => rfl
  | (k, v) :: fs => by simp [sameFields, sameField, same_self v, sameFields_self fs]

end

instance : DecidableEq Json := fun v w =>
  decidable_of_iff (same v w = true) ⟨eq_of_same, fun h => h ▸ same_self v⟩

end Json

def strList (xs : List String) : Json := .arr (xs.map .str)

@[simp] theorem strList_map_toStr (xs : List String) : (xs.map Json.str).map Json.toStr = xs := by
  induction xs with
  | nil => rfl
  | cons x xs ih => rw [List.map_cons, List.map_cons, ih, Json.toStr_str]

end ChaosBlade.Py
