/-
Py.Re: the pieces of regular expressions the tools use, as
matchers on character lists, and Python's `int` of a string.

A matcher gets the text from a position on and returns what follows the
match. The patterns of the source need no backtracking: every run is
followed by a character outside its class, so a shorter run never helps.
A matcher that looks behind (`^`, `\b`, a leading `\s`) also gets the
character before the position, `none` at the start of the string.

`\w` and `\d` are Unicode classes; the tables behind them are a
parameter, `CharDb`.
-/
import ChaosBlade.Py.Json

namespace ChaosBlade.Py

/-- What is left to the interpreter: its Unicode tables, in which ASCII is fixed, and how many
levels of a JSON text its stack has room for. -/
structure CharDb where
  nesting : Nat
  isAlnum : Char → Bool
  decimal : Char → Option Nat
  alnum_ascii : ∀ c : Char, c.toNat < 128 → isAlnum c = c.isAlphanum
  decimal_ascii : ∀ c : Char, c.toNat < 128 →
    decimal c = if c.isDigit then some (c.toNat - '0'.toNat) else none

variable (db : CharDb)

def CharDb.isWord (c : Char) : Bool := db.isAlnum c || c == '_'

def CharDb.isDigit (c : Char) : Bool := (db.decimal c).isSome

def asciiDb : CharDb where
  nesting := 900
  isAlnum := Char.isAlphanum
  decimal c := if c.isDigit then some (c.toNat - '0'.toNat) else none
  alnum_ascii _ _ := rfl
  decimal_ascii _ _ := rfl

namespace Re

def lit (p cs : List Char) : Option (List Char) :=
  if p.isPrefixOf cs then some (cs.drop p.length) else none

def spaces : List Char → Option (List Char)
  | c :: cs => if isSpace c then some (cs.dropWhile isSpace) else none
  | [] => none

def run (p : Char → Bool) (cs : List Char) : Option (List Char × List Char) :=
  match cs.takeWhile p with
  | [] => none
  | v => some (v, cs.dropWhile p)

def wordBoundary (prev next : Option Char) : Bool :=
  prev.any db.isWord != next.any db.isWord

def flagValue (flag cs : List Char) : Option (List Char) := do
  let cs ← lit flag cs
  let cs ← spaces cs
  let (_, cs) ← run (fun c => !isSpace c) cs
  return cs

def search {α : Type} (m : Option Char → List Char → Option α) :
    Option Char → List Char → Option α
  | prev, [] => m prev []
  | prev, c :: cs =>
    match m prev (c :: cs) with
    | some a => some a
    | none => search m (some c) cs

/-- Remove every match from a position on; `skip` characters of the current
match are left. -/
def removeFrom (m : Option Char → List Char → Option (List Char)) :
    Option Char → Nat → List Char → List Char
  | _, _, [] => []
  | _, skip + 1, c :: cs => removeFrom m (some c) skip cs
  | prev, 0, c :: cs =>
    match m prev (c :: cs) with
    | some rest => removeFrom m (some c) (cs.length - rest.length) cs
    | none => c :: removeFrom m (some c) 0 cs

def remove (m : Option Char → List Char → Option (List Char)) (s : String) : String :=
  String.ofList (removeFrom m none 0 s.toList)

end Re

/-! ## Integers -/

def digitRun (db : CharDb) : Nat → Nat → Bool → List Char → Option (Nat × Nat)
  | value, count, afterDigit, [] => if afterDigit then some (value, count) else none
  | value, count, afterDigit, c :: cs =>
    if c = '_' then if afterDigit then digitRun db value count false cs else none
    else
      match db.decimal c with
      | some d => digitRun db (value * 10 + d) (count + 1) true cs
      | none => none

def intMaxStrDigits : Nat := 4300

def splitSign : List Char → Int × List Char
  | '-' :: rest => (-1, rest)
  | '+' :: rest => (1, rest)
  | cs => (1, cs)

def pyInt (s : String) : Option Int :=
  let (sign, digits) := splitSign (strip s).toList
  match digitRun db 0 0 false digits with
  | some (value, count) => if count ≤ intMaxStrDigits then some (sign * value) else none
  | none => none

def pyIntError (s : String) : PyError :=
  match digitRun db 0 0 false (splitSign (strip s).toList).2 with
  | some (_, count) => ⟨.valueError, "Exceeds the limit (" ++ toString intMaxStrDigits ++
      " digits) for integer string conversion: value has " ++ toString count ++
      " digits; use sys.set_int_max_str_digits() to increase the limit"⟩
  | none => ⟨.valueError, "invalid literal for int() with base 10: " ++ (Json.str s).repr⟩

open List

namespace Re

theorem lit_eq_some {p cs rest : List Char} : lit p cs = some rest ↔ cs = p ++ rest := by
  unfold lit
  constructor
  · intro h
    split at h
    · next hpre =>
      obtain ⟨t, rfl⟩ := isPrefixOf_iff_prefix.mp hpre
      cases h
      simp
    · cases h
  · rintro rfl
    simp

def EndsRun (p : Char → Bool) (rest : List Char) : Prop := ∀ c ∈ rest.head?, p c = false

theorem takeWhile_run {p : Char → Bool} {v rest : List Char} (hv : ∀ c ∈ v, p c = true)
    (hrest : EndsRun p rest) : (v ++ rest).takeWhile p = v ∧ (v ++ rest).dropWhile p = rest := by
  rw [takeWhile_append_of_pos hv, dropWhile_append_of_pos hv]
  cases rest with
  | nil => simp
  | cons c rest =>
    have hc : p c = false := hrest c rfl
    simp [hc]

theorem endsRun_dropWhile (p : Char → Bool) (cs : List Char) : EndsRun p (cs.dropWhile p) := by
  intro c hc
  have := List.head?_dropWhile_not p cs
  rw [hc] at this
  simpa using this

theorem run_eq_some {p : Char → Bool} {cs v rest : List Char} : run p cs = some (v, rest) ↔
      cs = v ++ rest ∧ v ≠ [] ∧ (∀ c ∈ v, p c = true) ∧ EndsRun p rest := by
  unfold run
  constructor
  · intro h
    split at h
    · cases h
    · next hne =>
      cases h
      exact ⟨(takeWhile_append_dropWhile).symm, fun hnil => hne hnil,
        fun c hc => mem_takeWhile_imp hc, endsRun_dropWhile p cs⟩
  · rintro ⟨rfl, hne, hv, hrest⟩
    obtain ⟨htake, hdrop⟩ := takeWhile_run hv hrest
    rw [htake, hdrop]
    cases v with
    | nil => exact absurd rfl hne
    | cons c v => rfl

theorem spaces_eq_some {cs rest : List Char} : spaces cs = some rest ↔
      ∃ sp, cs = sp ++ rest ∧ sp ≠ [] ∧ (∀ c ∈ sp, isSpace c = true) ∧ EndsRun isSpace rest := by
  cases cs with
  | nil => simp [spaces]
  | cons c cs =>
    simp only [spaces]
    constructor
    · intro h
      split at h
      · next hc =>
        cases h
        refine ⟨c :: cs.takeWhile isSpace, by simp, by simp, ?_, endsRun_dropWhile isSpace cs⟩
        exact forall_mem_cons.mpr ⟨hc, fun d hd => mem_takeWhile_imp hd⟩
      · cases h
    · rintro ⟨sp, hsp, hne, hall, hrest⟩
      obtain ⟨d, sp, rfl⟩ := exists_cons_of_ne_nil hne
      rw [cons_append] at hsp
      obtain ⟨rfl, rfl⟩ := cons.inj hsp
      rw [if_pos (hall c mem_cons_self),
        (takeWhile_run (fun e he => hall e (mem_cons_of_mem _ he)) hrest).2]

theorem search_eq_some_iff {α : Type} {m : List Char → Option α} {a : α} :
    ∀ {cs : List Char} {prev : Option Char}, search (fun _ => m) prev cs = some a ↔
      ∃ pre post, cs = pre ++ post ∧ m post = some a ∧
        ∀ pre' post', cs = pre' ++ post' → pre'.length < pre.length → m post' = none
  | [], prev => by
    rw [search]
    constructor
    · intro h
      exact ⟨[], [], rfl, h, fun pre' post' _ hlt => absurd hlt (by simp)⟩
    · rintro ⟨pre, post, hcs, hm, -⟩
      obtain ⟨-, rfl⟩ := append_eq_nil_iff.mp hcs.symm
      exact hm
  | c :: cs, prev => by
    rw [search]
    cases hm : m (c :: cs) with
    | some b =>
      constructor
      · intro h
        exact ⟨[], c :: cs, rfl, hm.trans h, fun pre' post' _ hlt => absurd hlt (by simp)⟩
      · rintro ⟨pre, post, hcs, ha, hfirst⟩
        cases pre with
        | nil =>
          rw [nil_append] at hcs
          rw [← hcs, hm] at ha
          exact ha
        | cons d pre =>
          have hnone := hfirst [] (c :: cs) rfl (by simp)
          rw [hm] at hnone
          cases hnone
    | none =>
      simp only
      rw [search_eq_some_iff]
      constructor
      · rintro ⟨pre, post, rfl, ha, hfirst⟩
        refine ⟨c :: pre, post, rfl, ha, fun pre' post' hcs hlt => ?_⟩
        cases pre' with
        | nil =>
          rw [nil_append] at hcs
          rw [← hcs, hm]
        | cons d pre' => exact hfirst pre' post' (cons.inj hcs).2 (by simpa using hlt)
      · rintro ⟨pre, post, hcs, ha, hfirst⟩
        cases pre with
        | nil =>
          rw [nil_append] at hcs
          rw [← hcs, hm] at ha
          cases ha
        | cons d pre =>
          obtain ⟨rfl, rfl⟩ := cons.inj hcs
          exact ⟨pre, post, rfl, ha, fun pre' post' hcs' hlt =>
            hfirst (c :: pre') post' (by rw [hcs']; rfl) (by simpa using hlt)⟩

end Re

end ChaosBlade.Py
