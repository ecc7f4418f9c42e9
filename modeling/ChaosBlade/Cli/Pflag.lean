/-
Cli.Pflag: how a command line built on the POSIX/GNU flag
conventions of `pflag` is read.

A command line is cut into chunks: a word, a group of flag tokens with
the values they set, or `--` with everything after it. Which flags take a
value is a table, so the reader fits any program of this family. A scan
for a single flag (`given`) passes every other token over; it and its last
state (`waits`) follow an append, so a command line that is edited in one
place is compared piece by piece. A word and an option with its value are
read without looking further, so a known front of a command line can be
peeled off (`read_word`, `read_option`, `read_options`).
-/
import ChaosBlade.Py.StrTheorems

namespace ChaosBlade.Cli

open Py List Option

/-- Which flags take a value; long names carry their dashes. -/
structure FlagTable where
  long : String → Bool
  short : Char → Bool

inductive Chunk where
  | word (w : String)
  | flag (tokens : List String) (sets : List (String × String))
  | tail (words : List String)
  deriving DecidableEq

namespace Chunk

def words : Chunk → List String
  | .word w => [w]
  | .flag _ _ => []
  | .tail ws => ws

def settings : Chunk → List (String × String)
  | .flag _ sets => sets
  | _ => []

end Chunk

def shortName (c : Char) : String := String.ofList ['-', c]

/-- The short flags of one token: the values set inside the token, and the flag
that still waits for its value. -/
def shortShape (T : FlagTable) : List Char → List (String × String) × Option String
  | [] => ([], none)
  | c :: cs =>
    if T.short c then
      match cs with
      | [] => ([], some (shortName c))
      | '=' :: v => ([(shortName c, String.ofList v)], none)
      | v => ([(shortName c, String.ofList v)], none)
    else
      match cs with
      -- a switch may be given its value explicitly
      | '=' :: _ => ([], none)
      | cs => shortShape T cs

def flagShape (T : FlagTable) (a : String) : List (String × String) × Option String :=
  if startsWith a "--" then
    if hasChar '=' a then ([(beforeChar '=' a, afterChar '=' a)], none)
    else if T.long a then ([], some a)
    else ([], none)
  else shortShape T (a.toList.drop 1)

def isWord (a : String) : Bool := a == "-" || !startsWith a "-"

def read (T : FlagTable) : List String → Option (List Chunk)
  | [] => some []
  | a :: rest =>
    if a = "--" then some [.tail rest]
    else if isWord a then (read T rest).map (.word a :: ·)
    else
      match (flagShape T a).2, rest with
      | none, rest => (read T rest).map (.flag [a] (flagShape T a).1 :: ·)
      | some _, [] => none
      | some name, v :: rest =>
        (read T rest).map (.flag [a, v] ((flagShape T a).1 ++ [(name, v)]) :: ·)

def words (chunks : List Chunk) : List String := chunks.flatMap Chunk.words

def settings (chunks : List Chunk) : List (String × String) := chunks.flatMap Chunk.settings

def lastValue (names : List String) (chunks : List Chunk) : Option String :=
  ((settings chunks).filterMap fun s => if names.contains s.1 then some s.2 else none).getLast?

def joinedValue (flag token : String) : Option String :=
  if startsWith token (flag ++ "=") then
    some (String.ofList (token.toList.drop (flag.length + 1)))
  else none

def given (flag : String) : Bool → List String → List String
  | _, [] => []
  | true, token :: rest => token :: given flag false rest
  | false, token :: rest =>
    if token = flag then given flag true rest
    else (joinedValue flag token).toList ++ given flag false rest

def waits (flag : String) : Bool → List String → Bool
  | waiting, [] => waiting
  | true, _ :: rest => waits flag false rest
  | false, token :: rest => waits flag (token = flag) rest

variable {flag : String}

theorem given_append (waiting : Bool) (a b : List String) :
    given flag waiting (a ++ b) = given flag waiting a ++ given flag (waits flag waiting a) b := by
  induction a generalizing waiting with
  | nil => rfl
  | cons token a ih =>
    cases waiting with
    | true => exact congrArg (token :: ·) (ih false)
    | false =>
      simp only [List.cons_append, given, waits]
      by_cases h : token = flag
      · simp only [h, if_true, decide_true]
        exact ih true
      · simp only [h, if_false, decide_false]
        rw [ih false, List.append_assoc]

theorem waits_of_not_mem {tokens : List String} (h : flag ∉ tokens) :
    waits flag false tokens = false := by
  induction tokens with
  | nil => rfl
  | cons token tokens ih =>
    obtain ⟨hne, hrest⟩ := List.ne_and_not_mem_of_not_mem_cons h
    rw [waits, decide_eq_false hne.symm]
    exact ih hrest

theorem given_flag (value : String) (rest : List String) :
    given flag false (flag :: value :: rest) = value :: given flag false rest := by simp [given]

theorem given_pass {token : String} (hne : token ≠ flag) (hjoined : joinedValue flag token = none)
    (rest : List String) : given flag false (token :: rest) = given flag false rest := by
  simp [given, hne, hjoined]

variable {T : FlagTable}

structure LongOption (T : FlagTable) (f : String) : Prop where
  dashes : startsWith f "--" = true
  ne_dashes : f ≠ "--"
  noEquals : hasChar '=' f = false
  takesValue : T.long f = true

theorem LongOption.not_isWord {f : String} (h : LongOption T f) : isWord f = false := by
  have hdash : startsWith f "-" = true := startsWith_trans h.dashes (by decide)
  have hne : f ≠ "-" := by
    rintro rfl
    have hd := h.dashes
    revert hd
    decide
  simp [isWord, hdash, hne]

theorem read_cons (a : String) (rest : List String) : read T (a :: rest) =
      if a = "--" then some [.tail rest]
      else if isWord a then (read T rest).map (.word a :: ·) else match (flagShape T a).2, rest with
        | none, rest => (read T rest).map (.flag [a] (flagShape T a).1 :: ·)
        | some _, [] => none
        | some name, v :: rest =>
          (read T rest).map (.flag [a, v] ((flagShape T a).1 ++ [(name, v)]) :: ·) :=
  read.eq_def T (a :: rest)

variable {a : String}

theorem read_word (h : isWord a = true) (rest : List String) :
    read T (a :: rest) = (read T rest).map (.word a :: ·) := by
  have hne : a ≠ "--" := by
    rintro rfl
    revert h
    decide
  rw [read_cons, if_neg hne, if_pos h]

theorem read_option {f : String} (h : LongOption T f) (v : String) (rest : List String) :
    read T (f :: v :: rest) = (read T rest).map (.flag [f, v] [(f, v)] :: ·) := by
  have hshape : flagShape T f = ([], some f) := by
    simp [flagShape, h.dashes, h.noEquals, h.takesValue]
  rw [read_cons, if_neg h.ne_dashes, h.not_isWord, if_neg Bool.false_ne_true, hshape]
  rfl

def optionChunk (o : String × String) : Chunk := .flag [o.1, o.2] [o]

theorem read_options {opts : List (String × String)} (h : ∀ o ∈ opts, LongOption T o.1)
    (rest : List String) : read T (opts.flatMap (fun o => [o.1, o.2]) ++ rest) =
      (read T rest).map (opts.map optionChunk ++ ·) := by
  induction opts with
  | nil => simp
  | cons o opts ih =>
    obtain ⟨ho, hopts⟩ := forall_mem_cons.mp h
    rw [flatMap_cons, append_assoc, cons_append, cons_append, nil_append,
      read_option ho, ih hopts, Option.map_map]
    rfl

theorem words_append (a b : List Chunk) : words (a ++ b) = words a ++ words b :=
  flatMap_append

theorem settings_append (a b : List Chunk) : settings (a ++ b) = settings a ++ settings b :=
  flatMap_append

@[simp] theorem words_options (opts : List (String × String)) :
    words (opts.map optionChunk) = [] := by
  induction opts with
  | nil => rfl
  | cons o opts ih => simpa [words, optionChunk, Chunk.words] using ih

@[simp] theorem settings_options (opts : List (String × String)) :
    settings (opts.map optionChunk) = opts := by
  induction opts with
  | nil => rfl
  | cons o opts ih =>
    have hcons : settings (optionChunk o :: opts.map optionChunk) =
        o :: settings (opts.map optionChunk) := rfl
    rw [map_cons, hcons, ih]

variable (names : List String)

theorem lastValue_append (a b : List Chunk) :
    lastValue names (a ++ b) = (lastValue names b).or (lastValue names a) := by
  unfold lastValue
  rw [settings_append, filterMap_append, List.getLast?_append]

end ChaosBlade.Cli
