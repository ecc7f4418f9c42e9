/-
Py.Regex: regular expressions with priorities, as the `re`
module runs them.

`Py.Re` has matchers for patterns that never backtrack. A pattern here is
data, and `ends` lists every place where a match from a given place can
end, in the order in which `re` tries them; the head of the list is the
match that `re` takes. A repetition only goes on after an iteration that
consumed something, so the length of the text bounds it.

`^` and `$` are those of `re.MULTILINE`. A letter under `re.IGNORECASE`
matches in both cases, and four letters outside ASCII match as well.
-/
import ChaosBlade.Py.Re

namespace ChaosBlade.Py

inductive Regex where
  | eps
  /-- One character of a class. -/
  | char (p : Char → Bool)
  | seq (r s : Regex)
  | alt (r s : Regex)
  /-- `r*`, or `r*?` if it is not greedy. -/
  | star (r : Regex) (greedy : Bool)
  | group (n : Nat) (r : Regex)
  | lineStart
  | lineEnd
  /-- `(?<!…)` over one class per character, the nearest character first. -/
  | notBehind (ps : List (Char → Bool))

namespace Regex

/-! ## Matching -/

/-- A place in the text: what is before it, last character first, what follows,
and the groups matched so far. -/
structure Place where
  before : List Char
  rest : List Char
  groups : List (Nat × String) := []

def between (p q : Place) : String :=
  String.ofList (q.before.take (q.before.length - p.before.length)).reverse

def iterate (step : Place → List Place) (greedy : Bool) : Nat → Place → List Place
  | 0, p => [p]
  | fuel + 1, p =>
    let more := ((step p).filter fun q => q.rest.length < p.rest.length).flatMap
      (iterate step greedy fuel)
    if greedy then more ++ [p] else p :: more

def behind : List (Char → Bool) → List Char → Bool
  | [], _ => true
  | _ :: _, [] => false
  | p :: ps, c :: cs => p c && behind ps cs

def ends : Regex → Place → List Place
  | .eps, p => [p]
  | .char f, p => match p.rest with
    | [] => []
    | c :: cs => if f c then [{ p with before := c :: p.before, rest := cs }] else []
  | .seq r s, p => (ends r p).flatMap (ends s)
  | .alt r s, p => ends r p ++ ends s p
  | .star r greedy, p => iterate (ends r) greedy p.rest.length p
  | .group n r, p => (ends r p).map fun q => { q with groups := (n, between p q) :: q.groups }
  | .lineStart, p => if p.before.head?.all (· == '\n') then [p] else []
  | .lineEnd, p => if p.rest.head?.all (· == '\n') then [p] else []
  | .notBehind ps, p => if behind ps p.before then [] else [p]

structure Match where
  start : Place
  stop : Place

def Match.text (m : Match) : String := between m.start m.stop

def Match.group (m : Match) (n : Nat) : Option String := m.stop.groups.lookup n

def Match.head (m : Match) : String := String.ofList m.start.before.reverse

def Match.tail (m : Match) : String := String.ofList m.stop.rest

def searchFrom (r : Regex) : List Char → List Char → Option Match
  | before, [] => (ends r ⟨before, [], []⟩).head?.map (⟨⟨before, [], []⟩, ·⟩)
  | before, c :: cs =>
    match (ends r ⟨before, c :: cs, []⟩).head? with
    | some q => some ⟨⟨before, c :: cs, []⟩, q⟩
    | none => searchFrom r (c :: before) cs

variable (r : Regex)

def search (text : String) : Option Match := searchFrom r [] text.toList

/-- The matches from a place on, each after the end of the one before. None of the
patterns of the source matches an empty text. -/
def findFrom (r : Regex) : Nat → Place → List Match
  | 0, _ => []
  | fuel + 1, p =>
    match searchFrom r p.before p.rest with
    | none => []
    | some m => m :: findFrom r fuel m.stop

def finditer (text : String) : List Match :=
  findFrom r (text.toList.length + 1) ⟨[], text.toList, []⟩

/-! ## Patterns -/

def oneOf (cs : String) : Regex := .char fun c => cs.toList.contains c

def lit (s : String) : Regex := s.toList.foldr (fun c r => .seq (.char (· == c)) r) .eps

/-- The ASCII letter that `re.IGNORECASE` takes a character for: both cases, and the dotted and the
dotless i, the long s and the sign of the kelvin. -/
def foldCase (c : Char) : Char :=
  if c.toNat = 0x130 ∨ c.toNat = 0x131 then 'i'
  else if c.toNat = 0x17F then 's'
  else if c.toNat = 0x212A then 'k'
  else c.toLower

def word (s : String) : Regex := s.toList.foldr (fun c r => .seq (.char (foldCase · == c)) r) .eps

def words : List String → Regex
  | [] => .oneOf ""
  | [w] => word w
  | w :: ws => .alt (word w) (words ws)

def all : List Regex → Regex := List.foldr .seq .eps

def many : Regex := .star r true

def oneOrMore : Regex := .seq r (.star r true)

def oneOrMoreLazy : Regex := .seq r (.star r false)

def opt : Regex := .alt r .eps

def space : Regex := .char isSpace

def digit (db : CharDb) : Regex := .char db.isDigit

def dot : Regex := .char (· != '\n')

end Regex

end ChaosBlade.Py
