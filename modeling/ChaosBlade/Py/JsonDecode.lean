/-
Py.JsonDecode: the standard decoder of Python's `json`.

A scanner gets the text from a position on and returns the value and what
follows it. `rawDecode` is `JSONDecoder.raw_decode`: the value that starts
exactly here. `jsonLoads` is `json.loads`: one value, blanks around it and
nothing else, of a text that does not nest too deep for the interpreter. The
decoder moves forward: a value takes at least one character.
-/
import ChaosBlade.Py.Dict
import ChaosBlade.Py.Re

namespace ChaosBlade.Py

def digitsError : PyError :=
  ⟨.valueError, "Exceeds the limit (4300 digits) for integer string conversion"⟩

def nestingError (container : String) : PyError :=
  ⟨.recursionError, "maximum recursion depth exceeded while decoding a JSON " ++ container ++
    " from a unicode string"⟩

/-- What the decoder raises: `json.JSONDecodeError`, or an error that is none: the plain
`ValueError` of `int` on a number of more than 4300 digits, and the `RecursionError` of objects
and arrays that are nested too deep. -/
inductive JsonError where
  | decode
  | other (e : PyError)

namespace JsonDecode

def isBlank (c : Char) : Bool := c == ' ' || c == '\t' || c == '\n' || c == '\r'

variable (cs : List Char)

def skipBlanks : List Char := cs.dropWhile isBlank

/-! ## Strings -/

def hexValue (c : Char) : Option Nat :=
  if '0' ≤ c ∧ c ≤ '9' then some (c.toNat - '0'.toNat)
  else if 'a' ≤ c ∧ c ≤ 'f' then some (c.toNat - 'a'.toNat + 10)
  else if 'A' ≤ c ∧ c ≤ 'F' then some (c.toNat - 'A'.toNat + 10)
  else none

def hex4 : List Char → Option (Nat × List Char)
  | a :: b :: c :: d :: rest => do
    let a ← hexValue a
    let b ← hexValue b
    let c ← hexValue c
    let d ← hexValue d
    return (((a * 16 + b) * 16 + c) * 16 + d, rest)
  | _ => none

def isHighSurrogate (n : Nat) : Bool := 0xD800 ≤ n && n ≤ 0xDBFF

def isLowSurrogate (n : Nat) : Bool := 0xDC00 ≤ n && n ≤ 0xDFFF

/-- The character of a `\u` escape, with the second half of a pair if one
follows. -/
def unicodeEscape : Option (Char × List Char) := do
  let (n, rest) ← hex4 cs
  match rest with
  | '\\' :: 'u' :: more =>
    match hex4 more with
    | some (m, rest') =>
      if isHighSurrogate n && isLowSurrogate m then
        return (Char.ofNat (0x10000 + (n - 0xD800) * 0x400 + (m - 0xDC00)), rest')
      else return (if isHighSurrogate n || isLowSurrogate n then '\ufffd' else Char.ofNat n, rest)
    | none => return (if isHighSurrogate n || isLowSurrogate n then '\ufffd' else Char.ofNat n,
        rest)
  | _ => return (if isHighSurrogate n || isLowSurrogate n then '\ufffd' else Char.ofNat n, rest)

def escape : List Char → Option (Char × List Char)
  | '"' :: rest => some ('"', rest)
  | '\\' :: rest => some ('\\', rest)
  | '/' :: rest => some ('/', rest)
  | 'b' :: rest => some (Char.ofNat 8, rest)
  | 'f' :: rest => some (Char.ofNat 12, rest)
  | 'n' :: rest => some ('\n', rest)
  | 'r' :: rest => some ('\r', rest)
  | 't' :: rest => some ('\t', rest)
  | 'u' :: rest => unicodeEscape rest
  | _ => none

def scanString : Nat → List Char → Option (List Char × List Char)
  | 0, _ => none
  | _ + 1, [] => none
  | fuel + 1, c :: rest =>
    if c = '"' then some ([], rest)
    else if c = '\\' then do
      let (e, rest) ← escape rest
      let (s, rest) ← scanString fuel rest
      return (e :: s, rest)
    else if c.toNat < 32 then none
    else do
      let (s, rest) ← scanString fuel rest
      return (c :: s, rest)

/-! ## Numbers -/

def isDigit (c : Char) : Bool := '0' ≤ c && c ≤ '9'

def scanInt : Option (List Char × List Char) :=
  match cs with
  | '0' :: rest => some (['0'], rest)
  | _ => match cs.takeWhile isDigit with
    | [] => none
    | ds => some (ds, cs.dropWhile isDigit)

def scanFraction : List Char × List Char :=
  match cs with
  | '.' :: rest => match rest.takeWhile isDigit with
    | [] => ([], cs)
    | ds => ('.' :: ds, rest.dropWhile isDigit)
  | _ => ([], cs)

def scanSign : List Char → List Char × List Char
  | '-' :: rest => (['-'], rest)
  | '+' :: rest => (['+'], rest)
  | cs => ([], cs)

def scanExponent : List Char × List Char :=
  match cs with
  | e :: rest =>
    if e = 'e' ∨ e = 'E' then
      let (sign, ds) := scanSign rest
      match ds.takeWhile isDigit with
      | [] => ([], cs)
      | xs => (e :: sign ++ xs, ds.dropWhile isDigit)
    else ([], cs)
  | [] => ([], [])

def digitsValue (ds : List Char) : Nat := ds.foldl (fun n d => n * 10 + (d.toNat - '0'.toNat)) 0

def scanNumber : Except JsonError (Json × List Char) :=
  let (neg, cs) := match cs with
    | '-' :: rest => (true, rest)
    | _ => (false, cs)
  match scanInt cs with
  | none => .error .decode
  | some (ds, rest) =>
    let (frac, rest) := scanFraction rest
    let (exp, rest) := scanExponent rest
    if frac = [] ∧ exp = [] then
      if intMaxStrDigits < ds.length then .error (.other digitsError)
      else .ok (.int (if neg then -(digitsValue ds : Int) else digitsValue ds), rest)
    else
      .ok (.float (String.ofList ((if neg then ['-'] else []) ++ ds ++ frac ++ exp))
        ((ds ++ frac).any fun c => isDigit c && c != '0'), rest)

/-! ## Values -/

def words : List (List Char × Json) :=
  [("null".toList, .null), ("true".toList, .bool true), ("false".toList, .bool false),
   ("NaN".toList, .float "nan" true), ("Infinity".toList, .float "inf" true),
   ("-Infinity".toList, .float "-inf" true)]

def scanWord : Option (Json × List Char) :=
  words.findSome? fun (w, v) => (Re.lit w cs).map fun rest => (v, rest)

mutual

/-- The value that starts here; `nesting` is how many levels the stack still has room for. -/
def scanOnce : Nat → Nat → List Char → Except JsonError (Json × List Char)
  | 0, _, _ => .error .decode
  | fuel + 1, nesting, cs =>
    match cs with
    | '"' :: rest => match scanString (rest.length + 1) rest with
      | some (s, rest) => .ok (.str (String.ofList s), rest)
      | none => .error .decode
    | '\x7b' :: rest => match nesting with
      | 0 => .error (.other (nestingError "object"))
      | nesting + 1 => match skipBlanks rest with
        | '\x7d' :: rest => .ok (.obj [], rest)
        | rest => scanMembers fuel nesting [] rest
    | '[' :: rest => match nesting with
      | 0 => .error (.other (nestingError "array"))
      | nesting + 1 => match skipBlanks rest with
        | ']' :: rest => .ok (.arr [], rest)
        | rest => scanItems fuel nesting [] rest
    | _ => match scanWord cs with
      | some r => .ok r
      | none => scanNumber cs

def scanMembers : Nat → Nat → List (String × Json) → List Char → Except JsonError (Json × List Char)
  | 0, _, _, _ => .error .decode
  | fuel + 1, nesting, fs, cs =>
    match cs with
    | '"' :: rest => match scanString (rest.length + 1) rest with
      | none => .error .decode
      | some (key, rest) => match skipBlanks rest with
        | ':' :: rest => match scanOnce fuel nesting (skipBlanks rest) with
          | .error e => .error e
          | .ok (v, rest) =>
            let fs := Dict.setEntry (String.ofList key) v fs
            match skipBlanks rest with
            | '\x7d' :: rest => .ok (.obj fs, rest)
            | ',' :: rest => scanMembers fuel nesting fs (skipBlanks rest)
            | _ => .error .decode
        | _ => .error .decode
    | _ => .error .decode

/-- The items of an array from a value on; `xs` are the ones before it, last
first. -/
def scanItems : Nat → Nat → List Json → List Char → Except JsonError (Json × List Char)
  | 0, _, _, _ => .error .decode
  | fuel + 1, nesting, xs, cs =>
    match scanOnce fuel nesting cs with
    | .error e => .error e
    | .ok (v, rest) => match skipBlanks rest with
      | ']' :: rest => .ok (.arr (v :: xs).reverse, rest)
      | ',' :: rest => scanItems fuel nesting (v :: xs) (skipBlanks rest)
      | _ => .error .decode

end

end JsonDecode

open JsonDecode

/-- The value that starts here, `raw_decode`. A value of `n` characters nests
at most `n` deep and has at most `n` members, so the fuel never runs out. -/
def rawDecode (nesting : Nat) (cs : List Char) : Except JsonError (Json × List Char) :=
  scanOnce (2 * cs.length + 2) nesting cs

def jsonLoads (s : String) : Except JsonError Json :=
  match s.toList with
  -- a byte order mark is refused
  | '\ufeff' :: _ => .error .decode
  | cs => match rawDecode cs.length (skipBlanks cs) with
    | .error e => .error e
    | .ok (v, rest) => if skipBlanks rest = [] then .ok v else .error .decode

/-! ## Reading a decoded value -/

def attributeError (v : Json) (name : String) : PyError :=
  ⟨.attributeError, "'" ++ v.typeName ++ "' object has no attribute '" ++ name ++ "'"⟩

namespace Json

/-- The exact value of a float's text as a fraction, `none` for `nan` and the
infinities. -/
def decimalText (text : String) : Option (Int × Nat) :=
  let cs := text.toList
  let (neg, cs) := match cs with
    | '-' :: rest => (true, rest)
    | _ => (false, cs)
  match scanInt cs with
  | none => none
  | some (ds, rest) =>
    let (frac, rest) := scanFraction rest
    let (exp, _) := scanExponent rest
    let fracDigits := frac.drop 1
    let mantissa : Int := digitsValue (ds ++ fracDigits)
    let mantissa := if neg then -mantissa else mantissa
    let (esign, eds) := scanSign (exp.drop 1)
    let e : Int := digitsValue eds
    let e := (if esign = ['-'] then -e else e) - fracDigits.length
    if 0 ≤ e then some (mantissa * Int.ofNat (Nat.pow 10 e.toNat), 1)
    else some (mantissa, Nat.pow 10 (-e).toNat)

/-- The comparison `v == n` with an integer: booleans are the integers 0 and 1,
and a float is compared by value. -/
def eqInt (v : Json) (n : Int) : Bool :=
  match v with
  | .int m => m == n
  | .bool b => (if b then 1 else 0) == n
  | .float text _ => match decimalText text with
    | some (num, den) => num == n * den
    | none => false
  | _ => false

def isTrue : Json → Bool
  | .bool b => b
  | _ => false

def isFalse : Json → Bool
  | .bool b => !b
  | _ => false

def isStr (v : Json) (s : String) : Bool :=
  match v with
  | .str t => t == s
  | _ => false

theorem isStr_iff {v : Json} {s : String} : v.isStr s = true ↔ v = .str s := by
  cases v <;> simp [isStr]

def nonEmptyStr? : Json → Option String
  | .str s => if s = "" then none else some s
  | _ => none

def contains (v : Json) (p : String) : Except PyError Bool :=
  match v with
  | .str s => .ok (hasSub p s)
  | .arr xs => .ok (xs.any fun
    | .str s => s == p
    | _ => false)
  | .obj fs => .ok (fs.any fun f => f.1 == p)
  | v => .error ⟨.typeError, "argument of type '" ++ v.typeName ++ "' is not iterable"⟩

def field? (v : Json) (k : String) : Option Json :=
  match v with
  | .obj fs => get? fs k
  | _ => none

@[simp] theorem field?_obj (fs : List (String × Json)) (k : String) :
    (Json.obj fs).field? k = get? fs k := rfl

def getD (args : Json) (k : String) (default : Json) : Except PyError Json :=
  match args with
  | .obj fs => .ok ((get? fs k).getD default)
  | v => .error ⟨.attributeError, "'" ++ v.typeName ++ "' object has no attribute 'get'"⟩

theorem getD_eq_ok {args default v : Json} {k : String} (h : args.getD k default = .ok v) :
    v = (args.field? k).getD default := by
  cases args with
  | obj fs => exact (Except.ok.inj h).symm
  | null => cases h
  | bool b => cases h
  | int n => cases h
  | float text nonzero => cases h
  | str s => cases h
  | arr xs => cases h

end Json

end ChaosBlade.Py

namespace ChaosBlade.Py.JsonDecode

open List Option

variable {cs rest : List Char}

theorem length_dropWhile_le (p : Char → Bool) (cs : List Char) :
    (cs.dropWhile p).length ≤ cs.length :=
  (dropWhile_sublist p).length_le

theorem hex4_le {n : Nat} (h : hex4 cs = some (n, rest)) : rest.length ≤ cs.length := by
  unfold hex4 at h
  split at h
  · simp only [bind_eq_bind, bind_eq_some_iff] at h
    grind
  · cases h

theorem escape_le {c : Char} (h : escape cs = some (c, rest)) : rest.length ≤ cs.length := by
  unfold escape unicodeEscape at h
  simp only [bind, Option.bind] at h
  repeat' split at h
  all_goals grind [→ hex4_le]

theorem scanString_le {fuel : Nat} {s : List Char} (h : scanString fuel cs = some (s, rest)) :
    rest.length ≤ cs.length := by
  fun_induction scanString fuel cs generalizing s rest with
  | case4 fuel tail _ ih =>
    obtain ⟨⟨e, r⟩, he, h⟩ := bind_eq_some_iff.mp h
    obtain ⟨⟨s', r'⟩, hs, h⟩ := bind_eq_some_iff.mp h
    grind [→ escape_le]
  | case6 fuel c tail _ _ _ ih =>
    obtain ⟨⟨s', r'⟩, hs, h⟩ := bind_eq_some_iff.mp h
    grind
  | _ => grind

theorem scanInt_lt {ds : List Char} (h : scanInt cs = some (ds, rest)) :
    rest.length < cs.length := by
  have hlen := congrArg List.length (takeWhile_append_dropWhile (p := isDigit) (l := cs))
  unfold scanInt at h
  repeat' split at h
  all_goals grind [length_pos_of_ne_nil]

theorem scanFraction_le (cs : List Char) : (scanFraction cs).2.length ≤ cs.length := by
  unfold scanFraction
  grind [length_dropWhile_le]

theorem scanExponent_le (cs : List Char) : (scanExponent cs).2.length ≤ cs.length := by
  unfold scanExponent scanSign
  repeat' split
  all_goals grind [length_dropWhile_le]

theorem scanNumber_lt {v : Json} (h : scanNumber cs = .ok (v, rest)) : rest.length < cs.length := by
  unfold scanNumber at h
  repeat' split at h
  all_goals grind [→ scanInt_lt, scanExponent_le, scanFraction_le]

theorem scanWord_lt {v : Json} (h : scanWord cs = some (v, rest)) : rest.length < cs.length := by
  obtain ⟨⟨w, v'⟩, hmem, h⟩ := List.exists_of_findSome?_eq_some h
  obtain ⟨r, hr, h⟩ := map_eq_some_iff.mp h
  cases h
  have hw : ∀ w ∈ words, 0 < w.1.length := by decide
  rw [Re.lit_eq_some.mp hr, length_append]
  exact Nat.lt_add_of_pos_left (hw _ hmem)

theorem scan_lt (fuel : Nat) : ∀ nesting cs v rest,
    (scanOnce fuel nesting cs = .ok (v, rest) → rest.length < cs.length) ∧
    (∀ fs, scanMembers fuel nesting fs cs = .ok (v, rest) → rest.length < cs.length) ∧
    ∀ xs, scanItems fuel nesting xs cs = .ok (v, rest) → rest.length < cs.length := by
  have hblank := length_dropWhile_le isBlank
  induction fuel with
  | zero => simp [scanOnce, scanMembers, scanItems]
  | succ fuel ih =>
    intro nesting cs v rest
    refine ⟨fun h => ?_, fun fs h => ?_, fun xs h => ?_⟩
    · unfold scanOnce at h
      repeat' split at h
      all_goals grind [→ scanString_le, → scanWord_lt, → scanNumber_lt, skipBlanks]
    · unfold scanMembers at h
      repeat' split at h
      all_goals grind [→ scanString_le, skipBlanks]
    · unfold scanItems at h
      repeat' split at h
      all_goals grind [skipBlanks]

end ChaosBlade.Py.JsonDecode
