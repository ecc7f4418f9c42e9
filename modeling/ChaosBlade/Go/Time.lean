/-
Go.Time: `strconv.ParseUint` in base 10 and the durations of
Go's `time` package.

A `time.Duration` is its number of nanoseconds. `ParseDuration` follows
the library's loop: a sign, then numbers with an optional fraction, each
followed by a unit, with the library's overflow checks. The fraction is
scaled in `float64`, as the library does, and so is the result of
`Seconds`.
-/
import ChaosBlade.Go.Float64

namespace ChaosBlade.Go

/-! ## Digits -/

def isDigit (c : Char) : Bool := '0' ≤ c && c ≤ '9'

def digit (c : Char) : Nat := c.toNat - '0'.toNat

/-- `strconv.ParseUint(s, 10, 64)`; `none` stands for its syntax and range errors. -/
def parseUint (s : String) : Option Nat :=
  let n := s.toList.foldl (fun n c => n * 10 + digit c) 0
  if s ≠ "" && s.toList.all isDigit && n < 2 ^ 64 then some n else none

namespace Time

/-! ## Parsing a duration -/

/-- The errors of `time.ParseDuration`, with the text they quote. -/
inductive ParseError where
  | invalid (orig : String)
  | missingUnit (orig : String)
  | unknownUnit (unit orig : String)
  deriving DecidableEq

def second : Nat := 1000000000

def unitMap : List (String × Nat) :=
  [("ns", 1), ("us", 1000), ("µs", 1000), ("μs", 1000), ("ms", 1000000),
   ("s", second), ("m", 60 * second), ("h", 3600 * second)]

def leadingInt (x : Nat) : List Char → Option (Nat × List Char)
  | [] => some (x, [])
  | c :: cs =>
    if !isDigit c then some (x, c :: cs)
    else if x > 2 ^ 63 / 10 then none
    else if x * 10 + digit c > 2 ^ 63 then none
    else leadingInt (x * 10 + digit c) cs

/-- `leadingFraction`: the digits that fit, their scale as a `float64`, and the rest. -/
def leadingFraction (x : Nat) (scale : ℚ) (overflow : Bool) : List Char → Nat × ℚ × List Char
  | [] => (x, scale, [])
  | c :: cs =>
    if !isDigit c then (x, scale, c :: cs)
    else if overflow || x > (2 ^ 63 - 1) / 10 || x * 10 + digit c > 2 ^ 63 then
      leadingFraction x scale true cs
    else leadingFraction (x * 10 + digit c) (Float64.mul scale 10) false cs

/-- The integer part, the fraction and its scale, and the rest: `none` where the text
has no digit or the integer part overflows. -/
def leadingNumber (s : List Char) : Option (Nat × Nat × ℚ × List Char) :=
  (leadingInt 0 s).bind fun (v, rest) =>
    let pre := rest.length ≠ s.length
    if rest.head? = some '.' then
      let (f, scale, rest') := leadingFraction 0 1 false rest.tail
      let post := rest'.length ≠ rest.tail.length
      if pre || post then some (v, f, scale, rest') else none
    else if pre then some (v, 0, 1, rest) else none

def scaled (v f : Nat) (scale : ℚ) (unit : Nat) : Option Nat :=
  if v > 2 ^ 63 / unit then none
  else if f = 0 then some (v * unit)
  else
    let w := v * unit + ⌊Float64.mul (Float64.round f) (Float64.div unit scale)⌋₊
    if w > 2 ^ 63 then none else some w

/-- The loop of `ParseDuration`. A round takes a character or more, so the length of the
text is fuel enough. -/
def parseLoop (orig : String) : Nat → List Char → Nat → Except ParseError Nat
  | _, [], d => .ok d
  | 0, _ :: _, _ => .error (.invalid orig)
  | fuel + 1, s, d =>
    match leadingNumber s with
    | none => .error (.invalid orig)
    | some (v, f, scale, rest) =>
      let u := String.ofList (rest.takeWhile fun c => c ≠ '.' && !isDigit c)
      if u = "" then .error (.missingUnit orig)
      else match unitMap.lookup u with
        | none => .error (.unknownUnit u orig)
        | some unit =>
          match scaled v f scale unit with
          | none => .error (.invalid orig)
          | some w =>
            -- the sum is a `uint64`
            let sum := (d + w) % 2 ^ 64
            if sum > 2 ^ 63 then .error (.invalid orig)
            else parseLoop orig fuel (rest.dropWhile fun c => c ≠ '.' && !isDigit c) sum

/-- The end of `ParseDuration`: only a negative duration can have `2 ^ 63` nanoseconds. -/
def withSign (orig : String) (neg : Bool) (d : Nat) : Except ParseError Int :=
  if neg then .ok (-d) else if d > 2 ^ 63 - 1 then .error (.invalid orig) else .ok d

def unsigned (s : List Char) : List Char :=
  if s.head? = some '-' || s.head? = some '+' then s.tail else s

def parseDuration (orig : String) : Except ParseError Int :=
  let s := unsigned orig.toList
  if s = ['0'] then .ok 0
  else if s = [] then .error (.invalid orig)
  else parseLoop orig s.length s 0 >>= withSign orig (orig.toList.head? = some '-')

theorem parseDuration_lt {s : String} {d : Int} (h : parseDuration s = .ok d) : d < 2 ^ 63 := by
  simp only [parseDuration] at h
  split_ifs at h with hzero hempty
  · cases h
    norm_num
  · rcases hloop : parseLoop s (unsigned s.toList).length (unsigned s.toList) 0 with e | n
    · simp [hloop, bind, Except.bind] at h
    · simp only [hloop, bind, Except.bind, withSign] at h
      split_ifs at h with hneg hlarge
      all_goals
        cases h
        omega

/-! ## Seconds -/

/-- `Duration.Seconds`: whole seconds and the rest are turned into `float64`s and added. -/
def seconds (d : Int) : ℚ :=
  Float64.add (Float64.round (d.tdiv second)) (Float64.div (Float64.round (d.tmod second)) second)

theorem seconds_natCast {d : Nat} (h : d < 2 ^ 63) :
    seconds d = Float64.add (d / second : ℕ) (Float64.div (d % second : ℕ) second) := by
  have hsec : d / second < 2 ^ 53 := by
    simp only [second]
    omega
  have hrest : d % second < 2 ^ 53 := by
    simp only [second]
    omega
  have hdiv : ((d : Int).tdiv second : ℚ) = (d / second : ℕ) := by rfl
  have hmod : ((d : Int).tmod second : ℚ) = (d % second : ℕ) := by rfl
  rw [seconds, hdiv, hmod, Float64.round_natCast hsec, Float64.round_natCast hrest]

theorem fraction_bounds (d : Nat) :
    0 ≤ Float64.div (d % second : ℕ) second ∧ Float64.div (d % second : ℕ) second ≤ 1 := by
  have hpos : (0 : ℚ) < second := by norm_num [second]
  have hnonneg : (0 : ℚ) ≤ (d % second : ℕ) / second := by positivity
  have hone : ((d % second : ℕ) / second : ℚ) ≤ 1 := by
    rw [div_le_one hpos]
    exact_mod_cast (Nat.mod_lt d (by norm_num [second])).le
  have hlt : ((d % second : ℕ) / second : ℚ) < 2 ^ 53 := hone.trans_lt (by norm_num)
  constructor
  · exact_mod_cast Float64.le_round (n := 0) hnonneg hlt (by simpa using hnonneg)
  · exact_mod_cast Float64.round_le (n := 1) hnonneg hlt (by simpa using hone)

theorem seconds_bounds {d : Nat} (h : d < 2 ^ 63) :
    ((d / second : ℕ) : ℚ) ≤ seconds d ∧ seconds d ≤ (d / second + 1 : ℕ) := by
  obtain ⟨hfrac0, hfrac1⟩ := fraction_bounds d
  have hsec : ((d / second : ℕ) : ℚ) + 1 < 2 ^ 53 := by
    have : d / second + 1 < 2 ^ 53 := by
      simp only [second]
      omega
    exact_mod_cast this
  rw [seconds_natCast h]
  constructor
  · exact Float64.le_round (by linarith) (by linarith) (by linarith)
  · refine Float64.round_le (by linarith) (by linarith) ?_
    rw [Nat.cast_add, Nat.cast_one]
    linarith

/-- `uint64` of a `float64`. Go leaves the result for a negative value to the
platform. -/
def toUint64 (platform : ℚ → Nat) (x : ℚ) : Nat := if x < 0 then platform x else ⌊x⌋₊

def RoundsUp (d : Int) : Prop := ((d.toNat / second + 1 : ℕ) : ℚ) ≤ seconds d

instance (d : Int) : Decidable (RoundsUp d) := inferInstanceAs (Decidable (_ ≤ _))

theorem toUint64_seconds (platform : ℚ → Nat) {d : Nat} (h : d < 2 ^ 63) :
    toUint64 platform (seconds d) = if RoundsUp d then d / second + 1 else d / second := by
  obtain ⟨hlow, hhigh⟩ := seconds_bounds h
  have hnonneg : (0 : ℚ) ≤ seconds d := le_trans (Nat.cast_nonneg _) hlow
  rw [toUint64, if_neg (not_lt.mpr hnonneg)]
  split_ifs with hup
  · have heq : seconds d = (d / second + 1 : ℕ) := le_antisymm hhigh hup
    rw [heq, Nat.floor_natCast]
  · have hlt : seconds d < (d / second : ℕ) + 1 := by simpa [RoundsUp] using hup
    exact (Nat.floor_eq_iff hnonneg).mpr ⟨hlow, hlt⟩

end Time

end ChaosBlade.Go
