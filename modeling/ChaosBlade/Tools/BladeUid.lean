/-
Tools.BladeUid: `utils/blade_uid.py`: the experiment's uid in
the output of `blade create`.

Three strategies in order: the JSON objects in the text, read as blade
responses; a UUID under a `result` or `uid` key; a `chaosblade-…` resource
name. A response that reports a failed experiment rules the other two out,
but the walk only reads the objects that stand in no other one.
-/
import ChaosBlade.Py.JsonDecode

namespace ChaosBlade.Tools

open Py

/-! ## Blade responses -/

inductive BladeResponse where
  | uid (u : String)
  | failed
  | silent
  deriving DecidableEq

variable (fs : List (String × Json))

def errorText : Except PyError String :=
  match Json.get? fs "error" with
  | none => .ok ""
  | some v =>
    if v.truthy then match v with
      | .str s => .ok (lower s)
      | v => .error ⟨.attributeError, "'" ++ v.typeName ++ "' object has no attribute 'lower'"⟩
    else .ok ""

def successUid : Option String :=
  if (Json.get? fs "success").any Json.isTrue && (Json.get? fs "code").any (Json.eqInt · 200) then
    (Json.get? fs "result").bind Json.nonEmptyStr?
  else none

def pendingUid : Option String :=
  if (Json.get? fs "code").any (Json.eqInt · 54000) then
    match Json.get? fs "result" with
    | some (.obj rs) => (Json.get? rs "uid").bind Json.nonEmptyStr?
    | _ => none
  else none

def isInitializing (errorMsg : String) : Bool :=
  hasSub "please wait" errorMsg || hasSub "initialized" errorMsg

def bladeResponse : Except PyError BladeResponse :=
  match successUid fs with
  | some u => .ok (.uid u)
  | none => match pendingUid fs with
    | none => .ok .silent
    | some u => do
      let errorMsg ← errorText fs
      if (Json.get? fs "success").any Json.isFalse && !isInitializing errorMsg then
        return .failed
      return .uid u

/-- The objects of a text in order, each read as a response; `sawFailed`
remembers a failed one. A text has fewer objects than characters. -/
def strategyJsonAware (db : CharDb) : Nat → Bool → List Char → Except PyError BladeResponse
  | 0, sawFailed, _ => .ok (if sawFailed then .failed else .silent)
  | fuel + 1, sawFailed, cs =>
    match cs.dropWhile (· != '\x7b') with
    | [] => .ok (if sawFailed then .failed else .silent)
    | brace :: rest => match rawDecode db.nesting (brace :: rest) with
      | .error .decode => strategyJsonAware db fuel sawFailed rest
      | .error (.other e) => .error e
      | .ok (.obj fs, rest) => match bladeResponse fs with
        | .error e => .error e
        | .ok (.uid u) => .ok (.uid u)
        | .ok .failed => strategyJsonAware db fuel true rest
        | .ok .silent => strategyJsonAware db fuel sawFailed rest
      | .ok (_, rest) => strategyJsonAware db fuel sawFailed rest

/-! ## Patterns -/

def isHexLower (c : Char) : Bool := ('a' ≤ c && c ≤ 'f') || ('0' ≤ c && c ≤ '9')

def hexes (n : Nat) (cs : List Char) : Option (List Char × List Char) :=
  if (cs.take n).length = n ∧ (cs.take n).all isHexLower then some (cs.take n, cs.drop n) else none

def uuid (cs : List Char) : Option (List Char × List Char) := do
  let (a, cs) ← hexes 8 cs
  let cs ← Re.lit ['-'] cs
  let (b, cs) ← hexes 4 cs
  let cs ← Re.lit ['-'] cs
  let (c, cs) ← hexes 4 cs
  let cs ← Re.lit ['-'] cs
  let (d, cs) ← hexes 4 cs
  let cs ← Re.lit ['-'] cs
  let (e, cs) ← hexes 12 cs
  return (a ++ ['-'] ++ b ++ ['-'] ++ c ++ ['-'] ++ d ++ ['-'] ++ e, cs)

def uuidField (cs : List Char) : Option String := do
  let cs ← Re.lit ['"'] cs
  let cs ← (Re.lit "result".toList cs <|> Re.lit "uid".toList cs)
  let cs ← Re.lit ['"'] cs
  let cs ← Re.lit [':'] (cs.dropWhile isSpace)
  let cs ← Re.lit ['"'] (cs.dropWhile isSpace)
  let (u, cs) ← uuid cs
  let _ ← Re.lit ['"'] cs
  return String.ofList u

def strategyRegex (text : String) : Option String :=
  Re.search (fun _ cs => uuidField cs) none text.toList

/-- A resource name `chaosblade-…` between word boundaries, at this position. -/
def resourceName (db : CharDb) (prev : Option Char) (cs : List Char) : Option String := do
  let (hex, rest) ← Re.run isHexLower (← Re.lit "chaosblade-".toList cs)
  if 8 ≤ hex.length ∧ prev.any db.isWord = false ∧ rest.head?.any db.isWord = false then
    return String.ofList ("chaosblade-".toList ++ hex)
  else none

def strategyChaosbladeResource (db : CharDb) (text : String) : Option String :=
  Re.search (resourceName db) none text.toList

/-! ## The entry point -/

/-- The uid in a tool's output, `none` if there is no live experiment in it. -/
def extractBladeUid (db : CharDb) (text : String) : Except PyError (Option String) := do
  match ← strategyJsonAware db text.length false text.toList with
  | .uid u => return some u
  | .failed => return none
  | .silent => match strategyRegex text with
    | some u => return some u
    | none => return strategyChaosbladeResource db text

/-- Every object in a text, at any depth: one may start at each position. -/
def embedded (text : String) : List (List (String × Json)) :=
  text.toList.tails.filterMap fun cs => match rawDecode cs.length cs with
    | .ok (.obj fs, _) => some fs
    | _ => none

structure FailedResponse (fs : List (String × Json)) : Prop where
  pending : (pendingUid fs).isSome
  success : (Json.get? fs "success").any Json.isFalse
  error : ∀ e, errorText fs = .ok e → isInitializing e = false

def SuccessResponse : Prop :=
  (Json.get? fs "success").any Json.isTrue ∧ (Json.get? fs "code").any (Json.eqInt · 200)

def ReportsFailure (text : String) : Prop :=
  (∃ fs ∈ embedded text, FailedResponse fs) ∧ ∀ fs ∈ embedded text, ¬ SuccessResponse fs

section

variable {cs rest : List Char} {c : Char}

theorem length_rest_lt (h : cs.dropWhile (· != '\x7b') = c :: rest) : rest.length < cs.length :=
  (congrArg List.length h).symm.trans_le (JsonDecode.length_dropWhile_le _ cs)

theorem exists_fuel {fuel : Nat} (hcs : cs.dropWhile (· != '\x7b') = c :: rest)
    (h : cs.length ≤ fuel) : ∃ f, fuel = f + 1 ∧ rest.length ≤ f := by
  have := length_rest_lt hcs
  exact ⟨fuel - 1, by omega, by omega⟩

theorem length_decoded_le {n : Nat} {v : Json} (h : rawDecode n (c :: cs) = .ok (v, rest)) :
    rest.length ≤ cs.length :=
  Nat.le_of_lt_succ ((JsonDecode.scan_lt _ _ _ _ _).1 h)

end

/-- The objects that stand in no other one, left to right; `none` ends them at
a number that Python does not read, or at more levels than it has room for. -/
def outermost (db : CharDb) (cs : List Char) : List (Option (List (String × Json))) :=
  match _ : cs.dropWhile (· != '\x7b') with
  | [] => []
  | brace :: rest => match _ : rawDecode db.nesting (brace :: rest) with
    | .error .decode => outermost db rest
    | .error (.other _) => [none]
    | .ok (.obj fs, rest) => some fs :: outermost db rest
    | .ok (_, rest) => outermost db rest
termination_by cs.length
decreasing_by
  · exact length_rest_lt ‹_›
  · exact (length_decoded_le ‹_›).trans_lt (length_rest_lt ‹_›)
  · exact (length_decoded_le ‹_›).trans_lt (length_rest_lt ‹_›)

def answer (o : Option (List (String × Json))) : Option BladeResponse :=
  o.bind fun fs => (bladeResponse fs).toOption

def isQuiet (o : Option (List (String × Json))) : Bool :=
  answer o = some .failed || answer o = some .silent

/-- What the objects say: the first one that is not quiet decides. -/
def decided (sawFailed : Bool) (os : List (Option (List (String × Json)))) : Option BladeResponse :=
  match os.find? (!isQuiet ·) with
  | some o => answer o
  | none => some (if sawFailed || os.any (answer · = some .failed) then .failed else .silent)

attribute [local simp] Except.toOption decided

theorem strategyJsonAware_eq (db : CharDb) {fuel : Nat} {sawFailed : Bool} {cs : List Char}
    (h : cs.length ≤ fuel) :
    (strategyJsonAware db fuel sawFailed cs).toOption = decided sawFailed (outermost db cs) := by
  fun_induction outermost db cs generalizing fuel sawFailed with
  | case1 cs hcs => cases fuel <;> cases sawFailed <;> simp [strategyJsonAware, hcs]
  | case2 cs brace rest hcs hraw ih =>
    obtain ⟨fuel, rfl, hle⟩ := exists_fuel hcs h
    simp only [strategyJsonAware, hcs, hraw]
    exact ih hle
  | case3 cs brace rest hcs e hraw =>
    obtain ⟨fuel, rfl, -⟩ := exists_fuel hcs h
    simp only [strategyJsonAware, hcs, hraw]
    rfl
  | case4 cs brace rest hcs fs rest' hraw ih =>
    obtain ⟨fuel, rfl, hle⟩ := exists_fuel hcs h
    have ih := @ih fuel
    simp only [strategyJsonAware, hcs, hraw]
    cases hr : bladeResponse fs with
    | error e => simp [isQuiet, answer, hr]
    | ok r =>
      have ha : answer (some fs) = some r := by simp [answer, hr]
      cases r with
      | uid u => simp [isQuiet, ha]
      | failed | silent =>
        refine (ih ((length_decoded_le hraw).trans hle)).trans ?_
        simp [isQuiet, ha]
  | case5 cs brace rest hcs v rest' hobj hraw ih =>
    obtain ⟨fuel, rfl, hle⟩ := exists_fuel hcs h
    simp only [strategyJsonAware, hcs, hraw]
    exact ih ((length_decoded_le hraw).trans hle)

theorem extractBladeUid_eq (db : CharDb) (text : String) : (extractBladeUid db text).toOption =
      (decided false (outermost db text.toList)).map fun
        | .uid u => some u
        | .failed => none
        | .silent => (strategyRegex text).or (strategyChaosbladeResource db text) := by
  rw [← strategyJsonAware_eq db String.length_toList.le, extractBladeUid]
  cases strategyJsonAware db text.length false text.toList with
  | error e => rfl
  | ok r =>
    cases r with
    | silent => cases strategyRegex text <;> rfl
    | _ => rfl

def failedUid : String := "9d3a1f0e-5b7c-4e21-8f6a-0c2d4e6b8a10"

def nestedFailure : String :=
  "\x7b\"output\": \x7b\"code\": 54000, \"success\": false, \"error\": \"pod not found\", " ++
    "\"result\": \x7b\"uid\": \"" ++ failedUid ++ "\"\x7d\x7d\x7d"

def failedFields : List (String × Json) :=
  [("code", .int 54000), ("success", .bool false), ("error", .str "pod not found"),
    ("result", .obj [("uid", .str failedUid)])]

end ChaosBlade.Tools
