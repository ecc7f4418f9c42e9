/-
Tools.FaultType: the minimum durations and the flags of
`utils/fault_type.py`.

Every entry of the table and the default are 600 seconds, so the fault
type never matters (`getRecommendedDuration_eq`).
-/
import ChaosBlade.Py.Dict
import ChaosBlade.Py.Re
import ChaosBlade.Py.Shlex

namespace ChaosBlade.Tools

open Py

def faultTypeMinDuration : List ((String × String × String) × Int) :=
  [(("node", "disk", "fill"), 600), (("node", "network", "drop"), 600),
   (("node", "cpu", "fullload"), 600),
   (("node", "mem", "load"), 600),
   (("node", "disk", "burn"), 600),
   (("pod", "cpu", "fullload"), 600),
   (("pod", "mem", "load"), 600),
   (("pod", "network", "drop"), 600),
   (("pod", "disk", "fill"), 600),
   (("pod", "disk", "burn"), 600),
   (("pod", "process", "kill"), 600),
   (("container", "cpu", "fullload"), 600),
   (("container", "mem", "load"), 600),
   (("container", "network", "drop"), 600)]

def defaultMinDuration : Int := 600

def getRecommendedDuration (scope target action : String) : Int :=
  (faultTypeMinDuration.lookup (scope, target, action)).getD defaultMinDuration

/-- The timeout raised to the minimum of the fault type; an unreadable timeout
counts as none. An empty fault-type field stands for `None`. -/
def ensureMinDuration (db : CharDb) (timeout : Option String) (scope target action : String) :
    Int :=
  let recommended :=
    if scope ≠ "" ∧ target ≠ "" ∧ action ≠ "" then getRecommendedDuration scope target action
    else defaultMinDuration
  let current :=
    match timeout with
    | none => 0
    | some t => if t = "" then 0 else (pyInt db (strip t)).getD 0
  if current < recommended then recommended else current

theorem lookup_minDuration {key : String × String × String} {d : Int}
    (h : faultTypeMinDuration.lookup key = some d) : d = 600 := by
  obtain ⟨l₁, l₂, hl, -⟩ := List.lookup_eq_some_iff.mp h
  have hmem : (key, d) ∈ faultTypeMinDuration := by
    rw [hl]
    simp
  have hall : ∀ e ∈ faultTypeMinDuration, e.2 = 600 := by decide
  exact hall _ hmem

theorem getRecommendedDuration_eq (scope target action : String) :
    getRecommendedDuration scope target action = 600 := by
  unfold getRecommendedDuration
  cases h : faultTypeMinDuration.lookup (scope, target, action) with
  | none => rfl
  | some d => exact lookup_minDuration h

theorem ensureMinDuration_eq (db : CharDb) (timeout : Option String)
    (scope target action : String) : ensureMinDuration db timeout scope target action =
      max 600 (match timeout with
        | none => 0
        | some t => if t = "" then 0 else (pyInt db (strip t)).getD 0) := by
  unfold ensureMinDuration
  rw [getRecommendedDuration_eq]
  simp only [defaultMinDuration]
  split <;> omega

/-! ## Flags -/

/-- The pairs of `build_blade_create_args`: the duration takes the place of a timeout. -/
def flagPairs (params : Dict String) (duration : Int) : List (String × String) :=
  if 0 < duration then
    if (params.get? "timeout").isSome then (params.set "timeout" (toString duration)).entries
    else params.entries
  else params.entries

def addedTimeout (params : Dict String) (duration : Int) : List (String × String) :=
  if 0 < duration ∧ (params.get? "timeout").isSome = false then [("timeout", toString duration)]
      else []

def pairTokens (pairs : List (String × String)) : List String :=
  pairs.flatMap fun e => ["--" ++ e.1, e.2]

def createFlags (params : Dict String) (paramsFlags : List String) (duration : Int) : List String :=
  pairTokens (flagPairs params duration) ++ paramsFlags.map ("--" ++ ·) ++
    pairTokens (addedTimeout params duration)

def keyParams : List String :=
  ["path", "percent", "size", "timeout", "time", "cpu-percent", "mem-percent"]

def keyOf (token : String) : Option String :=
  let key := String.ofList (token.toList.drop 2)
  if startsWith token "--" && keyParams.contains key then some key else none

def scanKeys (found : Dict String) : List String → Dict String
  | token :: value :: rest => match keyOf token with
    | some key => scanKeys (found.set key value) rest
    | none => scanKeys found (value :: rest)
  | _ => found

def parseBladeFlags (flags : String) : Dict String :=
  match Shlex.split flags with
  | some tokens => scanKeys ∅ tokens
  | none => ∅

end ChaosBlade.Tools
