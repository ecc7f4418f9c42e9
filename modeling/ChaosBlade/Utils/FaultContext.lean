/-
Utils.FaultContext: `utils/fault_context.py`: the table of
rules that adapt a node to the fault and its target, and the block size
of a disk burn.

A condition that raises counts as not met; over metadata whose numbers
are integers none does. What a rule does is kept as far as a node reads
it: the flags, the size override, the attempts and the dimensions.
-/
import ChaosBlade.Py.Json
import Mathlib.Data.List.Sort

namespace ChaosBlade.Utils

/-- The dictionary `target_metadata`: the two numbers the rules and nodes read,
and whether it has other keys. -/
structure TargetMetadata where
  podMemoryLimitMb : Option Int := none
  podMemoryUsageMb : Option Int := none
  hasOther : Bool := false

def TargetMetadata.isEmpty (m : TargetMetadata) : Bool :=
  m.podMemoryLimitMb.isNone && m.podMemoryUsageMb.isNone && !m.hasOther

inductive RuleType where
  | paramOverride
  | conflictEscalation
  | verificationIntegrityGuard
  | baselineSupplement
  deriving DecidableEq

structure RuleAction where
  /-- `param_overrides` is `{"size": "auto"}`. -/
  sizeAuto : Bool := false
  evidenceCapture : Bool := false
  maxReverifyAttempts : Option Nat := none
  dimensions : List String := []

structure AdaptationDirective where
  id : String
  ruleType : RuleType
  condition : String → String → String → TargetMetadata → Bool
  action : RuleAction
  priority : Int := 0

/-! ## Burn size -/

def burnDefaultSize : Int := 100

def burnMinimumSize : Int := 20

def oomkillRiskThresholdMb : Int := 512

def computeSafeBurnSize (podMemoryLimitMb podMemoryUsageMb : Option Int) : Int :=
  match podMemoryLimitMb with
  | none => burnMinimumSize
  | some limit =>
      if limit ≤ 0 then burnMinimumSize
      else
        match podMemoryUsageMb with
        | none => min burnDefaultSize (max burnMinimumSize (limit / 7))
        | some usage =>
            if 0 < usage then
              if limit - usage ≤ 0 then burnMinimumSize
              else min burnDefaultSize (max burnMinimumSize ((limit - usage) / 3))
            else min burnDefaultSize (max burnMinimumSize (limit / 7))

/-! ## The table -/

def burnOnLowMemory (scope target action : String) (m : TargetMetadata) : Bool :=
  scope = "pod" && target = "disk" && action = "burn" &&
    m.podMemoryLimitMb.all fun limit => limit < oomkillRiskThresholdMb

def faultContextAdaptations : List AdaptationDirective := [
  { id := "P0-param-safety-burn-lowmem",
    ruleType := .paramOverride,
    condition := burnOnLowMemory,
    action := { sizeAuto := true },
    priority := 10 },
  { id := "P0-evidence-snapshot",
    ruleType := .paramOverride,
    condition := burnOnLowMemory,
    action := { evidenceCapture := true },
    priority := 5 },
  { id := "P1-same-target-same-action-confirm",
    ruleType := .conflictEscalation,
    condition := fun _ _ _ _ => true,
    action := {},
    priority := 10 },
  { id := "P2-verification-integrity-guard",
    ruleType := .verificationIntegrityGuard,
    condition := fun _ _ _ _ => true,
    action := { maxReverifyAttempts := some 1 },
    priority := 0 },
  { id := "P3-baseline-enrich-disk-io",
    ruleType := .baselineSupplement,
    condition := fun _ target action _ => target = "disk" && action = "burn",
    action := { dimensions := ["io_utilization", "io_iowait"] },
    priority := 5 }]

/-- `lookup_adaptations`: the matching rules of a type, by falling priority. -/
def lookupAdaptations (scope target action : String) (m : TargetMetadata) (ruleType : RuleType) :
    List AdaptationDirective :=
  (faultContextAdaptations.filter fun rule =>
      rule.ruleType = ruleType && rule.condition scope target action m).insertionSort
    fun a b => b.priority ≤ a.priority

end ChaosBlade.Utils
