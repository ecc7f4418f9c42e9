/-
Agent.TaskState: the lifecycle of a task read off what is
known of it: `infer_task_state`, `infer_stage` and `infer_phase` of
`agent/state.py`.

The three functions get a dictionary and read it with `get`, so it is a
function from keys here. A key can be missing, and a value can have any
shape: the verification documents come from the model. Reading a layer
that is no object raises.
-/
import ChaosBlade.Py.JsonDecode

namespace ChaosBlade.Agent

open Py

inductive TaskState where
  | injecting
  | injected
  | recovering
  | recovered
  | partialRecovered
  | failed
  | rejected
  | completed
  | waitingInput
  deriving DecidableEq

def TaskState.value : TaskState → String
  | .injecting => "injecting"
  | .injected => "injected"
  | .recovering => "recovering"
  | .recovered => "recovered"
  | .partialRecovered => "partial_recovered"
  | .failed => "failed"
  | .rejected => "rejected"
  | .completed => "completed"
  | .waitingInput => "waiting_input"

inductive Stage where
  | injection
  | recovery
  deriving DecidableEq

def Stage.value : Stage → String
  | .injection => "injection"
  | .recovery => "recovery"

inductive Phase where
  | planning
  | safetyCheck
  | confirming
  | executing
  | verificationPassed
  | verificationFailed
  | replanning
  | dryRunPlanned
  | recovering
  | recovered
  | partialRecovered
  | failed
  | rejected
  | completed
  deriving DecidableEq

def Phase.value : Phase → String
  | .planning => "planning"
  | .safetyCheck => "safety_check"
  | .confirming => "confirming"
  | .executing => "executing"
  | .verificationPassed => "verification_passed"
  | .verificationFailed => "verification_failed"
  | .replanning => "replanning"
  | .dryRunPlanned => "dry_run_planned"
  | .recovering => "recovering"
  | .recovered => "recovered"
  | .partialRecovered => "partial_recovered"
  | .failed => "failed"
  | .rejected => "rejected"
  | .completed => "completed"

/-! ## Reading the dictionary -/

/-- A dictionary as its reader sees it: `values.get(k)`. -/
abbrev Values := String → Option Json

def isText (text : String) : Option Json → Bool
  | some (.str s) => s == text
  | _ => false

def isSet (v : Option Json) : Bool := v.any Json.truthy

def isPositive : Option Json → Except PyError Bool
  | none => .ok false
  | some (.int n) => .ok (0 < n)
  | some (.bool b) => .ok b
  | some (.float text nonzero) => .ok (nonzero && !startsWith text "-" && text != "nan")
  | some v => .error ⟨.typeError,
      "'>' not supported between instances of '" ++ v.typeName ++ "' and 'int'"⟩

@[simp] theorem isText_none (text : String) : isText text none = false := rfl

@[simp] theorem isSet_none : isSet none = false := rfl

@[simp] theorem isPositive_none : isPositive none = .ok false := rfl

def fieldsOf : Json → List (String × Json)
  | .obj fs => fs
  | _ => []

variable (values : Values)

def resultFields : List (String × Json) :=
  fieldsOf ((values "result").getD .null)

def isBridgeIntent : Bool :=
  isText "chat" (values "confirmed_intent") || isText "recover" (values "confirmed_intent")

/-! ## Verdicts -/

structure LayerVerdicts where
  layer1 : Option Json
  layer2 : Option Json
  level : Option Json
  sideEffects : Option Json

/-- The layers of a verification. A Layer 1 that is no object raises, a Layer 2
counts as unknown. -/
def layerVerdicts (verification : Json) : Except PyError LayerVerdicts := do
  let fs := fieldsOf verification
  let status ← ((Json.get? fs "layer1").getD (.obj [])).getD "status" .null
  let layer2 := match (Json.get? fs "layer2").getD (.obj []) with
    | .obj l2 => (Json.get? l2 "status").getD (.str "unknown")
    | _ => .str "unknown"
  return {
    layer1 := some status
    layer2 := some layer2
    level := some ((Json.get? fs "level").getD (.str "unknown"))
    sideEffects := Json.get? fs "side_effects" }

def anyValue : Json → Except PyError Bool
  | .obj fs => .ok (fs.any fun f => f.2.truthy)
  | v => .error ⟨.attributeError, "'" ++ v.typeName ++ "' object has no attribute 'values'"⟩

def verifiedState (verification : Json) : Except PyError TaskState := do
  let v ← layerVerdicts verification
  let accepted := isText "verified" v.level || isText "partial" v.level
  if isText "passed" v.layer1 && (isText "passed" v.layer2 || isText "skipped" v.layer2) then
    return .injected
  if isText "passed" v.layer1 && isText "unknown" v.layer2 then
    return if isText "unverified" v.level then .failed else .injected
  if isText "passed" v.layer1 && isText "partial" v.layer2 then
    return if accepted then .injected else .failed
  if isText "skipped" v.layer1 && isText "passed" v.layer2 then return .injected
  if isText "skipped" v.layer1 && isText "partial" v.layer2 then
    return if accepted then .injected else .failed
  if isText "passed" v.layer1 && isText "recovered_before_observation" v.layer2 then
    match v.sideEffects with
    | some effects =>
      if effects.truthy then return if ← anyValue effects then .injected else .failed
      else return .failed
    | none => return .failed
  return .failed

def verifiedPhase (verification : Json) : Except PyError Phase := do
  let v ← layerVerdicts verification
  let accepted := isText "verified" v.level || isText "partial" v.level
  if isText "passed" v.layer1 && (isText "passed" v.layer2 || isText "skipped" v.layer2) then
    return .verificationPassed
  if isText "passed" v.layer1 && isText "unknown" v.layer2 then
    return if isText "unverified" v.level then .verificationFailed else .verificationPassed
  if isText "passed" v.layer1 && isText "partial" v.layer2 then
    return if accepted then .verificationPassed else .verificationFailed
  if isText "skipped" v.layer1 && (isText "passed" v.layer2 || isText "skipped" v.layer2) then
    return .verificationPassed
  if isText "skipped" v.layer1 && isText "partial" v.layer2 then
    return if accepted then .verificationPassed else .verificationFailed
  if isText "passed" v.layer1 && isText "recovered_before_observation" v.layer2 then
    match v.sideEffects with
    | some effects =>
      if effects.truthy then
        return if (← effects.getD "container_restarts" .null).truthy then .verificationPassed
          else .verificationFailed
      else return .verificationFailed
    | none => return .verificationFailed
  return .verificationFailed

def recoveryState (recoverVerification : Json) (result : List (String × Json)) :
    Except PyError TaskState := do
  if isSet (Json.get? result "recovered") then
    return if isText "partial" (Json.get? result "recovery_level") then .partialRecovered
      else .recovered
  let rv := fieldsOf recoverVerification
  let status ← ((Json.get? rv "layer1").getD (.obj [])).getD "status" .null
  if isText "skipped" (some status) && isText "recovered" (Json.get? rv "level") then
    return .recovered
  if isText "skipped" (some status) && isText "partial" (Json.get? rv "level") then
    return .partialRecovered
  return .failed

def recoveryPhase (result : List (String × Json)) : Phase :=
  if isSet (Json.get? result "recovered") then
    if isText "partial" (Json.get? result "recovery_level") then .partialRecovered else .recovered
  else .verificationFailed

/-! ## The three readings -/

def inferTaskState : Except PyError TaskState := do
  if isBridgeIntent values then return .completed
  if isText "rejected" (values "safety_status") then return .rejected
  let replanning := (← isPositive (values "replan_count")) && isSet (values "replan_context")
  if isSet (values "error") && !replanning then return .failed
  if replanning && !isSet (values "blade_uid") && !isSet (values "verification") then
    return .failed
  if isText "recover" (values "operation") then
    let rv := (values "recover_verification").getD .null
    if rv.truthy then recoveryState rv (resultFields values) else return .recovering
  else
    let verification := (values "verification").getD .null
    if verification.truthy then verifiedState verification else return .injecting

def inferStage : Option Stage :=
  if isBridgeIntent values then none
  else if isText "recover" (values "operation") then some .recovery
  else some .injection

def inferPhase : Except PyError (Option Phase) := do
  if isBridgeIntent values then return none
  if isSet (values "error") then return some .failed
  if isText "rejected" (values "safety_status") then return some .rejected
  if isSet (values "dry_run") && isSet (values "plan_summary") then return some .dryRunPlanned
  let replanning ← if isSet (values "replan_context") then isPositive (values "replan_count")
    else pure false
  if replanning && !isSet (values "blade_uid") then return some .replanning
  if isText "recover" (values "operation") then
    if isSet (values "recover_verification") then return some (recoveryPhase (resultFields values))
    else return some .recovering
  else if !isSet (values "skill_name") then
    return some (if isSet (values "blade_uid") then .executing else .planning)
  else if isSet (values "needs_confirmation") then return some .confirming
  else if !isSet (values "blade_uid") then
    let cleared := isText "safe" (values "safety_status") ||
        isText "warning" (values "safety_status")
    return some (if cleared then .safetyCheck else .planning)
  else
    let verification := (values "verification").getD .null
    if verification.truthy then return some (← verifiedPhase verification)
    else return some .executing

end ChaosBlade.Agent
