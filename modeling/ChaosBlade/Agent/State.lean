/-
Agent.State: what the nodes of the graphs read and write: the
fault of `agent/fault_spec.py`, the messages of the conversation, the
settings, and the fields of the agent state they use.

A node gets the state and returns a delta. The state holds `fault_spec`
as `read_fault_spec` returns it, and `approved_target` as the JSON the
checkpointer hands back. A text field that may be `None` is empty then:
every reader tests it for truth. The dictionaries a node only stores and
hands on (`verification`, `recover_verification`, `result`) are JSON,
`null` for `None`.
-/
import ChaosBlade.Py.Dict
import ChaosBlade.Py.Json

namespace ChaosBlade.Agent

open Py

structure FaultSpec where
  ns : String := ""
  scope : String := ""
  names : List String := []
  labels : Dict String := ∅
  bladeTarget : String := ""
  bladeAction : String := ""
  params : Dict String := ∅
  paramsFlags : List String := []
  durationSeconds : Int := 0
  source : String := ""
  userDescription : String := ""

def clusterScoped : List String :=
  ["node", "pv", "namespace", "clusterrole", "clusterrolebinding", "storageclass"]

def FaultSpec.isComplete (spec : FaultSpec) : Bool :=
  spec.scope ≠ "" && spec.bladeTarget ≠ "" && spec.bladeAction ≠ "" &&
    (clusterScoped.contains spec.scope || spec.ns ≠ "")

def FaultSpec.faultType (spec : FaultSpec) : String :=
  join "-" ([spec.scope, spec.bladeTarget, spec.bladeAction].filter (· ≠ ""))

/-! ## Messages -/

/-- A tool call of the model; a missing id reads as the empty string. -/
structure ToolCall where
  name : String
  args : Json
  id : String := ""

inductive ToolStatus where
  | success
  | error
  deriving DecidableEq

structure ToolMessage where
  content : String
  name : String
  toolCallId : String
  status : ToolStatus := .success

/-- A model turn: `content` is text or a list of content blocks. -/
structure AIMessage where
  content : Json := .str ""
  toolCalls : List ToolCall := []
  reasoningContent : String := ""

inductive Message where
  | ai (msg : AIMessage)
  | tool (msg : ToolMessage)
  | human (content : String)
  | system (content : String)

def Message.callIds : Message → List String
  | .ai msg => msg.toolCalls.map ToolCall.id
  | _ => []

def Message.answeredId : Message → Option String
  | .tool msg => some msg.toolCallId
  | _ => none

/-! ## Failures -/

inductive FailureCategory where
  | planningTimeout
  | planningRejected
  | safetyRejected
  | userRejected
  | prerequisiteFailed
  | executionFailed
  | executionTimeout
  | replanExhausted
  | verificationFailed
  | recoveryFailed
  | recoveryVerificationTimeout
  | internalError
  | wallClockTimeout

def FailureCategory.value : FailureCategory → String
  | .planningTimeout => "planning_timeout"
  | .planningRejected => "planning_rejected"
  | .safetyRejected => "safety_rejected"
  | .userRejected => "user_rejected"
  | .prerequisiteFailed => "prerequisite_failed"
  | .executionFailed => "execution_failed"
  | .executionTimeout => "execution_timeout"
  | .replanExhausted => "replan_exhausted"
  | .verificationFailed => "verification_failed"
  | .recoveryFailed => "recovery_failed"
  | .recoveryVerificationTimeout => "recovery_verification_timeout"
  | .internalError => "internal_error"
  | .wallClockTimeout => "wall_clock_timeout"

structure FailureDetail where
  category : FailureCategory
  context : String := ""
  llmAnalysis : String := ""

def FailureDetail.toReasonString (d : FailureDetail) : String :=
  let base := if d.context = "" then d.category.value else d.category.value ++ ": " ++ d.context
  if d.llmAnalysis = "" then base else base ++ " | llm_analysis: " ++ d.llmAnalysis

/-! ## Settings and state -/

structure Settings where
  targetGuardEnforcing : Bool := true
  phase1ScreenerEnforcing : Bool := true
  skillScriptDefaultAllow : Bool := true
  safetyBlacklistNamespaces : String := ""
  kubeconfigPath : String := ""
  safetyScoreRoutingEnabled : Bool := false
  safetyScoreWarningThreshold : Int := 70
  safetyScoreConfirmThreshold : Int := 90
  targetHealthCheckEnabled : Bool := true
  targetHealthCheckBlockOnBlocker : Bool := false
  feasibilityCheckEnabled : Bool := true
  feasibilityCheckBlockOnImpossible : Bool := false
  maxAgentLoop : Nat := 100
  maxExecuteLoop : Nat := 100
  maxVerifierLoop : Nat := 60
  maxRecoverVerifierLoop : Nat := 60
  maxRecoverLayer1Iterations : Nat := 60
  maxReplanCount : Int := 3
  replanAutoTrigger : Bool := true
  replanResetExecuteCount : Bool := true
  maxInjectSeconds : Int := 0
  maxDialogueRounds : Nat := 999
  maxPlanBuilderRounds : Nat := 40

def Settings.blacklistNamespaces (s : Settings) : List String := csv s.safetyBlacklistNamespaces

inductive SafetyStatus where
  | pending
  | safe
  | warning
  | confirmRequired
  | rejected
  deriving DecidableEq

inductive Intent where
  | unset
  | inject
  | recover
  | chat
  deriving DecidableEq

inductive InjectionMethod where
  | hostBlade
  | kubectlExec
  | kubectlNative
  deriving DecidableEq

inductive RecoverPhase where
  | layer1Recovery
  | layer2Verification
  deriving DecidableEq

inductive RecoverLayer1Type where
  | deterministic
  | llmDriven
  deriving DecidableEq

inductive Layer1Status where
  | passed
  | failed
  | warning
  | error
  | skipped
  | unknown
  deriving DecidableEq

structure Layer1Result where
  status : Layer1Status := .unknown
  details : String := ""
  rawOutput : String := ""
  affectedCount : Nat := 0
  expired : Bool := false

def Layer1Result.isTerminal (r : Layer1Result) : Bool :=
  !r.expired && (r.status == .failed || r.status == .error)

/-- The values of `recover_layer1_cache`: a recovery the model still works on,
or a result. -/
inductive RecoverLayer1Cache where
  | inProgress (systemPrompt : String)
  | result (r : Layer1Result)

structure FailedCall where
  name : String
  error : String

/-- The error context a replan hands to the planner. -/
structure ReplanContext where
  errorSummary : String
  failedToolCalls : List FailedCall
  existingBladeUids : List Json
  iterationAtFailure : Nat

structure AgentState where
  messages : List Message := []
  approvedTarget : Option Json := none
  faultSpec : Option FaultSpec := none
  driftRejectCount : Int := 0
  interactionMode : String := "cli"
  taskId : String := ""
  input : String := ""
  kubeconfig : String := ""
  direct : Bool := false
  dryRun : Bool := false
  forceOverride : Bool := false
  confirmedIntent : Option Intent := none
  recoverTaskId : String := ""
  needsTaskSelection : Bool := false
  dialogueRound : Nat := 0
  planBuilderRound : Nat := 0
  skillName : String := ""
  plan : String := ""
  planConfirmed : Bool := false
  planningRejected : Bool := false
  planChangeRejectCount : Nat := 0
  blastRadiusScope : String := ""
  blastRadiusDetail : String := ""
  safetyStatus : SafetyStatus := .pending
  safetyReason : String := ""
  needsConfirmation : Bool := false
  screenerRoute : Option String := none
  agentLoopCount : Nat := 0
  executeLoopCount : Nat := 0
  verifierLoopCount : Nat := 0
  replanRequested : Bool := false
  replanCount : Nat := 0
  replanContext : Option ReplanContext := none
  pipelineStartedAt : Rat := 0
  bladeUid : String := ""
  injectionMethod : Option InjectionMethod := none
  injectionStartTime : String := ""
  injectContext : String := ""
  error : String := ""
  failureDetail : Option FailureDetail := none
  result : Json := .null
  verification : Json := .null
  injectLayer1Cache : Option Layer1Result := none
  reverifyCount : Nat := 0
  recoverVerification : Json := .null
  recoverLayer1Cache : Option RecoverLayer1Cache := none
  recoverPhase : RecoverPhase := .layer1Recovery
  recoverLayer1Type : Option RecoverLayer1Type := none
  layer1IterationCount : Nat := 0
  layer2ContextAdded : Bool := false
  recoverLayer2First : Bool := false

def AgentState.pendingTurn (state : AgentState) : Option AIMessage :=
  match state.messages.getLast? with
  | some (.ai msg) => if msg.toolCalls.isEmpty then none else some msg
  | _ => none

def AgentState.pendingCalls (state : AgentState) : List ToolCall :=
  match state.pendingTurn with
  | some msg => msg.toolCalls
  | none => []

end ChaosBlade.Agent
