/-
Agent.Router: `agent/router.py`, the conditional edges of the
inject and the recover graph, and how a node reports a failure: `fail_state`
of `agent/state_helpers.py` with the diagnosis and the classification of
`errors.py`.

A router only reads the merged state, the settings and, for the time
budget, the clock. The labels of the source are constructors here;
`continue` is `goOn` and `end` is `finish`.
-/
import ChaosBlade.Agent.State

namespace ChaosBlade.Agent

open Py

/-! ## Classification -/

inductive ErrorClass where
  | infraPersistent
  | infraTransient
  | interfaceMismatch
  | userConfig
  | targetGone
  | quotaExceeded
  | authDenied
  | unknown

inductive ErrorAction where
  | replan
  | shortRetry
  | endFailed
  | askUser
  deriving DecidableEq

def ErrorClass.action : ErrorClass → ErrorAction
  | .interfaceMismatch => .replan
  | .userConfig => .replan
  | .targetGone => .replan
  | .infraTransient => .shortRetry
  | .infraPersistent => .endFailed
  | .quotaExceeded => .askUser
  | .authDenied => .askUser
  | .unknown => .endFailed

/-- The table `_CLASSIFY_RULES`; the first class with a matching pattern wins. -/
def classifyRules : List (ErrorClass × List String) :=
  [(.authDenied,
     ["permission denied", "forbidden", "unauthorized", "x509", "certificate has expired",
      "certificate verify failed", "tls handshake failure"]),
   (.quotaExceeded,
     ["exceeded quota", "resourcequota", "limit exceeded", "exceeded the resource limit"]),
   (.targetGone, ["resource not found", "target not found", "not found", "no matches for kind",
      "no resources found"]),
   (.interfaceMismatch, ["unknown flag", "unknown command", "unknown shorthand flag",
      "flag provided but not defined"]),
   (.userConfig, ["invalid parameter", "flag mismatch", "unsupported flag", "invalid argument",
      "validation error"]),
   (.infraPersistent,
     ["diskpressure", "memorypressure", "networkunavailable", "pidpressure", "node not ready",
      "evicted"]),
   (.infraTransient, ["timeout", "deadline exceeded", "connection refused", "connection reset",
      "bad file descriptor", "no such host", "i/o timeout", "tls handshake timeout",
      "server gave http response to https client", "broken pipe", "eof"])]

def classifyError (message : String) : ErrorClass :=
  if message = "" then .unknown
  else
    let text := lower message
    match classifyRules.find? fun rule => rule.2.any fun p => hasSub p text with
    | some rule => rule.1
    | none => .unknown

def shouldAutoReplan (message : String) : Bool := (classifyError message).action == .replan

/-! ## Diagnosis -/

def diagnosisFallback : String := "未能从 Agent 推理记录中提取失败根因分析"

/-- The text of a model turn that says something: at least 20 characters of
content, else of reasoning. A turn of bare tool calls says nothing. -/
def AIMessage.diagnosis (msg : AIMessage) : Option String :=
  if !msg.toolCalls.isEmpty && !msg.content.truthy then none
  else match msg.content with
    | .str s => if 20 ≤ s.length then some s else reasoning
    | _ => reasoning
where
  reasoning : Option String :=
    if 20 ≤ msg.reasoningContent.length then some msg.reasoningContent else none

def cutDiagnosis (text : String) : String :=
  if 500 < text.length then String.ofList (text.toList.take 500) ++ "..." else text

def extractLlmDiagnosis (messages : List Message) : String :=
  match messages.reverse.findSome? fun
      | .ai msg => msg.diagnosis
      | _ => none with
  | some text => cutDiagnosis text
  | none => diagnosisFallback

/-! ## Failing -/

def failureOf (category : FailureCategory) (context : String) (messages : List Message) :
    FailureDetail :=
  { category, context
    llmAnalysis := if messages.isEmpty then "" else extractLlmDiagnosis messages }

variable (s : AgentState)

def AgentState.failWith (category : FailureCategory) (context : String)
    (messages : List Message) : AgentState :=
  let detail := failureOf category context messages
  { s with failureDetail := some detail, error := detail.toReasonString }

/-! ## Reading the state -/

def AgentState.lastIsAi : Bool :=
  match s.messages.getLast? with
  | some (.ai _) => true
  | _ => false

def AgentState.lastHasToolCalls : Bool := s.pendingTurn.isSome

/-- Has the turn run past `max_inject_seconds`? Never without a budget, and not
before the start is stamped. -/
def wallClockExceeded (settings : Settings) (now : Rat) (s : AgentState) : Bool :=
  if settings.maxInjectSeconds ≤ 0 then false
  else if s.pipelineStartedAt ≤ 0 then false
  else (settings.maxInjectSeconds : Rat) < now - s.pipelineStartedAt

def markWallClockTimeout (settings : Settings) (now : Rat) (before result : AgentState)
    (hasError hasDetail : Bool) : AgentState :=
  if wallClockExceeded settings now before then
    let budget := toString settings.maxInjectSeconds ++ "s"
    { result with
      error := if hasError then result.error else "wall-clock timeout (" ++ budget ++ ")"
      failureDetail := if hasDetail then result.failureDetail
        else some (failureOf .wallClockTimeout ("budget=" ++ budget) []) }
  else result

def shouldReplan (settings : Settings) (s : AgentState) (errorMsg : String) : Bool :=
  if settings.maxReplanCount ≤ s.replanCount then false
  else if s.replanRequested then true
  else if errorMsg ≠ "" ∧ settings.replanAutoTrigger then shouldAutoReplan errorMsg
  else false

/-! ## Planning -/

inductive AgentLoopRoute where
  | goOn
  | extractPlanningMetadata
  | reject

def shouldContinueAgentLoop (settings : Settings) (now : Rat) (s : AgentState) : AgentLoopRoute :=
  if wallClockExceeded settings now s then .reject
  else if settings.maxAgentLoop ≤ s.agentLoopCount then .reject
  else if s.safetyStatus = .rejected then .reject
  else if s.error ≠ "" then .reject
  else if s.lastHasToolCalls then .goOn
  else if s.lastIsAi then
    if s.skillName ≠ "" then .extractPlanningMetadata else .goOn
  else if s.plan ≠ "" ∧ s.skillName ≠ "" then .extractPlanningMetadata
  else .goOn

inductive Phase1ToolsRoute where
  | agentLoop
  | extractPlanningMetadata
  | planChangeConfirm

def scanPhase1Tools (hasReplanContext : Bool) : List Message → Phase1ToolsRoute
  | .tool m :: rest =>
    if m.status = .error then scanPhase1Tools hasReplanContext rest
    else if m.name = "finish_planning" ∨ m.name = "save_fault_plan" then .extractPlanningMetadata
    else if m.name = "propose_plan_change" ∧ hasReplanContext then .planChangeConfirm
    else scanPhase1Tools hasReplanContext rest
  | _ => .agentLoop

def routeAfterPhase1Tools : Phase1ToolsRoute :=
  scanPhase1Tools s.replanContext.isSome s.messages.reverse

/-! ## Execution -/

inductive ExecuteLoopRoute where
  | goOn
  | verifier
  | finish
  | replan
  deriving DecidableEq

def shouldContinueExecuteLoop (settings : Settings) (now : Rat) (s : AgentState) :
    ExecuteLoopRoute :=
  if wallClockExceeded settings now s then .finish
  else if settings.maxExecuteLoop ≤ s.executeLoopCount then
    if shouldReplan settings s "" then .replan else .finish
  else if shouldReplan settings s "" then .replan
  else if s.error ≠ "" then
    if shouldReplan settings s s.error then .replan else .finish
  else if s.lastHasToolCalls then .goOn
  else if s.lastIsAi then
    if s.bladeUid ≠ "" then .verifier
    else if s.injectionMethod ≠ none then .verifier
    else .goOn
  else .goOn

inductive SafetyRoute where
  | confirmationGate
  | baselineCapture
  | reject
  deriving DecidableEq

def routeAfterSafety : SafetyRoute :=
  if s.safetyStatus = .rejected then .reject
  else if s.dryRun then .confirmationGate
  else if s.needsConfirmation then .confirmationGate
  else if s.safetyStatus = .safe then .baselineCapture
  else .confirmationGate

inductive ConfirmationRoute where
  | finish
  | baselineCapture
  | reject

def routeAfterConfirmation : ConfirmationRoute :=
  if s.safetyStatus = .rejected then .reject
  else if s.dryRun then .finish
  else .baselineCapture

inductive BaselineRoute where
  | directExecute
  | executeLoop

def routeAfterBaseline : BaselineRoute :=
  if s.direct then .directExecute else .executeLoop

inductive DirectExecuteRoute where
  | verifier
  | finish

def routeAfterDirectExecute : DirectExecuteRoute :=
  if s.bladeUid ≠ "" then .verifier
  else if s.error ≠ "" then .finish
  else .verifier

/-! ## Verification -/

inductive VerifierRoute where
  | goOn
  | finalize
  | done

def shouldContinueVerifier (settings : Settings) (now : Rat) (s : AgentState) : VerifierRoute :=
  if s.verification.truthy then .done
  else if wallClockExceeded settings now s then .done
  else if settings.maxVerifierLoop ≤ s.verifierLoopCount then .finalize
  else if s.lastHasToolCalls then .goOn
  else if s.lastIsAi then .finalize
  else .goOn

/-- Did a tool with this name answer in the batch at the end? Last first; an
error does not count. -/
def answeredIn (name : String) : List Message → Bool
  | .tool m :: rest =>
    if m.status = .error then answeredIn name rest
    else if m.name = name then true
    else answeredIn name rest
  | _ => false

def submitVerificationToolName : String := "submit_verification"

def submitRecoverVerificationToolName : String := "submit_recover_verification"

inductive VerifierToolsRoute where
  | loop
  | finalize

def routeAfterVerifierTools : VerifierToolsRoute :=
  if answeredIn submitVerificationToolName s.messages.reverse then .finalize else .loop

inductive FinalizeRoute where
  | loop
  | done

def routeAfterFinalize : FinalizeRoute :=
  if s.verification.truthy then .done else .loop

/-! ## Recovery -/

def shouldContinueRecoverVerifier (settings : Settings) (now : Rat) (s : AgentState) :
    VerifierRoute :=
  if s.recoverVerification.truthy then .done
  else if wallClockExceeded settings now s then .done
  else if settings.maxRecoverVerifierLoop ≤ s.verifierLoopCount then
    if s.layer2ContextAdded then .finalize else .done
  else if s.lastHasToolCalls then .goOn
  else if s.lastIsAi then
    if s.layer2ContextAdded then .finalize else .goOn
  else .goOn

def routeAfterRecoverVerifierTools : VerifierToolsRoute :=
  if answeredIn submitRecoverVerificationToolName s.messages.reverse then .finalize else .loop

def routeAfterRecoverFinalize : FinalizeRoute :=
  if s.recoverVerification.truthy then .done else .loop

/-! ## Entry -/

def specReadyForExecute : Bool :=
  s.planConfirmed && s.skillName ≠ "" && s.faultSpec.any FaultSpec.isComplete

inductive LoadMemoryRoute where
  | directSetup
  | planBuilder
  | safetyCheck
  | intentClarification
  | agentLoop
  deriving DecidableEq

def routeAfterLoadMemory : LoadMemoryRoute :=
  if s.direct then .directSetup
  else if s.dryRun ∧ s.interactionMode = "tui" then .planBuilder
  else if s.dryRun = false ∧ s.interactionMode = "tui" ∧ specReadyForExecute s then .safetyCheck
  else if s.interactionMode = "tui" then .intentClarification
  else .agentLoop

inductive ClarificationRoute where
  | goOn
  | intentConfirm
  | agentLoop
  | recoverHandler
  | saveMemory
  | intentClarification
  | finish

def routeAfterIntentClarification : ClarificationRoute :=
  if s.confirmedIntent = some .inject then .agentLoop
  else if s.confirmedIntent = some .recover then .recoverHandler
  else if s.confirmedIntent = some .chat then .saveMemory
  else .intentClarification

def shouldContinueIntentClarification : ClarificationRoute :=
  if s.confirmedIntent = some .inject then .intentConfirm
  else if s.confirmedIntent = some .recover then .recoverHandler
  else if s.confirmedIntent = some .chat then .saveMemory
  else if s.lastHasToolCalls then .goOn
  else .finish

inductive PlanBuilderRoute where
  | goOn
  | finish

def shouldContinuePlanBuilder : PlanBuilderRoute :=
  if s.lastHasToolCalls then .goOn else .finish

inductive IntentConfirmRoute where
  | agentLoop
  | finish

def routeAfterIntentConfirm : IntentConfirmRoute :=
  if s.confirmedIntent = some .inject ∧ s.faultSpec.isSome then .agentLoop else .finish

end ChaosBlade.Agent
