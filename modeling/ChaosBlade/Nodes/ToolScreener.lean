/-
Nodes.ToolScreener: `nodes/tool_screener.py`: the gate
between the execute loop and its tools.

Every pending call is classified and compared with the approval. A batch
without a rejection passes; a rejected batch is answered with one
`ToolMessage` per call and goes back to the model; a batch with a drift
stops for the user first.
-/
import ChaosBlade.TargetGuard.Freeze

namespace ChaosBlade.Nodes

open Py Agent TargetGuard

/-! ## Routes -/

inductive Route where
  | pass
  | replan
  | retry
  deriving DecidableEq

def Route.value : Route → String
  | .pass => "pass"
  | .replan => "replan"
  | .retry => "retry"

def routeAfterScreener (screenerRoute : Option String) : Route :=
  if screenerRoute = some Route.replan.value then .replan
  else if screenerRoute = some Route.retry.value then .retry
  else .pass

/-! ## One call -/

/-- What the screener records about one call. `effective` is missing when the
classifier raised. -/
structure CallDecision where
  toolCallId : String
  toolName : String
  verdict : GuardVerdict
  reason : String
  suggestion : String
  effective : Option EffectiveTarget

/-- Classify and compare one call. A call the classifier raises on is allowed. -/
def screenCall (depth : Nat) (skillScriptAllowed : Bool) (approved : Option ApprovedTarget)
    (tc : ToolCall) : CallDecision :=
  match inferEffectiveTarget depth tc.name tc.args skillScriptAllowed with
  | .error exc =>
    { toolCallId := tc.id, toolName := tc.name, verdict := .allow
      reason := "screener exception: " ++ exc.cls.name ++ ": " ++ exc.msg
      suggestion := "", effective := none }
  | .ok effective =>
    let decision := targetDriftGuard effective approved
    { toolCallId := tc.id, toolName := tc.name, verdict := decision.verdict
      reason := decision.reason, suggestion := decision.suggestion
      effective := some effective }

def CallDecision.isDrift (d : CallDecision) : Bool := d.verdict == .rejectDrift

def CallDecision.isOtherReject (d : CallDecision) : Bool :=
  d.verdict == .rejectBanned || d.verdict == .rejectUnknown

def formatRejectionForLlm (d : CallDecision) (approvedMissing : Bool) : String :=
  join " "
    (["[target_guard] " ++ d.verdict.value.toUpper ++ " — " ++ d.reason] ++
     (if d.suggestion = "" then [] else [d.suggestion]) ++
     (if approvedMissing && d.verdict == .rejectUnknown then
        ["no approved target on record; the screener default-denies " ++
          "destructive calls until confirmation_gate has been passed."]
      else []) ++
     ["Correct the tool_call to match the approved target, " ++
        "or abort if the task cannot proceed."])

def rejectionMessage (approvedMissing : Bool) (d : CallDecision) : ToolMessage :=
  { content := formatRejectionForLlm d approvedMissing, name := d.toolName
    toolCallId := d.toolCallId, status := .error }

/-! ## The card shown to the user -/

structure TargetCard where
  scope : String
  ns : String
  names : List String
  labels : Labels
  bladeTarget : String

def formatApprovedForCard (approved : ApprovedTarget) : TargetCard :=
  ⟨approved.scope, approved.ns, approved.names, approved.labels, approved.bladeTarget⟩

def formatEffectiveForCard (eff : EffectiveTarget) : TargetCard :=
  ⟨eff.scope, eff.ns, eff.names, eff.labels, eff.bladeTarget⟩

def agentReasonMaxLen : Nat := 200

def blockTexts : Nat → List Json → Except PyError (List String)
  | _, [] => .ok []
  | i, .obj fs :: rest =>
    match Json.get? fs "text" with
    | none => do return "" :: (← blockTexts (i + 1) rest)
    | some (.str s) => do return s :: (← blockTexts (i + 1) rest)
    -- the join refuses anything but strings
    | some v => .error ⟨.typeError,
        "sequence item " ++ toString i ++ ": expected str instance, " ++ v.typeName ++ " found"⟩
  | i, b :: rest => do return b.toStr :: (← blockTexts (i + 1) rest)

/-- The model's visible text, else its thinking trace, cut to 200 characters. -/
def extractAgentReason (msg : AIMessage) : Except PyError String := do
  let text ← match msg.content with
    | .arr [] => pure ""
    | .arr blocks => do pure (strip (join " " (← blockTexts 0 blocks)))
    | .str s => pure (strip s)
    | _ => pure ""
  if text ≠ "" then
    return String.ofList (text.toList.take agentReasonMaxLen)
  return String.ofList ((strip msg.reasoningContent).toList.take agentReasonMaxLen)

structure DriftInfo where
  summary : String
  reason : String
  agentReason : String
  original : Option TargetCard
  proposed : Option TargetCard
  toolCalls : List (String × String)

/-! ## Correcting the approval -/

/-- The spec with the fields the approved call sets differently. A blacklisted
namespace is not taken over. -/
def correctSpec (blacklist : List String) (spec : FaultSpec) (eff : EffectiveTarget) : FaultSpec :=
  { spec with
    ns := if eff.ns ≠ "" ∧ eff.ns ≠ spec.ns ∧ blacklist.contains eff.ns = false then eff.ns
      else spec.ns
    names := if eff.names ≠ [] ∧ eff.names ≠ spec.names then eff.names else spec.names
    labels := if eff.labels.isEmpty = false ∧ eff.labels.beq spec.labels = false then eff.labels
      else spec.labels }

/-- The corrected spec and its approval; nothing without a spec or a target. -/
def applyDriftCorrection (blacklist : List String) (spec : Option FaultSpec)
    (eff : Option EffectiveTarget) :
    Except PyError (Option (FaultSpec × Option (List (String × Json)))) :=
  match spec, eff with
  | some spec, some eff => do
    let newSpec := correctSpec blacklist spec eff
    return some (newSpec, ← freezeSpec newSpec [])
  | _, _ => .ok none

/-! ## The node -/

/-- The state delta. A missing field is left as it was; `failure` stands for
`failure_detail` and `error`. -/
structure Delta where
  screenerRoute : Route
  messages : List ToolMessage := []
  driftRejectCount : Option Int := none
  failure : Option FailureDetail := none
  correction : Option (FaultSpec × Option (List (String × Json))) := none

inductive Screening where
  | finished (delta : Delta)
  | interrupted (info : DriftInfo) (resume : Json → Except PyError Delta)

def resumeDrift (settings : Settings) (state : AgentState) (rejections : List ToolMessage)
    (firstEff : Option EffectiveTarget) (answer : Json) : Except PyError Delta :=
  match answer with
  | .str "approved" => do
    let correction ←
      applyDriftCorrection settings.blacklistNamespaces state.faultSpec firstEff
    return { screenerRoute := .pass, driftRejectCount := some 0, correction }
  | _ => .ok { screenerRoute := .retry, messages := rejections
               driftRejectCount := some (state.driftRejectCount + 1) }

def screenDrift (settings : Settings) (state : AgentState) (msg : AIMessage)
    (approved : Option ApprovedTarget) (decisions : List CallDecision) :
    Except PyError Screening := do
  let rejections := decisions.map (rejectionMessage approved.isNone)
  let drifted := decisions.filter CallDecision.isDrift
  let firstEff := drifted.head?.bind CallDecision.effective
  if 1 ≤ state.driftRejectCount then
    -- already rejected once: terminate
    return .finished
      { screenerRoute := .retry, messages := rejections
        failure := some { category := .userRejected
                          context := "Target drift persists after user rejection; terminating." } }
  if state.interactionMode = "cli" then
    -- nobody to ask
    return .finished { screenerRoute := .retry, messages := rejections
                       driftRejectCount := some (state.driftRejectCount + 1) }
  let reason := (drifted.head?.map CallDecision.reason).getD ""
  let agentReason ← extractAgentReason msg
  return .interrupted
    { summary := "Target change detected: " ++ reason, reason, agentReason
      original := approved.map formatApprovedForCard
      proposed := firstEff.map formatEffectiveForCard
      toolCalls := drifted.map fun d => (d.toolName, d.reason) }
    (resumeDrift settings state rejections firstEff)

def screenCalls (depth : Nat) (settings : Settings) (approved : Option ApprovedTarget)
    (calls : List ToolCall) : List CallDecision :=
  calls.map (screenCall depth settings.skillScriptDefaultAllow approved)

/-- The node. `depth` is the number of nested classifier calls Python's
recursion limit leaves. -/
def toolScreener (depth : Nat) (settings : Settings) (state : AgentState) :
    Except PyError Screening :=
  match state.pendingTurn with
  | none => .ok (.finished { screenerRoute := .pass })
  | some msg => do
    let approved ← approvedFromDict state.approvedTarget
    let decisions := screenCalls depth settings approved msg.toolCalls
    let hasDrift := decisions.any CallDecision.isDrift
    let hasOtherReject := decisions.any CallDecision.isOtherReject
    if !settings.targetGuardEnforcing || !(hasDrift || hasOtherReject) then
      return .finished { screenerRoute := .pass }
    if hasDrift then
      screenDrift settings state msg approved decisions
    else
      return .finished { screenerRoute := .retry
                         messages := decisions.map (rejectionMessage approved.isNone) }

def Screening.answered (answer : Json) : Screening → Except PyError Delta
  | .finished delta => .ok delta
  | .interrupted _ resume => resume answer

def toolScreenerAnswered (depth : Nat) (settings : Settings) (state : AgentState)
    (answer : Json) : Except PyError Delta := do
  let screening ← toolScreener depth settings state
  screening.answered answer

end ChaosBlade.Nodes
