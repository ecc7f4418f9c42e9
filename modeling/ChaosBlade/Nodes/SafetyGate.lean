/-
Nodes.SafetyGate: the way into an injection:
`nodes/safety_check.py`, `nodes/confirmation_gate.py`, the two screeners as
nodes, and the direct mode, `nodes/direct_setup.py` and
`nodes/direct_execute.py`.

`safety_check` writes a status on every path and freezes the target it has
looked at. The score and the declared blast radius can only make the
status stricter.
-/
import ChaosBlade.Nodes.ExecuteLoop
import ChaosBlade.Nodes.Phase1Screener

namespace ChaosBlade.Nodes

open Py Agent Tools TargetGuard

/-! ## Safety check -/

variable (settings : Settings)

/-- `_resolve_kubeconfig`: the state's, else the spec's, else the settings'. -/
def resolveKubeconfig (s : AgentState) : String :=
  if s.kubeconfig ≠ "" then s.kubeconfig
  else
    let ofSpec := (s.faultSpec.bind fun spec => spec.params.get? "kubeconfig").getD ""
    if ofSpec ≠ "" then ofSpec else settings.kubeconfigPath

def maybeEscalateStatus (overall : Int) (current : SafetyStatus) : SafetyStatus :=
  if current = .rejected ∨ current = .confirmRequired then current
  else if settings.safetyScoreConfirmThreshold ≤ overall then .confirmRequired
  else if current = .safe ∧ settings.safetyScoreWarningThreshold ≤ overall then .warning
  else current

def clusterWideText (detail : String) : String :=
  "Cluster-wide blast radius: execution will mutate resources beyond the target scope." ++
    if detail = "" then "" else " " ++ detail

def attachSafetyScore (overall : Int) (s : AgentState) : AgentState :=
  let status := if settings.safetyScoreRoutingEnabled
    then maybeEscalateStatus settings overall s.safetyStatus else s.safetyStatus
  if s.blastRadiusScope = "cluster-wide" ∧ status = .safe then
    { s with
      safetyStatus := .warning
      safetyReason := (if s.safetyReason = "" then "" else s.safetyReason ++ "; ") ++
        clusterWideText s.blastRadiusDetail }
  else { s with safetyStatus := status }

def failSafety (overall : Int) (s : AgentState) (reason : String)
    (category : FailureCategory) (context : String) : AgentState :=
  attachSafetyScore settings overall
    { s.failWith category context [] with safetyStatus := .rejected, safetyReason := reason }

/-- The reasons to reject a target that was looked at; the blocking checks are
off by default. -/
def blockers (found : SafetyFindings) : List String :=
  let health := if settings.targetHealthCheckEnabled ∧ settings.targetHealthCheckBlockOnBlocker
    then found.healthBlocker.toList.map fun text => "Target health blocker: " ++ text ++
      ". Set BLADE_AI_TARGET_HEALTH_CHECK_BLOCK=0 to override."
    else []
  let feasible := if settings.feasibilityCheckEnabled ∧ settings.feasibilityCheckBlockOnImpossible
    then found.infeasible.toList.map fun text => "Injection not feasible: " ++ text
    else []
  health ++ feasible

def Conflict.reasons : Conflict → List String
  | .clear => []
  | .active reason => ["Also: " ++ reason]
  | .overlay reason => ["Also: " ++ reason]

/-- The status and its reason: rejected, else the conflict's, else safe. Without
a kubeconfig nobody has looked for conflicts. -/
def assess (kubeconfig : String) (found : SafetyFindings) : SafetyStatus × String :=
  let conflict := if kubeconfig = "" then .clear else found.conflict
  if blockers settings found ≠ [] then
    (.rejected, join " " (blockers settings found ++ Conflict.reasons conflict))
  else match conflict with
    | .overlay reason => (.confirmRequired, reason)
    | .active reason => (.warning, reason)
    | .clear =>
      if kubeconfig = "" then
        (.warning, "冲突检测跳过 (无 kubeconfig)，无法确认集群上是否存在活跃实验")
      else (.safe, "")

def safetyCheck (σ : Setup) (a : Answer) (s : AgentState) : Option AgentState :=
  let spec := s.faultSpec.getD {}
  let fails := failSafety σ.settings a.safety.overall s
  if spec.ns ∈ σ.settings.blacklistNamespaces then
    some (fails ("Namespace '" ++ spec.ns ++ "' is in the safety blacklist") .safetyRejected
      ("namespace=" ++ spec.ns))
  else if s.skillName = "" then
    some (fails "No skill activated" .prerequisiteFailed "no skill activated")
  else if spec.scope = "" then
    some (fails "No target specified" .prerequisiteFailed "no target specified")
  else do
    let (status, reason) := assess σ.settings (resolveKubeconfig σ.settings s) a.safety
    let frozen ← (freezeSpec spec a.safety.ownerNames).toOption
    return attachSafetyScore σ.settings a.safety.overall
      { s with safetyStatus := status, safetyReason := reason, approvedTarget := frozen.map .obj }

/-! ## Confirmation gate -/

def ownerNamesOf (approved : Option Json) : List String :=
  match approved with
  | some (.obj fs) => match Json.get? fs "owner_names" with
    | some (.arr xs) => xs.map Json.toStr
    | _ => []
  | _ => []

def freezeFromState (s : AgentState) : Except PyError (Option Json) :=
  match s.faultSpec with
  | none => .ok none
  | some spec => do return (← freezeSpec spec (ownerNamesOf s.approvedTarget)).map .obj

def confirmationGate (a : Answer) (s : AgentState) : Option AgentState :=
  let approve : Option AgentState := do
    let frozen ← (freezeFromState s).toOption
    return { s with needsConfirmation := false, approvedTarget := frozen }
  if s.dryRun then
    some { s with
      messages := s.messages ++ [.ai { content := .str a.replyText }]
      needsConfirmation := false }
  else if s.safetyStatus = .confirmRequired ∧ s.forceOverride then approve
  else if s.safetyStatus = .confirmRequired ∧ s.interactionMode = "cli" then
    some { s.failWith .safetyRejected
        ("confirm_required without --force-override; " ++ s.safetyReason) [] with
      safetyStatus := .rejected
      safetyReason := s.safetyReason ++ " Add --force-override to proceed."
      needsConfirmation := false }
  else match a.decision with
    | .str "approved" => approve
    | _ =>
      some { s.failWith .userRejected "User rejected the execution at confirmation gate" [] with
        safetyStatus := .rejected
        safetyReason := "User rejected the execution"
        needsConfirmation := false
        approvedTarget := none }

/-! ## Screeners -/

def Delta.merge (d : Delta) (s : AgentState) : AgentState :=
  { s with
    screenerRoute := some d.screenerRoute.value
    messages := s.messages ++ d.messages.map .tool
    driftRejectCount := d.driftRejectCount.getD s.driftRejectCount
    failureDetail := d.failure.or s.failureDetail
    error := (d.failure.map FailureDetail.toReasonString).getD s.error
    faultSpec := (d.correction.map Prod.fst).or s.faultSpec
    approvedTarget := match d.correction with
      | some (_, frozen) => frozen.map .obj
      | none => s.approvedTarget }

def toolScreenerNode (σ : Setup) (a : Answer) (s : AgentState) : Option AgentState := do
  let d ← (toolScreenerAnswered σ.depth σ.settings s a.decision).toOption
  return d.merge s

def phase1ScreenerNode (σ : Setup) (s : AgentState) : AgentState :=
  (phase1Screener σ.depth σ.settings s).merge s

/-! ## Direct mode -/

def directSkillName : String := "k8s-chaos-skills"

def directPlan (spec : FaultSpec) : String :=
  let params := join ", " ((spec.params.entries.filter (·.2 ≠ "")).map fun e => e.1 ++ "=" ++ e.2)
  let flags := join " " spec.paramsFlags
  "Direct blade injection: blade create k8s " ++ spec.scope ++ "-" ++ spec.bladeTarget ++ " " ++
    spec.bladeAction ++ "\n" ++
  "Namespace: " ++ spec.ns ++ ", Names: " ++ join "," spec.names ++ "\n" ++
  (if params = "" then "" else "Parameters: " ++ params ++ "\n") ++
  (if flags = "" then "" else "Flags: " ++ flags ++ "\n") ++
  "Scope: " ++ spec.scope ++ ", Target: " ++ spec.bladeTarget ++ ", Action: " ++ spec.bladeAction

def directSetup (a : Answer) (s : AgentState) : AgentState :=
  match a.directSkill with
  | none =>
    { s.failWith .prerequisiteFailed ("skill=" ++ directSkillName ++ " not found") [] with
      skillName := "" }
  | some skill =>
    { s with
      skillName := directSkillName
      plan := directPlan (s.faultSpec.getD {})
      messages := s.messages ++ [.human ("[Skill Instructions]\n" ++ cut 2000 skill)] }

/-- The uid `blade_create` returns, and its output. An old binary that does not
know the namespace flag gets a second call without it. -/
def bladeCreateDirect (db : CharDb)
    (run : DirectRun) : Except PyError (Option String × String) := do
  match ← extractBladeUid db run.created with
  | some uid => return (some uid, run.created)
  | none =>
    if hasSub "unknown flag" run.created ∧ hasSub "--namespace" run.created then
      return (← extractBladeUid db run.recreated, run.recreated)
    else return (none, run.created)

def directMessage (name id content : String) : Message :=
  .tool { content, name, toolCallId := id }

def directExecute (σ : Setup) (a : Answer) (s : AgentState) : Option AgentState :=
  let spec := s.faultSpec.getD {}
  if spec.scope = "node" ∧ spec.names ≠ [] ∧ a.direct.missingNodes ≠ [] then
    some { s.failWith .prerequisiteFailed
      ("no running ChaosBlade DaemonSet pod on target node(s) " ++
        join ", " a.direct.missingNodes) s.messages with
      executeLoopCount := 1 }
  else do
    let (uid, output) ← (bladeCreateDirect σ.db a.direct).toOption
    let created := directMessage "blade_create" "direct" output
    match uid with
    | some uid =>
      return { s with
        bladeUid := uid
        injectionMethod := some .hostBlade
        injectionStartTime := a.timestamp
        executeLoopCount := 1
        messages := s.messages ++
          [.human ("[Injection Phase] blade_create succeeded: blade_uid=" ++ uid ++
             " (injection_method=host_blade)"), created] }
    | none => match a.direct.fallback with
      | some (uid, pod, execOutput) =>
        return { s with
          bladeUid := uid
          injectionMethod := some .kubectlExec
          injectionStartTime := a.timestamp
          executeLoopCount := 1
          messages := s.messages ++
            [.human ("[Injection Phase] kubectl exec fallback succeeded via pod " ++ pod ++
               ": blade_uid=" ++ uid ++ " (injection_method=kubectl_exec)"), created,
             directMessage "kubectl" "direct_fallback" execOutput] }
      | none =>
        return { s.failWith .executionFailed
            "blade_create failed (and kubectl exec fallback also failed)" s.messages with
          injectionMethod := some .hostBlade
          executeLoopCount := 1
          messages := s.messages ++
            [.human ("[Injection Phase] blade_create failed and kubectl exec fallback also " ++
               "failed: " ++ cut 200 output), created] }

end ChaosBlade.Nodes
