/-
Nodes.Planning: the planning phase: `nodes/agent_loop.py` with
its model, `nodes/plan_change_confirm.py`, and
`nodes/extract_planning_metadata.py`.

`agent_loop` counts its passes, but a pass inside a replan counts as the
first. The flag `_catalogue_rejection_nudged` is no field of the state, so
a rejection without a look at the catalogue is sent back every time.
-/
import ChaosBlade.Nodes.ExecuteLoop

namespace ChaosBlade.Nodes

open Py Agent

/-! ## Agent loop -/

def lastArg (tool key : String) (calls : List ToolCall) : Option String :=
  calls.reverse.findSome? fun tc =>
    if tc.name = tool then match tc.args with
      | .obj fs => ((Json.get? fs key).filter Json.truthy).map Json.toStr
      | _ => none
    else none

def isReplan (s : AgentState) : Bool := s.replanContext.isSome && 0 < s.replanCount

def planningPass (s : AgentState) : Nat := if isReplan s then 1 else s.agentLoopCount + 1

variable (a : Answer)

def intentMessages (s : AgentState) : List Message :=
  if planningPass s = 1 ∧ isReplan s = false ∧ s.faultSpec.any FaultSpec.isComplete then
    [.human a.intentText]
  else []

def planTurn (s : AgentState) (r : AIMessage) : AgentState :=
  { s with
    agentLoopCount := planningPass s
    planningRejected := false
    faultSpec := if s.faultSpec.isSome then a.specReading.or s.faultSpec else none
    safetyStatus := if isReplan s then .pending else s.safetyStatus
    needsConfirmation := if isReplan s then false else s.needsConfirmation
    replanRequested := if isReplan s then false else s.replanRequested
    blastRadiusScope := (lastArg "finish_planning" "blast_radius_scope" r.toolCalls).getD
      (if isReplan s then "" else s.blastRadiusScope)
    blastRadiusDetail := (lastArg "finish_planning" "blast_radius_detail" r.toolCalls).getD
      (if isReplan s then "" else s.blastRadiusDetail)
    skillName := (lastArg "activate_skill" "skill_name" r.toolCalls).getD s.skillName
    messages := a.compact s.messages ++ intentMessages a s ++ [.ai r] }

def agentLoop (σ : Setup) (a : Answer) (s : AgentState) : Option AgentState :=
  let limit := σ.settings.maxAgentLoop
  if limit < planningPass s then
    some { s.failWith .planningTimeout ("max_iterations=" ++ toString limit) s.messages with
      safetyStatus := .rejected }
  else do
    let r ← a.response
    let s₁ := planTurn a s r
    if r.toolCalls.isEmpty ∧ s₁.skillName = "" then
      -- a text without a skill is the end of planning
      let text ← turnText r
      if strip text ≠ "" then
        some (s₁.failWith .planningTimeout "LLM concluded without tool use or skill activation"
          (s.messages ++ a.hookMessages ++ intentMessages a s ++ [.ai r]))
      else some s₁
    else some s₁

/-! ## Plan change -/

def extractProposal (messages : List Message) : Option (String × String × String) := do
  let turn ← lastTurn messages
  let tc ← turn.toolCalls.find? (·.name == "propose_plan_change")
  match tc.args with
  | .obj fs =>
    let arg (k : String) : String := ((Json.get? fs k).map Json.toStr).getD ""
    return (arg "scope", arg "target", arg "action")
  | _ => none

def planChangeCliText : String :=
  "[PLAN CHANGE REJECTED] CLI mode does not support interactive " ++
  "plan changes. Use finish_planning(rejected=True) or continue " ++
  "with the original fault type."

def planChangeRejectedText : String :=
  "[PLAN CHANGE REJECTED] The user declined the proposed change. " ++
  "Continue with the original fault type, try a different " ++
  "alternative, or use finish_planning(rejected=True) to abort."

def planChangeApprovedText (faultType : String) : String :=
  "[PLAN CHANGE APPROVED] Fault type changed to " ++ faultType ++
  ". Re-activate the correct skill and continue planning with the new approach."

def rejectPlanChange (endText goOnText : String) (s : AgentState) : AgentState :=
  let count := s.planChangeRejectCount + 1
  if 2 ≤ count then
    { s.failWith .userRejected endText [] with planChangeRejectCount := count }
  else
    { s with planChangeRejectCount := count, messages := s.messages ++ [.human goOnText] }

def planChangeConfirm (s : AgentState) : AgentState :=
  match extractProposal s.messages, s.faultSpec with
  | some (scope, target, action), some spec =>
    if s.interactionMode = "cli" then
      rejectPlanChange "Plan change rejected twice in CLI mode; terminating."
        planChangeCliText s
    else match a.decision with
      | .str "approved" =>
        let newSpec := { spec with scope, bladeTarget := target, bladeAction := action }
        { s with
          faultSpec := some newSpec
          skillName := ""
          plan := ""
          planChangeRejectCount := 0
          messages := s.messages ++ [.human (planChangeApprovedText newSpec.faultType)] }
      | _ =>
        rejectPlanChange "Plan change rejected twice; terminating planning."
          planChangeRejectedText s
  | _, _ => s

/-! ## Planning metadata -/

def findPlanningExit : List Message → Option ToolMessage
  | .tool m :: rest =>
    if m.status = .error then findPlanningExit rest
    else if m.name = "finish_planning" ∨ m.name = "save_fault_plan" then some m
    else findPlanningExit rest
  | _ => none

def anyCallM (p : ToolCall → Except PyError Bool) : List ToolCall → Except PyError Bool
  | [] => .ok false
  | tc :: rest => do if ← p tc then return true else anyCallM p rest

def hasBrowsedCatalogue (messages : List Message) : Except PyError Bool :=
  anyCallM (fun tc => do
      if tc.name = "read_skill_resource" then
        (← tc.args.getD "resource_path" (.str "")).contains "catalogue"
      else return false)
    (toolCallsOf messages)

def without (part text : String) : String := Re.remove (fun _ cs => Re.lit part.toList cs) text

def afterBlankLine : List Char → List Char
  | '\n' :: '\n' :: rest => rest
  | _ :: rest => afterBlankLine rest
  | [] => []

/-- The plan the end of the planning leaves: the summary or the body of the
saved plan, else the text of the last turn. A plan that is there stays. -/
def planOf (exit : Option ToolMessage) (s : AgentState) : Option String :=
  if s.plan ≠ "" then some s.plan
  else match exit with
    | some m =>
      if m.name = "finish_planning" then
        some (if startsWith m.content "Planning finalized" then
          without "Planning finalized. Summary: " m.content else "")
      else some (String.ofList (afterBlankLine m.content.toList))
    | none =>
      if s.skillName = "" then some ""
      else match lastTurn s.messages with
        | none => some ""
        | some r => do
          let text ← turnText r
          return if r.toolCalls.isEmpty then strip text else ""

def rejectionNotAcceptedText : String :=
  "**REJECTION NOT ACCEPTED**: You concluded this fault " ++
  "scenario is unsupported WITHOUT browsing the skill " ++
  "catalogue. The catalogue contains kubectl-native " ++
  "injection use cases beyond ChaosBlade primitives.\n\n" ++
  "You MUST first browse the catalogue:\n" ++
  "1. `read_skill_resource(resource_path='references/catalogue/')`\n" ++
  "2. Find the directory matching the fault symptom\n" ++
  "3. Read the specific use-case .md file\n\n" ++
  "If a matching use case exists, follow it. " ++
  "If no matching use case exists, design your own " ++
  "injection plan based on the fault description and " ++
  "proceed with `finish_planning`."

def noUseCaseText : String :=
  "[PLANNING REJECTED] No catalogue use-case was loaded during planning.\n\n" ++
  "You must either:\n" ++
  "  1. Follow the skill discovery flow described in SKILL.md: " ++
  "use read_skill_resource to browse the catalogue directory, " ++
  "locate a matching use-case file, and load its full content.\n" ++
  "  2. If no matching use case exists, design your own injection " ++
  "plan and proceed with finish_planning.\n\n" ++
  "Do NOT proceed with a plan based solely on general command references."

def lacksUseCase (s : AgentState) : Except PyError Bool :=
  if s.messages.isEmpty = false ∧ a.caseLoaded = false then do
    return !(← hasBrowsedCatalogue s.messages)
  else return false

/-- The second half of the node: the plan, the guard that a use case was looked
at, and the fields of the spec the use case gives. -/
def acceptPlanning (s : AgentState) (exit : Option ToolMessage) :
    Option AgentState := do
  let plan ← planOf exit s
  if ← (lacksUseCase a s).toOption then
    return { s with plan, planningRejected := true
                    messages := s.messages ++ [.system noUseCaseText] }
  else
    let derives := s.faultSpec.any fun spec =>
      spec.scope = "" || spec.bladeTarget = "" || spec.bladeAction = ""
    return { s with plan, faultSpec := if derives then a.specReading.or s.faultSpec
        else s.faultSpec }

def extractPlanningMetadata (s : AgentState) : Option AgentState :=
  match findPlanningExit s.messages.reverse with
  | some m =>
    if m.name = "finish_planning" then
      if startsWith m.content "Planning rejected" then do
        if ← (hasBrowsedCatalogue s.messages).toOption then
          return s.failWith .planningRejected (without "Planning rejected. Reason: " m.content)
            s.messages
        else
          return { s with planningRejected := true
                          messages := s.messages ++ [.human rejectionNotAcceptedText] }
      else acceptPlanning a s (some m)
    else if startsWith m.content "Plan saved to " then acceptPlanning a s (some m)
    else some { s with planningRejected := true }
  | none => acceptPlanning a s none

end ChaosBlade.Nodes
