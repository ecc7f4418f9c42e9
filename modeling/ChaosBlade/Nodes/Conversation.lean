/-
Nodes.Conversation: the entry and the exit of the inject graph:
`nodes/memory_nodes.py`, the dialogue that finds out what the user wants
(`nodes/intent_clarification.py`, `nodes/intent_confirm.py`,
`nodes/plan_builder.py`), `nodes/recover_handler.py` and `nodes/reject.py`.

What the dialogue means, as a spec, is the world's reading of it. What is
here is which of the checkpointed fields each end of a dialogue writes.
-/
import ChaosBlade.Nodes.ExecuteLoop

namespace ChaosBlade.Nodes

open Py Agent

/-! ## Memory -/

variable (s : AgentState)

def synthesizedRequest (spec : FaultSpec) : String :=
  let params := join ", " ((spec.params.entries.filter (·.2 ≠ "")).map fun e => e.1 ++ "=" ++ e.2)
  join "\n" (["执行故障注入：" ++ spec.scope ++ "-" ++ spec.bladeTarget ++ "-" ++ spec.bladeAction] ++
    (if spec.ns = "" then [] else ["目标命名空间: " ++ spec.ns]) ++
    (if spec.names = [] then [] else ["目标名称: " ++ join ", " spec.names]) ++
    (if params = "" then [] else ["参数: " ++ params]) ++
    (if s.kubeconfig = "" then [] else ["kubeconfig: " ++ s.kubeconfig]))

def requestMessages : List Message :=
  let description := (s.faultSpec.map FaultSpec.userDescription).getD ""
  if s.input ≠ "" then [.human s.input]
  else if description ≠ "" then [.human description]
  else match s.faultSpec with
    | some spec => if spec.isComplete then [.human (synthesizedRequest s spec)] else []
    | none => []

def loadMemoryNode : AgentState :=
  { s with
    approvedTarget := none
    screenerRoute := none
    messages := s.messages ++ requestMessages s }

def layerStatus (layer : String) (fs : List (String × Json)) : String :=
  match Json.get? fs layer with
  | some (.obj l) => ((Json.get? l "status").map Json.toStr).getD "unknown"
  | _ => "unknown"

def verificationFailure : Json → Option String
  | .obj fs =>
    let level := ((Json.get? fs "level").map Json.toStr).getD ""
    if level = "unverified" ∨ layerStatus "layer1" fs = "failed" ∨
        layerStatus "layer2" fs = "failed" then
      some ("Layer1=" ++ layerStatus "layer1" fs ++ ", Layer2=" ++ layerStatus "layer2" fs ++
        ", level=" ++ level)
    else none
  | _ => none

def inferFailure : AgentState :=
  let replanned := 0 < s.replanCount ∧ s.replanContext.isSome
  if s.failureDetail.isSome then s
  else if s.error ≠ "" then
    if replanned then
      s.failWith .replanExhausted
        ("attempts=" ++ toString s.replanCount ++ ", last_error=" ++ cut 200 s.error) s.messages
    else s.failWith .executionFailed (cut 300 s.error) s.messages
  else if s.verification.truthy then
    match verificationFailure s.verification with
    | some context => s.failWith .verificationFailed context s.messages
    | none => s
  else if replanned ∧ s.bladeUid = "" then
    s.failWith .replanExhausted
      ("attempts=" ++ toString s.replanCount ++ ", injection never succeeded") s.messages
  else s

def saveMemory (a : Answer) (s : AgentState) : AgentState :=
  if s.confirmedIntent = some .chat ∨ s.confirmedIntent = some .recover then s
  else
    { inferFailure s with
      injectContext := if s.injectContext = "" then a.injectContextOf s.messages
        else s.injectContext }

/-! ## Intent -/

def intentSubmitted : List Message → Bool
  | .tool m :: rest => if m.name = "submit_fault_intent" then true else intentSubmitted rest
  | _ => false

/-- The intent of `classify_intent`: `recover`, or `chat` for everything else,
and the task to recover. -/
def extractClassifyIntent (calls : List ToolCall) : Option (Intent × String) :=
  (calls.find? (·.name == "classify_intent")).map fun tc =>
    let arg (k : String) : Option Json := match tc.args with
      | .obj fs => Json.get? fs k
      | _ => none
    match arg "intent" with
    | some (.str "recover") => (.recover, ((arg "recover_task_id").map Json.toStr).getD "")
    | _ => (.chat, "")

def filterInternalTools (r : AIMessage) : AIMessage :=
  { r with toolCalls := r.toolCalls.filter (·.name ≠ "classify_intent") }

def allocateOperationTaskId (a : Answer) (current : String) : String :=
  if startsWith current "task-" then current else a.freshTaskId

def farewellText : String := "感谢使用 Blade AI！如有需要随时回来，再见！"

def clarificationFailedText : String := "抱歉，我遇到了一些问题。请稍后再试。"

def intentClarification (σ : Setup) (a : Answer) (s : AgentState) : AgentState :=
  if s.confirmedIntent = some .inject ∨ s.confirmedIntent = some .chat ∨
      s.confirmedIntent = some .recover then s
  else if σ.settings.maxDialogueRounds ≤ s.dialogueRound then
    { s with
      confirmedIntent := some .chat
      dialogueRound := s.dialogueRound + 1
      messages := s.messages ++ [.ai { content := .str farewellText }] }
  else match (if intentSubmitted s.messages.reverse then a.submittedSpec else none) with
    | some spec =>
      { s with
        confirmedIntent := some .inject
        faultSpec := some spec
        dialogueRound := s.dialogueRound + 1
        taskId := allocateOperationTaskId a s.taskId
        messages := a.compact s.messages }
    | none => match a.response with
      | none =>
        { s with
          confirmedIntent := some .chat
          messages := a.compact s.messages ++ [.ai { content := .str clarificationFailedText }] }
      | some r =>
        let messages := a.compact s.messages ++ [.ai (filterInternalTools r)]
        match extractClassifyIntent r.toolCalls with
        | some (.recover, recoverTaskId) =>
          { s with
            confirmedIntent := some .recover
            recoverTaskId
            taskId := allocateOperationTaskId a s.taskId
            messages }
        | some _ => { s with confirmedIntent := some .chat, messages }
        | none =>
          { s with
            messages
            faultSpec := some a.draftSpec
            dialogueRound := s.dialogueRound + 1 }

def trimTailKeep : Nat := 4

def handoffText : String :=
  let spec := s.faultSpec.getD {}
  "[Intent Clarification Summary]\n" ++
  "Dialogue rounds: " ++ toString s.dialogueRound ++ "\n" ++
  "Confirmed intent: inject\n" ++
  "Fault: " ++ spec.faultType ++ " → " ++ spec.scope ++ "/" ++ spec.bladeTarget ++ "/" ++
    spec.bladeAction ++ " @ " ++ spec.ns

def intentConfirm (a : Answer) (s : AgentState) : AgentState :=
  let commit : AgentState :=
    { s with messages := s.messages.drop (s.messages.length - trimTailKeep) ++
               [.system (handoffText s)] }
  if s.dryRun then commit
  else match a.decision with
    | .str "approved" => commit
    | _ => { s with confirmedIntent := none }

/-! ## Plan builder -/

def callArgs (name : String) (calls : List ToolCall) : Option Json :=
  ((calls.find? (·.name == name)).map ToolCall.args).filter Json.truthy

def planInternalTools : List String := ["submit_plan", "present_options"]

def planFailedText : String := "抱歉，遇到了一些问题，请稍后再试。"
def planCancelledText : String := "已取消方案构建。"
def planLimitText : String := "方案构建对话轮数已达上限，请使用 /plan 重新开始。"

/-- One round of the builder: the plan is submitted, real tools are called, the
dialogue ends, the user answers, or the node raises. -/
inductive PlanRound where
  | submitted
  | tools (r : AIMessage)
  | ended (text : String)
  | answered (exchange : List Message)
  | raised

def planRound (x : Exchange) : PlanRound :=
  match x.response with
  | none => .ended planFailedText
  | some r =>
    if (callArgs "submit_plan" r.toolCalls).isSome then .submitted
    else match callArgs "present_options" r.toolCalls with
      | some (.obj fs) =>
        if (Json.get? fs "question").isNone ∨ (Json.get? fs "options").isNone then .raised
        else match x.answer with
          | .str "rejected" => .ended planCancelledText
          | answer =>
            let shown := r.toolCalls.filter (·.name == "present_options")
            .answered [.ai { r with toolCalls := shown },
              .tool { content := "用户选择: " ++ answer.toStr, name := ""
                      toolCallId := (shown.head?.map ToolCall.id).getD "" }]
      | some _ => .raised
      | none =>
        if r.toolCalls.any fun tc => !planInternalTools.contains tc.name then .tools r
        else match x.answer with
          | .str "rejected" => .ended planCancelledText
          | .str answer => .answered [.ai r, .human answer]
          | _ => .raised

/-- The rounds of one visit: `fuel` are left, `i` have been made, and `said` has
been said in them. -/
def planRounds (a : Answer) (s : AgentState) : Nat → Nat → List Message → Option AgentState
  | 0, i, said =>
    some { s with
      messages := a.compact s.messages ++ said ++ [.ai { content := .str planLimitText }]
      planBuilderRound := s.planBuilderRound + i }
  | fuel + 1, i, said =>
    let round := s.planBuilderRound + i + 1
    match planRound (a.rounds i) with
    | .raised => none
    | .answered exchange => planRounds a s fuel (i + 1) (said ++ exchange)
    | .ended text =>
      some { s with
        messages := a.compact s.messages ++ said ++ [.ai { content := .str text }]
        planBuilderRound := round }
    | .submitted =>
      some { s with
        messages := a.compact s.messages ++ said ++ [.ai { content := .str a.replyText }]
        faultSpec := some a.plannedSpec
        planConfirmed := true
        planBuilderRound := round }
    | .tools r =>
      let real := r.toolCalls.filter fun tc => !planInternalTools.contains tc.name
      let skill := r.toolCalls.findSome? fun tc => lastSkill tc
      some { s with
        messages := a.compact s.messages ++ said ++ [.ai { r with toolCalls := real }]
        skillName := skill.getD s.skillName
        planBuilderRound := round }
where
  /-- The skill a call activates. -/
  lastSkill (tc : ToolCall) : Option String :=
    if tc.name = "activate_skill" then match tc.args with
      | .obj fs => ((Json.get? fs "skill_name").filter Json.truthy).map Json.toStr
      | _ => none
    else none

def planBuilder (σ : Setup) (a : Answer) (s : AgentState) : Option AgentState :=
  planRounds a s (σ.settings.maxPlanBuilderRounds - s.planBuilderRound) 0 []

/-! ## Recovery and rejection -/

def statusResult (status message : String) (rest : List (String × Json)) : Json :=
  .obj ([("status", .str status), ("message", .str message)] ++ rest)

def noActiveText : String := "当前没有活跃的故障注入实验，无需恢复。"

/-- The node `recover_handler`. The texts that list the experiments are not
modelled. -/
def recoverHandler (a : Answer) (s : AgentState) : AgentState :=
  if s.recoverTaskId ≠ "" then s
  else match a.activeTasks with
    | none =>
      { s with
        messages := s.messages ++ [.ai { content := .str a.replyText }]
        result := statusResult "failed" a.replyText [] }
    | some [] =>
      { s with
        messages := s.messages ++ [.ai { content := .str noActiveText }]
        result := statusResult "completed" noActiveText [] }
    | some [(taskId, uid)] =>
      { s with
        recoverTaskId := taskId
        bladeUid := uid
        messages := s.messages ++ [.ai { content := .str a.replyText }]
        result := statusResult "completed" a.replyText [("recover_task_id", .str taskId)] }
    | some _ =>
      { s with
        needsTaskSelection := true
        messages := s.messages ++ [.ai { content := .str a.replyText }] }

def inferRejection : FailureDetail :=
  if s.safetyStatus = .rejected then
    if hasSub "user" (lower s.safetyReason) ∨ hasSub "reject" (lower s.safetyReason) then
      failureOf .userRejected s.safetyReason []
    else failureOf .safetyRejected s.safetyReason []
  else if 0 < s.agentLoopCount then failureOf .planningTimeout "max_iterations exceeded" []
  else failureOf .safetyRejected
    (if s.safetyReason = "" then "Unknown rejection reason" else s.safetyReason) []

def reject : AgentState :=
  let reason := if s.error = "" then s.safetyReason else s.error
  { s with
    result := .obj [("status", .str "rejected"), ("reason", .str reason)]
    error := reason
    failureDetail := some (s.failureDetail.getD (inferRejection s)) }

end ChaosBlade.Nodes
