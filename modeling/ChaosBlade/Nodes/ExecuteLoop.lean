/-
Nodes.ExecuteLoop: `nodes/execute_loop.py`: the loop that
injects the fault, with its model.

A pass asks the model for the next step, reads the uid and the method of
an injection off the conversation, and decides whether the plan is to be
made anew. The flags `_execute_text_nudged` and `_kubectl_step_nudged` are
no fields of the state, so they are lost between two passes and the
reminders they would limit are sent every time.
-/
import ChaosBlade.Agent.Router
import ChaosBlade.Agent.World
import ChaosBlade.Nodes.InjectionDetection

namespace ChaosBlade.Nodes

open Py Agent

/-! ## What the conversation shows of an injection -/

/-- The uid and the method found in the conversation. -/
structure Sighting where
  uid : Option String
  method : Option InjectionMethod

def observeInjection (db : CharDb) (messages : List Message) : Except PyError Sighting := do
  let uid ← extractBladeUidFromMessages db messages
  let method ← detectInjectionMethod db messages uid
  return { uid, method }

/-- The method kept: the first one detected, and blade over a kubectl write. -/
def upgradeMethod : Option InjectionMethod → Option InjectionMethod → Option InjectionMethod
  | none, detected => detected
  | some .kubectlNative, some .hostBlade => some .hostBlade
  | some .kubectlNative, some .kubectlExec => some .kubectlExec
  | current, _ => current

def recordInjection (timestamp : String) (seen : Sighting) (s : AgentState) : AgentState :=
  let newUid := seen.uid.any (· ≠ s.bladeUid)
  let newMethod := seen.method ≠ none ∧ seen.method ≠ s.injectionMethod
  { s with
    bladeUid := seen.uid.getD s.bladeUid
    injectionMethod := upgradeMethod s.injectionMethod seen.method
    injectionStartTime :=
      if s.injectionStartTime = "" ∧ (newUid ∨ newMethod) then timestamp
      else s.injectionStartTime }

/-! ## The replan context -/

def replanMarker : String := "[REPLAN]"

def cut (n : Nat) (text : String) : String := String.ofList (text.toList.take n)

inductive ToolOutcome where
  | failed
  | live (uid : Json)
  | silent

def noGetError (v : Json) : PyError :=
  ⟨.attributeError, "'" ++ v.typeName ++ "' object has no attribute 'get'"⟩

def claimsSuccess (fs : List (String × Json)) : Bool := (Json.get? fs "success").all Json.truthy

/-- The reading of one tool result in `_build_replan_context`. Only a result of
`blade_create` that is a JSON object can be a live experiment. -/
def toolOutcome (m : ToolMessage) : Except PyError ToolOutcome :=
  if m.name = "blade_create" then
    match jsonLoads m.content with
    | .ok (.obj fs) =>
      if claimsSuccess fs then
        match Json.get? fs "result" with
        | some uid => .ok (if uid.truthy then .live uid else .silent)
        | none => .ok .silent
      else .ok .failed
    | .ok v => .error (noGetError v)
    | .error (.other e) => .error e
    | .error .decode =>
      .ok (if hasSub "error" (lower m.content) ∨ hasSub "fail" (lower m.content) then .failed
        else .silent)
  else .ok (if startsWith m.content "Error" then .failed else .silent)

def scanReplan : List Message → List FailedCall → List Json →
    Except PyError (List FailedCall × List Json)
  | [], failed, uids => .ok (failed, uids)
  | .tool m :: rest, failed, uids => do
    match ← toolOutcome m with
    | .failed =>
      let failed := failed ++ [{ name := m.name, error := cut 500 m.content }]
      if 5 ≤ failed.length then return (failed, uids) else scanReplan rest failed uids
    | .live uid => scanReplan rest failed (uids ++ [uid])
    | .silent => scanReplan rest failed uids
  | _ :: rest, failed, uids => scanReplan rest failed uids

def buildReplanContext (s : AgentState) (errorSummary : String) : Except PyError ReplanContext := do
  let (failed, uids) ← scanReplan s.messages.reverse [] []
  return {
    errorSummary :=
      cut 1000 (strip (Re.remove (fun _ cs => Re.lit replanMarker.toList cs) errorSummary))
    failedToolCalls := failed
    existingBladeUids := uids
    iterationAtFailure := s.executeLoopCount }

/-! ## Errors worth a new plan -/

/-- The message of a failed response: `error`, else `result`, else all of it. -/
def responseError (fs : List (String × Json)) (content : String) : Json :=
  (((Json.get? fs "error").filter Json.truthy).or ((Json.get? fs "result").filter Json.truthy)).getD
    (.str content)

def replanableError (m : ToolMessage) : Except PyError (Option String) :=
  let report (err : String) : Option String :=
    if shouldAutoReplan err then some (m.name ++ ": " ++ cut 500 err) else none
  if m.name = "blade_create" ∨ m.name = "blade_query_k8s" ∨
      (m.name = "kubectl" ∧ hasSub "kubectl exec failed" m.content) then
    match jsonLoads m.content with
    | .ok (.obj fs) =>
      if claimsSuccess fs then .ok none
      else match responseError fs m.content with
        | .str err => .ok (report err)
        | v => .error ⟨.attributeError, "'" ++ v.typeName ++ "' object has no attribute 'lower'"⟩
    | .ok v => .error (noGetError v)
    | .error (.other e) => .error e
    | .error .decode => .ok (report m.content)
  else .ok none

def firstReplanableError : List Message → Except PyError (Option String)
  | [] => .ok none
  | .tool m :: rest => do
    match ← replanableError m with
    | some err => return some err
    | none => firstReplanableError rest
  | _ :: rest => firstReplanableError rest

def detectReplanableToolError (messages : List Message) : Except PyError (Option String) :=
  firstReplanableError (messages.reverse.take 5)

def bladeErrorCooldownTurns : Nat := 3

def isBladeError (m : ToolMessage) : Bool :=
  (m.name == "blade_create" || m.name == "blade_query_k8s") &&
    (m.status == .error || hasSub "failed" (lower m.content) || hasSub "error" (lower m.content))

def scanBladeError : Nat → List Message → Bool
  | _, [] => false
  | turns, .ai _ :: rest =>
    if bladeErrorCooldownTurns < turns + 1 then false else scanBladeError (turns + 1) rest
  | turns, .tool m :: rest => if isBladeError m then true else scanBladeError turns rest
  | turns, _ :: rest => scanBladeError turns rest

/-- `_is_llm_handling_blade_error`: a blade error within the last three turns. -/
def isLlmHandlingBladeError (messages : List Message) : Bool := scanBladeError 0 messages.reverse

/-- The reason for a new plan, if there is one: the model asks for it, or a tool
failed in a way a new plan can mend and the model is not at it. -/
def replanReason (s : AgentState) (text : String) : Except PyError (Option String) :=
  if hasSub replanMarker text then .ok (some text)
  else do
    match ← detectReplanableToolError s.messages with
    | none => return none
    | some err => return if isLlmHandlingBladeError s.messages then none else some err

/-! ## The node -/

def turnText (r : AIMessage) : Option String :=
  if r.content.truthy then
    match r.content with
    | .str text => some text
    | _ => none
  else some ""

def executionRequired : String :=
  "**EXECUTION REQUIRED**: You output text instead of " ++
  "calling a tool. You are in Phase 2 (execution) — " ++
  "the plan is already approved. You MUST call " ++
  "`kubectl` or `blade_create` NOW to inject the " ++
  "fault. Do NOT output plans, summaries, or wait " ++
  "for confirmation. Execute immediately."

/-- The reminders after a turn without tool calls; `s` has the sighting on it. -/
def executeNudges (a : Answer) (s : AgentState) (r : AIMessage) (text : String) : List String :=
  if r.toolCalls.isEmpty then
    if s.bladeUid = "" ∧ s.injectionMethod = none ∧ strip text ≠ "" ∧
        hasSub replanMarker (strip text) = false then [executionRequired]
    else if s.injectionMethod = some .kubectlNative then
      (a.stepNudge.filter (· ≠ "")).toList
    else []
  else []

def turnMessages (a : Answer) (s : AgentState) (r : AIMessage) (text : String)
    (seen : Sighting) : List Message :=
  .ai r :: (executeNudges a (recordInjection a.timestamp seen s) r text).map .human

def turnHistory (a : Answer) (s : AgentState) (r : AIMessage) (text : String)
    (seen : Sighting) : List Message :=
  s.messages ++ a.hookMessages ++ turnMessages a s r text seen

def lastPassFails (σ : Setup) (s : AgentState) (seen : Sighting) : Bool :=
  σ.settings.maxExecuteLoop ≤ s.executeLoopCount + 1 && seen.uid.getD s.bladeUid = ""

/-- The state after the model has answered, before the decision about a new
plan. A reminder of missing steps takes the method back. -/
def executeTurn (σ : Setup) (a : Answer) (s : AgentState) (r : AIMessage) (text : String)
    (seen : Sighting) : AgentState :=
  let s₁ := recordInjection a.timestamp seen s
  let stepNudged := s₁.injectionMethod = some .kubectlNative ∧ executeNudges a s₁ r text ≠ []
  let s₂ := { s₁ with
    executeLoopCount := s.executeLoopCount + 1
    messages := a.compact s.messages ++ turnMessages a s r text seen
    injectionMethod := if stepNudged then none else s₁.injectionMethod }
  if lastPassFails σ s seen then
    s₂.failWith .executionTimeout ("max_iterations=" ++ toString σ.settings.maxExecuteLoop)
      (turnHistory a s r text seen)
  else s₂

def grantReplan (settings : Settings) (context : ReplanContext) (s : AgentState) : AgentState :=
  { s with
    replanRequested := true
    replanContext := some context
    replanCount := s.replanCount + 1
    executeLoopCount := if settings.replanResetExecuteCount then 0 else s.executeLoopCount
    error := ""
    approvedTarget := none
    bladeUid := if context.existingBladeUids.isEmpty then "" else s.bladeUid }

def exhaustReplan (context : ReplanContext) (messages : List Message) (s : AgentState) :
    AgentState :=
  { s.failWith .replanExhausted
      ("attempts=" ++ toString s.replanCount ++ ", last_error=" ++ cut 200 context.errorSummary)
      messages with
    replanRequested := false }

def zombieReplan (settings : Settings) (s : AgentState) : Bool :=
  s.replanRequested && settings.maxReplanCount ≤ s.replanCount && s.bladeUid = ""

def executeLoop (σ : Setup) (a : Answer) (s : AgentState) : Option AgentState :=
  let limit := σ.settings.maxExecuteLoop
  if limit < s.executeLoopCount + 1 then
    some (s.failWith .executionTimeout ("max_iterations=" ++ toString limit) s.messages)
  else if zombieReplan σ.settings s then
    some { s.failWith .replanExhausted ("attempts=" ++ toString s.replanCount) s.messages with
      replanRequested := false
      executeLoopCount := s.executeLoopCount + 1 }
  else do
    let r ← a.response
    let seen ← (observeInjection σ.db s.messages).toOption
    let text ← turnText r
    let reason ← (replanReason s text).toOption
    let s₁ := executeTurn σ a s r text seen
    let failed := lastPassFails σ s seen
    match reason with
    | none => some (markWallClockTimeout σ.settings a.now s s₁ failed failed)
    | some reason => do
      let context ← (buildReplanContext s reason).toOption
      if s.replanCount < σ.settings.maxReplanCount then
        some (markWallClockTimeout σ.settings a.now s (grantReplan σ.settings context s₁)
          false failed)
      else
        some (markWallClockTimeout σ.settings a.now s
          (exhaustReplan context (turnHistory a s r text seen) s₁) true true)

end ChaosBlade.Nodes
