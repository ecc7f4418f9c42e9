/-
Agent.World: what a node of the graphs does not decide itself.

`Setup` is what a graph is built with. `Answer` is what the world answers
during one visit to a node: the clock, the model, the tools, the user, and
the readings of free text and of the cluster that are not modelled. A node
takes from it what it asks for. Nothing relates the answers of two visits,
so a result about every world covers every model, tool and user.
-/
import ChaosBlade.Agent.State
import ChaosBlade.Py.Re

namespace ChaosBlade.Agent

open Py

structure Setup where
  settings : Settings := {}
  db : CharDb := asciiDb
  /-- The nested classifier calls Python's recursion limit leaves. -/
  depth : Nat := 100
  /-- Is the graph built with `clarification_tools`? -/
  clarificationTools : Bool := true
  /-- Is the graph built with `verifier_tools`? -/
  verifierTools : Bool := true

structure ToolOutput where
  content : String
  status : ToolStatus := .success

inductive Conflict where
  | clear
  /-- Others are active. -/
  | active (reason : String)
  /-- The same action is active on the same target. -/
  | overlay (reason : String)

structure SafetyFindings where
  conflict : Conflict := .clear
  /-- The summary of a target health that blocks. -/
  healthBlocker : Option String := none
  /-- Why the injection is impossible. -/
  infeasible : Option String := none
  overall : Int := 0
  ownerNames : List String := []

structure DirectRun where
  /-- The target nodes without a running tool pod. -/
  missingNodes : List String := []
  /-- The output of `blade_create`, and of the retry without a namespace. -/
  created : String := ""
  recreated : String := ""
  /-- The uid, the pod and the output of the fallback inside a pod. -/
  fallback : Option (String × String × String) := none

/-- What `finalize_verification` makes of the verdict. -/
structure FinalReading where
  /-- What is missing from the verification. -/
  gaps : List String := []
  maxAttempts : Nat := 1
  /-- The verification but for its Layer 1. -/
  fields : List (String × Json) := []

/-- One round of the plan builder: the model's turn, `none` if the call raises,
and the user's answer to the question in it. -/
structure Exchange where
  response : Option AIMessage := none
  answer : Json := .null

structure Answer where
  /-- The clock when the node checks the time budget, and when its router does. -/
  now : Rat := 0
  nowRoute : Rat := 0
  /-- The text of `now_iso()`. -/
  timestamp : String := "1970-01-01T00:00:00Z"
  /-- The model's turn as the node stores it: the kubeconfig is in its calls.
  `none` if the call raises, or the reading of its tool calls. -/
  response : Option AIMessage := none
  /-- What the memory hook makes of the conversation, and the messages its
  update carries. -/
  compact : List Message → List Message := id
  hookMessages : List Message := []
  /-- The tool's answer to a call; `none` if it raises through the tool node. -/
  tool : ToolCall → Option ToolOutput := fun _ => none
  /-- The value an interrupt is resumed with. -/
  decision : Json := .null
  /-- The steps of the use case that were not run, as a reminder to the model. -/
  stepNudge : Option String := none
  /-- The planner's restatement of the fault intent. -/
  intentText : String := ""
  /-- The spec with what the planning conversation adds to it, if anything. -/
  specReading : Option FaultSpec := none
  /-- Has a use case of the catalogue been loaded? -/
  caseLoaded : Bool := false
  safety : SafetyFindings := {}
  /-- What a node tells the user where the text is not modelled: a plan, a list
  of experiments. -/
  replyText : String := ""
  /-- The text of the skill of the direct mode, if it is installed. -/
  directSkill : Option String := none
  direct : DirectRun := {}
  /-- The check of the experiment, from its uid, the method and the messages. -/
  layer1 : String → Option InjectionMethod → List Message → Layer1Result := fun _ _ _ => {}
  /-- The context messages a verifier adds before its turn. -/
  contextMessages : List Message := []
  baselineConfidence : String := "none"
  finalReading : Layer1Result → List Message → FinalReading := fun _ _ => {}
  /-- The side effects found after the injection. -/
  sideEffects : Option Json := none
  /-- The intent the user's dialogue has been read as so far. -/
  draftSpec : FaultSpec := {}
  /-- The intent as submitted, if no required field is missing. -/
  submittedSpec : Option FaultSpec := none
  /-- A fresh operation id. -/
  freshTaskId : String := "task-000000000000"
  rounds : Nat → Exchange := fun _ => {}
  /-- The spec the arguments of `submit_plan` are read as. -/
  plannedSpec : FaultSpec := {}
  /-- The ids and uids of the active tasks; `none` if the store raises. -/
  activeTasks : Option (List (String × String)) := none
  /-- The account of the injection read off the conversation. -/
  injectContextOf : List Message → String := fun _ => ""
  /-- The text of the exception of a model call that raised. -/
  callError : String := ""
  /-- The outputs of `blade_destroy` and `blade_status` on the host. -/
  destroy : Except PyError String := .ok ""
  status : Except PyError String := .ok ""
  /-- The system prompt of a recovery by the model, for a fault made inside a pod
  or not. -/
  recoveryPrompt : Bool → String := fun _ => ""
  /-- The baseline a recover verifier puts before the model, if it is not in the
  conversation yet. -/
  baselineMessages : List Message := []
  /-- What the text of a recovery verdict says, for a skill. -/
  recoverReading : String → String → List (String × Json) := fun _ _ => []

/-! ## The tool nodes -/

def lastTurn (messages : List Message) : Option AIMessage :=
  messages.reverse.findSome? fun
    | .ai msg => some msg
    | _ => none

def toolResult (a : Answer) (tc : ToolCall) : Option Message :=
  (a.tool tc).map fun out =>
    .tool { content := out.content, name := tc.name, toolCallId := tc.id, status := out.status }

/-- A prebuilt tool node: every call of the latest turn gets its result. Without
a turn, or if a tool raises, the node raises. -/
def toolNode (a : Answer) (s : AgentState) : Option AgentState := do
  let turn ← lastTurn s.messages
  let results ← turn.toolCalls.mapM (toolResult a)
  return { s with messages := s.messages ++ results }

end ChaosBlade.Agent
