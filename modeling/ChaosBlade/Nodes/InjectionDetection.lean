/-
Nodes.InjectionDetection: how a fault was injected, read off
the conversation: `nodes/_injection_detection.py`, and the readers of
`nodes/execute_loop.py` that find the experiment's uid and the injection
method.

A tool's result is tied to the call that caused it by the call id. The
arguments of a call are what the model wrote, so reading them can raise.
-/
import ChaosBlade.Agent.State
import ChaosBlade.Tools.BladeUid

namespace ChaosBlade.Nodes

open Py Agent Tools

/-! ## Calls and their results -/

variable (messages : List Message)

def toolCallsOf : List ToolCall :=
  messages.flatMap fun
    | .ai msg => msg.toolCalls
    | _ => []

/-- The arguments of the call with this id: the last one recorded under it. A
call without an id is not recorded. -/
def toolCallArgs (id : String) : Option Json :=
  if id = "" then none
  else ((toolCallsOf messages).reverse.find? fun tc => tc.id == id).map ToolCall.args

def isBladeCreate (vArgs : Json) : Except PyError Bool := do
  if ← vArgs.contains "blade" then vArgs.contains "create" else return false

def isBladeSuccess (content : String) : Except PyError Bool :=
  match jsonLoads content with
  | .ok (.obj fs) => .ok (successUid fs).isSome
  | .ok _ => .ok false
  | .error .decode => .ok false
  | .error (.other e) => .error e

/-! ## How the fault was injected -/

def isExecBladeCreate (args : Json) : Except PyError Bool := do
  let subcommand ← args.getD "subcommand" (.str "")
  let vArgs ← args.getD "v_args" (.str "")
  match subcommand with
  | .str "exec" => isBladeCreate vArgs
  | _ => return false

/-- Does this result show a `blade create` that succeeded inside a pod? A result
whose call is not on record is judged by its text alone. -/
def showsExecInjection (m : ToolMessage) : Except PyError Bool := do
  if m.name = "kubectl" then
    if ← isBladeSuccess m.content then
      match toolCallArgs messages m.toolCallId with
      | some args => isExecBladeCreate args
      | none => return true
    else return false
  else return false

def anyToolM (p : ToolMessage → Except PyError Bool) : List Message → Except PyError Bool
  | [] => .ok false
  | .tool m :: rest => do if ← p m then return true else anyToolM p rest
  | _ :: rest => anyToolM p rest

def wasKubectlBladeInjectionSuccessful : Except PyError Bool :=
  anyToolM (showsExecInjection messages) messages.reverse

def kubectlInjectSubcommands : List String :=
  ["scale", "patch", "cordon", "taint", "set", "delete", "drain", "label"]

def showsNativeInjection (m : ToolMessage) : Except PyError Bool := do
  if m.name = "kubectl" then
    match toolCallArgs messages m.toolCallId with
    | none => return false
    | some args =>
      match ← args.getD "subcommand" (.str "") with
      | .str sub => return kubectlInjectSubcommands.contains sub && !startsWith m.content "Error:"
      | .arr _ | .obj _ => .error ⟨.typeError, "unhashable type"⟩
      | _ => return false
  else return false

def afterBladeCreate : List Message :=
  (messages.reverse.takeWhile fun
    | .tool m => m.name ≠ "blade_create"
    | _ => true).reverse

/-- `_was_kubectl_injection_attempted`: a write after the last `blade_create`. -/
def wasKubectlInjectionAttempted : Except PyError Bool :=
  anyToolM (showsNativeInjection messages) (afterBladeCreate messages)

def hasBladeCreateResult : Bool :=
  messages.any fun
    | .tool m => m.name == "blade_create"
    | _ => false

/-- `_was_blade_create_attempted`: `blade_create` ran and nothing shows another
way of injection. -/
def wasBladeCreateAttempted : Except PyError Bool := do
  if ← wasKubectlBladeInjectionSuccessful messages then return false
  if ← wasKubectlInjectionAttempted messages then return false
  return hasBladeCreateResult messages

/-! ## The uid -/

def isKubectlBladeCreate (tc : ToolCall) : Except PyError Bool :=
  if tc.name = "kubectl" then match tc.args with
    | .obj fs => isBladeCreate ((Json.get? fs "v_args").getD (.str ""))
    | _ => .ok false
  else .ok false

def callIdsM (p : ToolCall → Except PyError Bool) : List ToolCall → Except PyError (List String)
  | [] => .ok []
  | tc :: rest => do
    let hit ← p tc
    let ids ← callIdsM p rest
    return if hit then tc.id :: ids else ids

def bladeExecCallIds : Except PyError (List String) :=
  callIdsM isKubectlBladeCreate (toolCallsOf messages)

/-- The scan from the last message on; `kubectlUid` is the fallback found so
far. A result of `blade_create` wins over it. -/
def scanBladeUid (db : CharDb) (execIds : List String) :
    List Message → Option String → Except PyError (Option String)
  | [], kubectlUid => .ok kubectlUid
  | .tool m :: rest, kubectlUid => do
    if m.name = "blade_create" then
      match ← extractBladeUid db m.content with
      | some u => return some u
      | none => scanBladeUid db execIds rest kubectlUid
    else if m.name = "kubectl" ∧ kubectlUid = none ∧ m.toolCallId ∈ execIds then
      scanBladeUid db execIds rest (← extractBladeUid db m.content)
    else scanBladeUid db execIds rest kubectlUid
  | _ :: rest, kubectlUid => scanBladeUid db execIds rest kubectlUid

def extractBladeUidFromMessages (db : CharDb) (messages : List Message) :
    Except PyError (Option String) := do
  scanBladeUid db (← bladeExecCallIds messages) messages.reverse none

/-! ## The method -/

def scanInjectionMethod (db : CharDb) :
    List Message → Except PyError (Option InjectionMethod)
  | [] => .ok none
  | .tool m :: rest => do
    if m.name = "blade_create" then
      if (← extractBladeUid db m.content).isSome then return some .hostBlade
      else scanInjectionMethod db rest
    else if m.name = "kubectl" then
      if (← extractBladeUid db m.content).isSome then return some .kubectlExec
      else scanInjectionMethod db rest
    else scanInjectionMethod db rest
  | _ :: rest => scanInjectionMethod db rest

/-- `_detect_injection_method`; `bladeUid` is the uid found in the messages. -/
def detectInjectionMethod (db : CharDb) (messages : List Message) (bladeUid : Option String) :
    Except PyError (Option InjectionMethod) := do
  match ← scanInjectionMethod db messages.reverse with
  | some method => return some method
  | none =>
    if bladeUid.isNone then
      if ← wasKubectlInjectionAttempted messages then return some .kubectlNative
    return none

end ChaosBlade.Nodes
