/-
Nodes.BaselineCommands: the commands of
`agent/nodes/baseline_capture.py`: the tables of the module, the
variables of a template, and the choice of the list of a run.

A list of a table is chosen by reference: `CommandList` says which list
object it is, and appending to it writes to that object, so a table that
holds it changes with it. Only a list made by the run itself is its own.

A command that comes from the model has what a JSON value can be in its
fields; a template that is not a string raises later. The extractors of
a command, which read its output, are left out.
-/
import ChaosBlade.Agent.State
import ChaosBlade.Py.JsonDecode
import ChaosBlade.Py.Text
import ChaosBlade.Tools.ToolPods
import ChaosBlade.Utils.FaultContext

namespace ChaosBlade.Nodes

open Py Agent Utils

structure BaselineCommand where
  description : Json
  subcommand : String
  vArgsTemplate : Json
  mode : Json := .str "simple"

def tableCommand (description subcommand vArgsTemplate : String) (mode : String := "simple") :
    BaselineCommand where
  description := .str description
  subcommand := subcommand
  vArgsTemplate := .str vArgsTemplate
  mode := .str mode

def debugPodCommand (description command : String) : BaselineCommand :=
  tableCommand description "exec"
    ("\x7bdebug_pod\x7d -n " ++ Tools.toolPodNamespace ++ " -- " ++ command) "debug_two_step"

/-! ## Tables -/

/-- The module-level tables; a list is reached by its key. -/
structure Tables where
  baselineCommands : List (List String × List BaselineCommand)
  scopeFallback : List (String × List BaselineCommand)
  dimensionCommands : List (String × List (String × BaselineCommand))

def baselineCommands : List (List String × List BaselineCommand) := [(["node", "disk", "fill"], [
    tableCommand "Node DiskPressure" "describe" "node \x7bnode_name\x7d",
    debugPodCommand "Node disk usage" "df -h"]),
  (["node", "disk", "burn"], [tableCommand "Node conditions" "describe" "node \x7bnode_name\x7d",
    debugPodCommand "Node disk IO" "iostat -xd 1 3"]),
  (["pod", "process", "kill"], [
    tableCommand "Service endpoints" "get" "endpoints -n \x7bnamespace\x7d \x7blabel_selector\x7d",
    tableCommand "Pod status/restarts" "get"
      "pods -n \x7bnamespace\x7d \x7blabel_selector\x7d -o wide",
    tableCommand "Pod events" "describe" "pod \x7bpod_name\x7d -n \x7bnamespace\x7d"]),
  (["pod", "network", "drop"], [
    tableCommand "Service endpoints" "get" "endpoints -n \x7bnamespace\x7d",
    tableCommand "Pod conditions" "describe" "pod \x7bpod_name\x7d -n \x7bnamespace\x7d"]),
  (["pod", "cpu"], [
    tableCommand "Pod CPU/Memory" "top" "pod -n \x7bnamespace\x7d \x7blabel_selector\x7d",
    tableCommand "Pod conditions/restarts" "describe"
      "pod \x7bpod_name\x7d -n \x7bnamespace\x7d"]),
  (["pod", "mem"], [
    tableCommand "Pod CPU/Memory" "top" "pod -n \x7bnamespace\x7d \x7blabel_selector\x7d",
    tableCommand "Pod OOM events" "describe" "pod \x7bpod_name\x7d -n \x7bnamespace\x7d"]),
  (["pod", "disk"], [tableCommand "Container disk usage" "exec"
      "\x7bpod_name\x7d -n \x7bnamespace\x7d -- df -h"]),
  (["pod", "network"], [tableCommand "Service endpoints" "get" "endpoints -n \x7bnamespace\x7d",
    tableCommand "Pod conditions" "describe" "pod \x7bpod_name\x7d -n \x7bnamespace\x7d"]),
  (["pod", "process"], [
    tableCommand "Pod status" "get" "pods -n \x7bnamespace\x7d \x7blabel_selector\x7d",
    tableCommand "Pod events" "describe" "pod \x7bpod_name\x7d -n \x7bnamespace\x7d"]),
  (["node", "cpu"], [tableCommand "Node resource usage" "top" "node \x7bnode_name\x7d",
    tableCommand "Node conditions" "describe" "node \x7bnode_name\x7d"]),
  (["node", "mem"], [tableCommand "Node resource usage" "top" "node \x7bnode_name\x7d",
    tableCommand "Node MemoryPressure" "describe" "node \x7bnode_name\x7d"]),
  (["node", "disk"], [tableCommand "Node DiskPressure" "describe" "node \x7bnode_name\x7d",
    debugPodCommand "Node disk usage" "df -h"]),
  (["node", "network"], [tableCommand "Node conditions" "describe" "node \x7bnode_name\x7d",
    tableCommand "Pods on node" "get"
      "pods -o wide -A --field-selector spec.nodeName=\x7bnode_name\x7d"]),
  (["node", "process"], [tableCommand "Node conditions" "describe" "node \x7bnode_name\x7d",
    tableCommand "Pods on node" "get"
      "pods -o wide -A --field-selector spec.nodeName=\x7bnode_name\x7d"])]

def scopeFallback : List (String × List BaselineCommand) := [
  ("node", [tableCommand "Node resource usage" "top" "node \x7bnode_name\x7d"]),
  ("pod", [
    tableCommand "Pod resource usage" "top" "pod -n \x7bnamespace\x7d \x7blabel_selector\x7d"]),
  ("deployment", [tableCommand "Deployment status" "get" "deployment -n \x7bnamespace\x7d -o wide",
    tableCommand "Pod status" "get"
      "pods -n \x7bnamespace\x7d \x7blabel_selector\x7d -o wide"])]

def fcatDimensionCommands : List (String × List (String × BaselineCommand)) := [("io_utilization", [
    ("pod", tableCommand "Container disk IO utilization" "exec"
      "\x7bpod_name\x7d -n \x7bnamespace\x7d -- iostat -xd 1 3"),
    ("node", debugPodCommand "Node disk IO utilization" "iostat -xd 1 3")]),
  ("io_iowait", [("pod", tableCommand "Container CPU iowait" "exec"
      "\x7bpod_name\x7d -n \x7bnamespace\x7d -- iostat -c 1 3"),
    ("node", debugPodCommand "Node CPU iowait" "iostat -c 1 3")])]

def moduleTables : Tables where
  baselineCommands := baselineCommands
  scopeFallback := scopeFallback
  dimensionCommands := fcatDimensionCommands

/-! ## Templates -/

def namespaceFlag (cs : List Char) : Option (List Char) :=
  (Re.flagValue "-n".toList cs).or (Re.flagValue "--namespace".toList cs)

def aroundMatch (m : List Char → Option (List Char)) :
    List Char → Option (List Char × List Char)
  | [] => (m []).map fun rest => ([], rest)
  | c :: cs =>
    match m (c :: cs) with
    | some rest => some ([], rest)
    | none => (aroundMatch m cs).map fun r => (c :: r.1, r.2)

def replaceNamespace (s : String) : Option String :=
  (aroundMatch namespaceFlag s.toList).map fun r =>
    String.ofList r.1 ++ "-n " ++ Tools.toolPodNamespace ++ String.ofList r.2

def normalizeDebugNamespace (vArgs : String) : String :=
  let (before, after) := match splitOnce "--" vArgs with
    | some (before, after) => (before, "-- " ++ after)
    | none => (vArgs, "")
  let newBefore := match replaceNamespace before with
    | some replaced => replaced
    | none =>
      if hasSub "\x7bdebug_pod\x7d" before then
        replaceFirst "\x7bdebug_pod\x7d" ("\x7bdebug_pod\x7d -n " ++ Tools.toolPodNamespace) before
      else String.ofList (before.toList.rdropWhile isSpace) ++ " -n " ++ Tools.toolPodNamespace
  newBefore ++ after

def hasUnknownVar : List Char → Bool
  | [] => false
  | c :: cs =>
    let name := cs.takeWhile fun d => d.isLower || d == '_'
    (c == '\x7b' && !name.isEmpty && (cs.drop name.length).head? == some '\x7d' &&
      name != "debug_pod".toList) || hasUnknownVar cs

structure Resolved where
  description : Json
  subcommand : String
  vArgs : Json
  mode : Json
  unresolved : Bool
  nodeName : String

def substitute (var value : String) (v : Json) (unresolved : Bool) :
    Except PyError (Json × Bool) := do
  if ← v.contains var then
    if value = "" then return (v, true)
    else
      match v with
      | .str s => return (.str (replace var value s), unresolved)
      | v => .error (attributeError v "replace")
  else return (v, unresolved)

structure TemplateValues where
  namespaceName : String
  nodeName : String
  podName : String
  labelSelector : String

def templateValues (spec : FaultSpec) : TemplateValues where
  namespaceName := spec.ns
  nodeName := spec.names.headD ""
  -- the names of a node-scoped spec are not pods
  podName := if spec.scope = "node" then "" else spec.names.headD ""
  labelSelector := join "," (spec.labels.entries.map fun e => e.1 ++ "=" ++ e.2)

variable (values : TemplateValues)

def resolveTemplate (cmd : BaselineCommand) :
    Except PyError Resolved := do
  let (v, u) ← substitute "\x7bnamespace\x7d" values.namespaceName cmd.vArgsTemplate false
  let (v, u) ← substitute "\x7bnode_name\x7d" values.nodeName v u
  let (v, u) ← substitute "\x7bpod_name\x7d" values.podName v u
  let (v, u) ← substitute "\x7blabel_selector\x7d" values.labelSelector v u
  let mode := if (← v.contains "\x7bdebug_pod\x7d") then .str "debug_two_step" else cmd.mode
  let v ← if Json.isStr mode "debug_two_step" then
      match v with
      | .str s => .ok (.str (normalizeDebugNamespace s))
      | v => .error (attributeError v "split")
    else .ok v
  let u ← if u then .ok true else
      match v with
      | .str s => .ok (hasUnknownVar s.toList)
      | v => .error ⟨.typeError, "expected string or bytes-like object, got '" ++ v.typeName ++ "'"⟩
  return { description := cmd.description, subcommand := cmd.subcommand, vArgs := v, mode,
           unresolved := u, nodeName := values.nodeName }

/-! ### String templates

A template that is a string never raises; `resolveText` is what it
becomes. -/

def fillVar (var value : String) (r : String × Bool) : String × Bool :=
  if hasSub var r.1 then if value = "" then (r.1, true) else (replace var value r.1, r.2) else r

theorem substitute_str (var value s : String) (u : Bool) : substitute var value (.str s) u =
      .ok (.str (fillVar var value (s, u)).1, (fillVar var value (s, u)).2) := by
  simp only [substitute, Json.contains, bind, Except.bind, fillVar]
  split
  · split <;> rfl
  · rfl

def fillText (s : String) : String × Bool :=
  fillVar "\x7blabel_selector\x7d" values.labelSelector
    (fillVar "\x7bpod_name\x7d" values.podName (fillVar "\x7bnode_name\x7d" values.nodeName
        (fillVar "\x7bnamespace\x7d" values.namespaceName (s, false))))

def resolvedMode (mode : Json) (text : String) : Json :=
  if hasSub "\x7bdebug_pod\x7d" text then .str "debug_two_step" else mode

def resolvedArgs (mode : Json) (text : String) : String :=
  if Json.isStr mode "debug_two_step" then normalizeDebugNamespace text else text

def resolveText (cmd : BaselineCommand) (s : String) : Resolved :=
  let filled := fillText values s
  let mode := resolvedMode cmd.mode filled.1
  let text := resolvedArgs mode filled.1
  { description := cmd.description, subcommand := cmd.subcommand, vArgs := .str text, mode,
    unresolved := filled.2 || hasUnknownVar text.toList, nodeName := values.nodeName }

theorem resolveTemplate_str {cmd : BaselineCommand} {s : String} (h : cmd.vArgsTemplate = .str s)
    (values : TemplateValues) : resolveTemplate values cmd = .ok (resolveText values cmd s) := by
  unfold resolveTemplate
  rw [h]
  simp only [substitute_str, Json.contains, bind, Except.bind]
  unfold resolveText resolvedArgs resolvedMode fillText
  -- the mode, then the missing values
  split <;> split <;> split <;> simp_all [pure, Except.pure]

def resolveTemplates (spec : Option FaultSpec) (commands : List BaselineCommand) :
    Except PyError (List Resolved) :=
  match spec with
  | none => .ok (commands.map fun cmd =>
    { description := cmd.description, subcommand := cmd.subcommand,
      vArgs := cmd.vArgsTemplate, mode := cmd.mode, unresolved := true, nodeName := "" })
  | some spec => commands.mapM (resolveTemplate (templateValues spec))

/-! ## The list of a run -/

inductive CommandList where
  | baselineCommands (key : List String)
  | scopeFallback (scope : String)
  /-- A list the run has made. -/
  | fresh (commands : List BaselineCommand)

variable (t : Tables)

def CommandList.read : CommandList → List BaselineCommand
  | .baselineCommands key => (t.baselineCommands.lookup key).getD []
  | .scopeFallback scope => (t.scopeFallback.lookup scope).getD []
  | .fresh commands => commands

def appendUnder {κ : Type} [DecidableEq κ] (key : κ) (cmd : BaselineCommand)
    (table : List (κ × List BaselineCommand)) : List (κ × List BaselineCommand) :=
  table.map fun e => if e.1 = key then (e.1, e.2 ++ [cmd]) else e

def CommandList.append (cmd : BaselineCommand) :
    CommandList → Tables × CommandList
  | .baselineCommands key =>
    ({ t with baselineCommands := appendUnder key cmd t.baselineCommands }, .baselineCommands key)
  | .scopeFallback scope =>
    ({ t with scopeFallback := appendUnder scope cmd t.scopeFallback }, .scopeFallback scope)
  | .fresh commands => (t, .fresh (commands ++ [cmd]))

def lookupBaselineCommands (scope target action : String) : CommandList :=
  match [[scope, target, action], [scope, target], [scope]].find? fun key =>
      (t.baselineCommands.lookup key).isSome with
  | some key => .baselineCommands key
  | none => .fresh []

def lookupScopeFallback (scope : String) : CommandList :=
  if (t.scopeFallback.lookup scope).isSome then .scopeFallback scope else .fresh []

inductive Source where
  | none
  | llm
  | registry
  | scopeFallback
  deriving DecidableEq

/-- What a run of the node starts from: the spec of its state, the metadata, and
the list the model's answer was read as, empty without one. -/
structure CaptureInput where
  spec : Option FaultSpec
  metadata : TargetMetadata := {}
  llmCommands : List BaselineCommand := []

namespace CaptureInput

def scope (r : CaptureInput) : String := (r.spec.map FaultSpec.scope).getD ""
def target (r : CaptureInput) : String := (r.spec.map FaultSpec.bladeTarget).getD ""
def action (r : CaptureInput) : String := (r.spec.map FaultSpec.bladeAction).getD ""

end CaptureInput

def strategies (r : CaptureInput) : List (Source × CommandList) :=
  [(.llm, .fresh r.llmCommands), (.registry, lookupBaselineCommands t r.scope r.target r.action),
   (.scopeFallback, lookupScopeFallback t r.scope)]

def viable (spec : Option FaultSpec) (commands : List BaselineCommand) : Except PyError Bool :=
  (resolveTemplates spec commands).map fun resolved => resolved.any fun c => !c.unresolved

def selectStrategy (t : Tables) (spec : Option FaultSpec) :
    List (Source × CommandList) → Except PyError (Source × CommandList)
  | [] => .ok (.none, .fresh [])
  | (source, commands) :: rest =>
    if (commands.read t).isEmpty then selectStrategy t spec rest
    else do
      if ← viable spec (commands.read t) then return (source, commands)
      else selectStrategy t spec rest

def describes (commands : List BaselineCommand) (cmd : BaselineCommand) : Bool :=
  match cmd.description with
  | .str s => commands.any fun c => Json.isStr c.description s
  | _ => false

/-- One dimension of a supplement; its command is added unless one has its
description. -/
def supplementDimension (scope : String) (state : Tables × CommandList) (dim : String) :
    Tables × CommandList :=
  let (t, commands) := state
  let dimCommands := (t.dimensionCommands.lookup dim).getD []
  match (dimCommands.lookup scope).or (dimCommands.lookup "pod") with
  | none => (t, commands)
  | some cmd =>
    if describes (commands.read t) cmd then (t, commands) else commands.append t cmd

def supplementDimensions (r : CaptureInput) : List String :=
  if !r.metadata.isEmpty || (r.scope ≠ "" && r.target ≠ "" && r.action ≠ "") then
    (lookupAdaptations r.scope r.target r.action r.metadata .baselineSupplement).flatMap
      fun rule => rule.action.dimensions
  else []

/-- The selection of a run of `baseline_capture`: the tables after it, and the
commands with their source unless it raises. -/
def captureCommands (r : CaptureInput) : Tables × Except PyError (Source × List BaselineCommand) :=
  match selectStrategy t r.spec (strategies t r) with
  | .error e => (t, .error e)
  | .ok (source, commands) =>
    let state := (supplementDimensions r).foldl (supplementDimension r.scope) (t, commands)
    (state.1, .ok (source, state.2.read state.1))

def captureAll (runs : List CaptureInput) : Tables :=
  runs.foldl (fun t r => (captureCommands t r).1) t

end ChaosBlade.Nodes
