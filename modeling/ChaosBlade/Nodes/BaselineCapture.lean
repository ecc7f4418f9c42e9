/-
Nodes.BaselineCapture: the processes of
`agent/nodes/baseline_capture.py`: which commands of the model are
accepted, how an accepted command is run, and the rounds of a run.

A command is checked by its subcommand and, for `exec`, by the first word
behind the dashes of its template. How it is run is chosen by its mode:
`debug_two_step` always runs an `exec`, in a debug pod made for the run,
or in a tool pod on the node when no debug pod can be made. If commands of
the model fail, it is asked again, at most twice, and each answer is a new
round.

  * What the model answers is a list of JSON values. What kubectl answers
    is given per round and place; `none` for a wait or a poll is its
    timeout, which is caught there.
  * The nodes of a list are gone through in the order of a Python set, which
    is any order.
  * The extractors, the tracker, the session and the store are left out.
-/
import ChaosBlade.Nodes.BaselineCommands
import ChaosBlade.Py.Shlex
import ChaosBlade.Tools.ToolPods

namespace ChaosBlade.Nodes

open Py Agent Utils Process

/-! ## The commands of the model -/

def baselineSubcommands : List String := ["get", "top", "describe", "exec", "debug"]

def allowedExecCommands : List String :=
  ["df", "ps", "ls", "cat", "top", "iostat", "free", "uptime", "hostname", "mount", "grep", "wc",
   "du", "head", "tail", "find", "stat", "ip", "ss", "netstat"]

def debugPodVar : String := "\x7bdebug_pod\x7d"

def debugTwoStep : String := "debug_two_step"

def firstWord (text : String) : String := (splitWs (strip text)).headD ""

/-- Does the command behind the first dashes pass? Without dashes there is nothing to
check. -/
def checkExec (vArgs : Json) : Except PyError Bool := do
  if ← vArgs.contains "--" then
    match vArgs with
    | .str s => .ok ((splitOnce "--" s).all fun r => allowedExecCommands.contains (firstWord r.2))
    | v => .error (attributeError v "split")
  else .ok true

def passesCheck (subcommand : String) (vArgs : Json) : Except PyError Bool :=
  if subcommand = "exec" then checkExec vArgs else .ok true

/-- A command with an allowed subcommand in the first loop of
`_validate_and_filter_commands`. -/
def validateFields (fs : List (String × Json)) (subcommand : String) :
    Except PyError (Option BaselineCommand) := do
  let vArgs := (Json.get? fs "v_args_template").getD (.str "")
  if ← passesCheck subcommand vArgs then
    let inDebugPod ← vArgs.contains debugPodVar
    return some
      { description := (Json.get? fs "description").getD (.str ""), subcommand,
        vArgsTemplate := vArgs
        mode := if inDebugPod then .str debugTwoStep
            else (Json.get? fs "mode").getD (.str "simple") }
  else return none

def validateCommand (cmd : Json) : Except PyError (Option BaselineCommand) :=
  match cmd with
  | .obj fs =>
    match (Json.get? fs "subcommand").getD (.str "") with
    | .str subcommand =>
      if baselineSubcommands.contains subcommand then validateFields fs subcommand else .ok none
    | .arr _ => .error ⟨.typeError, "unhashable type: 'list'"⟩
    | .obj _ => .error ⟨.typeError, "unhashable type: 'dict'"⟩
    | _ => .ok none
  | _ => .ok none

def execsInDebugPod (cmd : BaselineCommand) : Bool :=
  cmd.subcommand = "exec" && (cmd.vArgsTemplate.contains debugPodVar).toOption.getD false

/-- A `debug` command as an `exec` in the debug pod, if the command behind its last
dashes is allowed. -/
def convertDebug (cmd : BaselineCommand) : Except PyError (Option BaselineCommand) := do
  if ← cmd.vArgsTemplate.contains "--" then
    match cmd.vArgsTemplate with
    | .str s => .ok (((afterLast "--" s).filter fun after =>
      allowedExecCommands.contains (firstWord after)).map fun after =>
        { description := cmd.description, subcommand := "exec"
          vArgsTemplate := .str (debugPodVar ++ " -n " ++ Tools.toolPodNamespace ++ " -- " ++ strip after)
          mode := .str debugTwoStep })
    | v => .error (attributeError v "rsplit")
  else .ok none

/-- One command in the second loop; a `debug` is dropped if an `exec` in the debug pod
is there. -/
def convertCommand (hasDebugPodExec : Bool) (cmd : BaselineCommand) :
    Except PyError (Option BaselineCommand) :=
  if cmd.subcommand = "debug" then if hasDebugPodExec then .ok none else convertDebug cmd
  else .ok (some cmd)

def validateAndFilterCommands (commands : List Json) : Except PyError (List BaselineCommand) := do
  let validated := (← commands.mapM validateCommand).filterMap id
  let result ← validated.mapM (convertCommand (validated.any execsInDebugPod))
  return result.filterMap id

def llmCommands (answer : List Json) : List BaselineCommand :=
  (validateAndFilterCommands answer).toOption.getD []

/-! ## Processes -/

/-- What a process is started for; an observation has the index of its command. -/
inductive CaptureStep where
  | debugPod
  | wait
  | poll
  | toolPods
  | observe (i : Nat)
  | delete
  deriving DecidableEq

structure CaptureProcess where
  step : CaptureStep
  argv : List String
  deriving DecidableEq

structure CaptureSite where
  paths : Tools.Paths := {}
  kubeconfig : String := ""
  /-- The order in which a set of names is gone through. -/
  setOrder : List String → List String := id
  setOrder_perm : ∀ names, (setOrder names).Perm names := by exact fun _ => .refl _

/-- The answers about the debug pods are given by node, those to a deletion by pod. -/
structure CaptureAnswers where
  debugPod : String → Except PyError Tools.CommandResult := fun _ => .ok {}
  wait : String → Except PyError (Option Tools.CommandResult) := fun _ => .ok none
  poll : String → Nat → Except PyError (Option Tools.CommandResult) := fun _ _ => .ok none
  toolPods : String → Except PyError Tools.CommandResult := fun _ => .ok {}
  observe : Nat → Except PyError Tools.CommandResult := fun _ => .ok {}
  fallback : Nat → Nat → Except PyError Tools.CommandResult := fun _ _ => .ok {}
  delete : String → Except PyError Tools.CommandResult := fun _ => .ok {}

/-- A result of a command for the model and the verifier. -/
structure BaselineObservation where
  description : Json
  command : String
  exitCode : Int
  stdout : String
  stderr : String

section

variable (site : CaptureSite) (answers : CaptureAnswers)

def CaptureSite.argv (args : List String) : List String :=
  Tools.kubectlCommand site.paths site.kubeconfig args

def runStep (step : CaptureStep) (args : List String)
    (answer : Except PyError Tools.CommandResult) : Traced CaptureProcess Tools.CommandResult :=
  (Tools.runCommand (site.argv args) answer).mapStarted (CaptureProcess.mk step)

def runPatient (step : CaptureStep) (args : List String)
    (answer : Except PyError (Option Tools.CommandResult)) :
    Traced CaptureProcess (Option Tools.CommandResult) :=
  if (Tools.guardCheck (site.argv args)).1 then .start ⟨step, site.argv args⟩ answer else pure none

/-! ## The debug pod -/

def nonSpaces : Regex := .oneOrMore (.char fun c => !isSpace c)

def parseDebugPodName (output : String) : String :=
  let current : Regex := .all [.lit "pod", .oneOrMore .space,
    .group 1 (.all [.lit "node-debugger-", nonSpaces])]
  let older : Regex := .all [.lit "pod", .oneOrMore (.alt (.lit "/") .space),
    .group 1 (.all [.oneOrMoreLazy (.char fun c => !isSpace c), .lit "-debug-", nonSpaces])]
  let created : Regex := .all [.group 1 (.all [nonSpaces, .lit "-debug-", nonSpaces]),
    .oneOrMore .space, .lit "created"]
  match (current.search output).bind (·.group 1) with
  | some pod => String.ofList (pod.toList.rdropWhile ".,;:".toList.contains)
  | none => (((older.search output).bind (·.group 1)).or
      ((created.search output).bind (·.group 1))).getD ""

section

variable (node pod : String)

def pollReady : Nat → Traced CaptureProcess Bool
  | 0 => pure false
  | n + 1 => do
    let r ← runPatient site .poll
      ["get", pod, "-n", Tools.toolPodNamespace, "-o",
        "jsonpath=\x7b.status.containerStatuses[0].ready\x7d"] (answers.poll node n)
    if r.any fun r => strip r.stdout = "true" then pure true else pollReady n

def waitForDebugPodReady : Traced CaptureProcess Bool := do
  let r ← runPatient site .wait
    ["wait", "--for=condition=Ready", "pod/" ++ pod, "-n", Tools.toolPodNamespace, "--timeout=60s"]
    (answers.wait node)
  if r.any fun r => r.exitCode = 0 then pure true else pollReady site answers node pod 6

def debugArgs : List String :=
  ["debug", "node/" ++ node, "-n", Tools.toolPodNamespace, "--image=busybox", "--", "sleep", "3600"]

def createAndWaitDebugPod : Traced CaptureProcess (Option String) := do
  let r ← runStep site .debugPod (debugArgs node) (answers.debugPod node)
  if r.exitCode ≠ 0 ∨ parseDebugPodName r.stdout = "" then pure none
  else do
    let _ ← waitForDebugPodReady site answers node (parseDebugPodName r.stdout)
    pure (some (parseDebugPodName r.stdout))

def discoverToolPodOnNode : Traced CaptureProcess (Option String) := do
  let r ← (runStep site .toolPods Tools.listToolPods (answers.toolPods node)).attempt
  pure (r.bind fun r => if r.exitCode = 0 then Tools.toolPodOn [node] r.stdout else none)

def deleteArgs : List String :=
  ["delete", "pod", pod, "-n", Tools.toolPodNamespace, "--force", "--grace-period=0"]

def deleteDebugPod : Traced CaptureProcess Unit := do
  let _ ← (runStep site .delete (deleteArgs pod) (answers.delete pod)).attempt
  pure ()

end

/-- Where a `debug_two_step` command is run. -/
inductive DebugPlace where
  | debugPod (pod : String)
  | toolPod (pod : String)
  | nowhere

/-- The pods that were made or found, by node. -/
structure DebugPods where
  debugPods : List (String × String) := []
  toolPods : List (String × String) := []

def DebugPods.place (pods : DebugPods) (node : String) : DebugPlace :=
  match pods.debugPods.lookup node with
  | some pod => .debugPod pod
  | none =>
    match pods.toolPods.lookup node with
    | some pod => .toolPod pod
    | none => .nowhere

def isDebugTwoStep (c : Resolved) : Bool := Json.isStr c.mode debugTwoStep

def debugNodes (resolved : List Resolved) : List String :=
  site.setOrder (((resolved.filter isDebugTwoStep).map Resolved.nodeName).dedup.filter (· ≠ ""))

/-- A debug pod for each node, or else a tool pod. An exception leaves the pods before it
behind. -/
def preparePods : List String → DebugPods → Traced CaptureProcess DebugPods
  | [], pods => pure pods
  | node :: rest, pods => do
    match ← createAndWaitDebugPod site answers node with
    | some pod => preparePods rest { pods with debugPods := pods.debugPods ++ [(node, pod)] }
    | none => do
      match ← discoverToolPodOnNode site answers node with
      | some pod => preparePods rest { pods with toolPods := pods.toolPods ++ [(node, pod)] }
      | none => preparePods rest pods

def deletePods : List String → Traced CaptureProcess Unit
  | [] => pure ()
  | pod :: rest => do
    deleteDebugPod site answers pod
    deletePods rest

/-! ## Observations -/

def iostatFallbackChain : List (String × List String) :=
  [("iostat -xd 1 3", ["iostat -d 1 1", "cat /proc/diskstats"]),
   ("iostat -c 1 3", ["iostat 1 1", "cat /proc/stat"])]

/-- `_get_iostat_fallback_chain`: a fallback with the same binary is left out if that is
missing. -/
def getIostatFallbackChain (vArgs stderr : String) : List String :=
  match splitOnce "--" vArgs with
  | none => []
  | some (front, after) =>
    let fallbacks := (iostatFallbackChain.lookup (strip after)).getD []
    let missing := hasSub "not found in" (lower stderr) || hasSub "no such file" (lower stderr)
    (fallbacks.filter fun fb => !(missing && firstWord fb == "iostat")).map fun fb =>
      front ++ "-- " ++ fb

def runFallbacks (i : Nat) (description : Json) (pre : List String) :
    Nat → List String → Traced CaptureProcess (Option BaselineObservation)
  | _, [] => pure none
  | n, fb :: rest => do
    let args := "exec" :: pre ++ Shlex.splitArgs fb
    let r ← runStep site (.observe i) args (answers.fallback i n)
    if r.exitCode = 0 then
      pure (some { description, command := join " " (site.argv args), exitCode := 0
                   stdout := r.stdout, stderr := r.stderr })
    else runFallbacks i description pre (n + 1) rest

def fallBack (i : Nat) (description : Json) (subcommand : String) (pre : List String)
    (vArgs : String) (r : Tools.CommandResult) :
    Traced CaptureProcess (Option BaselineObservation) :=
  if r.exitCode ≠ 0 ∧ subcommand = "exec" then
    runFallbacks site answers i description pre 0 (getIostatFallbackChain vArgs r.stderr)
  else pure none

def runObservation (i : Nat) (description : Json) (subcommand : String) (pre : List String)
    (vArgs : String) : Traced CaptureProcess BaselineObservation := do
  let args := subcommand :: pre ++ Shlex.splitArgs vArgs
  let r ← runStep site (.observe i) args (answers.observe i)
  let found ← fallBack site answers i description subcommand pre vArgs r
  pure (found.getD { description, command := join " " (site.argv args), exitCode := r.exitCode
                     stdout := r.stdout, stderr := r.stderr })

def defendNamespace (pod vArgs : String) : String :=
  let hasNs := hasSub "-n " vArgs || hasSub "--namespace " vArgs
  let hasCorrectNs := hasSub ("-n " ++ Tools.toolPodNamespace) vArgs ||
    hasSub ("--namespace " ++ Tools.toolPodNamespace) vArgs
  if hasNs && !hasCorrectNs then (replaceNamespace vArgs).getD vArgs
  else if !hasNs then replaceFirst pod (pod ++ " -n " ++ Tools.toolPodNamespace) vArgs
  else vArgs

def podArgs (pod vArgs : String) : String :=
  defendNamespace pod (replace debugPodVar pod vArgs)

/-- One command: `_exec_simple`, `_exec_in_debug_pod` or `_exec_in_tool_pod`. -/
def observe (place : DebugPlace) (i : Nat) (c : Resolved) :
    Traced CaptureProcess BaselineObservation :=
  match c.vArgs with
  | .str vArgs =>
    if isDebugTwoStep c then
      match place with
      | .debugPod pod =>
        runObservation site answers i c.description "exec" ["-c", "debugger"]
          (podArgs pod vArgs)
      | .toolPod pod => runObservation site answers i c.description "exec" [] (podArgs pod vArgs)
      | .nowhere => pure
          { description := c.description, command := "", exitCode := -1, stdout := ""
            stderr := "No debug pod or tool pod available for node " ++ c.nodeName }
    else runObservation site answers i c.description c.subcommand [] vArgs
  | v => .ofExcept (.error (attributeError v "replace"))

/-- The commands of a round from an index on; one that raises is a failed observation. -/
def observeAll (pods : DebugPods) :
    Nat → List Resolved → Traced CaptureProcess (List BaselineObservation)
  | _, [] => pure []
  | i, c :: rest =>
    if c.unresolved then observeAll pods (i + 1) rest
    else do
      let obs ← (observe site answers (pods.place c.nodeName) i c).recover fun e =>
        { description := c.description, command := "", exitCode := -1, stdout := ""
          stderr := e.msg }
      let more ← observeAll pods (i + 1) rest
      pure (obs :: more)

def executeObservations (resolved : List Resolved) :
    Traced CaptureProcess (List BaselineObservation) := do
  let pods ← preparePods site answers (debugNodes site resolved) {}
  let observations ← observeAll site answers pods 0 resolved
  deletePods site answers (pods.debugPods.map Prod.snd)
  return observations

end

/-! ## A run -/

/-- What a run of the node works on. `retries` are the answers of the model to a failed
round, `none` if it does not answer in time. -/
structure CaptureRun where
  site : CaptureSite := {}
  spec : Option FaultSpec
  metadata : TargetMetadata := {}
  llm : List Json
  retries : Nat → Option (List Json) := fun _ => none
  answers : Nat → CaptureAnswers := fun _ => {}

def CaptureRun.derived (x : CaptureRun) (round : Nat) : List BaselineCommand :=
  if round = 0 then llmCommands x.llm else ((x.retries round).map llmCommands).getD []

/-- A process with its round. -/
abbrev RoundProcess := Nat × CaptureProcess

def executeRound (x : CaptureRun) (round : Nat) (resolved : List Resolved) :
    Traced RoundProcess (List BaselineObservation) :=
  (executeObservations x.site (x.answers round) resolved).mapStarted (round, ·)

def retryRounds (x : CaptureRun) :
    Nat → Nat → List BaselineObservation → Traced RoundProcess (List BaselineObservation)
  | 0, _, observations => pure observations
  | left + 1, round, observations =>
    if observations.all fun o => o.exitCode = 0 then pure observations
    else if (x.derived round).isEmpty then pure observations
    else do
      let resolved ← .ofExcept (resolveTemplates x.spec (x.derived round))
      if resolved.all Resolved.unresolved then pure observations
      else do
        let more ← executeRound x round resolved
        retryRounds x left (round + 1) ((observations.filter fun o => o.exitCode = 0) ++ more)

def firstCommands (t : Tables) (x : CaptureRun) : Except PyError (Source × List BaselineCommand) :=
  (captureCommands t { spec := x.spec, metadata := x.metadata, llmCommands := x.derived 0 }).2

def baselineCapture (t : Tables) (x : CaptureRun) :
    Traced RoundProcess (Source × List BaselineObservation) := do
  let (source, commands) ← .ofExcept (firstCommands t x)
  let resolved ← .ofExcept (resolveTemplates x.spec commands)
  let observations ← executeRound x 0 resolved
  if source = .llm then do
    let observations ← retryRounds x 2 1 observations
    pure (source, observations)
  else pure (source, observations)

end ChaosBlade.Nodes
