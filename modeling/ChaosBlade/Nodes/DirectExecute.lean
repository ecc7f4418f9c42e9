/-
Nodes.DirectExecute: `nodes/direct_execute.py`: the injection
of the direct mode, without a model.

The node completes the parameters of the approved fault, checks a node's
tool pod, calls `blade_create`, once more without the namespace if the
binary does not know that flag, and falls back to a `blade create` inside
a tool pod. After an injection it looks at the disk. What the tools answer
is `DirectTools`, one field for each place of the source that asks.
-/
import ChaosBlade.Nodes.SafetyGate
import ChaosBlade.Tools.Blade
import ChaosBlade.Tools.Kubectl
import ChaosBlade.Tools.ToolPods
import ChaosBlade.Utils.FaultContext

namespace ChaosBlade.Nodes.Direct

open Py Process Agent Tools
open TargetGuard (bladeScopes)
open Utils

/-- What the node reads: the spec, the metadata of the target, and the rest of
the state and the settings the commands are built from. -/
structure DirectInput where
  spec : FaultSpec
  metadata : TargetMetadata := {}
  kubeconfig : String := ""
  paths : Paths := {}
  db : CharDb := asciiDb

structure DirectTools where
  preflight : Except PyError CommandResult := .ok {}
  /-- The texts of `blade_create` and of its retry without a namespace. -/
  created : String := ""
  recreated : String := ""
  /-- The list of tool pods and the `exec` of the fallback. -/
  toolPods : Except PyError CommandResult := .ok {}
  exec : Except PyError CommandResult := .ok {}
  /-- The checks of the disk after the injection. -/
  fillPods : Except PyError CommandResult := .ok {}
  fillFile : Except PyError CommandResult := .ok {}
  fillUsage : Except PyError CommandResult := .ok {}
  burnProbe : Except PyError CommandResult := .ok {}
  burnNode : Except PyError CommandResult := .ok {}
  burnPods : Except PyError CommandResult := .ok {}
  burnBefore : Except PyError CommandResult := .ok {}
  burnAfter : Except PyError CommandResult := .ok {}

/-! ## Processes -/

inductive Purpose where
  | inspect
  | create
  | createInPod
  deriving DecidableEq

structure Launch where
  purpose : Purpose
  argv : List String
  deriving DecidableEq

/-- A command in a `try`: nothing is returned if it raises or the guard refuses. -/
def launch (purpose : Purpose) (cmd : List String) (answer : Except PyError CommandResult) :
    Traced Launch (Option CommandResult) :=
  ((runCommand cmd answer).mapStarted (Launch.mk purpose)).attempt

/-! ## Parameters -/

def requiredParams : List ((String × String × String) × (List (String × String) × List String)) :=
  [(("pod", "mem", "load"), ([("mode", "ram")], [])),
   (("node", "mem", "load"), ([("mode", "ram")], ["include-buffer-cache", "avoid-being-killed"])),
   (("container", "mem", "load"), ([("mode", "ram")], [])),
   (("pod", "disk", "burn"), ([], ["read", "write"])),
   (("node", "disk", "burn"), ([], ["read", "write"]))]

def autoCompleteParams (scope target action : String) (params : Dict String)
    (paramsFlags : List String) : Dict String × List String :=
  match requiredParams.lookup (scope, target, action) with
  | none => (params, paramsFlags)
  | some (requiredKv, requiredBare) =>
    (requiredKv.foldl (fun ps e => if (ps.get? e.1).isSome then ps else ps.set e.1 e.2) params,
     requiredBare.foldl (fun fs f => if fs.contains f then fs else fs ++ [f]) paramsFlags)

def boostedSize (sizeCeiling : Option Int) : Int :=
  match sizeCeiling with
  | none => burnDefaultSize
  | some ceiling => min burnDefaultSize ceiling

def autoBoostBurnParams (params : Dict String) (sizeCeiling : Option Int) : Dict String :=
  if (params.get? "size").isSome then params
  else params.set "size" (toString (boostedSize sizeCeiling))

def asksSafeSize (scope target action : String) (m : TargetMetadata) : Bool :=
  (lookupAdaptations scope target action m .paramOverride).any fun rule => rule.action.sizeAuto

/-- The ceiling of the burn size. The branch that fetches a missing usage reads
the names off `target_info`, a name the function never defines. -/
def burnSizeCeiling (scope target action : String) (m : TargetMetadata) :
    Except PyError (Option Int) :=
  if asksSafeSize scope target action m then
    match m.podMemoryUsageMb with
    | none => .error ⟨.nameError, "name 'target_info' is not defined"⟩
    | some usage => .ok (some (computeSafeBurnSize m.podMemoryLimitMb (some usage)))
  else .ok none

def isDiskBurn (spec : FaultSpec) : Bool :=
  spec.bladeTarget = "disk" && spec.bladeAction = "burn"

variable (x : DirectInput)

def adaptParams : Except PyError (Dict String × List String) :=
  let spec := x.spec
  let completed := autoCompleteParams spec.scope spec.bladeTarget spec.bladeAction spec.params
    spec.paramsFlags
  if isDiskBurn spec then do
    let ceiling ← burnSizeCeiling spec.scope spec.bladeTarget spec.bladeAction x.metadata
    return (autoBoostBurnParams completed.1 ceiling, completed.2)
  else return completed

/-! ## The arguments of `blade_create` -/

def flagsParts (params : Dict String) (paramsFlags : List String) (duration : Int) :
    List String :=
  let hasTimeout := (params.get? "timeout").isSome
  let params := if hasTimeout then params.set "timeout" (toString duration) else params
  (params.entries.flatMap fun e => ["--" ++ e.1, e.2]) ++ paramsFlags.map ("--" ++ ·) ++
    (if hasTimeout then [] else ["--timeout", toString duration])

def namesText (spec : FaultSpec) : String := join "," spec.names

def labelsText (spec : FaultSpec) : String :=
  join "," (spec.labels.entries.map fun e => e.1 ++ "=" ++ e.2)

def buildBladeCreateArgs (params : Dict String) (paramsFlags : List String) : BladeArgs where
  scope := x.spec.scope
  target := x.spec.bladeTarget
  action := x.spec.bladeAction
  ns := x.spec.ns
  names := namesText x.spec
  labels := labelsText x.spec
  kubeconfig := x.kubeconfig
  flags := join " " (flagsParts params paramsFlags
    (ensureMinDuration x.db (some (toString x.spec.durationSeconds)) x.spec.scope
      x.spec.bladeTarget x.spec.bladeAction))

/-! ## The pre-flight check -/

def missingNodes (names kubectlOutput : String) : List String :=
  (csv names).filter fun n =>
    !((discoverToolPodsWithNodes kubectlOutput).map Prod.snd).contains n

def preflightCheck (answer : Except PyError CommandResult) : Traced Launch (List String) :=
  if x.spec.scope = "node" ∧ namesText x.spec ≠ "" then do
    let answer ← launch .inspect (kubectlCommand x.paths x.kubeconfig listToolPods) answer
    return answer.elim [] fun r => missingNodes (namesText x.spec) r.stdout
  else return []

/-! ## `blade_create` on the host -/

def parseBladeUidFromContent (db : CharDb) (content : String) : Except PyError String :=
  (extractBladeUid db content).map (·.getD "")

/-- A call of the tool `blade_create`, with the text it returns. Its schema only
knows the three scopes. -/
def bladeCreateCall (args : BladeArgs) (text : String) : Traced Launch String :=
  if args.scope ∈ bladeScopes then do
    let cmd ← .ofExcept (bladeCreate x.db x.paths.bladePath x.paths.kubeconfigPath args)
    -- an exception of the process becomes a text as well
    let _ ← launch .create cmd (.ok {})
    return text
  else .ofExcept (.error ⟨.validationError, "Input should be 'pod', 'container' or 'node'"⟩)

def namespaceUnknown (output : String) : Bool :=
  hasSub "unknown flag" output && hasSub "--namespace" output

variable (tools : DirectTools)

def createOnHost (args : BladeArgs) :
    Traced Launch (String × String) := do
  let output ← bladeCreateCall x args tools.created
  let uid ← .ofExcept (parseBladeUidFromContent x.db output)
  if uid = "" && namespaceUnknown output then
    let output ← bladeCreateCall x { args with ns := "" } tools.recreated
    let uid ← .ofExcept (parseBladeUidFromContent x.db output)
    return (uid, output)
  else return (uid, output)

/-! ## The fallback inside a tool pod -/

def execFront (args : BladeArgs) : List String :=
  ["blade", "create", "k8s", args.scope ++ "-" ++ args.target, args.action] ++
  (if args.ns ≠ "" ∧ args.scope ≠ "node" then ["--namespace", args.ns] else []) ++
  (if args.names ≠ "" then ["--names", args.names] else []) ++
  (if args.labels ≠ "" ∧ args.scope ≠ "node" then ["--labels", args.labels] else [])

def execParts (db : CharDb) (args : BladeArgs) : Except PyError (List String) :=
  let parts := execFront args ++ Shlex.splitArgs args.flags
  if "--timeout" ∉ parts then
    .ok (parts ++
      ["--timeout", toString (ensureMinDuration db none args.scope args.target args.action)])
  else raiseTimeout db args.scope args.target args.action parts

def buildBladeCommandForExec (db : CharDb) (args : BladeArgs) : Except PyError String :=
  (execParts db args).map (join " ")

/-- The tool pod the fallback runs in: for a node one that is on it, if any. -/
def fallbackPod (args : BladeArgs) (kubectlOutput : String) : Option String :=
  (discoverToolPods kubectlOutput).head?.map fun pod =>
    if args.scope = "node" ∧ args.names ≠ "" then
      (toolPodOn (csv args.names) kubectlOutput).getD pod
    else pod

def execTokens (db : CharDb) (args : BladeArgs) (pod bladeCmd : String) : List String :=
  let vArgs := pod ++ " -n chaosblade -- " ++ bladeCmd
  Shlex.splitArgs vArgs ++
    (if (Re.search (bladeCreatePattern db) none vArgs.toList).isSome &&
        !hasSub "--timeout" vArgs then
      ["--timeout", toString (ensureMinDuration db none args.scope args.target args.action)]
    else [])

structure Fallback where
  uid : String
  pod : String
  output : String
  deriving DecidableEq

def readFallback (db : CharDb) (pod : String) (r : CommandResult) :
    Except PyError (Option Fallback) := do
  let uid ← parseBladeUidFromContent db r.stdout
  if uid ≠ "" then return some ⟨uid, pod, r.stdout⟩
  else
    let uid ← parseBladeUidFromContent db r.stderr
    if uid ≠ "" then return some ⟨uid, pod, r.stderr⟩ else return none

def readAnswer (db : CharDb) (pod : String) (answer : Option CommandResult) :
    Except PyError (Option Fallback) :=
  answer.elim (.ok none) (readFallback db pod)

def execFallback (args : BladeArgs) (pod : String)
    (answer : Except PyError CommandResult) : Traced Launch (Option Fallback) := do
  let bladeCmd ← .ofExcept (buildBladeCommandForExec x.db args)
  let cmd := kubectlCommand x.paths x.kubeconfig ("exec" :: execTokens x.db args pod bladeCmd)
  let answer ← launch .createInPod cmd answer
  .ofExcept (readAnswer x.db pod answer)

def tryKubectlExecFallback (args : BladeArgs) :
    Traced Launch (Option Fallback) := do
  let listed ← launch .inspect (kubectlCommand x.paths x.kubeconfig listToolPods) tools.toolPods
  let pod := (listed.filter fun r => r.exitCode = 0).bind fun r => fallbackPod args r.stdout
  pod.elim (return none) fun pod => execFallback x args pod tools.exec

/-! ## The disk after the injection -/

structure FillCheck where
  fillFileFound : Bool
  targetPod : String
  node : String
  lsOutput : String
  dfOutput : String
  bladeUid : String
  deriving DecidableEq

def execText (vArgs : String) : List String :=
  kubectlCommand x.paths x.kubeconfig ("exec" :: Shlex.splitArgs vArgs)

def checkFillIn (fillPath bladeUid pod : String) :
    Traced Launch (Option FillCheck) := do
  let ls ← launch .inspect
    (execText x (pod ++ " -n " ++ Tools.toolPodNamespace ++ " -- ls -lh " ++ fillPath ++ "/"))
    tools.fillFile
  ls.elim (return none) fun ls => do
    let df ← launch .inspect
      (execText x (pod ++ " -n " ++ Tools.toolPodNamespace ++ " -- df -h " ++
          fillPath)) tools.fillUsage
    return some
      { fillFileFound := hasSub "chaos_fill" ls.stdout || hasSub "chaosblade" ls.stdout
        targetPod := pod, node := namesText x.spec, lsOutput := cut 500 ls.stdout
        dfOutput := df.elim "" fun r => cut 500 r.stdout, bladeUid }

def verifyDiskFillEffect (params : Dict String)
    (bladeUid : String) : Traced Launch (Option FillCheck) :=
  let node := namesText x.spec
  if x.spec.scope = "node" ∧ x.spec.bladeTarget = "disk" ∧ x.spec.bladeAction = "fill" ∧
      node ≠ "" then do
    let listed ← launch .inspect (kubectlCommand x.paths x.kubeconfig listToolPods) tools.fillPods
    (listed.bind fun r => toolPodOn [node] r.stdout).elim (return none)
      (checkFillIn x tools ((params.get? "path").getD "/tmp") bladeUid)
  else return none

def diskPartition (db : CharDb) : Regex :=
  .all [.alt (.lit "vd") (.alt (.lit "sd") (.lit "xvd")),
    .oneOrMore (.char fun c => !db.isDigit c), .oneOrMore (.digit db), .lineEnd]

def nvmePartition (db : CharDb) : Regex :=
  .all [.lit "nvme", .oneOrMore (.digit db), .lit "n", .oneOrMore (.digit db), .lit "p",
    .oneOrMore (.digit db), .lineEnd]

def matchesAtStart (r : Regex) (text : String) : Bool :=
  (r.ends ⟨[], text.toList, []⟩) matches _ :: _

def parseDiskstats (db : CharDb) (text : String) : Dict Int :=
  (splitlines (strip text)).foldl (fun stats line =>
    match splitWs line with
    | _ :: _ :: name :: _ :: _ :: _ :: _ :: _ :: _ :: written :: _ =>
      if matchesAtStart (diskPartition db) name || matchesAtStart (nvmePartition db) name then
        stats
      else match pyInt db written with
        | some n => stats.set name n
        | none => stats
    | _ => stats) ∅

/-- The least number of sectors whose rate is no `float`: the quotient by 2048
rounds to 2 ^ 1024. -/
def rateLimit : Int := (2048 * (Nat.pow 2 1024 - Nat.pow 2 970) : Nat)

/-- The sectors written between two samples, by device; a counter that went back
is skipped. The division of the rate can overflow. -/
def sectorsWritten (before : Dict Int) : List (String × Int) → Except PyError (List (String × Int))
  | [] => .ok []
  | (name, n) :: rest =>
    match before.get? name with
    | none => sectorsWritten before rest
    | some m =>
      if n - m < 0 then sectorsWritten before rest
      else if rateLimit ≤ n - m then
        .error ⟨.overflowError, "integer division result too large for a float"⟩
      else (sectorsWritten before rest).map ((name, n - m) :: ·)

/-- The result of the burn check. Of the active devices only the names are kept,
in the order of the sample. -/
structure BurnCheck where
  burnIoDetected : Bool
  activePartitions : List String
  targetPod : String
  node : String
  bladeUid : String
  deriving DecidableEq

/-- Rates over 10 MB/s and 0.1 MB/s in five seconds, in sectors of 512 bytes. -/
def burnSectors : Int := 102400

def activeSectors : Int := 1024

def toolPodPlace (node : String) :
    Traced Launch (Option (String × String × String)) := do
  let listed ← launch .inspect (kubectlCommand x.paths x.kubeconfig listToolPods) tools.burnPods
  return (listed.bind fun r => toolPodOn [node] r.stdout).map (·, Tools.toolPodNamespace, node)

def nodeOfPod (found : Option CommandResult) : String :=
  found.elim "" fun r => if r.exitCode = 0 then strip r.stdout else ""

def podPlace (pod ns : String) :
    Traced Launch (Option (String × String × String)) := do
  let probe ← launch .inspect (execText x (pod ++ " -n " ++ ns ++ " -- cat /proc/diskstats"))
    tools.burnProbe
  if probe.any (fun r => r.exitCode = 0 && r.stdout ≠ "") && pod ≠ "" then
    return some (pod, ns, "")
  else
    let found ← launch .inspect (kubectlCommand x.paths x.kubeconfig
      ["get", "pod", pod, "-n", ns, "-o", "jsonpath=\x7b.spec.nodeName\x7d"]) tools.burnNode
    if nodeOfPod found = "" then return none else toolPodPlace x tools (nodeOfPod found)

def burnPlace : Traced Launch (Option (String × String × String)) :=
  let names := namesText x.spec
  if x.spec.scope = "node" then toolPodPlace x tools names
  else if x.spec.scope = "pod" then
    podPlace x tools (strip ((splitChar ',' names).headD ""))
      (if x.spec.ns = "" then "default" else x.spec.ns)
  else return none

def burnSamples (pod ns : String) :
    Traced Launch (Option (String × String)) := do
  let cmd := execText x (pod ++ " -n " ++ ns ++ " -- cat /proc/diskstats")
  let before ← launch .inspect cmd tools.burnBefore
  before.elim (return none) fun before => do
    let after ← launch .inspect cmd tools.burnAfter
    return after.map fun after => (before.stdout, after.stdout)

def compareSamples (db : CharDb) (pod node bladeUid before after : String) :
    Except PyError BurnCheck := do
  let written ← sectorsWritten (parseDiskstats db before) (parseDiskstats db after).entries
  return {
    burnIoDetected := written.any fun w => burnSectors < w.2
    activePartitions := (written.filter fun w => activeSectors < w.2).map Prod.fst
    targetPod := pod, node, bladeUid }

def checkBurnAt (bladeUid : String)
    (place : String × String × String) : Traced Launch (Option BurnCheck) := do
  let samples ← burnSamples x tools place.1 place.2.1
  samples.elim (return none) fun s =>
    .ofExcept ((compareSamples x.db place.1 place.2.2 bladeUid s.1 s.2).map some)

def verifyDiskBurnEffect (bladeUid : String) : Traced Launch (Option BurnCheck) :=
  if isDiskBurn x.spec ∧ namesText x.spec ≠ "" then do
    let place ← burnPlace x tools
    place.elim (return none) (checkBurnAt x tools bladeUid)
  else return none

/-! ## The node -/

inductive DirectOutcome where
  /-- No tool pod on the target nodes. -/
  | blocked (missing : List String)
  | created (uid output : String) (fill : Option FillCheck) (burn : Option BurnCheck)
  | createdInPod (output : String) (fallback : Fallback) (fill : Option FillCheck)
      (burn : Option BurnCheck)
  | failed (output : String)
  deriving DecidableEq

def DirectOutcome.bladeUid? : DirectOutcome → Option String
  | .created uid _ _ _ => some uid
  | .createdInPod _ fallback _ _ => some fallback.uid
  | _ => none

def DirectOutcome.failure? : DirectOutcome → Option FailureCategory
  | .blocked _ => some .prerequisiteFailed
  | .failed _ => some .executionFailed
  | _ => none

def checkDisk (params : Dict String) (bladeUid : String) :
    Traced Launch (Option FillCheck × Option BurnCheck) := do
  let fill ← verifyDiskFillEffect x tools params bladeUid
  let burn ← verifyDiskBurnEffect x tools bladeUid
  return (fill, burn)

def inject (params : Dict String) (args : BladeArgs) :
    Traced Launch DirectOutcome := do
  let (uid, output) ← createOnHost x tools args
  if uid ≠ "" then
    let (fill, burn) ← checkDisk x tools params uid
    return .created uid output fill burn
  else
    let fallback ← tryKubectlExecFallback x tools args
    fallback.elim (return .failed output) fun fallback => do
      let (fill, burn) ← checkDisk x tools params fallback.uid
      return .createdInPod output fallback fill burn

def directExecute : Traced Launch DirectOutcome := do
  let (params, paramsFlags) ← .ofExcept (adaptParams x)
  let missing ← preflightCheck x tools.preflight
  if missing ≠ [] then return .blocked missing
  else inject x tools params (buildBladeCreateArgs x params paramsFlags)

end ChaosBlade.Nodes.Direct
