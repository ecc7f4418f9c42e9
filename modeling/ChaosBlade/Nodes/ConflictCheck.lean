/-
Nodes.ConflictCheck: `agent/nodes/_conflict_check.py`: the
active experiments a request may collide with.

`blade status` is asked in the first tool pod that runs. An experiment
that has not ended is kept if it passes the filters of the request, first
the namespace and then the labels, and only a kept one is compared with
the target. The values compared are searched for in the text of its
command line.

  * A value in the list that raises ends the loop, and the experiments
    read so far are returned; so is nothing at all if a process fails.
  * The names of the flags stand in the pattern as they are; the three
    that are used hold no character with a meaning there.
-/
import ChaosBlade.Agent.State
import ChaosBlade.Tools.BladeUid
import ChaosBlade.Tools.ToolPods

namespace ChaosBlade.Nodes

open Py Agent Process

structure ConflictInfo where
  uid : Json
  flag : String := ""
  ns : String := ""
  names : String := ""
  labels : String := ""
  scopeTargetAction : String := ""
  sameActionAsRequest : Bool := false
  overlapsTarget : Bool := false
  overlapReason : String := ""
  deriving DecidableEq

/-- The arguments of `check_blade_conflicts` that say what is injected. -/
structure ConflictRequest where
  ns : String := ""
  labels : String := ""
  targetNames : String := ""
  requestScopeTargetAction : String := ""

def conflictRequest (spec : FaultSpec) : ConflictRequest where
  ns := spec.ns
  labels := join "," (spec.labels.entries.map fun e => e.1 ++ "=" ++ e.2)
  targetNames := join "," spec.names
  requestScopeTargetAction :=
    if spec.scope ≠ "" ∧ spec.bladeTarget ≠ "" ∧ spec.bladeAction ≠ "" then
      spec.scope ++ "-" ++ spec.bladeTarget ++ "-" ++ spec.bladeAction
    else ""

/-! ## The command line of an experiment -/

def nonBlanks (cs : List Char) : Option (List Char × List Char) := Re.run (fun c => !isSpace c) cs

def paramAt (bare : String) (cs : List Char) : Option (List Char) :=
  let joined := (Re.lit ("--".toList ++ bare.toList ++ ['=']) cs).bind nonBlanks
  let apart := ((Re.lit ("--".toList ++ bare.toList) cs).bind Re.spaces).bind nonBlanks
  (joined.or apart).map Prod.fst

def extractParamFromFlag (flag paramName : String) : String :=
  let bare := lstripChars "-" paramName
  ((Re.search (fun _ => paramAt bare) none flag.toList).map String.ofList).getD ""

def twoWords (cs : List Char) : Option (String × String) := do
  let (first, cs) ← nonBlanks cs
  let cs ← Re.spaces cs
  let (second, _) ← nonBlanks cs
  return (String.ofList first, String.ofList second)

def k8sWords (cs : List Char) : Option (String × String) :=
  ((Re.lit "k8s".toList cs).bind Re.spaces).bind twoWords

def parseScopeTargetActionFromFlag (flag : String) : String :=
  let hostWords := (twoWords (strip flag).toList).filter fun w => !startsWith w.1 "--"
  (((Re.search (fun _ => k8sWords) none flag.toList).or hostWords).map fun w =>
    w.1 ++ "-" ++ w.2).getD ""

/-! ## Overlaps -/

def shared (a b : String) : List String := (csv a).filter ((csv b).contains ·)

def textLe : List Char → List Char → Bool
  | [], _ => true
  | _ :: _, [] => false
  | c :: cs, d :: ds => c.toNat < d.toNat || (c.toNat == d.toNat && textLe cs ds)

def sharedText (a b : String) : String :=
  join "," ((shared a b).dedup.mergeSort fun x y => textLe x.toList y.toList)

variable (req : ConflictRequest)

def analyzeOverlap (conflict : ConflictInfo) : ConflictInfo :=
  let sta := parseScopeTargetActionFromFlag conflict.flag
  let nsMatch := conflict.ns ≠ "" && req.ns ≠ "" && conflict.ns = req.ns
  let sameTarget :=
    if nsMatch && conflict.names ≠ "" && req.targetNames ≠ "" &&
        !(shared conflict.names req.targetNames).isEmpty then
      ["same target: ns/" ++ conflict.ns ++ " name/" ++ sharedText conflict.names req.targetNames]
    else []
  let sameLabels :=
    if nsMatch && conflict.labels ≠ "" && req.labels ≠ "" &&
        !(shared conflict.labels req.labels).isEmpty then
      ["same labels: ns/" ++ conflict.ns ++ " labels/" ++ sharedText conflict.labels req.labels]
    else []
  let reasons := sameTarget ++ sameLabels
  { conflict with
    scopeTargetAction := if sta = "" then conflict.scopeTargetAction else sta
    sameActionAsRequest := conflict.sameActionAsRequest ||
      (sta ≠ "" && req.requestScopeTargetAction ≠ "" && sta = req.requestScopeTargetAction)
    overlapsTarget := conflict.overlapsTarget || !reasons.isEmpty
    overlapReason := if reasons.isEmpty then conflict.overlapReason else join "; " reasons }

/-! ## The list of experiments -/

def endedStatuses : List String := ["Destroyed", "Revoked"]

def passesFilters (conflict : ConflictInfo) : Bool :=
  (req.ns = "" || conflict.ns = req.ns) &&
    (req.labels = "" || conflict.labels = req.labels ||
      !(shared req.labels conflict.labels).isEmpty)

def conflictOf (uid : Json) (flag : String) : ConflictInfo where
  uid := uid
  flag := flag
  ns := extractParamFromFlag flag "--namespace"
  names := extractParamFromFlag flag "--names"
  labels := extractParamFromFlag flag "--labels"

def readExperiment (exp : Json) : Except PyError (Option ConflictInfo) :=
  match exp with
  | .obj fs =>
    let uid := (Json.get? fs "Uid").getD (.str "")
    if !uid.truthy then .ok none
    else if endedStatuses.any fun s => (Json.get? fs "Status").any (Json.isStr · s) then .ok none
    else
      match (Json.get? fs "Flag").getD (.str "") with
      | .str flag =>
        let conflict := conflictOf uid flag
        if !passesFilters req conflict then .ok none
        else if req.targetNames ≠ "" ∨ req.labels ≠ "" then
          .ok (some (analyzeOverlap req conflict))
        else .ok (some conflict)
      | v => .error ⟨.typeError, "expected string or bytes-like object, got '" ++ v.typeName ++ "'"⟩
  | _ => .ok none

def readExperiments (req : ConflictRequest) : List Json → List ConflictInfo
  | [] => []
  | exp :: rest =>
    match readExperiment req exp with
    | .error _ => []
    | .ok none => readExperiments req rest
    | .ok (some conflict) => conflict :: readExperiments req rest

def experimentList (raw : String) : Option (List Json) :=
  if strip raw = "" then none
  else
    match jsonLoads raw with
    | .ok (.obj fs) =>
      if (Json.get? fs "success").any Json.truthy then
        match (Json.get? fs "result").getD (.arr []) with
        | .arr exps => some exps
        | _ => none
      else none
    | _ => none

/-- The call `re.findall(r"[0-9a-f]{16}", raw)`: the characters of the current match that
are left, and the text. -/
def hexUids : Nat → List Char → List String
  | _, [] => []
  | skip + 1, _ :: cs => hexUids skip cs
  | 0, c :: cs =>
    match Tools.hexes 16 (c :: cs) with
    | some (uid, _) => String.ofList uid :: hexUids 15 cs
    | none => hexUids 0 cs

/-- The experiments of a reply; without a list every uid in the text is one. -/
def conflictsOf (raw : String) : List ConflictInfo :=
  match experimentList raw with
  | some exps => readExperiments req exps
  | none => (hexUids 0 raw.toList).map fun uid => { uid := .str uid }

/-! ## The check -/

/-- What a check runs on: the answers of its two processes, and what is injected. -/
structure ConflictCheck where
  paths : Tools.Paths := {}
  kubeconfig : String
  listing : Except PyError Tools.CommandResult
  status : Except PyError Tools.CommandResult
  request : ConflictRequest

namespace ConflictCheck

variable (x : ConflictCheck)

def discoverCmd : List String :=
  ["kubectl", "get", "pods", "-n", Tools.toolPodNamespace, "-l", "app=otel-c-tool"] ++
    Tools.buildKubectlGlobalArgs x.paths x.kubeconfig

def statusCmd (pod : String) : List String :=
  ["kubectl", "exec", pod, "-n", Tools.toolPodNamespace] ++
    Tools.buildKubectlGlobalArgs x.paths x.kubeconfig ++
    ["--", "blade", "status", "--type", "create"]

def askStatus (pods : List String) : Traced (List String) (List ConflictInfo) :=
  match pods with
  | [] => pure []
  | pod :: _ => do
    let status ← Tools.runCommand (x.statusCmd pod) x.status
    pure (conflictsOf x.request status.stdout)

end ConflictCheck

/-- `check_blade_conflicts`: the details. The uids it returns with them are theirs. -/
def checkBladeConflicts (x : ConflictCheck) : Traced (List String) (List ConflictInfo) :=
  (do
    let discovered ← Tools.runCommand x.discoverCmd x.listing
    x.askStatus (Tools.discoverToolPods discovered.stdout)).recover fun _ => []

end ChaosBlade.Nodes
