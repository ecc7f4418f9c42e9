/-
TargetGuard.Guard: `target_guard/guard.py`: compare what a
call would do with what was approved.

The source is one function with numbered steps that return at the first
hit. Each step that can reject is a definition of its own here, giving
the decision it returns or `none` to go on, and `targetDriftGuard` runs
them in the source's order.
-/
import ChaosBlade.TargetGuard.Classifier

namespace ChaosBlade.TargetGuard

open Py

def clusterScopedKinds : List String :=
  ["node", "pv", "namespace", "clusterrole", "clusterrolebinding", "storageclass"]

def ownerScopes : List (String × List String) :=
  [("pod", ["deployment", "daemonset", "statefulset", "replicaset", "job", "cronjob"]),
   ("deployment", ["replicaset"])]

def orDefault (ns : String) : String := strip (if ns = "" then "default" else ns)

/-! ## Texts -/

def listText (xs : List String) : String := (Json.arr (xs.map .str)).repr

def labelsText (d : Labels) : String :=
  (Json.obj (d.entries.map fun e => (e.1, Json.str e.2))).repr

variable (approved : ApprovedTarget)

def buildSuggestion : String :=
  "approved target: " ++ join ", "
    (["scope=" ++ approved.scope,
      "ns=" ++ (if approved.ns = "" then "<cluster>" else approved.ns)] ++
     (if approved.names = [] then [] else ["names=" ++ listText approved.names]) ++
     (if approved.labels.isEmpty then [] else ["labels=" ++ labelsText approved.labels]) ++
     (if approved.bladeTarget = "" then [] else ["blade_target=" ++ approved.bladeTarget]) ++
     (if approved.isNamespaceWide then ["namespace-wide=true"] else []))

def selectorParts (side : String) (names : List String) (labels : Labels) : List String :=
  let parts :=
    (if names = [] then [] else [side ++ ".names=" ++ listText names]) ++
    (if labels.isEmpty then [] else [side ++ ".labels=" ++ labelsText labels])
  if parts = [] then [side ++ ".<no-selector>"] else parts

variable (effective : EffectiveTarget)

def formatNameDriftReason : String :=
  "resource selection drift: " ++
    join ", " (selectorParts "approved" approved.names approved.labels) ++ " vs " ++
    join ", " (selectorParts "effective" effective.names effective.labels)

/-! ## Selectors -/

def checkNamesSubset : Bool :=
  !approved.names.isEmpty && !effective.names.isEmpty &&
    effective.names.all approved.names.contains

def checkLabelsSuperset : Bool :=
  !approved.labels.isEmpty && !effective.labels.isEmpty &&
    approved.labels.entries.all fun e => effective.labels.get? e.1 == some e.2

/-! ## Steps -/

/-- How the call's kind relates to the approved kind. -/
inductive ScopeRelation where
  | same
  | owner
  | secondary
  | drift
  deriving DecidableEq

def scopeRelation : ScopeRelation :=
  let approvedScope := canonicaliseKind approved.scope
  let effectiveScope := canonicaliseKind effective.scope
  if approvedScope = effectiveScope then .same
  else if ((ownerScopes.lookup approvedScope).getD []).contains effectiveScope then .owner
  else if approved.secondaryScopes.contains effectiveScope then .secondary
  else .drift

def rejectDrift (approved : ApprovedTarget) (effective : EffectiveTarget) (reason : String) :
    GuardDecision :=
  { verdict := .rejectDrift, reason, effective := some effective
    suggestion := buildSuggestion approved }

def primaryNamespaceDrift : Option GuardDecision :=
  if clusterScopedKinds.contains (canonicaliseKind effective.scope) || effective.isTier1Exec then
    none
  else
    let approvedNs := orDefault approved.ns
    let effectiveNs := orDefault effective.ns
    if approvedNs = effectiveNs then none
    else some (rejectDrift approved effective
      ("namespace drift: approved=" ++ approvedNs ++ " effective=" ++ effectiveNs))

def secondaryNamespaceDrift : Option GuardDecision :=
  let effectiveScope := canonicaliseKind effective.scope
  if clusterScopedKinds.contains effectiveScope then
    -- a blade experiment on a cluster-scoped kind is an escalation
    if effective.bladeTarget = "" then none
    else some (rejectDrift approved effective
      ("scope drift: blade " ++ effective.bladeTarget ++ " targets " ++ effectiveScope ++
        " under " ++ canonicaliseKind approved.scope ++ " approval"))
  else
    let checkNs := orDefault approved.secondaryNamespace
    let effectiveNs := orDefault effective.ns
    if checkNs = effectiveNs || toolPodNamespaces.contains effectiveNs then none
    else some (rejectDrift approved effective
      ("secondary namespace drift: approved=" ++ checkNs ++ " effective=" ++ effectiveNs))

def ownerDrift : Option GuardDecision :=
  if !approved.ownerNames.isEmpty && !effective.names.isEmpty &&
      !effective.names.all approved.ownerNames.contains then
    some (rejectDrift approved effective
      ("owner drift: effective names " ++ listText effective.names ++ " not in approved owners " ++
        listText approved.ownerNames))
  else none

def selectionDrift : Option GuardDecision :=
  if checkNamesSubset approved effective || checkLabelsSuperset approved effective then none
  else some (rejectDrift approved effective (formatNameDriftReason approved effective))

def faultTypeDrift : Option GuardDecision :=
  let a := lower approved.bladeTarget
  let e := lower effective.bladeTarget
  if approved.lockFaultType && a != "" && e != "" && a != e then
    some { verdict := .rejectDrift
           reason := "blade_target drift: approved=" ++ a ++ " effective=" ++ e
           effective := some effective
           suggestion := "approved fault type is " ++ a ++ "; trigger replan to switch types" }
  else none

def targetDrift : Option GuardDecision :=
  match scopeRelation approved effective with
  | .drift => some (rejectDrift approved effective
      ("scope drift: approved=" ++ canonicaliseKind approved.scope ++ " effective=" ++
        canonicaliseKind effective.scope))
  | .secondary =>
    (secondaryNamespaceDrift approved effective).or (faultTypeDrift approved effective)
  | .owner =>
    (primaryNamespaceDrift approved effective).or
      ((if approved.isNamespaceWide then none else ownerDrift approved effective).or
        (faultTypeDrift approved effective))
  | .same =>
    (primaryNamespaceDrift approved effective).or
      ((if approved.isNamespaceWide then none else selectionDrift approved effective).or
        (faultTypeDrift approved effective))

def targetDriftGuard (approved : Option ApprovedTarget) : GuardDecision :=
  if effective.scope = scopeReadonly then
    { verdict := .readonly, reason := "tool is read-only", effective := some effective }
  else if effective.scope = scopeBanned then
    { verdict := .rejectBanned, reason := "tool is in the banned list"
      effective := some effective }
  else if effective.scope = scopeUnknown then
    { verdict := .rejectUnknown
      reason := "could not classify tool_call: " ++ effective.rawCommand
      effective := some effective }
  else
    match approved with
    | none =>
      { verdict := .rejectUnknown, reason := "no approved target on record"
        effective := some effective }
    | some approved =>
      if effective.confidence = .unknown then
        { verdict := .rejectUnknown
          reason := "classifier confidence=unknown for " ++ effective.rawCommand
          effective := some effective }
      else
        (targetDrift approved effective).getD
          { verdict := .allow, reason := "effective target matches approved"
            effective := some effective }

end ChaosBlade.TargetGuard
