/-
TargetGuard.Freeze: `target_guard/freeze.py`: the dictionary
form of an approval.

`freezeApprovedTarget` builds the dictionary kept in the agent state,
`approvedFromDict` reads it back for the guard. The dictionary is JSON
(the checkpointer stores it), so both sides are written over `Json`
fields, with the coercions and the exceptions of the source.
-/
import ChaosBlade.Agent.State
import ChaosBlade.TargetGuard.Guard

namespace ChaosBlade.TargetGuard

open Py
open Agent (FaultSpec)

def strDict (d : Labels) : Json := .obj (d.entries.map fun e => (e.1, .str e.2))

/-! ## Freezing -/

def workloadScopes : List String := ["pod", "deployment", "statefulset", "daemonset"]

def nodeSecondaryScopes : List String := ["pod", "deployment", "daemonset", "statefulset"]

def workloadSecondaryScopes : List String :=
  ["pvc", "persistentvolumeclaim", "pv", "persistentvolume", "configmap", "secret", "pod", "node"]

def secondaryScopesOf (scope : String) : List String :=
  if clusterScopedKinds.contains scope then
    if scope = "node" then nodeSecondaryScopes else []
  else if workloadScopes.contains scope then workloadSecondaryScopes
  else []

def frozenScope (raw : String) : String :=
  let scope := lower (strip raw)
  if scope = "container" then "pod" else scope

def frozenLabels (labels : Option Json) : Labels :=
  match labels with
  | some (.obj fs) => Dict.ofPairs (fs.map fun f => (f.1, f.2.toStr))
  | _ => ∅

def freezeApprovedTarget (target params : List (String × Json))
    (bladeScope bladeTarget bladeAction : String) (lockFaultType : Bool)
    (ownerNames : List String) : Except PyError (Option (List (String × Json))) := do
  let scope := frozenScope
    (firstTruthy [Json.get? target "resource_type", Json.get? params "scope",
      some (.str bladeScope)])
  if scope = "" then
    return none
  let given := strip (Json.strOrEmpty (Json.get? target "namespace"))
  let isCluster := clusterScopedKinds.contains scope
  let ns := if given = "" ∧ isCluster = false then "default" else given
  let names ← bladeNames (Json.get? target "names")
  let labels := frozenLabels (Json.get? target "labels")
  let bt := lower (strip (firstTruthy [some (.str bladeTarget), Json.get? params "target"]))
  let ba := lower (strip (firstTruthy [some (.str bladeAction), Json.get? params "action"]))
  return some
    [("scope", .str scope),
     -- cluster-scoped resources carry no namespace
     ("namespace", .str (if isCluster then "" else ns)),
     ("names", strList names),
     ("labels", strDict labels),
     ("is_namespace_wide", .bool (names.isEmpty && labels.isEmpty)),
     ("blade_target", .str bt),
     ("blade_action", .str ba),
     ("lock_fault_type", .bool lockFaultType),
     ("owner_names", strList ownerNames),
     ("secondary_scopes", strList (secondaryScopesOf scope)),
     ("secondary_namespace", .str (if isCluster || workloadScopes.contains scope then ns else ""))]

def freezeSpec (spec : FaultSpec) (ownerNames : List String) :
    Except PyError (Option (List (String × Json))) :=
  freezeApprovedTarget
    [("namespace", .str spec.ns), ("names", strList spec.names),
     ("labels", strDict spec.labels), ("resource_type", .str spec.scope)]
    (spec.params.entries.map fun e => (e.1, .str e.2))
    spec.scope spec.bladeTarget spec.bladeAction true ownerNames

/-! ## Reading back -/

def iterStrings (v : Option Json) : Except PyError (List String) :=
  match v with
  | none => .ok []
  | some v =>
    if !v.truthy then .ok []
    else
      match v with
      | .str s => .ok (s.toList.map fun c => String.ofList [c])
      | .arr xs => .ok (xs.map Json.toStr)
      | .obj fs => .ok (fs.map Prod.fst)
      | v => .error ⟨.typeError, "'" ++ v.typeName ++ "' object is not iterable"⟩

def iterLabels (v : Option Json) : Except PyError Labels :=
  match v with
  | none => .ok ∅
  | some v =>
    if !v.truthy then .ok ∅
    else
      match v with
      | .obj fs => .ok (Dict.ofPairs (fs.map fun f => (f.1, f.2.toStr)))
      | v => .error ⟨.attributeError, "'" ++ v.typeName ++ "' object has no attribute 'items'"⟩

def boolField (v : Option Json) (dflt : Bool) : Bool := (v.map Json.truthy).getD dflt

def approvedFromDict (d : Option Json) : Except PyError (Option ApprovedTarget) :=
  match d with
  | some (.obj fs) => do
    let scope := strip (Json.strOrEmpty (Json.get? fs "scope"))
    if scope = "" then
      return none
    let names ← iterStrings (Json.get? fs "names")
    let labels ← iterLabels (Json.get? fs "labels")
    let ownerNames ← iterStrings (Json.get? fs "owner_names")
    let secondaryScopes ← iterStrings (Json.get? fs "secondary_scopes")
    return some {
      scope
      ns := Json.strOrEmpty (Json.get? fs "namespace")
      names, labels
      isNamespaceWide := boolField (Json.get? fs "is_namespace_wide") false
      bladeTarget := Json.strOrEmpty (Json.get? fs "blade_target")
      bladeAction := Json.strOrEmpty (Json.get? fs "blade_action")
      lockFaultType := boolField (Json.get? fs "lock_fault_type") true
      ownerNames, secondaryScopes
      secondaryNamespace := Json.strOrEmpty (Json.get? fs "secondary_namespace") }
  | _ => .ok none

end ChaosBlade.TargetGuard
