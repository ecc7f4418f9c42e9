/-
TargetGuard.FreezeTheorems: the approval a fault spec stands
for, and what it allows.

`approvedOf` is the approval of a spec without the detour over the stored
dictionary; `approved_roundtrip` says that freezing a spec and reading the
dictionary back gives it.
-/
import ChaosBlade.Py.StrTheorems
import ChaosBlade.TargetGuard.ClassifierTheorems
import ChaosBlade.TargetGuard.Freeze
import ChaosBlade.TargetGuard.GuardTheorems

namespace ChaosBlade.TargetGuard

open Py Dict List Json
open Agent (FaultSpec)

/-! ## The approval of a spec -/

def orParam (spec : FaultSpec) (value key : String) : String :=
  if value = "" then (spec.params.get? key).getD "" else value

def specScope (spec : FaultSpec) : String := frozenScope (orParam spec spec.scope "scope")

def specTarget (spec : FaultSpec) : String :=
  lower (strip (orParam spec spec.bladeTarget "target"))

def specNamespace (spec : FaultSpec) : String :=
  if strip spec.ns = "" ∧ clusterScopedKinds.contains (specScope spec) = false then "default"
  else strip spec.ns

def approvedOf (spec : FaultSpec) (ownerNames : List String) : ApprovedTarget where
  scope := specScope spec
  ns := if clusterScopedKinds.contains (specScope spec) then "" else specNamespace spec
  names := spec.names.filter (· ≠ "")
  labels := spec.labels
  isNamespaceWide := (spec.names.filter (· ≠ "")).isEmpty && spec.labels.isEmpty
  bladeTarget := specTarget spec
  bladeAction := lower (strip (orParam spec spec.bladeAction "action"))
  lockFaultType := true
  ownerNames := ownerNames
  secondaryScopes := secondaryScopesOf (specScope spec)
  secondaryNamespace :=
    if clusterScopedKinds.contains (specScope spec) || workloadScopes.contains (specScope spec) then
      specNamespace spec
    else ""

section

variable (spec : FaultSpec) (ownerNames : List String)

@[simp] theorem approvedOf_scope : (approvedOf spec ownerNames).scope = specScope spec := by
  rw [approvedOf]

@[simp] theorem approvedOf_ns : (approvedOf spec ownerNames).ns =
    if clusterScopedKinds.contains (specScope spec) then "" else specNamespace spec := by
  rw [approvedOf]

@[simp] theorem approvedOf_names :
    (approvedOf spec ownerNames).names = spec.names.filter (· ≠ "") := by rw [approvedOf]

@[simp] theorem approvedOf_labels : (approvedOf spec ownerNames).labels = spec.labels := by
  rw [approvedOf]

@[simp] theorem approvedOf_isNamespaceWide : (approvedOf spec ownerNames).isNamespaceWide =
    ((spec.names.filter (· ≠ "")).isEmpty && spec.labels.isEmpty) := by rw [approvedOf]

@[simp] theorem approvedOf_bladeTarget :
    (approvedOf spec ownerNames).bladeTarget = specTarget spec := by rw [approvedOf]

@[simp] theorem approvedOf_lockFaultType : (approvedOf spec ownerNames).lockFaultType = true := by
  rw [approvedOf]

@[simp] theorem approvedOf_ownerNames : (approvedOf spec ownerNames).ownerNames = ownerNames := by
  rw [approvedOf]

@[simp] theorem approvedOf_secondaryScopes :
    (approvedOf spec ownerNames).secondaryScopes = secondaryScopesOf (specScope spec) := by
  rw [approvedOf]

@[simp] theorem approvedOf_secondaryNamespace : (approvedOf spec ownerNames).secondaryNamespace =
    if clusterScopedKinds.contains (specScope spec) || workloadScopes.contains (specScope spec) then
      specNamespace spec else "" := by rw [approvedOf]

end

/-! ## Reading the fields back -/

theorem bladeNames_strList (names : List String) :
    bladeNames (some (strList names)) = .ok (names.filter (· ≠ "")) := by
  cases names with
  | nil => rfl
  | cons n names =>
    unfold bladeNames
    unfold strList
    dsimp only
    rw [filter_map, strList_map_toStr]
    congr 1

theorem iterStrings_strList (names : List String) :
    iterStrings (some (strList names)) = .ok names := by
  cases names with
  | nil => rfl
  | cons n names => exact congrArg Except.ok (strList_map_toStr (n :: names))

variable (d : Labels)

theorem ofPairs_strDict :
    Dict.ofPairs ((d.entries.map fun e => (e.1, Json.str e.2)).map fun f => (f.1, f.2.toStr)) =
      d := by
  have hmap : (d.entries.map fun e => (e.1, str e.2)).map (fun f => (f.1, f.2.toStr)) =
      d.entries := by
    rw [map_map]
    exact map_id _
  rw [hmap, ofPairs_entries]

theorem frozenLabels_strDict : frozenLabels (some (strDict d)) = d :=
  ofPairs_strDict d

theorem iterLabels_strDict : iterLabels (some (strDict d)) = .ok d := by
  cases hd : d.entries with
  | nil =>
    rw [eq_empty_of_entries hd]
    rfl
  | cons e es =>
    have htruthy : (strDict d).truthy = true := by simp [strDict, truthy, hd]
    unfold iterLabels
    simp only [htruthy]
    exact congrArg Except.ok (ofPairs_strDict d)

theorem get?_strDict (k : String) :
    Json.get? (d.entries.map fun e => (e.1, Json.str e.2)) k = (d.get? k).map .str := by
  obtain ⟨es, hnodup⟩ := d
  show (es.map fun e => (e.1, str e.2)).lookup k = (es.lookup k).map .str
  clear hnodup
  induction es with
  | nil => rfl
  | cons e es ih =>
    rw [map_cons, lookup_cons_eq_if, lookup_cons_eq_if, ih]
    split <;> rfl

theorem firstTruthy_orParam (spec : FaultSpec) (value key : String) :
    firstTruthy [some (.str value),
      Json.get? (spec.params.entries.map fun e => (e.1, Json.str e.2)) key] =
      orParam spec value key ∧ firstTruthy [some (.str value),
      Json.get? (spec.params.entries.map fun e => (e.1, Json.str e.2)) key,
      some (.str value)] = orParam spec value key := by
  unfold orParam
  rw [get?_strDict]
  by_cases hv : value = ""
  · cases spec.params.get? key with
    | none => simp [firstTruthy]
    | some p => by_cases hp : p = "" <;> simp [firstTruthy, hv]
  · simp [firstTruthy_str_cons, hv]

/-! ## The round trip -/

def approvedFields (a : ApprovedTarget) : List (String × Json) :=
  [("scope", .str a.scope), ("namespace", .str a.ns), ("names", strList a.names),
   ("labels", strDict a.labels),
   ("is_namespace_wide", .bool a.isNamespaceWide),
   ("blade_target", .str a.bladeTarget),
   ("blade_action", .str a.bladeAction),
   ("lock_fault_type", .bool a.lockFaultType),
   ("owner_names", strList a.ownerNames),
   ("secondary_scopes", strList a.secondaryScopes),
   ("secondary_namespace", .str a.secondaryNamespace)]

theorem approvedFromDict_fields {a : ApprovedTarget} (hne : a.scope ≠ "")
    (hstrip : strip a.scope = a.scope) :
    approvedFromDict (some (.obj (approvedFields a))) = .ok (some a) := by
  have hget : ∀ k v, (approvedFields a).lookup k = v → get? (approvedFields a) k = v :=
    fun _ _ h => h
  unfold approvedFromDict
  dsimp only
  rw [hget "scope" (some (.str a.scope)) rfl, hget "names" (some (strList a.names)) rfl,
    hget "labels" (some (strDict a.labels)) rfl,
    hget "owner_names" (some (strList a.ownerNames)) rfl,
    hget "secondary_scopes" (some (strList a.secondaryScopes)) rfl,
    hget "namespace" (some (.str a.ns)) rfl,
    hget "is_namespace_wide" (some (.bool a.isNamespaceWide)) rfl,
    hget "blade_target" (some (.str a.bladeTarget)) rfl,
    hget "blade_action" (some (.str a.bladeAction)) rfl,
    hget "lock_fault_type" (some (.bool a.lockFaultType)) rfl,
    hget "secondary_namespace" (some (.str a.secondaryNamespace)) rfl]
  simp only [strOrEmpty_str, hstrip, hne, iterStrings_strList, iterLabels_strDict]
  rfl

theorem freezeSpec_eq (spec : FaultSpec) (ownerNames : List String) :
    freezeSpec spec ownerNames = .ok (if specScope spec = "" then none
      else some (approvedFields (approvedOf spec ownerNames))) := by
  have hget : ∀ k v, [("namespace", str spec.ns), ("names", strList spec.names),
      ("labels", strDict spec.labels), ("resource_type", str spec.scope)].lookup k = v →
      get? [("namespace", str spec.ns), ("names", strList spec.names),
        ("labels", strDict spec.labels), ("resource_type", str spec.scope)] k = v :=
    fun _ _ h => h
  unfold freezeSpec freezeApprovedTarget
  rw [hget "resource_type" (some (.str spec.scope)) rfl,
    hget "namespace" (some (.str spec.ns)) rfl, hget "names" (some (strList spec.names)) rfl,
    hget "labels" (some (strDict spec.labels)) rfl, (firstTruthy_orParam spec spec.scope "scope").2,
    (firstTruthy_orParam spec spec.bladeTarget "target").1,
    (firstTruthy_orParam spec spec.bladeAction "action").1, bladeNames_strList,
    frozenLabels_strDict, strOrEmpty_str]
  have hscope : frozenScope (orParam spec spec.scope "scope") = specScope spec := rfl
  rw [hscope]
  by_cases hempty : specScope spec = ""
  · rw [if_pos hempty, if_pos hempty]
    rfl
  · rw [if_neg hempty, if_neg hempty]
    simp [approvedFields, approvedOf, specTarget, specNamespace]

theorem strip_frozenScope (raw : String) : strip (frozenScope raw) = frozenScope raw := by
  unfold frozenScope
  dsimp only
  split
  · decide
  · exact strip_lower_strip _

theorem approved_roundtrip (spec : FaultSpec) (ownerNames : List String) :
    (freezeSpec spec ownerNames >>= fun frozen => approvedFromDict (frozen.map Json.obj)) =
      .ok (if specScope spec = "" then none else some (approvedOf spec ownerNames)) := by
  rw [freezeSpec_eq]
  simp only [bind, Except.bind]
  by_cases hempty : specScope spec = ""
  · rw [if_pos hempty, if_pos hempty]
    rfl
  · rw [if_neg hempty, if_neg hempty, Option.map_some, approvedFromDict_fields]
    · rw [approvedOf_scope]
      exact hempty
    · rw [approvedOf_scope]
      exact strip_frozenScope _

/-! ## The call of a plan -/

def labelString (d : Labels) : String := join "," (d.entries.map fun e => e.1 ++ "=" ++ e.2)

theorem addLabelPair_pair {k v : String} (hk : strip k = k) (heq : hasChar '=' k = false)
    (out : Labels) : addLabelPair out (k ++ "=" ++ v) = out.set k (strip v) := by
  have hpair : strip (k ++ "=" ++ v) = String.ofList
      (k.toList ++ '=' :: (String.ofList (v.toList.rdropWhile isSpace)).toList) := by
    rw [String.toList_ofList, ← strip_pair hk, String.ofList_toList]
  have hhas : hasChar '=' (strip (k ++ "=" ++ v)) = true := by
    rw [hpair]
    simp [hasChar]
  obtain ⟨hbefore, hafter⟩ :=
    before_after_pair (v := String.ofList (v.toList.rdropWhile isSpace)) heq
  have hvalue : strip (String.ofList (v.toList.rdropWhile isSpace)) = strip v := by
    unfold strip
    rw [String.toList_ofList, dropWhile_rdropWhile, rdropWhile_idempotent]
  unfold addLabelPair
  rw [if_pos hhas, hpair, hbefore, hafter, hk, hvalue]

structure Writable (d : Labels) : Prop where
  key : ∀ e ∈ d.entries, hasChar ',' e.1 = false ∧ hasChar '=' e.1 = false ∧ strip e.1 = e.1
  value : ∀ e ∈ d.entries, hasChar ',' e.2 = false

theorem parseLabelString_labelString {d : Labels} (h : Writable d) :
    parseLabelString (labelString d) = d.mapValues strip := by
  have hfold : ∀ (es : List (String × String)) (out : Labels),
      (∀ e ∈ es, e ∈ d.entries) →
      (es.map fun e => e.1 ++ "=" ++ e.2).foldl addLabelPair out =
        out.update (es.map fun e => (e.1, strip e.2)) := by
    intro es
    induction es with
    | nil => intro out _; rfl
    | cons e es ih =>
      intro out hes
      obtain ⟨he, hes'⟩ := forall_mem_cons.mp hes
      obtain ⟨-, heq, hk⟩ := h.key e he
      rw [map_cons, foldl_cons, addLabelPair_pair hk heq, ih _ hes']
      rfl
  by_cases hd : d.entries = []
  · rw [eq_empty_of_entries hd]
    decide
  · have hpieces : splitChar ',' (labelString d) = d.entries.map fun e => e.1 ++ "=" ++ e.2 := by
      have hplain : ∀ s ∈ d.entries.map (fun e => e.1 ++ "=" ++ e.2), splitChar ',' s = [s] := by
        intro s hs
        obtain ⟨e, he, rfl⟩ := mem_map.mp hs
        apply splitChar_of_not_hasChar
        have hk := (h.key e he).1
        have hv := h.value e he
        simp only [hasChar, contains_eq_mem, decide_eq_false_iff_not] at hk hv ⊢
        simp [hk, hv]
      rw [labelString, splitChar_join (by simpa using hd), flatMap_congr hplain]
      simp
    unfold parseLabelString
    rw [hpieces, hfold _ _ (fun e he => he)]
    exact ofPairs_entries (d.mapValues strip)

structure CarriesPlan (spec : FaultSpec) (args : List (String × Json)) : Prop where
  scope : Json.get? args "scope" = some (.str spec.scope)
  target : Json.get? args "target" = some (.str spec.bladeTarget)
  action : Json.get? args "action" = some (.str spec.bladeAction)
  ns : Json.get? args "namespace" = some (.str spec.ns)
  names : Json.get? args "names" = some (.str (join "," spec.names))
  labels : Json.get? args "labels" = some (.str (labelString spec.labels))

structure Plannable (spec : FaultSpec) : Prop where
  scope : spec.scope ∈ bladeScopes
  target : spec.bladeTarget ≠ ""
  names : ∀ n ∈ spec.names, n ≠ "" ∧ strip n = n
  labels : Writable spec.labels
  selector : spec.names ≠ [] ∨ spec.labels.isEmpty = false

def planVerdict (depth : Nat) (allowed : Bool) (spec : FaultSpec) (ownerNames : List String)
    (args : List (String × Json)) : Except PyError GuardVerdict := do
  let frozen ← freezeSpec spec ownerNames
  let approved ← approvedFromDict (frozen.map .obj)
  let effective ← inferEffectiveTarget depth "blade_create" (.obj args) allowed
  return (targetDriftGuard effective approved).verdict

section

variable {spec : FaultSpec} {args : List (String × Json)} (h : Plannable spec)
  (hcall : CarriesPlan spec args)
include h hcall

theorem plan_effective (depth : Nat) (allowed : Bool) :
    ∃ effective, inferEffectiveTarget depth "blade_create" (.obj args) allowed = .ok effective ∧
      effective.scope = (if spec.scope = "node" then "node" else "pod") ∧ effective.ns =
        (if strip spec.ns = "" ∧ spec.scope ≠ "node" then "default" else strip spec.ns) ∧
      effective.names = spec.names.flatMap csv ∧ effective.labels = spec.labels.mapValues strip ∧
      effective.bladeTarget = lower spec.bladeTarget ∧
      effective.isTier1Exec = false ∧ effective.confidence ≠ .unknown := by
  have hscope : spec.scope ≠ "" := by
    have hall : ∀ s ∈ bladeScopes, s ≠ "" := by decide
    exact hall _ h.scope
  have hinfer : inferEffectiveTarget depth "blade_create" (.obj args) allowed =
      classifyBladeCreate args (formatRawCommand "blade_create" (.obj args)) := by
    unfold inferEffectiveTarget
    rw [if_neg (by decide), if_neg (by decide), if_pos rfl]
    rfl
  rw [hinfer]
  unfold classifyBladeCreate
  dsimp only
  rw [hcall.scope, hcall.target, hcall.ns, hcall.names, hcall.labels, bladeNames_str,
    bladeLabels_str, csv_join, parseLabelString_labelString h.labels, strOrEmpty_str]
  simp only [firstTruthy_str_cons, h.target, hscope, if_false, bladeScope_of_mem h.scope, bind,
    Except.bind, pure, Except.pure]
  refine ⟨_, rfl, rfl, ?_, rfl, rfl, rfl, rfl, ?_⟩
  · by_cases hn : spec.scope = "node" <;> simp [hn]
  · dsimp only
    split <;> decide

omit hcall in
theorem plan_approved (ownerNames : List String) :
    specScope spec = (if spec.scope = "node" then "node" else "pod") ∧
    (approvedOf spec ownerNames).bladeTarget = lower (strip spec.bladeTarget) ∧
    (approvedOf spec ownerNames).names = spec.names ∧
    (approvedOf spec ownerNames).isNamespaceWide = false := by
  have hall : ∀ s ∈ bladeScopes, s ≠ "" ∧ frozenScope s = if s = "node" then "node" else "pod" := by
    decide
  obtain ⟨hne, hfrozen⟩ := hall spec.scope h.scope
  have hnames : spec.names.filter (· ≠ "") = spec.names :=
    filter_eq_self.mpr fun n hn => decide_eq_true (h.names n hn).1
  refine ⟨?_, ?_, ?_, ?_⟩
  · rw [specScope, orParam, if_neg hne, hfrozen]
  · rw [approvedOf_bladeTarget, specTarget, orParam, if_neg h.target]
  · rw [approvedOf_names]
    exact hnames
  · rw [approvedOf_isNamespaceWide, hnames]
    rcases h.selector with hsel | hsel
    · cases hn : spec.names with
      | nil => exact absurd hn hsel
      | cons n names => rfl
    · rw [hsel, Bool.and_false]

end

def NamesKept (spec : FaultSpec) : Prop :=
  spec.names.flatMap csv ≠ [] ∧ ∀ n ∈ spec.names.flatMap csv, n ∈ spec.names

def LabelsKept (spec : FaultSpec) : Prop :=
  spec.labels.isEmpty = false ∧ ∀ e ∈ spec.labels.entries, strip e.2 = e.2

theorem plan_drift_iff {spec : FaultSpec} (h : Plannable spec) {ownerNames : List String}
    {effective : EffectiveTarget}
    (hscope : effective.scope = (if spec.scope = "node" then "node" else "pod"))
    (hns : effective.ns =
      (if strip spec.ns = "" ∧ spec.scope ≠ "node" then "default" else strip spec.ns))
    (htarget : effective.bladeTarget = lower spec.bladeTarget) :
    targetDrift (approvedOf spec ownerNames) effective = none ↔
      (checkNamesSubset (approvedOf spec ownerNames) effective = true ∨
        checkLabelsSuperset (approvedOf spec ownerNames) effective = true) ∧
      (strip spec.bladeTarget = "" ∨ strip spec.bladeTarget = spec.bladeTarget) := by
  obtain ⟨hspec, hbt, -, hwide⟩ := plan_approved h ownerNames
  have hsame : scopeRelation (approvedOf spec ownerNames) effective = .same := by
    rw [scopeRelation_same_iff, approvedOf_scope, hspec, hscope]
  have hprimary : primaryNamespaceDrift (approvedOf spec ownerNames) effective = none := by
    rw [primaryNamespaceDrift_eq_none, hscope]
    by_cases hn : spec.scope = "node"
    · rw [if_pos hn]
      exact Or.inl (by decide)
    · refine Or.inr (Or.inr ?_)
      have hcluster : clusterScopedKinds.contains (specScope spec) = false := by
        rw [hspec, if_neg hn]
        decide
      rw [approvedOf_ns, if_neg (by rw [hcluster]; decide), hns, specNamespace, hcluster]
      simp [hn]
  rw [targetDrift_same hsame, selectionDrift_eq_none, faultTypeDrift_eq_none, hbt, htarget, hwide]
  simp only [hprimary, approvedOf_lockFaultType, lower_eq_empty_iff, lower_lower_strip_eq_iff,
      h.target, true_and,
    Bool.true_eq_false, Bool.false_eq_true, false_or]

/-- The call of a plan is allowed under the approval of the plan exactly if the
fault type has no blanks around it (or is blank), and the names survive being
joined with commas or no label value has blanks around it. -/
theorem own_plan_allowed_iff {spec : FaultSpec} {args : List (String × Json)}
    (h : Plannable spec) (hcall : CarriesPlan spec args) (depth : Nat) (allowed : Bool)
    (ownerNames : List String) : planVerdict depth allowed spec ownerNames args = .ok .allow ↔
      (strip spec.bladeTarget = "" ∨ strip spec.bladeTarget = spec.bladeTarget) ∧
      (NamesKept spec ∨ LabelsKept spec) := by
  obtain ⟨effective, hinfer, hscope, hns, hnames, hlabels, htarget, -, hconf⟩ :=
    plan_effective h hcall depth allowed
  obtain ⟨hspec, -, hanames, -⟩ := plan_approved h ownerNames
  have hpod : (if spec.scope = "node" then "node" else "pod") ∈ ["node", "pod"] := by
    split <;> decide
  have hne : specScope spec ≠ "" := by
    have hall : ∀ s ∈ ["node", "pod"], s ≠ "" := by decide
    rw [hspec]
    exact hall _ hpod
  have hcompared : Compared effective := by
    have hall : ∀ s ∈ ["node", "pod"], s ∉ sentinelScopes := by decide
    refine ⟨?_, hconf⟩
    rw [hscope]
    exact hall _ hpod
  have hround := approved_roundtrip spec ownerNames
  rw [if_neg hne] at hround
  obtain ⟨frozen, hfrozen, happroved⟩ := bind_eq_ok.mp hround
  have hverdict : planVerdict depth allowed spec ownerNames args =
      .ok (targetDriftGuard effective (some (approvedOf spec ownerNames))).verdict := by
    unfold planVerdict
    simp only [hfrozen, happroved, hinfer, bind, Except.bind, pure, Except.pure]
  rw [hverdict, Except.ok.injEq, targetDriftGuard_allow_iff, plan_drift_iff h hscope hns htarget,
    checkNamesSubset_iff, checkLabelsSuperset_iff, hanames, approvedOf_labels, hnames,
    hlabels]
  have hnamesKept : (spec.names ≠ [] ∧ spec.names.flatMap csv ≠ [] ∧
      ∀ n ∈ spec.names.flatMap csv, n ∈ spec.names) ↔ NamesKept spec := by
    refine ⟨fun hk => hk.2, fun hk => ⟨?_, hk⟩⟩
    intro hnil
    rw [NamesKept, hnil] at hk
    exact hk.1 rfl
  have hlabelsKept : (spec.labels.isEmpty = false ∧ (spec.labels.mapValues strip).isEmpty = false ∧
      ∀ e ∈ spec.labels.entries, (spec.labels.mapValues strip).get? e.1 = some e.2) ↔
      LabelsKept spec := by
    have hempty : (spec.labels.mapValues strip).isEmpty = spec.labels.isEmpty := by
      simp [Dict.isEmpty, Dict.mapValues]
    have hvalue : ∀ e ∈ spec.labels.entries,
        ((spec.labels.mapValues strip).get? e.1 = some e.2 ↔ strip e.2 = e.2) := by
      intro e he
      rw [Dict.get?_mapValues_of_mem strip he, Option.some.injEq]
    rw [hempty, LabelsKept, forall₂_congr hvalue]
    exact ⟨fun hk => ⟨hk.1, hk.2.2⟩, fun hk => ⟨hk.1, hk.1, hk.2⟩⟩
  rw [hnamesKept, hlabelsKept, and_iff_right hcompared, and_comm]

def fullloadPlan : FaultSpec :=
  { ns := "prod", scope := "pod", names := ["web-1", "web-2"], bladeTarget := "cpu"
    bladeAction := "fullload" }

def planArgs (spec : FaultSpec) : List (String × Json) :=
  [("scope", .str spec.scope), ("target", .str spec.bladeTarget),
   ("action", .str spec.bladeAction), ("namespace", .str spec.ns),
   ("names", .str (join "," spec.names)), ("labels", .str (labelString spec.labels))]

theorem carriesPlan_planArgs (spec : FaultSpec) : CarriesPlan spec (planArgs spec) :=
  ⟨rfl, rfl, rfl, rfl, rfl, rfl⟩

/-- A blank behind the fault type, and a blank in a label value: the plan drifts
from itself. -/
theorem padded_plan_rejected : planVerdict 1 false { fullloadPlan with bladeTarget := "cpu " } []
      (planArgs { fullloadPlan with bladeTarget := "cpu " }) = .ok .rejectDrift ∧
    planVerdict 1 false { fullloadPlan with names := [], labels := Dict.ofPairs [("app", "web ")] }
      [] (planArgs { fullloadPlan with names := [], labels := Dict.ofPairs [("app", "web ")] }) =
        .ok .rejectDrift := by decide

theorem fullloadPlan_allowed :
    planVerdict 1 false fullloadPlan [] (planArgs fullloadPlan) = .ok .allow := by
  have hplan : Plannable fullloadPlan :=
    ⟨by decide, by decide, by decide, ⟨by decide, by decide⟩, Or.inl (by decide)⟩
  refine (own_plan_allowed_iff hplan (carriesPlan_planArgs _) 1 false []).mpr
    ⟨Or.inr (by decide), Or.inl ?_⟩
  unfold NamesKept
  decide

end ChaosBlade.TargetGuard
