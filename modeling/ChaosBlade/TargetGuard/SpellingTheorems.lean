/-
TargetGuard.SpellingTheorems: does the spelling of an approved
kind matter?

Freezing goes by the scope as it is spelled, the guard by its canonical
kind. The two differ in the secondary scopes of an approval, and in the few
scopes that have another kind once they are in lower case
(`spelling_neutral_iff`): what ends a word in front of the first dot need
not end one in the whole scope.
-/
import ChaosBlade.TargetGuard.FreezeTheorems

namespace ChaosBlade.TargetGuard

open Py List Option

/-! ## Kinds -/

variable (s : String)

theorem canonicaliseKind_eq :
    canonicaliseKind s = (kindAliases.lookup (kindHead s)).getD (kindHead s) := by
  unfold canonicaliseKind
  split
  · next h =>
    subst h
    decide
  · rfl

theorem kindHead_fixed : lower (kindHead s) = kindHead s ∧ kindHead (kindHead s) = kindHead s := by
  obtain ⟨a, b, hparts⟩ := strip_parts (lower (beforeChar '.' s))
  have hsub : (kindHead s).toList ⊆ (lower (beforeChar '.' s)).toList := by
    rw [hparts]
    intro c hc
    exact mem_append_left _ (mem_append_right _ hc)
  have hlower : lower (kindHead s) = kindHead s := lower_eq_self hsub
  have hcut : beforeChar '.' (kindHead s) = kindHead s := by
    unfold beforeChar
    rw [List.takeWhile_eq_self_iff.mpr, String.ofList_toList]
    intro d hd
    have hmem := hsub hd
    rw [toList_lower, beforeChar, String.toList_ofList] at hmem
    obtain ⟨c, hc, ⟨-, rfl⟩ | hlow⟩ := mem_lowerFrom hmem
    · exact mem_takeWhile_imp (p := fun d => d != '.') hc
    · simpa using hlow.noDot
  refine ⟨hlower, ?_⟩
  nth_rewrite 1 [kindHead]
  rw [hcut, hlower]
  exact strip_strip _

theorem kindHead_of_isPlain {kind : String} (h : isPlain kind = true) : kindHead kind = kind := by
  rw [kindHead, beforeChar_of_isPlain h, lower_of_isPlain h, strip_of_isPlain h]

theorem canonicaliseKind_fixed : frozenScope (canonicaliseKind s) = canonicaliseKind s ∧
    canonicaliseKind (canonicaliseKind s) = canonicaliseKind s := by
  have haliases : ∀ e ∈ kindAliases, isPlain e.2 = true ∧ e.2 ≠ "container" ∧
      kindAliases.lookup e.2 = some e.2 := by decide +kernel
  rw [canonicaliseKind_eq s]
  cases hlookup : kindAliases.lookup (kindHead s) with
  | some kind =>
    rw [getD_some]
    obtain ⟨before, after, heq, -⟩ := List.lookup_eq_some_iff.mp hlookup
    obtain ⟨hplain, hname, hself⟩ :=
      haliases (kindHead s, kind) (heq ▸ mem_append_right _ mem_cons_self)
    constructor
    · unfold frozenScope
      dsimp only
      rw [strip_of_isPlain hplain, lower_of_isPlain hplain, if_neg hname]
    · rw [canonicaliseKind_eq, kindHead_of_isPlain hplain, hself, getD_some]
  | none =>
    rw [getD_none]
    constructor
    · have hstrip : strip (kindHead s) = kindHead s := strip_strip _
      have hname : kindHead s ≠ "container" := by
        intro heq
        rw [heq] at hlookup
        exact absurd hlookup (by decide +kernel)
      unfold frozenScope
      dsimp only
      rw [hstrip, (kindHead_fixed s).1, if_neg hname]
    · rw [canonicaliseKind_eq, (kindHead_fixed s).2, hlookup, getD_none]

/-! ## Verdicts -/

structure FreezeInputs where
  target : List (String × Json) := []
  params : List (String × Json) := []
  bladeScope : String := ""
  bladeTarget : String := ""
  bladeAction : String := ""
  lockFaultType : Bool := true
  ownerNames : List String := []

def verdictFor (x : FreezeInputs) (effective : EffectiveTarget) (s : String) :
    Except PyError GuardVerdict := do
  let frozen ← freezeApprovedTarget (("resource_type", .str s) :: x.target) x.params x.bladeScope
    x.bladeTarget x.bladeAction x.lockFaultType x.ownerNames
  let approved ← approvedFromDict (frozen.map Json.obj)
  return (targetDriftGuard effective approved).verdict

section

variable (x : FreezeInputs) (scope : String) (names : List String)

def FreezeInputs.nsOf : String :=
  if strip (Json.strOrEmpty (Json.get? x.target "namespace")) = "" ∧
      clusterScopedKinds.contains scope = false then "default"
  else strip (Json.strOrEmpty (Json.get? x.target "namespace"))

def FreezeInputs.approval : ApprovedTarget where
  scope := scope
  ns := if clusterScopedKinds.contains scope then "" else x.nsOf scope
  names := names
  labels := frozenLabels (Json.get? x.target "labels")
  isNamespaceWide := names.isEmpty && (frozenLabels (Json.get? x.target "labels")).isEmpty
  bladeTarget := lower (strip (firstTruthy [some (.str x.bladeTarget),
      Json.get? x.params "target"]))
  bladeAction := lower (strip (firstTruthy [some (.str x.bladeAction),
      Json.get? x.params "action"]))
  lockFaultType := x.lockFaultType
  ownerNames := x.ownerNames
  secondaryScopes := secondaryScopesOf scope
  secondaryNamespace :=
    if clusterScopedKinds.contains scope || workloadScopes.contains scope then x.nsOf scope else ""

theorem approval_scope : (x.approval scope names).scope = scope := rfl

theorem approval_secondaryScopes : (x.approval scope names).secondaryScopes =
    secondaryScopesOf scope :=
  rfl

end

theorem verdictFor_eq (x : FreezeInputs) (effective : EffectiveTarget) {s : String} (hs : s ≠ "") :
    verdictFor x effective s = if frozenScope s = ""
        then .ok (targetDriftGuard effective none).verdict
      else (bladeNames (Json.get? x.target "names")).map fun names =>
        (targetDriftGuard effective (some (x.approval (frozenScope s) names))).verdict := by
  have hget : ∀ {k : String}, k ≠ "resource_type" →
      Json.get? (("resource_type", .str s) :: x.target) k = Json.get? x.target k := by
    intro k hk
    have hbeq : (k == "resource_type") = false := by simpa using hk
    simp [Json.get?, lookup_cons, hbeq]
  have hscope : ∀ rest, firstTruthy (Json.get? (("resource_type", .str s) ::
      x.target) "resource_type" ::
      rest) = s := by
    intro rest
    have hself : Json.get? (("resource_type", .str s) :: x.target) "resource_type" =
        some (.str s) := by
      simp [Json.get?]
    rw [hself, firstTruthy_str_cons, if_neg hs]
  unfold verdictFor freezeApprovedTarget
  dsimp only
  rw [hscope, hget (by decide), hget (by decide), hget (by decide)]
  by_cases hempty : frozenScope s = ""
  · simp only [hempty, if_true]
    rfl
  · simp only [hempty, if_false]
    cases bladeNames (Json.get? x.target "names") with
    | error e => rfl
    | ok names =>
      have hread : approvedFromDict (some (.obj (approvedFields
          (x.approval (frozenScope s) names)))) =
          .ok (some (x.approval (frozenScope s) names)) := by
        apply approvedFromDict_fields
        · rw [approval_scope]
          exact hempty
        · rw [approval_scope]
          exact strip_frozenScope s
      simp only [approvedFields, FreezeInputs.approval, FreezeInputs.nsOf] at hread ⊢
      simp only [bind, Except.bind, pure, Except.pure, Except.map, map_some, hread]

structure SameApproval (a b : ApprovedTarget) : Prop where
  scope : canonicaliseKind a.scope = canonicaliseKind b.scope
  ns : clusterScopedKinds.contains (canonicaliseKind b.scope) = true ∨ a.ns = b.ns
  secondaryScopes : a.secondaryScopes = b.secondaryScopes
  secondaryNamespace : b.secondaryScopes = [] ∨ a.secondaryNamespace = b.secondaryNamespace
  names : a.names = b.names
  labels : a.labels = b.labels
  isNamespaceWide : a.isNamespaceWide = b.isNamespaceWide
  bladeTarget : a.bladeTarget = b.bladeTarget
  lockFaultType : a.lockFaultType = b.lockFaultType
  ownerNames : a.ownerNames = b.ownerNames

theorem SameApproval.drift_iff {a b : ApprovedTarget} (h : SameApproval a b) (e : EffectiveTarget) :
    targetDrift a e = none ↔ targetDrift b e = none := by
  have hrel : scopeRelation a e = scopeRelation b e := by
    unfold scopeRelation
    rw [h.scope, h.secondaryScopes]
  have hfault : faultTypeDrift a e = none ↔ faultTypeDrift b e = none := by
    rw [faultTypeDrift_eq_none, faultTypeDrift_eq_none, h.bladeTarget, h.lockFaultType]
  -- a kind that is cluster-scoped has no owners, and a call on it no namespace
  have hprimary : scopeRelation b e = .same ∨ scopeRelation b e = .owner →
      (primaryNamespaceDrift a e = none ↔ primaryNamespaceDrift b e = none) := by
    intro hsame
    rw [primaryNamespaceDrift_eq_none, primaryNamespaceDrift_eq_none]
    rcases h.ns with hcluster | hns
    · rcases hsame with hsame | howner
      · rw [scopeRelation_same_iff.mp hsame] at hcluster
        simp only [hcluster, true_or]
      · have hall : ∀ k ∈ clusterScopedKinds, ownerScopes.lookup k = none := by decide
        have hnone := hall _ (contains_iff_mem.mp hcluster)
        have hmem := scopeRelation_cases.1 howner
        rw [hnone] at hmem
        cases hmem
    · rw [hns]
  cases hb : scopeRelation b e with
  | same =>
    rw [targetDrift_same (hrel.trans hb), targetDrift_same hb, hprimary (.inl hb), hfault,
      selectionDrift_eq_none, selectionDrift_eq_none, checkNamesSubset_iff, checkNamesSubset_iff,
      checkLabelsSuperset_iff, checkLabelsSuperset_iff, h.names, h.labels, h.isNamespaceWide]
  | owner =>
    rw [targetDrift_owner (hrel.trans hb), targetDrift_owner hb, hprimary (.inr hb), hfault,
      ownerDrift_eq_none, ownerDrift_eq_none, h.ownerNames, h.isNamespaceWide]
  | secondary =>
    have hns : a.secondaryNamespace = b.secondaryNamespace := by
      rcases h.secondaryNamespace with hnil | hns
      · have hmem := scopeRelation_cases.2 hb
        rw [hnil] at hmem
        cases hmem
      · exact hns
    rw [targetDrift_secondary (hrel.trans hb), targetDrift_secondary hb, hfault,
      secondaryNamespaceDrift_eq_none, secondaryNamespaceDrift_eq_none, hns]
  | drift => simp only [targetDrift_drift (hrel.trans hb), targetDrift_drift hb]

theorem SameApproval.verdict_eq {a b : ApprovedTarget} (h : SameApproval a b)
    (e : EffectiveTarget) :
    (targetDriftGuard e (some a)).verdict = (targetDriftGuard e (some b)).verdict := by
  have hdrift := h.drift_iff e
  unfold targetDriftGuard
  dsimp only
  cases ha : targetDrift a e with
  | none => rw [hdrift.mp ha]
  | some d =>
    cases hb : targetDrift b e with
    | none =>
      rw [hdrift.mpr hb] at ha
      cases ha
    | some d' =>
      have hverdict := (targetDrift_verdict ha).trans (targetDrift_verdict hb).symm
      repeat' split
      all_goals first | rfl | exact hverdict

/-! ## Which spellings are neutral -/

def widenedKinds : List String := "node" :: workloadScopes

theorem secondaryScopesOf_eq_nil {scope : String} (h : scope ∉ widenedKinds) :
    secondaryScopesOf scope = [] := by
  simp only [widenedKinds, mem_cons, not_or] at h
  unfold secondaryScopesOf
  rw [if_neg h.1]
  simp [h.2]

def SpeltOut (s : String) : Prop :=
  s = "" ∨ canonicaliseKind s ≠ "" ∧ canonicaliseKind (frozenScope s) = canonicaliseKind s ∧
    (canonicaliseKind s ∈ widenedKinds → frozenScope s = canonicaliseKind s)

theorem canonicaliseKind_scoped : ∀ k ∈ clusterScopedKinds ++ widenedKinds,
    canonicaliseKind k = k := by
  decide +kernel

theorem sameApproval_frozen (x : FreezeInputs) (names : List String) {s : String}
    (hkind : canonicaliseKind (frozenScope s) = canonicaliseKind s)
    (h : canonicaliseKind s ∉ widenedKinds) :
    SameApproval (x.approval (frozenScope s) names) (x.approval (canonicaliseKind s) names) := by
  have hfix : ∀ {k}, k ∈ clusterScopedKinds ++ widenedKinds → frozenScope s = k →
      canonicaliseKind s = k := by
    rintro k hk rfl
    rw [← hkind, canonicaliseKind_scoped _ hk]
  have hfrozen : frozenScope s ∉ widenedKinds := fun hmem =>
    h (hfix (mem_append_right _ hmem) rfl ▸ hmem)
  have hnil : (x.approval (canonicaliseKind s) names).secondaryScopes = [] := by
    rw [approval_secondaryScopes, secondaryScopesOf_eq_nil h]
  refine ⟨?_, ?_, ?_, .inl hnil, ?_, ?_, ?_, ?_, ?_, ?_⟩
  · rw [approval_scope, approval_scope, hkind, (canonicaliseKind_fixed s).2]
  · rw [approval_scope, (canonicaliseKind_fixed s).2]
    cases hc : clusterScopedKinds.contains (canonicaliseKind s) with
    | true => exact .inl rfl
    | false =>
      have hf : clusterScopedKinds.contains (frozenScope s) = false := by
        by_contra hne
        rw [Bool.not_eq_false] at hne
        have hmem := contains_iff_mem.mp hne
        rw [← hfix (mem_append_left _ hmem) rfl, hc] at hne
        cases hne
      exact .inr (by simp only [FreezeInputs.approval, FreezeInputs.nsOf, hc, hf])
  · rw [hnil, approval_secondaryScopes, secondaryScopesOf_eq_nil hfrozen]
  all_goals simp only [FreezeInputs.approval]

def widenedCall (kind : String) : EffectiveTarget :=
  { scope := if kind = "node" then "pod" else "secret", ns := "default" }

theorem widened_differs {s : String} (hkind : canonicaliseKind (frozenScope s) = canonicaliseKind s)
    (hmem : canonicaliseKind s ∈ widenedKinds) (hne : frozenScope s ≠ canonicaliseKind s)
    (hs : s ≠ "") :
    verdictFor {} (widenedCall (canonicaliseKind s)) s ≠
      verdictFor {} (widenedCall (canonicaliseKind s)) (canonicaliseKind s) := by
  have hallow : ∀ k ∈ widenedKinds, verdictFor {} (widenedCall k) k = .ok .allow :=
      by decide +kernel
  have hdrift : ∀ k ∈ widenedKinds, k ≠ canonicaliseKind (widenedCall k).scope ∧
      ((ownerScopes.lookup k).getD []).contains (canonicaliseKind (widenedCall k).scope) =
          false := by
    decide +kernel
  have hfrozen : frozenScope s ∉ widenedKinds := fun hin =>
    hne ((canonicaliseKind_scoped _ (mem_append_right _ hin)).symm.trans hkind)
  have hempty : frozenScope s ≠ "" := by
    intro heq
    rw [← hkind, heq] at hmem
    exact absurd hmem (by decide)
  obtain ⟨hsame, howner⟩ := hdrift _ hmem
  have hrel : scopeRelation (FreezeInputs.approval {} (frozenScope s) [])
      (widenedCall (canonicaliseKind s)) = .drift := by
    unfold scopeRelation
    dsimp only
    rw [approval_scope, hkind, if_neg hsame, howner, if_neg Bool.false_ne_true,
      FreezeInputs.approval, secondaryScopesOf_eq_nil hfrozen]
    rfl
  rw [hallow _ hmem, verdictFor_eq _ _ hs, if_neg hempty]
  intro hverdict
  exact targetDrift_drift hrel (targetDriftGuard_allow_iff.mp (Except.ok.inj hverdict)).2

/-! ### A call that only its own kind allows

Its namespace and names keep it from passing for an owner or for a secondary
scope. -/

def probeInputs : FreezeInputs where
  target := [("names", .arr [.str "web"])]
  lockFaultType := false
  ownerNames := ["owner"]

def probe (scope : String) : EffectiveTarget :=
  { scope, ns := "elsewhere", names := ["web"], bladeTarget := "cpu", isTier1Exec := true }

theorem exists_probe {kind : String} (h : canonicaliseKind kind = kind) :
    ∃ t ∉ sentinelScopes, canonicaliseKind t = kind := by
  have hall : ∀ k ∈ sentinelScopes, k ++ "." ∉ sentinelScopes ∧
      canonicaliseKind (k ++ ".") = k := by
    decide
  by_cases hmem : kind ∈ sentinelScopes
  · exact ⟨kind ++ ".", hall kind hmem⟩
  · exact ⟨kind, hmem, h⟩

theorem probeInputs_secondaryNamespace (scope : String) :
    orDefault (probeInputs.approval scope ["web"]).secondaryNamespace = "default" := by
  have hblank : strip (Json.strOrEmpty (Json.get? probeInputs.target "namespace")) = "" := by
    decide
  have hdefault : ∀ ns, ns = "" ∨ ns = "default" → orDefault ns = "default" := by
    rintro ns (rfl | rfl) <;> decide
  apply hdefault
  simp only [FreezeInputs.approval, FreezeInputs.nsOf, hblank, true_and]
  repeat' split
  all_goals simp

theorem probe_allow_iff {t : String} (ht : t ∉ sentinelScopes) (scope : String) :
    (targetDriftGuard (probe t) (some (probeInputs.approval scope ["web"]))).verdict = .allow ↔
      canonicaliseKind scope = canonicaliseKind t := by
  have hother : scopeRelation (probeInputs.approval scope ["web"]) (probe t) ≠ .same →
      canonicaliseKind scope ≠ canonicaliseKind t := fun hne hkind =>
    hne (scopeRelation_same_iff.mpr hkind)
  rw [targetDriftGuard_allow_iff]
  cases hrel : scopeRelation (probeInputs.approval scope ["web"]) (probe t) with
  | same =>
    refine iff_of_true ⟨⟨ht, nofun⟩, (targetDrift_same hrel).mpr ⟨?_, .inr ?_, ?_⟩⟩
      (scopeRelation_same_iff.mp hrel)
    · exact primaryNamespaceDrift_eq_none.mpr (.inr (.inl rfl))
    · have hnames : checkNamesSubset (probeInputs.approval scope ["web"]) (probe t) = true := rfl
      exact selectionDrift_eq_none.mpr (.inl hnames)
    · exact faultTypeDrift_eq_none.mpr (.inl rfl)
  | owner =>
    refine iff_of_false ?_ (hother (by rw [hrel]; exact nofun))
    rintro ⟨-, hdrift⟩
    obtain ⟨-, hwide | howner, -⟩ := (targetDrift_owner hrel).mp hdrift
    · cases hwide
    · have hnone : ¬ ((["owner"] : List String) = [] ∨ (["web"] : List String) = [] ∨
          ∀ n ∈ ["web"], n ∈ ["owner"]) := by decide
      exact hnone (ownerDrift_eq_none.mp howner)
  | secondary =>
    refine iff_of_false ?_ (hother (by rw [hrel]; exact nofun))
    rintro ⟨-, hdrift⟩
    have helsewhere : orDefault "elsewhere" = "elsewhere" ∧
        toolPodNamespaces.contains "elsewhere" = false := by decide +kernel
    have hns : (probe t).bladeTarget = "cpu" ∧ (probe t).ns = "elsewhere" := ⟨rfl, rfl⟩
    have hpass := secondaryNamespaceDrift_eq_none.mp ((targetDrift_secondary hrel).mp hdrift).1
    rw [probeInputs_secondaryNamespace, hns.1, hns.2, helsewhere.1, helsewhere.2] at hpass
    simp at hpass
  | drift =>
    exact iff_of_false (fun h => targetDrift_drift hrel h.2) (hother (by rw [hrel]; exact nofun))

theorem verdictFor_probe {s t : String} (hs : s ≠ "") (ht : t ∉ sentinelScopes) :
    verdictFor probeInputs (probe t) s = .ok .allow ↔
      frozenScope s ≠ "" ∧ canonicaliseKind (frozenScope s) = canonicaliseKind t := by
  have hnames : bladeNames (Json.get? probeInputs.target "names") = .ok ["web"] := by decide +kernel
  rw [verdictFor_eq _ _ hs, hnames]
  by_cases hempty : frozenScope s = ""
  · rw [if_pos hempty]
    refine iff_of_false (fun h => ?_) fun h => h.1 hempty
    exact targetDriftGuard_none_ne_allow (Except.ok.inj h)
  · rw [if_neg hempty, Except.map, Except.ok.injEq, probe_allow_iff ht]
    exact ⟨fun h => ⟨hempty, h⟩, fun h => h.2⟩

/-- A scope whose kind is empty, and one whose kind is another one in lower
case, is not neutral. -/
theorem emptied_differs {s : String} (hs : s ≠ "") (hempty : canonicaliseKind s = "") :
    ∃ x e, verdictFor x e s ≠ verdictFor x e (canonicaliseKind s) := by
  rw [hempty]
  by_cases hfrozen : frozenScope s = ""
  · refine ⟨{ bladeScope := "pod" }, { scope := "pod", ns := "default" }, ?_⟩
    rw [verdictFor_eq _ _ hs, if_pos hfrozen]
    decide
  · obtain ⟨t, ht, hkind⟩ := exists_probe (canonicaliseKind_fixed (frozenScope s)).2
    refine ⟨probeInputs, probe t, ?_⟩
    have hallow := (verdictFor_probe hs ht).mpr ⟨hfrozen, hkind.symm⟩
    have hnone : verdictFor probeInputs (probe t) "" =
        .ok (targetDriftGuard (probe t) none).verdict := rfl
    rw [hallow, hnone]
    intro h
    exact targetDriftGuard_none_ne_allow (Except.ok.inj h).symm

theorem recased_differs {s : String} (hs : s ≠ "") (hne : canonicaliseKind s ≠ "")
    (hkind : canonicaliseKind (frozenScope s) ≠ canonicaliseKind s) :
    ∃ x e, verdictFor x e s ≠ verdictFor x e (canonicaliseKind s) := by
  obtain ⟨hfrozen, hfixed⟩ := canonicaliseKind_fixed s
  obtain ⟨t, ht, hprobe⟩ := exists_probe hfixed
  refine ⟨probeInputs, probe t, fun h => ?_⟩
  have hallow : verdictFor probeInputs (probe t) (canonicaliseKind s) = .ok .allow := by
    rw [verdictFor_probe hne ht, hfrozen, hfixed, hprobe]
    exact ⟨hne, rfl⟩
  rw [← h, verdictFor_probe hs ht, hprobe] at hallow
  exact hkind hallow.2

/-- The guard decides as it does for the canonical kind, whatever else is approved and called,
exactly for the scopes that are spelled out. -/
theorem spelling_neutral_iff (s : String) :
    (∀ x e, verdictFor x e s = verdictFor x e (canonicaliseKind s)) ↔ SpeltOut s := by
  by_cases hs : s = ""
  · subst hs
    exact iff_of_true (fun _ _ => rfl) (.inl rfl)
  constructor
  · intro h
    have hne : canonicaliseKind s ≠ "" := by
      intro hempty
      obtain ⟨x, e, hdiff⟩ := emptied_differs hs hempty
      exact hdiff (h x e)
    have hkind : canonicaliseKind (frozenScope s) = canonicaliseKind s := by
      by_contra hkind
      obtain ⟨x, e, hdiff⟩ := recased_differs hs hne hkind
      exact hdiff (h x e)
    refine .inr ⟨hne, hkind, fun hmem => ?_⟩
    by_contra hdiff
    exact widened_differs hkind hmem hdiff hs (h _ _)
  · rintro (hnil | ⟨hne, hcanon, hkind⟩) x e
    · exact absurd hnil hs
    have hfrozen : frozenScope s ≠ "" := by
      intro heq
      rw [← hcanon, heq] at hne
      exact hne (by decide)
    rw [verdictFor_eq x e hs, verdictFor_eq x e hne, (canonicaliseKind_fixed s).1, if_neg hfrozen,
      if_neg hne]
    by_cases hmem : canonicaliseKind s ∈ widenedKinds
    · rw [hkind hmem]
    · simp only [(sameApproval_frozen x _ hcanon hmem).verdict_eq e]

/-- A fault on `nodes` is approved without the pods that one on `node` may delete. -/
theorem nodes_spelling :
    verdictFor {} { scope := "pod", ns := "default" } "nodes" = .ok .rejectDrift ∧
    verdictFor {} { scope := "pod", ns := "default" } (canonicaliseKind "nodes") = .ok .allow := by
  decide

end ChaosBlade.TargetGuard
