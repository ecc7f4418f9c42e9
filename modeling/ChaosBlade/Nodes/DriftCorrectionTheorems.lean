/-
Nodes.DriftCorrectionTheorems: whether approving a drift
settles it.

When the user approves a drift, `_apply_drift_correction` takes the
namespace, the names and the labels of the drifted call over into the
fault spec and freezes the spec again.
-/
import ChaosBlade.Nodes.ToolScreenerTheorems
import ChaosBlade.TargetGuard.FreezeTheorems

namespace ChaosBlade.Nodes

open Py Agent TargetGuard List Option

/-! ## The condition -/

def OnCluster (eff : EffectiveTarget) : Prop :=
  clusterScopedKinds.contains (canonicaliseKind eff.scope) = true

instance (eff : EffectiveTarget) : Decidable (OnCluster eff) := by
  unfold OnCluster
  infer_instance

/-- The namespace of the call can be taken over: it is not blank, or it is
missing and the spec means the default namespace. -/
def NamespaceFits (spec : FaultSpec) (eff : EffectiveTarget) : Prop :=
  (eff.ns ≠ "" ∧ strip eff.ns ≠ "") ∨
    (eff.ns = "" ∧ (strip spec.ns = "" ∨ strip spec.ns = "default"))

/-- The selectors of the call can be taken over: it has labels, or names and
none is empty, or nothing is left to compare with. -/
def SelectorFits (spec : FaultSpec) (eff : EffectiveTarget) : Prop :=
  eff.labels.isEmpty = false ∨ (eff.names ≠ [] ∧ "" ∉ eff.names) ∨
    (spec.labels.isEmpty = true ∧ ∀ n ∈ (if eff.names = [] then spec.names else eff.names), n = "")

def FaultTypeFits (spec : FaultSpec) (eff : EffectiveTarget) : Prop :=
  specTarget spec = "" ∨ eff.bladeTarget = "" ∨ lower (specTarget spec) = lower eff.bladeTarget

inductive KindFits (spec : FaultSpec) (eff : EffectiveTarget) : Prop
  | same (hrel : scopeRelation (approvedOf spec []) eff = .same)
      (hns : OnCluster eff ∨ eff.isTier1Exec = true ∨ NamespaceFits spec eff)
      (hsel : SelectorFits spec eff)
  | owner (hrel : scopeRelation (approvedOf spec []) eff = .owner)
      (hns : OnCluster eff ∨ eff.isTier1Exec = true ∨ NamespaceFits spec eff)
  | secondary (hrel : scopeRelation (approvedOf spec []) eff = .secondary)
      (hns : (OnCluster eff ∧ eff.bladeTarget = "") ∨ (¬ OnCluster eff ∧ NamespaceFits spec eff))

theorem kindFits_iff {spec : FaultSpec} {eff : EffectiveTarget} : KindFits spec eff ↔
      (scopeRelation (approvedOf spec []) eff = .same ∧
        (OnCluster eff ∨ eff.isTier1Exec = true ∨ NamespaceFits spec eff) ∧ SelectorFits spec eff) ∨
      (scopeRelation (approvedOf spec []) eff = .owner ∧
        (OnCluster eff ∨ eff.isTier1Exec = true ∨ NamespaceFits spec eff)) ∨
      (scopeRelation (approvedOf spec []) eff = .secondary ∧
        ((OnCluster eff ∧ eff.bladeTarget = "") ∨ (¬ OnCluster eff ∧ NamespaceFits spec eff))) := by
  constructor
  · intro h
    cases h with
    | same hrel hns hsel => exact .inl ⟨hrel, hns, hsel⟩
    | owner hrel hns => exact .inr (.inl ⟨hrel, hns⟩)
    | secondary hrel hns => exact .inr (.inr ⟨hrel, hns⟩)
  · rintro (⟨hrel, hns, hsel⟩ | ⟨hrel, hns⟩ | ⟨hrel, hns⟩)
    · exact .same hrel hns hsel
    · exact .owner hrel hns
    · exact .secondary hrel hns

structure Settles (spec : FaultSpec) (eff : EffectiveTarget) : Prop where
  scope : specScope spec ≠ ""
  faultType : FaultTypeFits spec eff
  kind : KindFits spec eff

/-! ## The corrected spec -/

section

variable {blacklist : List String} {spec : FaultSpec} {eff : EffectiveTarget}

theorem correctSpec_ns (h : blacklist.contains eff.ns = false) :
    (correctSpec blacklist spec eff).ns = if eff.ns = "" then spec.ns else eff.ns := by
  unfold correctSpec
  by_cases hne : eff.ns = ""
  · simp [hne]
  · by_cases heq : eff.ns = spec.ns
    · simp [heq]
    · rw [if_pos ⟨hne, heq, h⟩, if_neg hne]

theorem correctSpec_names :
    (correctSpec blacklist spec eff).names = if eff.names = [] then spec.names else eff.names := by
  unfold correctSpec
  by_cases hne : eff.names = []
  · simp [hne]
  · by_cases heq : eff.names = spec.names
    · simp [heq]
    · simp [heq]

theorem correctSpec_labels_same (h : eff.labels.isEmpty = false) :
    (correctSpec blacklist spec eff).labels.Same eff.labels := by
  unfold correctSpec
  dsimp only
  by_cases hbeq : eff.labels.beq spec.labels = true
  · rw [if_neg (by simp [hbeq])]
    exact ((Dict.beq_iff_same _ _).mp hbeq).symm
  · rw [if_pos ⟨h, Bool.eq_false_iff.mpr hbeq⟩]
    exact fun _ => rfl

theorem correctSpec_labels_kept (h : eff.labels.isEmpty = true) :
    (correctSpec blacklist spec eff).labels = spec.labels := by
  unfold correctSpec
  simp [h]

theorem specScope_correctSpec : specScope (correctSpec blacklist spec eff) = specScope spec := by
  rfl

theorem specTarget_correctSpec : specTarget (correctSpec blacklist spec eff) = specTarget spec := by
  rfl

/-! ## Namespaces -/

theorem orDefault_specNamespace (spec : FaultSpec) :
    orDefault (specNamespace spec) = if strip spec.ns = "" then "default" else strip spec.ns := by
  by_cases hblank : strip spec.ns = ""
  · have hcases : specNamespace spec = "default" ∨ specNamespace spec = "" := by
      unfold specNamespace
      split
      · exact .inl rfl
      · exact .inr hblank
    rw [if_pos hblank]
    rcases hcases with h | h <;> rw [h] <;> decide +kernel
  · have hns : specNamespace spec = strip spec.ns := if_neg fun h => hblank h.1
    rw [if_neg hblank, hns, orDefault, if_neg hblank, strip_strip]

theorem corrected_namespace_iff (h : blacklist.contains eff.ns = false) :
    orDefault (specNamespace (correctSpec blacklist spec eff)) = orDefault eff.ns ↔
      NamespaceFits spec eff := by
  have hdefault : strip "default" = "default" := by decide +kernel
  rw [orDefault_specNamespace, correctSpec_ns h]
  unfold orDefault NamespaceFits
  by_cases hne : eff.ns = ""
  · simp only [hne, if_true, hdefault, ne_eq, not_true_eq_false, false_and, true_and, false_or]
    by_cases hblank : strip spec.ns = "" <;> simp [hblank]
  · simp only [hne, if_false, ne_eq, not_false_eq_true, true_and, false_and, or_false]
    by_cases hblank : strip eff.ns = "" <;> simp [hblank]

theorem canonicaliseKind_cluster {scope : String} (h : clusterScopedKinds.contains scope = true) :
    canonicaliseKind scope = scope := by
  have hall : ∀ s ∈ clusterScopedKinds, canonicaliseKind s = s := by decide +kernel
  exact hall scope (contains_iff_mem.mp h)

/-! ## The guard after the correction -/

theorem corrected_primary_iff (h : blacklist.contains eff.ns = false)
    (hcluster : clusterScopedKinds.contains (specScope spec) = true → OnCluster eff) :
    primaryNamespaceDrift (approvedOf (correctSpec blacklist spec eff) []) eff = none ↔
      OnCluster eff ∨ eff.isTier1Exec = true ∨ NamespaceFits spec eff := by
  rw [primaryNamespaceDrift_eq_none, ← corrected_namespace_iff h]
  by_cases hon : OnCluster eff
  · exact iff_of_true (.inl hon) (.inl hon)
  · have hspec : clusterScopedKinds.contains (specScope (correctSpec blacklist spec eff)) =
      false := by
      rw [specScope_correctSpec, Bool.eq_false_iff]
      exact fun hc => hon (hcluster hc)
    rw [approvedOf_ns, if_neg (by rw [hspec]; decide)]
    rfl

theorem corrected_secondary_iff (h : blacklist.contains eff.ns = false)
    (hscope : clusterScopedKinds.contains (specScope spec) = true ∨
      workloadScopes.contains (specScope spec) = true) :
    secondaryNamespaceDrift (approvedOf (correctSpec blacklist spec eff) []) eff = none ↔
      (OnCluster eff ∧ eff.bladeTarget = "") ∨ (¬ OnCluster eff ∧ NamespaceFits spec eff) := by
  have hns : (approvedOf (correctSpec blacklist spec eff) []).secondaryNamespace =
      specNamespace (correctSpec blacklist spec eff) := by
    have hor : (clusterScopedKinds.contains (specScope (correctSpec blacklist spec eff)) ||
        workloadScopes.contains (specScope (correctSpec blacklist spec eff))) = true := by
      rw [specScope_correctSpec, Bool.or_eq_true]
      exact hscope
    rw [approvedOf_secondaryNamespace, if_pos hor]
  -- the namespace of the tool pods is one that can be taken over
  have htool : toolPodNamespaces.contains (orDefault eff.ns) = true → NamespaceFits spec eff := by
    intro ht
    have hcb : orDefault eff.ns = "chaosblade" := by simpa [toolPodNamespaces] using ht
    unfold orDefault at hcb
    unfold NamespaceFits
    by_cases hne : eff.ns = ""
    · rw [if_pos hne] at hcb
      exact absurd hcb (by decide +kernel)
    · rw [if_neg hne] at hcb
      refine .inl ⟨hne, ?_⟩
      rw [hcb]
      decide
  rw [secondaryNamespaceDrift_eq_none, hns, corrected_namespace_iff h]
  have hon : clusterScopedKinds.contains (canonicaliseKind eff.scope) = false ↔ ¬ OnCluster eff :=
    Bool.eq_false_iff
  rw [hon]
  refine or_congr Iff.rfl (and_congr_right fun _ => ?_)
  exact ⟨fun hc => hc.elim id htool, .inl⟩

theorem corrected_labels_match (h : eff.labels.isEmpty = false) :
    checkLabelsSuperset (approvedOf (correctSpec blacklist spec eff) []) eff = true := by
  have hsame := @correctSpec_labels_same blacklist spec eff h
  rw [checkLabelsSuperset_iff, approvedOf_labels]
  refine ⟨?_, h, ?_⟩
  · rw [Dict.isEmpty_eq_false_iff] at h ⊢
    intro hnil
    obtain ⟨e, he⟩ := exists_mem_of_ne_nil _ h
    have hget := hsame e.1
    rw [Dict.get?_of_mem he, Dict.get?, hnil] at hget
    cases hget
  · intro e he
    rw [← hsame e.1]
    exact Dict.get?_of_mem he

theorem corrected_names_match_iff :
    checkNamesSubset (approvedOf (correctSpec blacklist spec eff) []) eff = true ↔
      eff.names ≠ [] ∧ "" ∉ eff.names := by
  rw [checkNamesSubset_iff, approvedOf_names, correctSpec_names]
  constructor
  · rintro ⟨-, hne, hall⟩
    refine ⟨hne, fun hempty => ?_⟩
    have hmem := (mem_filter.mp (hall "" hempty)).2
    simp at hmem
  · rintro ⟨hne, hempty⟩
    have hall : ∀ n ∈ eff.names, n ∈ eff.names.filter (· ≠ "") := by
      intro n hn
      refine mem_filter.mpr ⟨hn, decide_eq_true ?_⟩
      rintro rfl
      exact hempty hn
    obtain ⟨n, hn⟩ := exists_mem_of_ne_nil _ hne
    rw [if_neg hne]
    exact ⟨ne_nil_of_mem (hall n hn), hne, hall⟩

theorem corrected_selection_iff :
    ((approvedOf (correctSpec blacklist spec eff) []).isNamespaceWide = true ∨
      selectionDrift (approvedOf (correctSpec blacklist spec eff) []) eff = none) ↔
      SelectorFits spec eff := by
  unfold SelectorFits
  rw [selectionDrift_eq_none, corrected_names_match_iff]
  cases hl : eff.labels.isEmpty with
  | false => exact iff_of_true (.inr (.inr (corrected_labels_match hl))) (.inl rfl)
  | true =>
    have hno : checkLabelsSuperset (approvedOf (correctSpec blacklist spec eff) []) eff =
        false := by
      unfold checkLabelsSuperset
      simp [hl]
    have hall : ((if eff.names = [] then spec.names else eff.names).filter
        (· ≠ "")).isEmpty = true ↔
        ∀ n ∈ (if eff.names = [] then spec.names else eff.names), n = "" := by simp
    rw [hno, approvedOf_isNamespaceWide, correctSpec_names, correctSpec_labels_kept hl,
      Bool.and_eq_true, hall]
    simp only [Bool.true_eq_false, Bool.false_eq_true, or_false, false_or]
    exact ⟨fun h => h.elim (fun hw => .inr hw.symm) .inl,
      fun h => h.elim .inr (fun hw => .inl hw.symm)⟩

theorem corrected_relation : scopeRelation (approvedOf (correctSpec blacklist spec eff) []) eff =
      scopeRelation (approvedOf spec []) eff := by
  unfold scopeRelation
  simp [specScope_correctSpec]

theorem corrected_faultType_iff :
    faultTypeDrift (approvedOf (correctSpec blacklist spec eff) []) eff = none ↔
      FaultTypeFits spec eff := by
  rw [faultTypeDrift_eq_none]
  simp [FaultTypeFits, specTarget_correctSpec]

theorem keeps_namespace_of_secondary (h : scopeRelation (approvedOf spec []) eff = .secondary) :
    clusterScopedKinds.contains (specScope spec) = true ∨
      workloadScopes.contains (specScope spec) = true := by
  have hmem := scopeRelation_cases.2 h
  rw [approvedOf_secondaryScopes] at hmem
  unfold secondaryScopesOf at hmem
  split at hmem
  · next hc => exact .inl hc
  split at hmem
  · next hw => exact .inr hw
  · cases hmem

theorem onCluster_of_same (h : scopeRelation (approvedOf spec []) eff = .same)
    (hc : clusterScopedKinds.contains (specScope spec) = true) : OnCluster eff := by
  rw [scopeRelation_same_iff, approvedOf_scope, canonicaliseKind_cluster hc] at h
  unfold OnCluster
  rw [← h]
  exact hc

theorem onCluster_of_owner (h : scopeRelation (approvedOf spec []) eff = .owner)
    (hc : clusterScopedKinds.contains (specScope spec) = true) : OnCluster eff := by
  have hall : ∀ s ∈ clusterScopedKinds, (ownerScopes.lookup s).getD [] = [] := by decide
  have hmem := scopeRelation_cases.1 h
  rw [approvedOf_scope, canonicaliseKind_cluster hc, hall _ (contains_iff_mem.mp hc)] at hmem
  cases hmem

theorem corrected_allow_iff (hblack : blacklist.contains eff.ns = false)
    (hcompared : Compared eff) : (targetDriftGuard eff (if specScope spec = "" then none
      else some (approvedOf (correctSpec blacklist spec eff) []))).verdict = .allow ↔
      Settles spec eff := by
  by_cases hscope : specScope spec = ""
  · rw [if_pos hscope]
    exact iff_of_false targetDriftGuard_none_ne_allow fun h => h.scope hscope
  rw [if_neg hscope, targetDriftGuard_allow_iff, and_iff_right hcompared]
  have hsettles : Settles spec eff ↔ FaultTypeFits spec eff ∧ KindFits spec eff :=
    ⟨fun h => ⟨h.faultType, h.kind⟩, fun h => ⟨hscope, h.1, h.2⟩⟩
  have hrel := @corrected_relation blacklist spec eff
  rw [hsettles, and_comm]
  rw [kindFits_iff]
  cases hkind : scopeRelation (approvedOf spec []) eff with
  | same =>
    rw [hkind] at hrel
    rw [targetDrift_same hrel, corrected_primary_iff hblack (onCluster_of_same hkind),
      corrected_selection_iff, corrected_faultType_iff, ← and_assoc]
    simp only [true_and, reduceCtorEq, false_and, or_false]
  | owner =>
    rw [hkind] at hrel
    have howner : ownerDrift (approvedOf (correctSpec blacklist spec eff) []) eff = none :=
      ownerDrift_eq_none.mpr (.inl (approvedOf_ownerNames _ _))
    rw [targetDrift_owner hrel, corrected_primary_iff hblack (onCluster_of_owner hkind), howner,
      corrected_faultType_iff]
    simp only [true_and, reduceCtorEq, false_and, or_false, false_or, or_true]
  | secondary =>
    rw [hkind] at hrel
    rw [targetDrift_secondary hrel,
      corrected_secondary_iff hblack (keeps_namespace_of_secondary hkind), corrected_faultType_iff]
    simp only [true_and, reduceCtorEq, false_and, false_or]
  | drift =>
    rw [hkind] at hrel
    refine iff_of_false (targetDrift_drift hrel) ?_
    simp only [reduceCtorEq, false_and, or_false, not_false_eq_true]

end

/-! ## The node -/

def Screening.asksUser : Screening → Bool
  | .finished _ => false
  | .interrupted _ _ => true

def verdictAfterApproval (depth : Nat) (settings : Settings) (state : AgentState)
    (tc : ToolCall) : Except PyError (Option GuardVerdict) := do
  let delta ← toolScreenerAnswered depth settings state (.str "approved")
  match delta.correction with
  | none => return none
  | some (_, frozen) =>
    let approved ← approvedFromDict (frozen.map .obj)
    return some (screenCall depth settings.skillScriptDefaultAllow approved tc).verdict

section

variable {depth : Nat} {settings : Settings} {state : AgentState}
  {approved : Option ApprovedTarget}

def firstDrifted (depth : Nat) (settings : Settings) (state : AgentState)
    (approved : Option ApprovedTarget) : Option ToolCall :=
  state.pendingCalls.find? fun tc =>
    (screenCall depth settings.skillScriptDefaultAllow approved tc).isDrift

theorem toolScreener_asks {screening : Screening}
    (happroved : approvedFromDict state.approvedTarget = .ok approved)
    (h : toolScreener depth settings state = .ok screening) (hasks : screening.asksUser = true) :
    ∃ info rejections, screening = .interrupted info (resumeDrift settings state rejections
      ((firstDrifted depth settings state approved).bind fun tc =>
        (screenCall depth settings.skillScriptDefaultAllow approved tc).effective)) := by
  unfold toolScreener at h
  cases hturn : state.pendingTurn with
  | none =>
    simp only [hturn] at h
    cases h
    cases hasks
  | some msg =>
    simp only [hturn] at h
    obtain ⟨approved', happ', h⟩ := bind_eq_ok.mp h
    rw [happroved] at happ'
    cases happ'
    have hfirst : ((screenCalls depth settings approved msg.toolCalls).filter
        CallDecision.isDrift).head?.bind CallDecision.effective =
        (firstDrifted depth settings state approved).bind fun tc =>
          (screenCall depth settings.skillScriptDefaultAllow approved tc).effective := by
      unfold firstDrifted screenCalls
      rw [pendingCalls_of_turn hturn, List.head?_filter, List.find?_map, bind_map]
      rfl
    split at h
    · cases h
      cases hasks
    split at h
    · unfold screenDrift at h
      dsimp only at h
      rw [hfirst] at h
      split at h
      · cases h
        cases hasks
      split at h
      · cases h
        cases hasks
      obtain ⟨agentReason, -, hi⟩ := bind_eq_ok.mp h
      cases hi
      exact ⟨_, _, rfl⟩
    · cases h
      cases hasks

end

/-- Approving a drift settles it exactly if the spec and the call are related as
`Settles` says. -/
theorem approved_drift_settled_iff {depth : Nat} {settings : Settings} {state : AgentState}
    {approved : Option ApprovedTarget} {spec : FaultSpec} {tc : ToolCall} {eff : EffectiveTarget}
    (hspec : state.faultSpec = some spec)
    (happroved : approvedFromDict state.approvedTarget = .ok approved)
    (hasks : (toolScreener depth settings state).map Screening.asksUser = .ok true)
    (hfirst : firstDrifted depth settings state approved = some tc)
    (heff : inferEffectiveTarget depth tc.name tc.args settings.skillScriptDefaultAllow = .ok eff)
    (hblack : settings.blacklistNamespaces.contains eff.ns = false) :
    verdictAfterApproval depth settings state tc = .ok (some .allow) ↔ Settles spec eff := by
  obtain ⟨screening, hscreen, hask⟩ := map_eq_ok.mp hasks
  obtain ⟨info, rejections, rfl⟩ := toolScreener_asks happroved hscreen hask
  have heffective : ∀ a, screenCall depth settings.skillScriptDefaultAllow a tc =
      { toolCallId := tc.id, toolName := tc.name
        verdict := (targetDriftGuard eff a).verdict
        reason := (targetDriftGuard eff a).reason
        suggestion := (targetDriftGuard eff a).suggestion
        effective := some eff } := by
    intro a
    unfold screenCall
    rw [heff]
  have hdrift : (targetDriftGuard eff approved).verdict = .rejectDrift := by
    have hd := List.find?_some hfirst
    rw [CallDecision.isDrift, heffective, beq_iff_eq] at hd
    exact hd
  have hround := approved_roundtrip (correctSpec settings.blacklistNamespaces spec eff) []
  obtain ⟨frozen, hfrozen, hread⟩ := bind_eq_ok.mp hround
  rw [specScope_correctSpec] at hread
  rw [← corrected_allow_iff hblack (compared_of_rejectDrift hdrift)]
  unfold verdictAfterApproval toolScreenerAnswered
  simp [hscreen, hfirst, heffective, Screening.answered, resumeDrift, applyDriftCorrection, hspec,
    hfrozen, hread, bind, Except.bind, pure, Except.pure]

def webSpec : FaultSpec :=
  { ns := "prod", scope := "pod", names := ["web"], bladeTarget := "cpu"
    bladeAction := "fullload" }

def pendingUnder (tc : ToolCall) : AgentState :=
  { messages := [.ai { toolCalls := [tc] }], faultSpec := some webSpec
    approvedTarget := some (.obj (approvedFields (approvedOf webSpec [])))
    interactionMode := "tui" }

def deleteService : ToolCall :=
  { name := "kubectl", id := "1"
    args := .obj [("subcommand", .str "delete"), ("v_args", .str "service web -n prod")] }

def loadMemory : ToolCall :=
  { name := "blade_create", id := "1"
    args := .obj [("scope", .str "pod"), ("target", .str "mem"), ("action", .str "load"),
      ("namespace", .str "prod"), ("names", .str "web")] }

/-- The user approves another kind, or another fault type; the call still
drifts. -/
theorem approved_kind_still_drifts :
    (toolScreener 1 {} (pendingUnder deleteService)).map Screening.asksUser = .ok true ∧
    verdictAfterApproval 1 {} (pendingUnder deleteService) deleteService = .ok (some .rejectDrift) ∧
    (toolScreener 1 {} (pendingUnder loadMemory)).map Screening.asksUser = .ok true ∧
    verdictAfterApproval 1 {} (pendingUnder loadMemory) loadMemory = .ok (some .rejectDrift) := by
  decide +kernel

def otherPod : EffectiveTarget :=
  { scope := "pod", ns := "prod", names := ["other"]
    rawCommand := "kubectl(subcommand='delete', v_args='pod other -n prod')" }

/-- The user approves another pod; the call then passes. -/
theorem approved_name_passes :
    verdictAfterApproval 1 {} (pendingUnder deleteOther) deleteOther = .ok (some .allow) := by
  have happroved : approvedFromDict (pendingUnder deleteOther).approvedTarget =
      .ok (some (approvedOf webSpec [])) := by decide +kernel
  have hasks : (toolScreener 1 {} (pendingUnder deleteOther)).map Screening.asksUser =
      .ok true := by
    decide +kernel
  have hfirst : firstDrifted 1 {} (pendingUnder deleteOther) (some (approvedOf webSpec [])) =
      some deleteOther := List.find?_cons_of_pos (by decide +kernel)
  have heff : inferEffectiveTarget 1 deleteOther.name deleteOther.args true = .ok otherPod := by
    decide +kernel
  have hsettles : Settles webSpec otherPod :=
    { scope := by decide +kernel
      faultType := .inr (.inl rfl)
      kind := .same (by decide +kernel)
        (.inr (.inr (.inl ⟨by decide, by decide⟩)))
        (.inr (.inl ⟨by decide, by decide⟩)) }
  exact (approved_drift_settled_iff rfl happroved hasks hfirst heff (by decide)).mpr
      hsettles

end ChaosBlade.Nodes
