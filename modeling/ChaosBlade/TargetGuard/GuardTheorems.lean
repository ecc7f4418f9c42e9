/-
TargetGuard.GuardTheorems: when the guard allows a call.

`targetDriftGuard_allow_iff` reads the numbered steps of the guard off as
one condition: the call names a resource (`Compared`) and no step finds a
drift.
-/
import ChaosBlade.TargetGuard.Guard

namespace ChaosBlade.TargetGuard

open Py Option

variable {approved : ApprovedTarget} {effective : EffectiveTarget} {d : GuardDecision}

def Compared (effective : EffectiveTarget) : Prop :=
  effective.scope ∉ sentinelScopes ∧ effective.confidence ≠ .unknown

theorem not_mem_sentinelScopes {scope : String} : scope ∉ sentinelScopes ↔
      scope ≠ scopeReadonly ∧ scope ≠ scopeBanned ∧ scope ≠ scopeUnknown := by simp [sentinelScopes]

/-! ## Every step rejects as a drift -/

def Drifts (step : Option GuardDecision) : Prop := ∀ d ∈ step, d.verdict = .rejectDrift

namespace Drifts

variable {x y : Option GuardDecision}

protected theorem none : Drifts none := nofun

protected theorem some (h : d.verdict = .rejectDrift) : Drifts (some d) := by
  rintro _ ⟨⟩
  exact h

protected theorem or (hx : Drifts x) (hy : Drifts y) : Drifts (x.or y) := by
  cases x with
  | none => exact hy
  | some d => exact hx

protected theorem ite {c : Prop} [Decidable c] (hx : Drifts x) (hy : Drifts y) :
    Drifts (if c then x else y) := by
  split
  · exact hx
  · exact hy

protected theorem primary : Drifts (primaryNamespaceDrift approved effective) := by
  unfold primaryNamespaceDrift
  exact .ite .none (.ite .none (.some rfl))

protected theorem secondary : Drifts (secondaryNamespaceDrift approved effective) := by
  unfold secondaryNamespaceDrift
  exact .ite (.ite .none (.some rfl)) (.ite .none (.some rfl))

protected theorem owner : Drifts (ownerDrift approved effective) := .ite (.some rfl) .none

protected theorem selection : Drifts (selectionDrift approved effective) := .ite .none (.some rfl)

protected theorem faultType : Drifts (faultTypeDrift approved effective) := by
  unfold faultTypeDrift
  exact .ite (.some rfl) .none

end Drifts

theorem targetDrift_verdict (h : targetDrift approved effective = some d) :
    d.verdict = .rejectDrift := by
  have hdrifts : Drifts (targetDrift approved effective) := by
    unfold targetDrift
    split
    · exact .some rfl
    · exact .or .secondary .faultType
    · exact .or .primary (.or (.ite .none .owner) .faultType)
    · exact .or .primary (.or (.ite .none .selection) .faultType)
  exact hdrifts d h

theorem targetDriftGuard_allow_iff : (targetDriftGuard effective (some approved)).verdict = .allow ↔
      Compared effective ∧ targetDrift approved effective = none := by
  unfold Compared targetDriftGuard
  rw [not_mem_sentinelScopes]
  by_cases hr : effective.scope = scopeReadonly
  · simp [hr]
  by_cases hb : effective.scope = scopeBanned
  · simp [hb]
  by_cases hu : effective.scope = scopeUnknown
  · simp [hu]
  by_cases hc : effective.confidence = .unknown
  · simp [hr, hb, hu, hc]
  simp only [hr, hb, hu, hc, ne_eq]
  cases hd : targetDrift approved effective with
  | none => simp
  | some d => simp [targetDrift_verdict hd]

theorem targetDriftGuard_none_ne_allow : (targetDriftGuard effective none).verdict ≠ .allow := by
  unfold targetDriftGuard
  split
  · simp
  split
  · simp
  split <;> simp

theorem compared_of_rejectDrift {approved : Option ApprovedTarget}
    (h : (targetDriftGuard effective approved).verdict = .rejectDrift) : Compared effective := by
  unfold Compared
  rw [not_mem_sentinelScopes]
  unfold targetDriftGuard at h
  split at h
  · cases h
  next hr =>
  split at h
  · cases h
  next hb =>
  split at h
  · cases h
  next hu =>
  cases approved with
  | none => cases h
  | some approved =>
    dsimp only at h
    split at h
    · cases h
    next hc => exact ⟨⟨hr, hb, hu⟩, hc⟩

/-! ## When a step stays silent -/

theorem primaryNamespaceDrift_eq_none : primaryNamespaceDrift approved effective = none ↔
      clusterScopedKinds.contains (canonicaliseKind effective.scope) = true ∨
      effective.isTier1Exec = true ∨ orDefault approved.ns = orDefault effective.ns := by
  unfold primaryNamespaceDrift
  by_cases hx : (clusterScopedKinds.contains (canonicaliseKind effective.scope) ||
      effective.isTier1Exec) = true
  · rw [if_pos hx]
    rw [Bool.or_eq_true] at hx
    simp only [true_iff]
    rcases hx with hx | hx
    · exact Or.inl hx
    · exact Or.inr (Or.inl hx)
  · rw [if_neg hx]
    rw [Bool.or_eq_true, not_or] at hx
    by_cases hns : orDefault approved.ns = orDefault effective.ns
    · simp [hns]
    · simp only [hns, if_false, reduceCtorEq, false_iff, or_false]
      rintro (h | h)
      · exact hx.1 h
      · exact hx.2 h

theorem secondaryNamespaceDrift_eq_none : secondaryNamespaceDrift approved effective = none ↔
      (clusterScopedKinds.contains (canonicaliseKind effective.scope) = true ∧
        effective.bladeTarget = "") ∨
      (clusterScopedKinds.contains (canonicaliseKind effective.scope) = false ∧
        (orDefault approved.secondaryNamespace = orDefault effective.ns ∨
          toolPodNamespaces.contains (orDefault effective.ns) = true)) := by
  unfold secondaryNamespaceDrift
  dsimp only
  cases hc : clusterScopedKinds.contains (canonicaliseKind effective.scope) with
  | true =>
    by_cases hb : effective.bladeTarget = ""
    · simp [hb]
    · simp [hb]
  | false =>
    by_cases hns : (decide (orDefault approved.secondaryNamespace = orDefault effective.ns) ||
        toolPodNamespaces.contains (orDefault effective.ns)) = true
    · rw [if_neg (by decide), if_pos hns]
      simpa using hns
    · rw [if_neg (by decide), if_neg hns]
      simpa using hns

theorem ownerDrift_eq_none : ownerDrift approved effective = none ↔
      approved.ownerNames = [] ∨ effective.names = [] ∨
      ∀ n ∈ effective.names, n ∈ approved.ownerNames := by
  unfold ownerDrift
  by_cases ho : approved.ownerNames = []
  · simp [ho]
  by_cases hn : effective.names = []
  · simp [hn]
  · simp [ho, hn]

theorem selectionDrift_eq_none : selectionDrift approved effective = none ↔
      checkNamesSubset approved effective = true ∨
      checkLabelsSuperset approved effective = true := by
  unfold selectionDrift
  rw [← Bool.or_eq_true]
  cases checkNamesSubset approved effective || checkLabelsSuperset approved effective with
  | true => simp
  | false => simp

theorem faultTypeDrift_eq_none : faultTypeDrift approved effective = none ↔
      approved.lockFaultType = false ∨ lower approved.bladeTarget = "" ∨
      lower effective.bladeTarget = "" ∨
      lower approved.bladeTarget = lower effective.bladeTarget := by
  unfold faultTypeDrift
  cases hl : approved.lockFaultType with
  | false => simp
  | true =>
    by_cases ha : lower approved.bladeTarget = ""
    · simp [ha]
    by_cases he : lower effective.bladeTarget = ""
    · simp [he]
    by_cases hae : lower approved.bladeTarget = lower effective.bladeTarget
    · simp [hae]
    · simp [ha, he]

theorem checkNamesSubset_iff : checkNamesSubset approved effective = true ↔
      approved.names ≠ [] ∧ effective.names ≠ [] ∧ ∀ n ∈ effective.names, n ∈ approved.names := by
  unfold checkNamesSubset
  simp [and_assoc]

theorem checkLabelsSuperset_iff : checkLabelsSuperset approved effective = true ↔
      approved.labels.isEmpty = false ∧ effective.labels.isEmpty = false ∧
      ∀ e ∈ approved.labels.entries, effective.labels.get? e.1 = some e.2 := by
  unfold checkLabelsSuperset
  simp [and_assoc]

/-! ## Silence of all steps, by how the kinds relate -/

theorem targetDrift_same (h : scopeRelation approved effective = .same) :
    targetDrift approved effective = none ↔ primaryNamespaceDrift approved effective = none ∧
      (approved.isNamespaceWide = true ∨ selectionDrift approved effective = none) ∧
      faultTypeDrift approved effective = none := by
  unfold targetDrift
  rw [h]
  cases hw : approved.isNamespaceWide with
  | true => simp
  | false => simp

theorem targetDrift_owner (h : scopeRelation approved effective = .owner) :
    targetDrift approved effective = none ↔ primaryNamespaceDrift approved effective = none ∧
      (approved.isNamespaceWide = true ∨ ownerDrift approved effective = none) ∧
      faultTypeDrift approved effective = none := by
  unfold targetDrift
  rw [h]
  cases hw : approved.isNamespaceWide with
  | true => simp
  | false => simp

theorem targetDrift_secondary (h : scopeRelation approved effective = .secondary) :
    targetDrift approved effective = none ↔ secondaryNamespaceDrift approved effective = none ∧
      faultTypeDrift approved effective = none := by
  unfold targetDrift
  rw [h]
  simp

theorem targetDrift_drift (h : scopeRelation approved effective = .drift) :
    targetDrift approved effective ≠ none := by
  unfold targetDrift
  rw [h]
  simp

theorem scopeRelation_same_iff : scopeRelation approved effective = .same ↔
      canonicaliseKind approved.scope = canonicaliseKind effective.scope := by
  unfold scopeRelation
  constructor
  · intro h
    by_contra hne
    rw [if_neg hne] at h
    split at h
    · cases h
    · split at h
      · cases h
      · cases h
  · intro h
    rw [if_pos h]

theorem scopeRelation_cases :
    (scopeRelation approved effective = .owner → canonicaliseKind effective.scope ∈
        (ownerScopes.lookup (canonicaliseKind approved.scope)).getD []) ∧
    (scopeRelation approved effective = .secondary →
      canonicaliseKind effective.scope ∈ approved.secondaryScopes) := by
  unfold scopeRelation
  dsimp only
  split
  · exact ⟨nofun, nofun⟩
  split
  · next ho => exact ⟨fun _ => List.contains_iff_mem.mp ho, nofun⟩
  split
  · next hs => exact ⟨nofun, fun _ => List.contains_iff_mem.mp hs⟩
  · exact ⟨nofun, nofun⟩

theorem faultTypeDrift_of_no_bladeTarget (h : effective.bladeTarget = "") :
    faultTypeDrift approved effective = none :=
  faultTypeDrift_eq_none.mpr (Or.inr (Or.inr (Or.inl (by rw [h]; decide))))

end ChaosBlade.TargetGuard
