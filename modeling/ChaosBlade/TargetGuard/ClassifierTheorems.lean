/-
TargetGuard.ClassifierTheorems: the path of a call through
the classifier.

A kubectl call given as an argument list reaches `classifyVerb` with the
verb that `findSubcommandIndex` picked and the arguments after it.
-/
import ChaosBlade.TargetGuard.Classifier

namespace ChaosBlade.TargetGuard

open Py List

def rawOfArgv (args : List String) : String := formatRawCommand "kubectl" (strList args)

theorem inferEffectiveTarget_argv (depth : Nat) (args : List String) (allowed : Bool) :
    inferEffectiveTarget depth "kubectl" (strList args) allowed =
      classifyKubectl depth args (rawOfArgv args) none := by
  have hargs : coerceArgsList (strList args) = args := strList_map_toStr args
  have hro : readonlyTools.contains "kubectl" = false := by decide
  have hscript : ["_execute_skill_script", "execute_skill_script"].contains "kubectl" = false := by
    decide
  have hkubectl : ["kubectl", "kubectl_verify"].contains "kubectl" = true := by decide
  have hblade : ¬ "kubectl" = "blade_create" := by decide
  simp only [inferEffectiveTarget, hro, hscript, hkubectl, hblade, hargs, rawOfArgv, if_true,
    if_false, Bool.false_eq_true]
  rfl

theorem classifyKubectl_at {pre rest : List String} {verb : String}
    (hsub : findSubcommandIndex (pre ++ verb :: rest) = some pre.length)
    (depth : Nat) (raw : String) (rawArgs : Option (List (String × Json))) :
    classifyKubectl (depth + 1) (pre ++ verb :: rest) raw rawArgs =
      classifyVerb (fun inner => classifyKubectl depth inner raw none) verb
        (propagateNamespace pre rest) raw rawArgs := by
  have htake : (pre ++ verb :: rest).take pre.length = pre := take_left' rfl
  have hdrop : (pre ++ verb :: rest).drop (pre.length + 1) = rest := by
    rw [← drop_drop, drop_left' rfl]
    rfl
  have hget : (pre ++ verb :: rest).getD pre.length "" = verb := by simp
  rw [classifyKubectl, classifyKubectlWith]
  simp [hsub]

theorem classifyKubectl_no_verb {args : List String} (h : findSubcommandIndex args = none)
    (depth : Nat) (raw : String) (rawArgs : Option (List (String × Json))) :
    classifyKubectl (depth + 1) args raw rawArgs = .ok (.unknown raw) := by
  rw [classifyKubectl, classifyKubectlWith, h]

theorem findSubcommandIndex_cut : ∀ {args : List String} {i : Nat},
    findSubcommandIndex args = some i → ∃ pre verb rest, args = pre ++ verb :: rest ∧ pre.length = i
  | [], i, h => by simp [findSubcommandIndex] at h
  | a :: args, i, h => by
    rw [findSubcommandIndex_cons] at h
    split at h
    · cases h
      exact ⟨[], a, args, rfl, rfl⟩
    split at h
    · obtain ⟨j, hj, rfl⟩ := Option.map_eq_some_iff.mp h
      obtain ⟨pre, verb, rest, rfl, rfl⟩ := findSubcommandIndex_cut hj
      exact ⟨a :: pre, verb, rest, rfl, rfl⟩
    · obtain ⟨j, hj, rfl⟩ := Option.map_eq_some_iff.mp h
      cases args with
      | nil => simp [findSubcommandIndex] at hj
      | cons v args =>
        obtain ⟨pre, verb, rest, hargs, rfl⟩ := findSubcommandIndex_cut hj
        refine ⟨a :: v :: pre, verb, rest, ?_, rfl⟩
        rw [cons_append, cons_append, ← hargs]
        rfl

/-! ## The fields of `blade_create` -/

def bladeScopes : List String := ["pod", "container", "node"]

theorem parseLabelString_empty : parseLabelString "" = ∅ := by decide

theorem bladeScope_of_mem {scope : String} (h : scope ∈ bladeScopes) (target : String) :
    bladeScope (lower scope) target = if scope = "node" then "node" else "pod" := by
  have hall : ∀ s ∈ bladeScopes, lower s ≠ "" ∧
      canonicaliseKind (lower s) = if s = "node" then "node" else "pod" := by decide
  obtain ⟨hne, hkind⟩ := hall scope h
  unfold bladeScope
  dsimp only
  rw [if_neg hne, hkind]
  by_cases hn : scope = "node"
  · rw [if_pos hn, if_pos (Or.inr rfl)]
  · rw [if_neg hn, if_pos (Or.inl rfl)]

variable (s : String)

theorem bladeNames_str : bladeNames (some (.str s)) = .ok (csv s) := by
  have hcsv : csv "" = [] := by decide
  by_cases h : s = "" <;> simp [bladeNames, h, hcsv]

theorem bladeLabels_str : bladeLabels (some (.str s)) = .ok (parseLabelString s) := by
  by_cases h : s = "" <;> simp [bladeLabels, h, parseLabelString_empty]

theorem firstTruthy_str_cons (v : String) (rest : List (Option Json)) :
    firstTruthy (some (.str v) :: rest) = if v = "" then firstTruthy rest else v := by
  by_cases h : v = "" <;> simp [firstTruthy]

theorem firstTruthy_str : firstTruthy [some (.str s), none] = s := by
  by_cases h : s = "" <;> simp [firstTruthy]

/-! ## The inner command of `exec` -/

theorem extractAfterDoubleDash_subset : ∀ (args : List String), extractAfterDoubleDash args ⊆ args
  | [] => by simp [extractAfterDoubleDash]
  | a :: args => by
    rw [extractAfterDoubleDash]
    split
    · exact subset_cons_self _ _
    · exact subset_cons_of_subset a (extractAfterDoubleDash_subset args)

theorem hasHelpFlag_of_inner {args : List String}
    (h : hasHelpFlag (extractAfterDoubleDash args) = true) : hasHelpFlag args = true := by
  have hmem : ∀ t, t ∈ extractAfterDoubleDash args → t ∈ args := fun t ht =>
    extractAfterDoubleDash_subset args ht
  simp only [hasHelpFlag, Bool.or_eq_true, contains_iff_mem] at h ⊢
  exact h.imp (hmem _) (hmem _)

theorem classifyInlineBlade_create (words : List String) (raw fallbackNs fallbackPod : String) :
    classifyInlineBlade ("blade" :: "create" :: words) raw fallbackNs fallbackPod =
      if words.head? = some "k8s" then
        inlineBladeTarget true ((words.drop 1).headD "") ((words.drop 1).drop 1) raw fallbackNs
          fallbackPod
      else inlineBladeTarget false (words.headD "") (words.drop 1) raw fallbackNs fallbackPod := by
  by_cases hk : words.head? = some "k8s"
  · have hb : (words.head? == some "k8s") = true := by simp [hk]
    rw [if_pos hk]
    simp [classifyInlineBlade, hb]
  · have hb : (words.head? == some "k8s") = false := by simpa using hk
    rw [if_neg hk]
    simp [classifyInlineBlade, hb]

theorem classifyInlineBlade_not_create {words : List String} (h : words.head? ≠ some "create")
    (raw fallbackNs fallbackPod : String) :
    classifyInlineBlade ("blade" :: words) raw fallbackNs fallbackPod = .readonly raw := by
  unfold classifyInlineBlade
  split
  · next heq =>
    cases heq
    simp at h
  · rfl

end ChaosBlade.TargetGuard
