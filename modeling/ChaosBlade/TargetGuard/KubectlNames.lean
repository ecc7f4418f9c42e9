/-
TargetGuard.KubectlNames: which names a kubectl command line
acts on, and which of them the guard compares.

`commandTarget` is kubectl's own reading: the positional words of the
command line (`Cli.read`, for any table of flags that take values), as
`KIND NAME...`, as `KIND/NAME...`, or as bare names for the verbs that
act on nodes and pods only.
-/
import ChaosBlade.Cli.Pflag
import ChaosBlade.TargetGuard.ClassifierTheorems
import ChaosBlade.TargetGuard.GuardTheorems

namespace ChaosBlade.TargetGuard

open Py List
open ChaosBlade.Cli (FlagTable)

/-! ## Kubectl's reading -/

def nodeVerbs : List String := ["cordon", "uncordon", "drain"]

def podVerbs : List String := ["attach", "port-forward"]

def resourceVerbs : List String :=
  ["scale", "patch", "set", "delete", "edit", "replace", "label", "annotate", "autoscale",
   "expose", "create", "apply"]

def namedVerbs : List String := nodeVerbs ++ podVerbs ++ resourceVerbs ++ ["taint", "rollout"]

/-- A change request after the names: `key=value`, `key-`, `key=value:Effect`. -/
def isPair (w : String) : Bool := hasChar '=' w || w.toList.getLast? == some '-'

/-- The words that name resources, without the sub-subcommand in front and the
change requests behind. -/
def resourceWords (verb : String) (ws : List String) : List String :=
  if verb = "rollout" then ws.drop 1
  else if verb = "set" then
    if ["serviceaccount", "sa"].contains (ws.headD "") then (ws.drop 1).dropLast
    else (ws.drop 1).takeWhile (fun w => !isPair w)
  else if ["label", "annotate", "taint"].contains verb then ws.takeWhile (fun w => !isPair w)
  else if podVerbs.contains verb then ws.take 1
  else ws

/-- The kind and the names a command line acts on, from the arguments after the
verb. -/
def commandTarget (T : FlagTable) (verb : String) (rest : List String) : String × List String :=
  let ws := ((Cli.read T rest).map Cli.words).getD []
  if nodeVerbs.contains verb then ("node", ws)
  else
    match resourceWords verb ws with
    | [] => ("", [])
    | w :: more =>
      if hasChar '/' w then (beforeChar '/' w, (w :: more).map (afterChar '/'))
      else if podVerbs.contains verb then ("pod", [w])
      else (w, more)

/-! ## The classifier's reading -/

def nameList (name : String) : List String := if name = "" then [] else [name]

/-- The kind and names the classifier takes from the arguments after the verb. -/
def scannedTarget (verb : String) (rest : List String) : Option (String × List String) :=
  if nodeVerbs.contains verb then
    if firstPositional rest = "" then none else some ("node", [firstPositional rest])
  else if verb = "taint" then
    match listPositionals rest with
    | kind :: node :: _ => if canonicaliseKind kind = "node" then some ("node", [node]) else none
    | _ => none
  else
    (resolveKindName (if podVerbs.contains verb then some "pod" else none)
      (listPositionals (if verb = "rollout" then rest.drop 1 else rest))).map
      fun t => (t.1, nameList t.2)

/-- The classifier answers without looking at a resource: file input, a help
flag, a query, or words it cannot make a kind of. -/
def Uncompared (verb : String) (rest : List String) : Prop :=
  (fileInputSubs.contains verb = true ∧ usesFileInput rest = true) ∨
  hasHelpFlag rest = true ∨
  (verb = "rollout" ∧ readonlyRolloutSubs.contains (rest.headD "") = true) ∨
  scannedTarget verb rest = none ∨
  ∃ t, scannedTarget verb rest = some t ∧ canonicaliseKind t.1 ∈ "" :: sentinelScopes

structure Reads (t : String × List String) (effective : EffectiveTarget) : Prop where
  scope : effective.scope = canonicaliseKind t.1
  names : effective.names = t.2
  bladeTarget : effective.bladeTarget = ""
  notTier1 : effective.isTier1Exec = false
  confidence : effective.confidence ≠ .unknown

/-- What a per-verb classifier makes of a scanned target. -/
inductive ReadsAs : Option (String × List String) → EffectiveTarget → Prop
  | unresolved (raw : String) : ReadsAs none (.unknown raw)
  | noKind {t : String × List String} (raw : String) (hkind : canonicaliseKind t.1 = "") :
      ReadsAs (some t) (.unknown raw)
  | resolved {t : String × List String} {effective : EffectiveTarget}
      (hkind : canonicaliseKind t.1 ≠ "") (h : Reads t effective) : ReadsAs (some t) effective

theorem canonicaliseKind_node : canonicaliseKind "node" = "node" := by decide

theorem readsAs_node (node raw : String) : ReadsAs (some ("node", [node]))
      { scope := "node", ns := "", names := [node], rawCommand := raw } := by
  apply ReadsAs.resolved
  · rw [canonicaliseKind_node]
    decide
  · constructor
    · rw [canonicaliseKind_node]
    · rfl
    · rfl
    · rfl
    · simp

theorem classifyKubectlResource_reads (dk : Option String) (args : List String) (raw : String) :
    ReadsAs ((resolveKindName dk (listPositionals args)).map fun t => (t.1, nameList t.2))
      (classifyKubectlResource dk args raw) := by
  unfold classifyKubectlResource
  cases resolveKindName dk (listPositionals args) with
  | none => exact ReadsAs.unresolved raw
  | some t =>
    obtain ⟨kind, name⟩ := t
    by_cases hkind : canonicaliseKind kind = ""
    · simp only [hkind]
      exact ReadsAs.noKind raw hkind
    · simp only [hkind, if_false]
      refine ReadsAs.resolved hkind ⟨rfl, rfl, rfl, rfl, ?_⟩
      dsimp only
      split <;> simp

theorem classifyKubectlNodeOp_reads (args : List String) (raw : String) :
    ReadsAs (if firstPositional args = "" then none else some ("node", [firstPositional args]))
      (classifyKubectlNodeOp args raw) := by
  unfold classifyKubectlNodeOp
  by_cases h : firstPositional args = ""
  · simp only [h]
    exact ReadsAs.unresolved raw
  · simp only [h]
    exact readsAs_node _ raw

theorem classifyKubectlTaint_reads (args : List String) (raw : String) :
    ReadsAs (match listPositionals args with
      | kind :: node :: _ => if canonicaliseKind kind = "node" then some ("node", [node]) else none
      | _ => none) (classifyKubectlTaint args raw) := by
  unfold classifyKubectlTaint
  rcases listPositionals args with _ | ⟨kind, _ | ⟨node, more⟩⟩
  · exact ReadsAs.unresolved raw
  · exact ReadsAs.unresolved raw
  · by_cases h : canonicaliseKind kind = "node"
    · simp only [h]
      exact readsAs_node node raw
    · simp only [h]
      exact ReadsAs.unresolved raw

theorem dispatchVerb_reads {verb : String} (hverb : verb ∈ namedVerbs)
    (nested : List String → Except PyError EffectiveTarget) (rest : List String) (raw : String)
    (hquery : ¬ (verb = "rollout" ∧ readonlyRolloutSubs.contains (rest.headD "") = true)) :
    ∃ effective, dispatchVerb nested verb rest raw = .ok effective ∧
      ReadsAs (scannedTarget verb rest) effective := by
  simp only [namedVerbs, nodeVerbs, podVerbs, resourceVerbs, cons_append, nil_append,
    mem_cons, not_mem_nil, or_false] at hverb
  rcases hverb with rfl | rfl | rfl | rfl | rfl | rfl | rfl | rfl | rfl | rfl | rfl | rfl | rfl |
    rfl | rfl | rfl | rfl | rfl | rfl
  -- cordon, uncordon, drain
  iterate 3 exact ⟨_, rfl, classifyKubectlNodeOp_reads rest raw⟩
  -- attach, port-forward, then the twelve verbs without a default kind
  iterate 14 exact ⟨_, rfl, classifyKubectlResource_reads _ rest raw⟩
  · exact ⟨_, rfl, classifyKubectlTaint_reads rest raw⟩
  · have hq : readonlyRolloutSubs.contains (rest.headD "") = false := by simpa using hquery
    have hd : dispatchVerb nested "rollout" rest raw =
        if readonlyRolloutSubs.contains (rest.headD "") then .ok (.readonly raw)
        else .ok (classifyKubectlRollout rest raw) := rfl
    refine ⟨classifyKubectlRollout rest raw, ?_, ?_⟩
    · rw [hd, hq]
      rfl
    · cases rest with
      | nil => exact ReadsAs.unresolved raw
      | cons sub more => exact classifyKubectlResource_reads none more raw

theorem namedVerbs_not_banned : ∀ verb ∈ namedVerbs, bannedKubectlSubs.contains verb = false := by
  decide

theorem namedVerbs_not_readonly :
    ∀ verb ∈ namedVerbs, readonlyKubectlSubs.contains verb = false := by decide

attribute [local simp] sentinelScopes

theorem classifyVerb_named {verb : String} (hverb : verb ∈ namedVerbs)
    (nested : List String → Except PyError EffectiveTarget) (rest : List String) (raw : String) :
    ∃ effective, classifyVerb nested verb rest raw none = .ok effective ∧
      ((Uncompared verb rest ∧ effective.scope ∈ sentinelScopes) ∨
       (¬ Uncompared verb rest ∧ effective.scope ∉ sentinelScopes ∧
        ∃ t, scannedTarget verb rest = some t ∧ Reads t effective)) := by
  unfold classifyVerb
  rw [namedVerbs_not_banned verb hverb, if_neg Bool.false_ne_true]
  by_cases hfile : (fileInputSubs.contains verb && usesFileInput rest) = true
  · rw [if_pos hfile]
    rw [Bool.and_eq_true] at hfile
    exact ⟨.banned raw, rfl, .inl ⟨.inl hfile, by simp⟩⟩
  rw [if_neg hfile, namedVerbs_not_readonly verb hverb, if_neg Bool.false_ne_true]
  by_cases hhelp : hasHelpFlag rest = true
  · rw [if_pos hhelp]
    exact ⟨.readonly raw, rfl, .inl ⟨.inr (.inl hhelp), by simp⟩⟩
  rw [if_neg hhelp]
  by_cases hquery : verb = "rollout" ∧ readonlyRolloutSubs.contains (rest.headD "") = true
  · refine ⟨.readonly raw, ?_, .inl ⟨.inr (.inr (.inl hquery)), by simp⟩⟩
    simp only [dispatchVerb, hquery, if_true]
  obtain ⟨effective, heff, hreads⟩ := dispatchVerb_reads hverb nested rest raw hquery
  refine ⟨effective, heff, ?_⟩
  unfold Uncompared
  generalize scannedTarget verb rest = scanned at hreads ⊢
  cases hreads with
  | unresolved raw => exact .inl ⟨by simp, by simp⟩
  | @noKind t raw hkind => exact .inl ⟨by simp [hkind], by simp⟩
  | @resolved t _ hkind h =>
    by_cases hs : effective.scope ∈ sentinelScopes
    · refine .inl ⟨.inr (.inr (.inr (.inr ⟨t, rfl, ?_⟩))), hs⟩
      rw [← h.scope]
      exact mem_cons_of_mem _ hs
    · refine .inr ⟨?_, hs, t, rfl, h⟩
      rw [Bool.and_eq_true] at hfile
      rintro (hf | hh | hq | hnone | ⟨t', ht', hmem⟩)
      · exact hfile hf
      · exact hhelp hh
      · exact hquery hq
      · cases hnone
      · cases ht'
        rcases mem_cons.mp hmem with hk | hk
        · exact hkind hk
        · rw [← h.scope] at hk
          exact hs hk

/-! ## Names and approvals -/

/-- The approval is for the kind of the command: the comparison of the guard's
step 4 with a target of this kind. -/
def SameKind (approved : ApprovedTarget) (kind : String) : Prop :=
  canonicaliseKind approved.scope = canonicaliseKind (canonicaliseKind kind)

structure NamesOnly (approved : ApprovedTarget) : Prop where
  names : approved.names ≠ []
  labels : approved.labels.isEmpty = true
  notWide : approved.isNamespaceWide = false

section

variable {approved : ApprovedTarget} {effective : EffectiveTarget} {t : String × List String}

theorem names_of_allow (hsel : NamesOnly approved) (hreads : Reads t effective)
    (hkind : SameKind approved t.1)
    (hallow : (targetDriftGuard effective (some approved)).verdict = .allow) :
    t.2 ≠ [] ∧ ∀ n ∈ t.2, n ∈ approved.names := by
  obtain ⟨-, hdrift⟩ := targetDriftGuard_allow_iff.mp hallow
  have hsame : scopeRelation approved effective = .same := by
    rw [scopeRelation_same_iff, hreads.scope]
    exact hkind
  obtain ⟨-, hsel', -⟩ := (targetDrift_same hsame).mp hdrift
  rcases hsel' with hwide | hsel'
  · rw [hsel.notWide] at hwide
    cases hwide
  rcases selectionDrift_eq_none.mp hsel' with hn | hl
  · obtain ⟨-, hne, hall⟩ := checkNamesSubset_iff.mp hn
    rw [hreads.names] at hne hall
    exact ⟨hne, hall⟩
  · have hl' := (checkLabelsSuperset_iff.mp hl).1
    rw [hsel.labels] at hl'
    cases hl'

theorem allow_scanned_names (hreads : Reads t effective) (hs : effective.scope ∉ sentinelScopes)
    (hne : t.2 ≠ []) {scope : String}
    (hkind : canonicaliseKind scope = canonicaliseKind (canonicaliseKind t.1)) :
    (targetDriftGuard effective
      (some { scope, ns := effective.ns, names := t.2 })).verdict = .allow := by
  refine targetDriftGuard_allow_iff.mpr ⟨⟨hs, hreads.confidence⟩, ?_⟩
  have hsame : scopeRelation { scope, ns := effective.ns, names := t.2 } effective = .same := by
    rw [scopeRelation_same_iff, hreads.scope]
    exact hkind
  refine (targetDrift_same hsame).mpr ⟨?_, .inr ?_, ?_⟩
  · exact primaryNamespaceDrift_eq_none.mpr (.inr (.inr rfl))
  · refine selectionDrift_eq_none.mpr (.inl (checkNamesSubset_iff.mpr ?_))
    rw [hreads.names]
    exact ⟨hne, hne, fun n hn => hn⟩
  · exact faultTypeDrift_of_no_bladeTarget hreads.bladeTarget

theorem allow_secondary (hreads : Reads t effective) (hs : effective.scope ∉ sentinelScopes)
    {scope : String} (names : List String)
    (hkind : canonicaliseKind scope ≠ canonicaliseKind effective.scope) :
    (targetDriftGuard effective
      (some { scope, ns := effective.ns, names
              secondaryScopes := [canonicaliseKind effective.scope]
              secondaryNamespace := effective.ns })).verdict = .allow := by
  refine targetDriftGuard_allow_iff.mpr ⟨⟨hs, hreads.confidence⟩, ?_⟩
  generalize ha : ({ scope, ns := effective.ns, names
                     secondaryScopes := [canonicaliseKind effective.scope]
                     secondaryNamespace := effective.ns } : ApprovedTarget) = approved
  have hblade : faultTypeDrift approved effective = none :=
    faultTypeDrift_of_no_bladeTarget hreads.bladeTarget
  have hne : canonicaliseKind approved.scope ≠ canonicaliseKind effective.scope := by
    rw [← ha]
    exact hkind
  cases hrel : scopeRelation approved effective with
  | same => exact absurd (scopeRelation_same_iff.mp hrel) hne
  | owner =>
    refine (targetDrift_owner hrel).mpr ⟨?_, .inr ?_, hblade⟩
    · refine primaryNamespaceDrift_eq_none.mpr (.inr (.inr ?_))
      rw [← ha]
    · refine ownerDrift_eq_none.mpr (.inl ?_)
      rw [← ha]
  | secondary =>
    refine (targetDrift_secondary hrel).mpr ⟨?_, hblade⟩
    rw [secondaryNamespaceDrift_eq_none]
    cases clusterScopedKinds.contains (canonicaliseKind effective.scope) with
    | true => exact .inl ⟨rfl, hreads.bladeTarget⟩
    | false =>
      refine .inr ⟨rfl, .inl ?_⟩
      rw [← ha]
  | drift =>
    -- the only secondary kind is the kind of the call
    exfalso
    unfold scopeRelation at hrel
    rw [if_neg hne] at hrel
    split at hrel
    · cases hrel
    · have hmem : approved.secondaryScopes.contains (canonicaliseKind effective.scope) = true := by
        rw [← ha]
        simp
      rw [if_pos hmem] at hrel
      cases hrel

end

/-- For every way kubectl reads its flags: an allowed call acts on approved
names only, exactly if the call is never compared, names nothing, or names
nothing but the one name the classifier scanned, of the kind it scanned. -/
theorem allow_covers_names_iff (T : FlagTable) (depth : Nat) (allowed : Bool)
    {pre rest : List String} {verb : String} (hverb : verb ∈ namedVerbs)
    (hsub : findSubcommandIndex (pre ++ verb :: rest) = some pre.length) :
    (∀ approved effective, SameKind approved (commandTarget T verb rest).1 → NamesOnly approved →
      inferEffectiveTarget (depth + 1) "kubectl" (strList (pre ++ verb :: rest)) allowed
        = .ok effective → (targetDriftGuard effective (some approved)).verdict = .allow →
      ∀ n ∈ (commandTarget T verb rest).2, n ∈ approved.names) ↔
    Uncompared verb (propagateNamespace pre rest) ∨ (commandTarget T verb rest).2 = [] ∨
    ∃ t, scannedTarget verb (propagateNamespace pre rest) = some t ∧
      canonicaliseKind (canonicaliseKind t.1) =
        canonicaliseKind (canonicaliseKind (commandTarget T verb rest).1) ∧
      (t.2 = [] ∨ ∀ n ∈ (commandTarget T verb rest).2, n ∈ t.2) := by
  rw [inferEffectiveTarget_argv, classifyKubectl_at hsub]
  generalize propagateNamespace pre rest = scanned
  obtain ⟨kind, named⟩ := commandTarget T verb rest
  obtain ⟨effective, heff, hcases⟩ := classifyVerb_named hverb
    (fun inner => classifyKubectl depth inner (rawOfArgv (pre ++ verb :: rest)) none) scanned
    (rawOfArgv (pre ++ verb :: rest))
  rw [heff]
  constructor
  · intro hcover
    rcases hcases with ⟨hun, -⟩ | ⟨-, hs, t, ht, hreads⟩
    · exact .inl hun
    right
    by_cases hnamed : named = []
    · exact .inl hnamed
    obtain ⟨n, more, rfl⟩ := exists_cons_of_ne_nil hnamed
    refine .inr ⟨t, ht, ?_⟩
    by_cases hkind : canonicaliseKind (canonicaliseKind t.1) =
        canonicaliseKind (canonicaliseKind kind)
    · refine ⟨hkind, ?_⟩
      by_cases hne : t.2 = []
      · exact .inl hne
      -- approve exactly the scanned names
      right
      exact hcover { scope := canonicaliseKind kind, ns := effective.ns, names := t.2 } effective
        rfl ⟨hne, rfl, rfl⟩ rfl (allow_scanned_names hreads hs hne hkind.symm)
    · -- approve one name the command does not start with, and its kind as secondary
      exfalso
      have hother : canonicaliseKind (canonicaliseKind kind) ≠
          canonicaliseKind effective.scope := by
        rw [hreads.scope]
        exact fun h => hkind h.symm
      have hmem := hcover
        { scope := canonicaliseKind kind, ns := effective.ns, names := [n ++ "-"]
          secondaryScopes := [canonicaliseKind effective.scope]
          secondaryNamespace := effective.ns } effective
        rfl ⟨cons_ne_nil _ _, rfl, rfl⟩ rfl
        (allow_secondary hreads hs [n ++ "-"] hother) n mem_cons_self
      have hlen := congrArg String.length (mem_singleton.mp hmem)
      simp at hlen
  · rintro hcond approved effective' hsame hsel heq hallow n hn
    cases heq
    rcases hcases with ⟨-, hs⟩ | ⟨hcomp, -, t, ht, hreads⟩
    · exact absurd hs (targetDriftGuard_allow_iff.mp hallow).1.1
    rcases hcond with hun | hnone | ⟨t', ht', hkind, hcov⟩
    · exact absurd hun hcomp
    · rw [hnone] at hn
      cases hn
    · rw [ht] at ht'
      cases ht'
      obtain ⟨hne, hall⟩ := names_of_allow hsel hreads (hsame.trans hkind.symm) hallow
      rcases hcov with hnil | hcov
      · exact absurd hnil hne
      · exact hall n (hcov n hn)

/-! ### One name and two names -/

def kubectlFlags : FlagTable where
  long f := ["--namespace", "--selector", "--container", "--context", "--grace-period"].contains f
  short c := ['n', 'l', 'c', 'o'].contains c

def approvedWeb : ApprovedTarget := { scope := "pod", ns := "prod", names := ["web"] }

/-- The second name of `delete pod web other` is never compared. -/
theorem delete_two_pods_allowed :
    (inferEffectiveTarget 1 "kubectl" (strList ["delete", "pod", "web", "other", "-n", "prod"])
        false).map (fun e => (targetDriftGuard e (some approvedWeb)).verdict) = .ok .allow ∧
    commandTarget kubectlFlags "delete" ["pod", "web", "other", "-n", "prod"]
      = ("pod", ["web", "other"]) ∧
    SameKind approvedWeb "pod" ∧ NamesOnly approvedWeb ∧ "other" ∉ approvedWeb.names := by
  refine ⟨by decide, by decide, ?_, ⟨by decide, by decide, rfl⟩, by decide⟩
  unfold SameKind
  decide

/-- The one name of `delete pod web` is compared. -/
theorem delete_one_pod_covered : ∃ effective,
      inferEffectiveTarget 1 "kubectl" (strList ["delete", "pod", "web", "-n", "prod"]) false
        = .ok effective ∧ (targetDriftGuard effective (some approvedWeb)).verdict = .allow ∧
      ∀ n ∈ (commandTarget kubectlFlags "delete" ["pod", "web", "-n", "prod"]).2,
        n ∈ approvedWeb.names := by
  have hsame : SameKind approvedWeb
      (commandTarget kubectlFlags "delete" ["pod", "web", "-n", "prod"]).1 := by
    unfold SameKind
    decide
  obtain ⟨effective, hinfer, hallow⟩ := map_eq_ok.mp
    (show (inferEffectiveTarget 1 "kubectl" (strList ["delete", "pod", "web", "-n", "prod"])
        false).map (fun e => (targetDriftGuard e (some approvedWeb)).verdict) = .ok .allow by
      decide)
  have hcover := (@allow_covers_names_iff kubectlFlags 0 false [] ["pod", "web", "-n",
      "prod"] "delete"
    (by decide) (by decide)).mpr
      (.inr (.inr ⟨("pod", ["web"]), by decide, by decide,
        .inr (by decide)⟩))
  exact ⟨effective, hinfer, hallow,
    hcover approvedWeb effective hsame ⟨by decide, by decide, rfl⟩ hinfer hallow⟩

end ChaosBlade.TargetGuard
