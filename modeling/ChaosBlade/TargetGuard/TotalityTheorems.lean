/-
TargetGuard.TotalityTheorems: when the classifier raises.

Both screeners let a call through when the classifier raises on it.
-/
import ChaosBlade.TargetGuard.ClassifierTheorems
import ChaosBlade.TargetGuard.Guard

namespace ChaosBlade.TargetGuard

open Py Option

/-! ## Fields -/

def fieldIs (ok : Json → Bool) : Option Json → Bool
  | none => true
  | some v => !v.truthy || ok v

def isIterable : Json → Bool
  | .str _ | .arr _ | .obj _ => true
  | _ => false

def isMapping : Json → Bool
  | .str _ | .obj _ => true
  | _ => false

def isText : Json → Bool
  | .str _ => true
  | _ => false

attribute [local simp] fieldIs bladeLabels

theorem bladeNames_returns (names : Option Json) :
    Returns (bladeNames names) ↔ fieldIs isIterable names = true := by
  cases names with
  | none => simp [bladeNames]
  | some v =>
    cases ht : v.truthy with
    | false => simp [bladeNames, ht]
    | true => cases v <;> simp [bladeNames, isIterable, ht]

theorem bladeLabels_returns (labels : Option Json) :
    Returns (bladeLabels labels) ↔ fieldIs isMapping labels = true := by
  cases labels with
  | none => simp
  | some v =>
    cases ht : v.truthy with
    | false => simp [ht]
    | true => cases v <;> simp [isMapping, ht]

theorem classifyBladeCreate_returns (args : List (String × Json)) (raw : String) :
    Returns (classifyBladeCreate args raw) ↔ fieldIs isIterable (Json.get? args "names") = true ∧
      fieldIs isMapping (Json.get? args "labels") = true := by
  unfold classifyBladeCreate
  rw [returns_bind (p := fieldIs isMapping (Json.get? args "labels") = true), bladeNames_returns]
  intro names
  rw [returns_bind (p := True), bladeLabels_returns, and_true]
  intro labels
  exact iff_true_intro (returns_ok _)

theorem classifyKubectlStdinManifest_returns (v : Json) (rest : List String) (raw : String) :
    Returns (classifyKubectlStdinManifest v rest raw) ↔ isText v = true := by
  cases v <;> simp [classifyKubectlStdinManifest, isText]

/-! ## Nested commands -/

def verbAndRest (args : List String) : Option (String × List String) :=
  (findSubcommandIndex args).map fun i =>
    (args.getD i "", propagateNamespace (args.take i) (args.drop (i + 1)))

def readsManifest (args : List String) : Bool :=
  (verbAndRest args).any fun (sub, rest) => fileInputSubs.contains sub && usesFileInput rest

def execInner (rest : List String) : Option (List String) :=
  if hasHelpFlag rest = false ∧ firstPositional rest ≠ "" then
    match extractAfterDoubleDash rest with
    | program :: words => if program = "kubectl" then some words else none
    | [] => none
  else none

def nestedCommand (args : List String) : Option (List String) :=
  (verbAndRest args).bind fun (sub, rest) => if sub = "exec" then execInner rest else none

def nestedAt : Nat → List String → Option (List String)
  | 0, args => some args
  | n + 1, args => (nestedCommand args).bind (nestedAt n)

section

variable {nested : List String → Except PyError EffectiveTarget} {sub raw : String}
  {rest : List String} {rawArgs : Option (List (String × Json))}

theorem classifyKubectlExec_returns (hhelp : hasHelpFlag rest = false) :
    Returns (classifyKubectlExec nested rest raw) ↔
      ∀ words, execInner rest = some words → Returns (nested words) := by
  unfold classifyKubectlExec execInner
  by_cases hpod : firstPositional rest = ""
  · simp [hpod]
  rw [if_neg hpod, if_pos ⟨hhelp, hpod⟩]
  cases hinner : extractAfterDoubleDash rest with
  | nil => simp
  | cons program words =>
    have hhelp' : hasHelpFlag (program :: words) = false := by
      rw [← hinner, ← Bool.not_eq_true]
      intro h
      rw [hasHelpFlag_of_inner h] at hhelp
      cases hhelp
    simp only [hhelp']
    by_cases hblade : program = "blade"
    · subst hblade
      simp
    by_cases hkubectl : program = "kubectl"
    · subst hkubectl
      simp
    · simp only [hblade, hkubectl]
      simpa using Returns.orElse (returns_ok _)

theorem dispatchVerb_returns : Returns (dispatchVerb nested sub rest raw) ↔
      (sub = "exec" → Returns (classifyKubectlExec nested rest raw)) := by
  unfold dispatchVerb
  by_cases hexec : sub = "exec"
  · subst hexec
    rw [if_neg (by decide), if_neg (by decide), if_pos rfl]
    exact ⟨fun h _ => h, fun h => h rfl⟩
  · rw [if_neg hexec]
    refine iff_of_true ?_ (fun h => absurd h hexec)
    by_cases hr : sub = "rollout"
    · rw [if_pos hr]
      exact (returns_ok _).orElse
    by_cases hc : sub = "config"
    · rw [if_neg hr, if_pos hc]
      exact (returns_ok _).orElse
    rw [if_neg hr, if_neg hc]
    iterate 13 apply Returns.orElse
    exact returns_ok _

theorem classifyVerb_returns : Returns (classifyVerb nested sub rest raw rawArgs) ↔
      ((fileInputSubs.contains sub && usesFileInput rest) = true →
        fieldIs isText (rawArgs.bind (Json.get? · "stdin_data")) = true) ∧
      (sub = "exec" → ∀ words, execInner rest = some words → Returns (nested words)) := by
  unfold classifyVerb
  by_cases hbanned : bannedKubectlSubs.contains sub = true
  · rw [if_pos hbanned]
    have hsub : sub = "certificate" := by simpa [bannedKubectlSubs] using hbanned
    subst hsub
    refine iff_of_true (returns_ok _) ⟨?_, fun h => absurd h (by decide)⟩
    intro h
    rw [show fileInputSubs.contains "certificate" = false by decide, Bool.false_and] at h
    cases h
  rw [if_neg hbanned]
  by_cases hfile : (fileInputSubs.contains sub && usesFileInput rest) = true
  · rw [if_pos hfile]
    have hexec : sub ≠ "exec" := by
      rintro rfl
      rw [show fileInputSubs.contains "exec" = false by decide, Bool.false_and] at hfile
      cases hfile
    cases hstdin : rawArgs.bind (Json.get? · "stdin_data") with
    | none => simp [hexec]
    | some v =>
      cases ht : v.truthy with
      | false => simp [hexec, ht]
      | true =>
        simp only [if_true, classifyKubectlStdinManifest_returns, fieldIs, ht, Bool.not_true,
          Bool.false_or, hfile, forall_const, hexec, false_implies, and_true]
  rw [if_neg hfile]
  by_cases hro : readonlyKubectlSubs.contains sub = true
  · rw [if_pos hro]
    refine iff_of_true (returns_ok _) ⟨fun h => absurd h hfile, ?_⟩
    rintro rfl
    exact absurd hro (by decide)
  rw [if_neg hro]
  by_cases hhelp : hasHelpFlag rest = true
  · rw [if_pos hhelp]
    refine iff_of_true (returns_ok _) ⟨fun h => absurd h hfile, fun _ words h => ?_⟩
    simp [execInner, hhelp] at h
  · rw [if_neg hhelp, dispatchVerb_returns,
      classifyKubectlExec_returns (Bool.eq_false_iff.mpr hhelp)]
    exact ⟨fun h => ⟨fun hf => absurd hf hfile, h⟩, fun h => h.2⟩

end

/-! ## Every call -/

theorem classifyKubectl_verb {args : List String} {sub : String} {rest : List String}
    (h : verbAndRest args = some (sub, rest)) (depth : Nat) (raw : String)
    (rawArgs : Option (List (String × Json))) : classifyKubectl (depth + 1) args raw rawArgs =
      classifyVerb (fun inner => classifyKubectl depth inner raw none) sub rest raw rawArgs := by
  obtain ⟨i, hi, heq⟩ := map_eq_some_iff.mp h
  cases heq
  rw [classifyKubectl, classifyKubectlWith, hi]

theorem classifyKubectl_returns (raw : String) : ∀ (depth : Nat) (args : List String)
    (rawArgs : Option (List (String × Json))), Returns (classifyKubectl depth args raw rawArgs) ↔
      (readsManifest args = true →
        fieldIs isText (rawArgs.bind (Json.get? · "stdin_data")) = true) ∧
      nestedAt depth args = none
  | 0, args, rawArgs => by simp [classifyKubectl, nestedAt]
  | depth + 1, args, rawArgs => by
    cases hverb : verbAndRest args with
    | none =>
      have hsub : findSubcommandIndex args = none := map_eq_none_iff.mp hverb
      rw [classifyKubectl_no_verb hsub]
      simp [readsManifest, nestedAt, nestedCommand, hverb]
    | some v =>
      obtain ⟨sub, rest⟩ := v
      have hreads : readsManifest args = (fileInputSubs.contains sub && usesFileInput rest) := by
        simp [readsManifest, hverb]
      have hnested : nestedCommand args = if sub = "exec" then execInner rest else none := by
        simp [nestedCommand, hverb]
      rw [classifyKubectl_verb hverb, classifyVerb_returns, hreads]
      refine and_congr_right fun _ => ?_
      -- the nested call has no `stdin_data`, so it raises only for its depth
      have ih : ∀ words, Returns (classifyKubectl depth words raw none) ↔
          nestedAt depth words = none := by
        intro words
        rw [classifyKubectl_returns raw depth words none]
        simp
      rw [nestedAt, hnested]
      by_cases hexec : sub = "exec"
      · simp [hexec, ih]
      · simp [hexec]

/-- The arguments of a tool call have the types the classifier reads, and no
`exec` command nests as deep as the recursion limit. -/
structure Classifiable (depth : Nat) (toolName : String) (toolArgs : Json) : Prop where
  names : toolName = "blade_create" →
    fieldIs isIterable (Json.get? (coerceArgsDict toolArgs) "names") = true
  labels : toolName = "blade_create" →
    fieldIs isMapping (Json.get? (coerceArgsDict toolArgs) "labels") = true
  stdin : toolName ∈ ["kubectl", "kubectl_verify"] →
    readsManifest (coerceArgsList toolArgs) = true →
    fieldIs isText (Json.get? (coerceArgsDict toolArgs) "stdin_data") = true
  nesting : toolName ∈ ["kubectl", "kubectl_verify"] →
    nestedAt depth (coerceArgsList toolArgs) = none

theorem inferEffectiveTarget_kubectl {toolName : String}
    (h : toolName ∈ ["kubectl", "kubectl_verify"]) (depth : Nat) (toolArgs : Json)
    (allowed : Bool) : ∃ rawArgs, inferEffectiveTarget depth toolName toolArgs allowed =
        classifyKubectl depth (coerceArgsList toolArgs) (formatRawCommand toolName toolArgs)
          rawArgs ∧ rawArgs.bind (Json.get? · "stdin_data") =
        Json.get? (coerceArgsDict toolArgs) "stdin_data" := by
  have hkubectl : ["kubectl", "kubectl_verify"].contains toolName = true :=
    List.contains_iff_mem.mpr h
  have hother : readonlyTools.contains toolName = false ∧
      ["_execute_skill_script", "execute_skill_script"].contains toolName = false ∧
      toolName ≠ "blade_create" := by
    have hall : ∀ t ∈ ["kubectl", "kubectl_verify"], readonlyTools.contains t = false ∧
        ["_execute_skill_script", "execute_skill_script"].contains t = false ∧
        t ≠ "blade_create" := by decide
    exact hall toolName h
  obtain ⟨hro, hscript, hblade⟩ := hother
  unfold inferEffectiveTarget
  simp only [hro, hscript, hblade, hkubectl, Bool.false_eq_true, if_false, if_true]
  exact ⟨_, rfl, by cases toolArgs <;> rfl⟩

theorem inferEffectiveTarget_returns (depth : Nat) (toolName : String) (toolArgs : Json)
    (allowed : Bool) : Returns (inferEffectiveTarget depth toolName toolArgs allowed) ↔
      Classifiable depth toolName toolArgs := by
  by_cases hblade : toolName = "blade_create"
  · subst hblade
    have hkubectl : "blade_create" ∉ ["kubectl", "kubectl_verify"] := by decide
    unfold inferEffectiveTarget
    rw [if_neg (by decide), if_neg (by decide), if_pos rfl, classifyBladeCreate_returns]
    exact ⟨fun h => ⟨fun _ => h.1, fun _ => h.2, fun hk => absurd hk hkubectl,
      fun hk => absurd hk hkubectl⟩, fun h => ⟨h.names rfl, h.labels rfl⟩⟩
  by_cases hkubectl : toolName ∈ ["kubectl", "kubectl_verify"]
  · obtain ⟨rawArgs, hinfer, hstdin⟩ :=
      inferEffectiveTarget_kubectl hkubectl depth toolArgs allowed
    rw [hinfer, classifyKubectl_returns, hstdin]
    exact ⟨fun h => ⟨fun hb => absurd hb hblade, fun hb => absurd hb hblade, fun _ => h.1,
      fun _ => h.2⟩, fun h => ⟨h.stdin hkubectl, h.nesting hkubectl⟩⟩
  · refine iff_of_true ?_ ⟨fun hb => absurd hb hblade, fun hb => absurd hb hblade,
      fun hk => absurd hk hkubectl, fun hk => absurd hk hkubectl⟩
    unfold inferEffectiveTarget
    dsimp only
    rw [if_neg hblade, if_neg (mt List.contains_iff_mem.mp hkubectl)]
    apply Returns.orElse
    split
    · exact (returns_ok _).orElse
    · exact returns_ok _

/-! ## Writing the call out -/

/-- Every value of the arguments can be written, a text in a list apart. -/
def WrittenOut (stack : Nat) : Json → Prop
  | .obj fs => ∀ f ∈ fs, f.2.Writable stack
  | .arr xs => ∀ x ∈ xs, (∀ s, x ≠ .str s) → x.Writable stack
  | _ => True

theorem mapM_returns {α β : Type} {f : α → Except PyError β} (xs : List α) :
    Returns (xs.mapM f) ↔ ∀ x ∈ xs, Returns (f x) := by
  induction xs with
  | nil => simp [pure, Except.pure]
  | cons x xs ih =>
    rw [List.mapM_cons, returns_bind (p := Returns (xs.mapM f)) fun _ => Json.returns_bind_pure, ih]
    simp

theorem tryFormatRawCommand_returns (stack : Nat) (toolName : String) (toolArgs : Json) :
    Returns (tryFormatRawCommand stack toolName toolArgs) ↔ WrittenOut stack toolArgs := by
  cases toolArgs with
  | obj fs =>
    rw [tryFormatRawCommand, Json.returns_bind_pure, mapM_returns]
    exact forall₂_congr fun f _ => Json.returns_bind_pure.trans (Json.tryRepr_returns f.2 stack)
  | arr xs =>
    rw [tryFormatRawCommand, Json.returns_bind_pure, mapM_returns]
    exact forall₂_congr fun x _ => Json.tryStr_returns stack x
  | null | bool b | int n | float t b | str s => exact iff_of_true (returns_ok _) trivial

/-- What is written is the text that the classification carries. -/
theorem tryFormatRawCommand_eq {stack : Nat} {toolName raw : String} {toolArgs : Json}
    (h : tryFormatRawCommand stack toolName toolArgs = .ok raw) :
    raw = formatRawCommand toolName toolArgs := by
  cases toolArgs with
  | obj fs =>
    obtain ⟨parts, hparts, hraw⟩ := bind_eq_ok.mp h
    have hmap : parts = fs.map fun f => f.1 ++ "=" ++ f.2.repr := by
      refine (List.forall₂_eq_eq_eq ▸ List.forall₂_map_left_iff.mpr ?_ : _ = _).symm
      refine (mapM_eq_ok.mp hparts).imp fun f part hpart => ?_
      obtain ⟨text, htext, hpart⟩ := bind_eq_ok.mp hpart
      rw [← Except.ok.inj hpart, Json.tryRepr_eq htext]
    rw [← Except.ok.inj hraw, hmap, formatRawCommand]
  | arr xs =>
    obtain ⟨parts, hparts, hraw⟩ := bind_eq_ok.mp h
    have hmap : parts = xs.map Json.toStr := by
      refine (List.forall₂_eq_eq_eq ▸ List.forall₂_map_left_iff.mpr ?_ : _ = _).symm
      exact (mapM_eq_ok.mp hparts).imp fun x part hpart => (Json.tryStr_eq hpart).symm
    rw [← Except.ok.inj hraw, hmap, formatRawCommand]
  | null | bool b | int n | float t b | str s => exact (Except.ok.inj h).symm

/-- A classifiable call whose arguments can be written out. -/
structure Screenable (stack depth : Nat) (toolName : String) (toolArgs : Json) : Prop
    extends Classifiable depth toolName toolArgs where
  written : WrittenOut stack toolArgs

/-- The classifier and the guard after it return exactly on screenable calls. -/
theorem classifier_returns_iff (stack depth : Nat) (toolName : String) (toolArgs : Json)
    (allowed : Bool) (approved : Option ApprovedTarget) :
    (∃ decision, (inferEffectiveTargetWithin stack depth toolName toolArgs allowed).map
        (targetDriftGuard · approved) = .ok decision) ↔
      Screenable stack depth toolName toolArgs := by
  have hreturns : Returns (inferEffectiveTargetWithin stack depth toolName toolArgs allowed) ↔
      WrittenOut stack toolArgs ∧ Classifiable depth toolName toolArgs := by
    rw [inferEffectiveTargetWithin, returns_bind fun _ =>
      inferEffectiveTarget_returns depth toolName toolArgs allowed, tryFormatRawCommand_returns]
  exact returns_map.trans (hreturns.trans ⟨fun h => ⟨h.2, h.1⟩, fun h => ⟨h.written, h.1⟩⟩)

/-- A number as `names`, a list as `labels`, a number as `stdin_data`: each
raises. -/
theorem numeric_names_raise : (inferEffectiveTargetWithin 900 100 "blade_create"
      (.obj [("scope", .str "pod"), ("target", .str "cpu"), ("names", .int 5)]) false).map
        EffectiveTarget.scope = .error ⟨.typeError, "'int' object is not iterable"⟩ ∧
    (inferEffectiveTargetWithin 900 100 "blade_create"
      (.obj [("scope", .str "pod"), ("labels", strList ["app=web"])]) false).map
        EffectiveTarget.scope = .error ⟨.attributeError, "'list' object has no attribute 'items'"⟩ ∧
    (inferEffectiveTargetWithin 900 100 "kubectl"
      (.obj [("subcommand", .str "apply"), ("v_args", .str "-f -"), ("stdin_data", .int 7)])
        false).map EffectiveTarget.scope =
      .error ⟨.typeError, "expected string or bytes-like object, got 'int'"⟩ := by decide

end ChaosBlade.TargetGuard
