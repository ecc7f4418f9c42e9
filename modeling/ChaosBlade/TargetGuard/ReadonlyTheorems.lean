/-
TargetGuard.ReadonlyTheorems: which commands are classified
as read-only.

`ReadOnlyCommand` lists the reasons, one constructor each; an `exec` is
read-only through its inner command, to any depth.
-/
import ChaosBlade.TargetGuard.ClassifierTheorems

namespace ChaosBlade.TargetGuard

open Py List Option

def SpellsReadonly (t : String) : Prop :=
  canonicaliseKind (beforeChar '/' t) = scopeReadonly ∨
  canonicaliseKind (beforeChar '-' t) = scopeReadonly ∨ beforeChar '-' t = scopeReadonly

def Unspelled (args : List String) : Prop := ∀ t ∈ args, ¬ SpellsReadonly t

def NoSentinel (args : List String) : Prop :=
  ∀ t ∈ args, ¬ SpellsReadonly t ∧ ¬ SpellsReadonly (afterChar '=' t)

inductive ReadOnlyCommand : List String → Prop
  /-- A verb that only reads. -/
  | verb {pre rest : List String} {verb : String}
      (hverb : findSubcommandIndex (pre ++ verb :: rest) = some pre.length)
      (h : readonlyKubectlSubs.contains verb = true) : ReadOnlyCommand (pre ++ verb :: rest)
  /-- A help token anywhere among the arguments of the verb. -/
  | help {pre rest : List String} {verb : String}
      (hverb : findSubcommandIndex (pre ++ verb :: rest) = some pre.length)
      (h : hasHelpFlag (propagateNamespace pre rest) = true) :
      ReadOnlyCommand (pre ++ verb :: rest)
  | rollout {pre rest : List String}
      (hverb : findSubcommandIndex (pre ++ "rollout" :: rest) = some pre.length)
      (h : readonlyRolloutSubs.contains ((propagateNamespace pre rest).headD "") = true) :
      ReadOnlyCommand (pre ++ "rollout" :: rest)
  | config {pre rest : List String}
      (hverb : findSubcommandIndex (pre ++ "config" :: rest) = some pre.length)
      (h : readonlyConfigSubs.contains ((propagateNamespace pre rest).headD "") = true) :
      ReadOnlyCommand (pre ++ "config" :: rest)
  /-- An inner blade command other than `create`. -/
  | execBlade {pre rest words : List String}
      (hverb : findSubcommandIndex (pre ++ "exec" :: rest) = some pre.length)
      (hinner : extractAfterDoubleDash (propagateNamespace pre rest) = "blade" :: words)
      (h : words.head? ≠ some "create") : ReadOnlyCommand (pre ++ "exec" :: rest)
  /-- An inner kubectl command that is read-only itself. -/
  | execNested {pre rest words : List String}
      (hverb : findSubcommandIndex (pre ++ "exec" :: rest) = some pre.length)
      (hinner : extractAfterDoubleDash (propagateNamespace pre rest) = "kubectl" :: words)
      (h : ReadOnlyCommand words) : ReadOnlyCommand (pre ++ "exec" :: rest)

/-! ## Kinds -/

theorem pod_ne_readonly : "pod" ≠ scopeReadonly := by decide

theorem node_ne_readonly : "node" ≠ scopeReadonly := by decide

theorem canonicaliseKind_known {k : String} (h : isKnownKind k = true) :
    canonicaliseKind k ≠ scopeReadonly := by
  have hall : ∀ e ∈ kindAliases, e.2 ≠ scopeReadonly := by decide
  unfold isKnownKind at h
  split at h
  · cases h
  · next hne =>
    obtain ⟨v, hv⟩ := isSome_iff_exists.mp h
    obtain ⟨l₁, l₂, hl, -⟩ := List.lookup_eq_some_iff.mp hv
    unfold canonicaliseKind
    rw [if_neg hne, hv, getD_some]
    exact hall (kindHead k, v) (by rw [hl]; simp)

theorem listPositionals_subset : ∀ (args : List String), listPositionals args ⊆ args
  | [] => by simp [listPositionals]
  | [a] => by
    rw [listPositionals_cons]
    split
    · simp
    split
    · simp [listPositionals]
    · split <;> simp [listPositionals]
  | a :: b :: rest => by
    have ih₁ := listPositionals_subset (b :: rest)
    have ih₂ := listPositionals_subset rest
    rw [listPositionals_cons]
    split
    · simp
    split
    · exact cons_subset_cons a ih₁
    split
    · exact subset_cons_of_subset a ih₁
    · exact subset_cons_of_subset a (subset_cons_of_subset b ih₂)

theorem resolveKindName_kind {dk : Option String} {first kind name : String} {more : List String}
    (h : resolveKindName dk (first :: more) = some (kind, name)) :
    dk = some kind ∨ isKnownKind kind = true ∨ kind = beforeChar '/' first := by
  unfold resolveKindName at h
  dsimp only at h
  split at h
  · split at h
    · simp only [some.injEq, Prod.mk.injEq] at h
      exact .inl (by rw [h.1])
    split at h
    · next hk =>
      simp only [some.injEq, Prod.mk.injEq] at h
      exact .inr (.inl (by rw [← h.1]; exact hk))
    · obtain ⟨d, hd, he⟩ := map_eq_some_iff.mp h
      simp only [Prod.mk.injEq] at he
      exact .inl (by rw [hd, he.1])
  · next hne =>
    have hkind : kind = (splitKindName first).1 := by
      split at h <;> simp only [some.injEq, Prod.mk.injEq] at h <;> exact h.1.symm
    unfold splitKindName at hkind hne
    split at hkind
    · exact .inr (.inr hkind)
    · next hslash => simp [hslash] at hne

section

variable {args : List String} {raw : String} (h : Unspelled args)
include h

theorem classifyKubectlResource_not_readonly {dk : Option String}
    (hdk : ∀ k ∈ dk, canonicaliseKind k ≠ scopeReadonly) :
    (classifyKubectlResource dk args raw).scope ≠ scopeReadonly := by
  unfold classifyKubectlResource
  cases hres : resolveKindName dk (listPositionals args) with
  | none => simp
  | some kn =>
    obtain ⟨kind, name⟩ := kn
    have hkind : canonicaliseKind kind ≠ scopeReadonly := by
      cases hps : listPositionals args with
      | nil =>
        rw [hps] at hres
        cases hres
      | cons first more =>
        rw [hps] at hres
        rcases resolveKindName_kind hres with hd | hk | rfl
        · exact hdk kind hd
        · exact canonicaliseKind_known hk
        · have hmem : first ∈ args := listPositionals_subset args (by rw [hps]; simp)
          exact fun hk => h first hmem (.inl hk)
    dsimp only
    split
    · simp
    · exact hkind

theorem classifyKubectlDebug_not_readonly :
    (classifyKubectlDebug args raw).scope ≠ scopeReadonly := by
  unfold classifyKubectlDebug
  dsimp only
  split
  · simp
  next hne =>
  have hmem : firstPositional args ∈ args := by
    unfold firstPositional at hne ⊢
    cases hps : listPositionals args with
    | nil => simp [hps] at hne
    | cons first more => exact listPositionals_subset args (by rw [hps]; simp)
  have hk := fun hk => h _ hmem (.inl hk)
  unfold splitKindName
  split
  · split
    · exact pod_ne_readonly
    · exact hk
  · exact pod_ne_readonly

theorem classifyKubectlRollout_not_readonly :
    (classifyKubectlRollout args raw).scope ≠ scopeReadonly := by
  cases args with
  | nil => simp [classifyKubectlRollout]
  | cons a rest =>
    exact classifyKubectlResource_not_readonly (fun t ht => h t (mem_cons_of_mem a ht))
      (by simp)

end

section

variable {args : List String} {raw : String}

theorem classifyKubectlNodeOp_not_readonly :
    (classifyKubectlNodeOp args raw).scope ≠ scopeReadonly := by
  unfold classifyKubectlNodeOp
  dsimp only
  split
  · simp
  · exact node_ne_readonly

theorem classifyKubectlTaint_not_readonly :
    (classifyKubectlTaint args raw).scope ≠ scopeReadonly := by
  unfold classifyKubectlTaint
  split
  · split
    · exact node_ne_readonly
    · simp
  · simp

theorem classifyKubectlRun_not_readonly : (classifyKubectlRun args raw).scope ≠ scopeReadonly := by
  unfold classifyKubectlRun
  dsimp only
  split
  · simp
  · exact pod_ne_readonly

theorem classifyKubectlCp_not_readonly : (classifyKubectlCp args raw).scope ≠ scopeReadonly := by
  unfold classifyKubectlCp
  split
  · simp
  dsimp only
  split <;> exact pod_ne_readonly

end

/-! ## `blade create` inside `exec` -/

theorem bladeTargetToScope_not_readonly {target d : String} (hd : d ≠ scopeReadonly) :
    (bladeTargetToScope.lookup target).getD d ≠ scopeReadonly := by
  have hall : ∀ e ∈ bladeTargetToScope, e.2 ≠ scopeReadonly := by decide
  cases hl : bladeTargetToScope.lookup target with
  | none => exact hd
  | some v =>
    obtain ⟨l₁, l₂, heq, -⟩ := List.lookup_eq_some_iff.mp hl
    exact hall (target, v) (by rw [heq]; simp)

theorem inlineBladeTarget_not_readonly {isK8s : Bool} {subtype raw ns pod : String}
    {rest : List String} (h : ¬ SpellsReadonly subtype) :
    (inlineBladeTarget isK8s subtype rest raw ns pod).scope ≠ scopeReadonly := by
  have hk := fun hk => h (.inr (.inl hk))
  have hb := fun hb => h (.inr (.inr hb))
  unfold inlineBladeTarget
  by_cases hdash : hasChar '-' subtype = true
  · simp only [hdash, if_true]
    split
    · split
      · exact hb
      · exact hk
    · apply bladeTargetToScope_not_readonly
      split
      · exact pod_ne_readonly
      · exact hb
  · simp only [hdash, if_false, Bool.false_eq_true, bne_self_eq_false, Bool.and_false]
    exact bladeTargetToScope_not_readonly pod_ne_readonly

theorem not_spellsReadonly_empty : ¬ SpellsReadonly "" := by
  unfold SpellsReadonly
  decide

theorem classifyInlineBlade_readonly {words : List String} {raw ns pod : String}
    (hwords : Unspelled words)
    (h : (classifyInlineBlade ("blade" :: words) raw ns pod).scope = scopeReadonly) :
    words.head? ≠ some "create" := by
  intro hcreate
  cases words with
  | nil => cases hcreate
  | cons a words =>
    rw [List.head?_cons, some.injEq] at hcreate
    subst hcreate
    have hhead : ∀ ws : List String, ws ⊆ "create" :: words → ¬ SpellsReadonly (ws.headD "") := by
      intro ws hws
      cases ws with
      | nil => exact not_spellsReadonly_empty
      | cons w ws => exact hwords w (hws mem_cons_self)
    have hsub : words ⊆ "create" :: words := subset_cons_self _ _
    have hdrop : words.drop 1 ⊆ "create" :: words :=
      fun t ht => hsub (mem_of_mem_drop ht)
    rw [classifyInlineBlade_create] at h
    split at h
    · exact inlineBladeTarget_not_readonly (hhead _ hdrop) h
    · exact inlineBladeTarget_not_readonly (hhead _ hsub) h

/-! ## One call -/

variable {nested : List String → Except PyError EffectiveTarget} {e : EffectiveTarget}

variable {args : List String}

theorem classifyKubectlExec_readonly {raw : String}
    (hargs : Unspelled (extractAfterDoubleDash args))
    (h : classifyKubectlExec nested args raw = .ok e) (he : e.scope = scopeReadonly) :
    hasHelpFlag args = true ∨
    (∃ words, extractAfterDoubleDash args = "blade" :: words ∧ words.head? ≠ some "create") ∨
    (∃ words e', extractAfterDoubleDash args = "kubectl" :: words ∧ nested words = .ok e' ∧
      e'.scope = scopeReadonly) := by
  unfold classifyKubectlExec at h
  dsimp only at h
  split at h
  · cases h
    simp at he
  split at h
  · cases h
    exact absurd he pod_ne_readonly
  next program words hinner =>
  rw [hinner] at hargs
  split at h
  · next hhelp =>
    left
    rw [← hinner] at hhelp
    exact hasHelpFlag_of_inner hhelp
  split at h
  · next hprog =>
    subst hprog
    right; left
    rw [← Except.ok.inj h] at he
    exact ⟨words, hinner, classifyInlineBlade_readonly
      (fun t ht => hargs t (mem_cons_of_mem _ ht)) he⟩
  split at h
  · next hprog =>
    subst hprog
    right; right
    obtain ⟨e', he', rfl⟩ := map_eq_ok.mp h
    refine ⟨words, e', hinner, he', ?_⟩
    unfold inheritNamespace at he
    split at he <;> exact he
  split at h
  · cases h
    simp at he
  · cases h
    exact absurd he pod_ne_readonly

theorem skip_branch {c : Prop} [Decidable c] {a : EffectiveTarget}
    {x : Except PyError EffectiveTarget} (ha : a.scope ≠ scopeReadonly)
    (he : e.scope = scopeReadonly) (h : (if c then .ok a else x) = .ok e) : x = .ok e := by
  split at h
  · cases h
    exact absurd he ha
  · exact h

theorem dispatchVerb_readonly {sub raw : String} (hargs : Unspelled args)
    (h : dispatchVerb nested sub args raw = .ok e) (he : e.scope = scopeReadonly) :
    (sub = "rollout" ∧ readonlyRolloutSubs.contains (args.headD "") = true) ∨
    (sub = "config" ∧ readonlyConfigSubs.contains (args.headD "") = true) ∨
    (sub = "exec" ∧ classifyKubectlExec nested args raw = .ok e) := by
  have hresource : (classifyKubectlResource none args raw).scope ≠ scopeReadonly :=
    classifyKubectlResource_not_readonly hargs (by simp)
  have hpod : (classifyKubectlResource (some "pod") args raw).scope ≠ scopeReadonly :=
    classifyKubectlResource_not_readonly hargs (by decide)
  unfold dispatchVerb at h
  by_cases hr : sub = "rollout"
  · rw [if_pos hr] at h
    split at h
    · next hro => exact .inl ⟨hr, hro⟩
    · cases h
      exact absurd he (classifyKubectlRollout_not_readonly hargs)
  by_cases hc : sub = "config"
  · rw [if_neg hr, if_pos hc] at h
    split at h
    · next hro => exact .inr (.inl ⟨hc, hro⟩)
    · cases h
      simp at he
  by_cases hx : sub = "exec"
  · rw [if_neg hr, if_neg hc, if_pos hx] at h
    exact .inr (.inr ⟨hx, h⟩)
  rw [if_neg hr, if_neg hc, if_neg hx] at h
  replace h := skip_branch (classifyKubectlDebug_not_readonly hargs) he h
  replace h := skip_branch hresource he h
  replace h := skip_branch classifyKubectlNodeOp_not_readonly he h
  replace h := skip_branch classifyKubectlTaint_not_readonly he h
  replace h := skip_branch hresource he h
  replace h := skip_branch classifyKubectlRun_not_readonly he h
  replace h := skip_branch hresource he h
  replace h := skip_branch hpod he h
  replace h := skip_branch classifyKubectlCp_not_readonly he h
  replace h := skip_branch hpod he h
  replace h := skip_branch scopeBanned_ne_readonly he h
  replace h := skip_branch hresource he h
  replace h := skip_branch hresource he h
  cases h
  simp at he

/-! ## Every call -/

theorem NoSentinel.mono {x y : List String} (h : NoSentinel y) (hxy : x ⊆ y) : NoSentinel x :=
  fun t ht => h t (hxy ht)

theorem NoSentinel.unspelled {x : List String} (h : NoSentinel x) : Unspelled x :=
  fun t ht => (h t ht).1

theorem NoSentinel.namespace_unspelled : ∀ {p : List String}, NoSentinel p →
    ¬ SpellsReadonly (parseNamespace p "")
  | [], _ => not_spellsReadonly_empty
  | a :: p, h => by
    have ih := (h.mono (subset_cons_self a p)).namespace_unspelled
    simp only [parseNamespace]
    split
    · exact not_spellsReadonly_empty
    split
    · exact (h a mem_cons_self).2
    split
    · cases p with
      | nil => exact not_spellsReadonly_empty
      | cons v p => exact (h v (mem_cons_of_mem a mem_cons_self)).1
    · exact ih

section

variable {pre rest : List String}

theorem unspelled_propagateNamespace (hpre : NoSentinel pre) (hrest : NoSentinel rest) :
    Unspelled (propagateNamespace pre rest) := by
  have hn : ¬ SpellsReadonly "-n" := by
    unfold SpellsReadonly
    decide
  unfold propagateNamespace
  dsimp only
  split
  · intro t ht
    simp only [cons_append, nil_append, mem_cons] at ht
    rcases ht with rfl | rfl | ht
    · exact hn
    · exact hpre.namespace_unspelled
    · exact (hrest t ht).1
  · exact hrest.unspelled

theorem inner_subset_rest : extractAfterDoubleDash (propagateNamespace pre rest) ⊆ rest := by
  unfold propagateNamespace
  dsimp only
  split
  · rw [cons_append, cons_append, nil_append, extractAfterDoubleDash,
      if_neg (by decide), extractAfterDoubleDash]
    split
    · exact List.Subset.refl rest
    · exact extractAfterDoubleDash_subset rest
  · exact extractAfterDoubleDash_subset rest

end

theorem classifyVerb_readonly
    {sub raw : String} {rawArgs : Option (List (String × Json))}

    (hfile : (fileInputSubs.contains sub && usesFileInput args) = false ∨ rawArgs = none)
    (h : classifyVerb nested sub args raw rawArgs = .ok e) (he : e.scope = scopeReadonly) :
    readonlyKubectlSubs.contains sub = true ∨ hasHelpFlag args = true ∨
    dispatchVerb nested sub args raw = .ok e := by
  replace h := skip_branch scopeBanned_ne_readonly he h
  split at h
  · next hf =>
    -- without `stdin_data` a file is refused
    rcases hfile with hfile | rfl
    · rw [hf] at hfile
      cases hfile
    · cases h
      simp at he
  split at h
  · next hro => exact .inl hro
  split at h
  · next hhelp => exact .inr (.inl hhelp)
  · exact .inr (.inr h)

theorem readonly_sound {raw : String} : ∀ (depth : Nat) {args : List String}
    {e : EffectiveTarget}, NoSentinel args → classifyKubectl depth args raw none = .ok e →
    e.scope = scopeReadonly → ReadOnlyCommand args
  | 0, _, _, _, h, _ => by cases h
  | depth + 1, args, e, hargs, h, he => by
    cases hsub : findSubcommandIndex args with
    | none =>
      rw [classifyKubectl_no_verb hsub] at h
      cases h
      simp at he
    | some i =>
      obtain ⟨pre, verb, rest, rfl, rfl⟩ := findSubcommandIndex_cut hsub
      have hpre : NoSentinel pre := hargs.mono (subset_append_left _ _)
      have hrest : NoSentinel rest :=
        hargs.mono (List.Subset.trans (subset_cons_self _ _) (subset_append_right _ _))
      have hprop := unspelled_propagateNamespace hpre hrest
      rw [classifyKubectl_at hsub] at h
      rcases classifyVerb_readonly (.inr rfl) h he with hro | hhelp | h
      · exact .verb hsub hro
      · exact .help hsub hhelp
      rcases dispatchVerb_readonly hprop h he with ⟨rfl, hro⟩ | ⟨rfl, hro⟩ | ⟨rfl, h⟩
      · exact .rollout hsub hro
      · exact .config hsub hro
      have hinner : NoSentinel (extractAfterDoubleDash (propagateNamespace pre rest)) :=
        hrest.mono inner_subset_rest
      rcases classifyKubectlExec_readonly hinner.unspelled h he with
        hhelp | ⟨words, hw, hne⟩ | ⟨words, e', hw, h', he'⟩
      · exact .help hsub hhelp
      · exact .execBlade hsub hw hne
      · rw [hw] at hinner
        exact .execNested hsub hw (readonly_sound depth (hinner.mono (subset_cons_self _ _)) h' he')

end ChaosBlade.TargetGuard
