/-
TargetGuard.TimeoutTheorems: a `--timeout` in flag position
does not change what a command line selects.

The tools add `--timeout 600` behind a command line or replace the value
of one that is there.
-/
import ChaosBlade.Py.StrTheorems
import ChaosBlade.TargetGuard.ScanTheorems

namespace ChaosBlade.TargetGuard

open Py List Option EffectiveTarget

variable {p x : List String}

/-! ## A flag with its value -/

structure PlainValue (v : String) : Prop where
  noFlag : startsWith v "-" = false
  noColon : hasChar ':' v = false
  noSlash : hasChar '/' v = false
  noKind : isKnownKind v = false

def skippedFlags : List String := ["--kubeconfig", "--timeout", "-l", "--selector"]

section

variable {f v : String} (hf : f ∈ skippedFlags)
include hf

theorem skipped_ne_dashes : f ≠ "--" := by
  rintro rfl
  revert hf
  decide

theorem skipped_not_closed : isClosed f = false := by
  have hall : ∀ f ∈ skippedFlags, isClosed f = false := by decide
  exact hall f hf

theorem skipped_not_scanned :
    isNsFlag f = false ∧ isNsEquals f = false ∧ usesFileInput [f] = false ∧
    hasHelpFlag [f] = false ∧ startsWith f "-" = true := by
  have hall : ∀ f ∈ skippedFlags, isNsFlag f = false ∧ isNsEquals f = false ∧
      usesFileInput [f] = false ∧ hasHelpFlag [f] = false ∧ startsWith f "-" = true := by
    decide
  exact hall f hf

end

section

variable {v : String} (hv : startsWith v "-" = false)
include hv

theorem plain_not_scanned :
    v ≠ "--" ∧ isNsFlag v = false ∧ isNsEquals v = false ∧ isLabelFlag v = false ∧
    isLabelEquals v = false ∧ usesFileInput [v] = false ∧ hasHelpFlag [v] = false := by
  have hne : ∀ {p}, startsWith p "-" = true → v ≠ p := fun hp => ne_of_not_startsWith hv hp
  have hpre : ∀ {p}, startsWith p "-" = true → startsWith v p = false :=
    fun hp => startsWith_false_of hv hp
  refine ⟨hne (by decide), ?_, ?_, ?_, ?_, ?_, ?_⟩
  · simp [isNsFlag, hne (p := "-n") (by decide),
      hne (p := "--namespace") (by decide)]
  · simp [isNsEquals, hpre (p := "-n=") (by decide),
      hpre (p := "--namespace=") (by decide)]
  · simp [isLabelFlag, hne (p := "-l") (by decide),
      hne (p := "--selector") (by decide), hne (p := "--labels") (by decide)]
  · simp [isLabelEquals, hpre (p := "-l=") (by decide),
      hpre (p := "--selector=") (by decide), hpre (p := "--labels=") (by decide)]
  · simp [usesFileInput, hne (p := "-f") (by decide),
      hne (p := "--filename") (by decide), hpre (p := "-f=") (by decide),
      hpre (p := "--filename=") (by decide)]
  · have h1 : ¬ "-h" = v := fun h => hne (p := "-h") (by decide) h.symm
    have h2 : ¬ "--help" = v := fun h => hne (p := "--help") (by decide) h.symm
    simp [hasHelpFlag, h1, h2]

end

theorem usesFileInput_cons (a : String) (r : List String) :
    usesFileInput (a :: r) = (usesFileInput [a] || usesFileInput r) := by simp [usesFileInput]

theorem hasHelpFlag_cons (a : String) (r : List String) :
    hasHelpFlag (a :: r) = (hasHelpFlag [a] || hasHelpFlag r) := by
  simp only [hasHelpFlag, contains_cons]
  cases "-h" == a <;> cases "--help" == a <;> simp

theorem SameScan.symm {r₁ r₂ : List String} (h : SameScan r₁ r₂) : SameScan r₂ r₁ :=
  ⟨h.file.symm, h.help.symm, fun d => (h.ns d).symm, h.hasNs.symm, h.positionals.symm,
    h.copySpec.symm⟩

theorem SameScan.trans {r₁ r₂ r₃ : List String} (h : SameScan r₁ r₂) (h' : SameScan r₂ r₃) :
    SameScan r₁ r₃ :=
  ⟨h.file.trans h'.file, h.help.trans h'.help, fun d => (h.ns d).trans (h'.ns d),
    h.hasNs.trans h'.hasNs, h.positionals.trans h'.positionals, h.copySpec.trans h'.copySpec⟩

theorem sameScan_drop {f v : String} (hf : f ∈ skippedFlags) (hv : startsWith v "-" = false)
    (hcolon : hasChar ':' v = false) (r : List String) : SameScan (f :: v :: r) r := by
  obtain ⟨hfn, hfe, hff, hfh, hfd⟩ := skipped_not_scanned hf
  obtain ⟨hvd, hvn, hve, -, -, hvf, hvh⟩ := plain_not_scanned hv
  have hfne := skipped_ne_dashes hf
  refine ⟨?_, ?_, ?_, ?_, ?_, ?_⟩
  · rw [usesFileInput_cons, usesFileInput_cons v, hff, hvf]
    rfl
  · rw [hasHelpFlag_cons, hasHelpFlag_cons v, hfh, hvh]
    rfl
  · intro d
    simp [parseNamespace, hfne, hfe, hfn, hvd, hve, hvn]
  · simp [restHasNamespace, hfne, hfe, hfn, hvd, hve, hvn]
  · exact listPositionals_twoTokens hfne (skipped_not_closed hf) v r
  · simp [isCopySpec, hfd, hcolon]

theorem parseLabelsFrom_drop {f v : String} (hf : f = "--kubeconfig" ∨ f = "--timeout")
    (hv : startsWith v "-" = false) (r : List String) (s : Labels) :
    parseLabelsFrom (f :: v :: r) s = parseLabelsFrom r s := by
  obtain ⟨hvd, -, -, hvl, hve, -, -⟩ := plain_not_scanned hv
  have hfl : f ≠ "--" ∧ isLabelFlag f = false ∧ isLabelEquals f = false := by
    rcases hf with rfl | rfl <;> decide
  have hskip : parseLabelsFrom (v :: r) s = parseLabelsFrom r s := by
    rw [parseLabelsFrom_cons]
    simp [hvd, hvl, hve]
  rw [parseLabelsFrom_cons]
  simp [hfl.1, hfl.2.1, hfl.2.2, hskip]

/-! ## The two edits -/

/-- What the tools do to the end of a command line: add a timeout, or replace
the value of one. -/
inductive TimeoutEdit : List String → List String → Prop
  | inject {w : String} (hw : PlainValue w) : TimeoutEdit [] ["--timeout", w]
  | boost {v w : String} (hv : PlainValue v) (hw : PlainValue w) (r : List String) :
      TimeoutEdit ("--timeout" :: v :: r) ("--timeout" :: w :: r)

section

variable {t₁ t₂ : List String} (h : TimeoutEdit t₁ t₂)
include h

theorem TimeoutEdit.sameScan : SameScan t₁ t₂ := by
  cases h with
  | inject hw => exact (sameScan_drop (by decide) hw.noFlag hw.noColon []).symm
  | boost hv hw r =>
    exact (sameScan_drop (by decide) hv.noFlag hv.noColon r).trans
      (sameScan_drop (by decide) hw.noFlag hw.noColon r).symm

theorem TimeoutEdit.labels (s : Labels) : parseLabelsFrom t₁ s = parseLabelsFrom t₂ s := by
  cases h with
  | inject hw => exact (parseLabelsFrom_drop (Or.inr rfl) hw.noFlag [] s).symm
  | boost hv hw r =>
    rw [parseLabelsFrom_drop (Or.inr rfl) hv.noFlag, parseLabelsFrom_drop (Or.inr rfl) hw.noFlag]

theorem TimeoutEdit.afterDashes : extractAfterDoubleDash t₁ = extractAfterDoubleDash t₂ := by
  cases h with
  | inject hw => simp [extractAfterDoubleDash]
  | boost hv hw r =>
    simp [extractAfterDoubleDash, (plain_not_scanned hv.noFlag).1, (plain_not_scanned hw.noFlag).1]

theorem TimeoutEdit.flagValue {flag : String} (hflag : startsWith flag "-" = true)
    (hne : flag ≠ "--timeout") (heq : startsWith "--timeout" (flag ++ "=") = false) :
    parseFlagValue flag t₁ = parseFlagValue flag t₂ := by
  have hcons : ∀ {w : String}, PlainValue w → ∀ r : List String,
      parseFlagValue flag ("--timeout" :: w :: r) = parseFlagValue flag r := by
    intro w hw r
    have hwne : w ≠ flag := ne_of_not_startsWith hw.noFlag hflag
    have hweq : startsWith w (flag ++ "=") = false := by
      apply startsWith_false_of hw.noFlag
      refine startsWith_trans ?_ hflag
      rw [startsWith_iff, String.toList_append]
      exact prefix_append _ _
    cases r with
    | nil => simp [parseFlagValue, hne.symm, heq, hweq]
    | cons a r => simp [parseFlagValue, hne.symm, heq, hwne, hweq]
  cases h with
  | inject hw => exact (hcons hw []).symm
  | boost hv hw r => rw [hcons hv, hcons hw]

theorem TimeoutEdit.head {l : List String} (hl : "" ∉ l ∧ "--timeout" ∉ l) :
    l.contains (t₁.headD "") = l.contains (t₂.headD "") := by
  have h1 : l.contains "" = false := by simpa using hl.1
  have h2 : l.contains "--timeout" = false := by simpa using hl.2
  cases h with
  | inject hw => simp only [headD_nil, headD_cons, h1, h2]
  | boost hv hw r => simp

end

/-! ## Inside `blade create` -/

structure SameBladeScan (r₁ r₂ : List String) : Prop where
  ns : parseNamespace r₁ "" = parseNamespace r₂ ""
  names : parseBladeNames r₁ = parseBladeNames r₂
  labels : parseLabels r₁ = parseLabels r₂
  node : parseFlagValue "--node" r₁ = parseFlagValue "--node" r₂

theorem TimeoutEdit.sameBladeScan {t₁ t₂ : List String} (h : TimeoutEdit t₁ t₂) (hp : Seam p) :
    SameBladeScan (p ++ t₁) (p ++ t₂) where
  ns := (h.sameScan.append hp).ns ""
  names := by
    unfold parseBladeNames
    rw [parseFlagValue_append (by decide) (h.flagValue (by decide) (by decide)
      (by decide)) hp]
  labels := parseLabelsFrom_append h.labels hp ∅
  node := parseFlagValue_append (by decide) (h.flagValue (by decide) (by decide)
    (by decide)) hp

section

variable {r₁ r₂ : List String} {raw fallbackNs fallbackPod : String}

theorem inlineBladeTarget_congr (h : SameBladeScan r₁ r₂) (isK8s : Bool) (subtype : String) :
    (inlineBladeTarget isK8s subtype r₁ raw fallbackNs fallbackPod).selector =
    (inlineBladeTarget isK8s subtype r₂ raw fallbackNs fallbackPod).selector := by
  unfold inlineBladeTarget selector
  simp [h.ns, h.names, h.labels, h.node]

theorem sameBladeScan_plain {v : String} (hv : PlainValue v) (r : List String) :
    SameBladeScan (v :: r) r := by
  obtain ⟨hvd, hvn, hve, hvl, hvle, -, -⟩ := plain_not_scanned hv.noFlag
  have hflag : ∀ {flag : String}, startsWith flag "-" = true →
      startsWith (flag ++ "=") "-" = true →
      parseFlagValue flag (v :: r) = parseFlagValue flag r := by
    intro flag hf hfe
    have hne := ne_of_not_startsWith hv.noFlag hf
    have heq := startsWith_false_of hv.noFlag hfe
    cases r with
    | nil => simp [parseFlagValue, heq]
    | cons a r => simp [parseFlagValue, hne, heq]
  refine ⟨?_, ?_, ?_, hflag (by decide) (by decide)⟩
  · simp [parseNamespace, hvd, hve, hvn]
  · unfold parseBladeNames
    rw [hflag (by decide) (by decide)]
  · unfold parseLabels
    rw [parseLabelsFrom_cons]
    simp [hvd, hvl, hvle]

theorem SameBladeScan.trans {r₃ : List String} (h : SameBladeScan r₁ r₂)
    (h' : SameBladeScan r₂ r₃) : SameBladeScan r₁ r₃ :=
  ⟨h.ns.trans h'.ns, h.names.trans h'.names, h.labels.trans h'.labels, h.node.trans h'.node⟩

theorem SameBladeScan.symm (h : SameBladeScan r₁ r₂) : SameBladeScan r₂ r₁ :=
  ⟨h.ns.symm, h.names.symm, h.labels.symm, h.node.symm⟩

theorem inlineBladeTarget_no_subtype (isK8s : Bool) (r : List String) :
    (inlineBladeTarget isK8s "" r raw fallbackNs fallbackPod).selector =
    (inlineBladeTarget isK8s "--timeout" r raw fallbackNs fallbackPod).selector := by
  have h1 : hasChar '-' "" = false := by decide
  have h2 : hasChar '-' "--timeout" = true := by decide
  have h3 : beforeChar '-' "--timeout" = "" := by decide
  have h4 : bladeTargetToScope.lookup "" = none := by decide
  have h5 : bladeTargetToScope.lookup (afterChar '-' "--timeout") = none := by decide
  unfold inlineBladeTarget selector
  simp only [h1, h2, h3, h4, h5, if_true, if_false, Bool.false_eq_true, bne_self_eq_false,
    Bool.and_false]

theorem bladeWords_timeout {t₁ t₂ : List String} (h : TimeoutEdit t₁ t₂) (hp : Seam p)
    (isK8s : Bool) : (inlineBladeTarget isK8s ((p ++ t₁).headD "") ((p ++ t₁).drop 1) raw fallbackNs
      fallbackPod).selector =
    (inlineBladeTarget isK8s ((p ++ t₂).headD "") ((p ++ t₂).drop 1) raw fallbackNs
      fallbackPod).selector := by
  cases p with
  | cons a p => exact inlineBladeTarget_congr (h.sameBladeScan hp.tail) isK8s a
  | nil =>
    cases h with
    | inject hw =>
      have hscan := (sameBladeScan_plain hw []).symm
      exact (inlineBladeTarget_no_subtype isK8s []).trans
        (inlineBladeTarget_congr hscan isK8s "--timeout")
    | boost hv hw r =>
      have hscan := (sameBladeScan_plain hv r).trans (sameBladeScan_plain hw r).symm
      exact inlineBladeTarget_congr hscan isK8s "--timeout"

theorem classifyInlineBlade_timeout {t₁ t₂ : List String} (h : TimeoutEdit t₁ t₂) (hp : Seam p) :
    (classifyInlineBlade ("blade" :: (p ++ t₁)) raw fallbackNs fallbackPod).selector =
    (classifyInlineBlade ("blade" :: (p ++ t₂)) raw fallbackNs fallbackPod).selector := by
  have hends : ∀ w, w ≠ "--timeout" → t₁.head? ≠ some w ∧ t₂.head? ≠ some w := by
    intro w hw
    cases h with
    | inject _ | boost _ _ r => simp [hw.symm]
  cases p with
  | nil =>
    rw [nil_append, nil_append, classifyInlineBlade_not_create (hends "create" (by decide)).1,
      classifyInlineBlade_not_create (hends "create" (by decide)).2]
  | cons a p =>
    by_cases ha : a = "create"
    · subst ha
      rw [cons_append, cons_append, classifyInlineBlade_create, classifyInlineBlade_create]
      have hp' := hp.tail
      cases p with
      | nil =>
        rw [nil_append, nil_append, if_neg (hends "k8s" (by decide)).1,
          if_neg (hends "k8s" (by decide)).2]
        exact bladeWords_timeout h seam_nil false
      | cons b p =>
        by_cases hb : b = "k8s"
        · subst hb
          exact bladeWords_timeout h hp'.tail true
        · simp only [cons_append, List.head?_cons, some.injEq, hb, if_false]
          exact bladeWords_timeout h hp' false
    · have hne : ∀ t : List String, ((a :: p) ++ t).head? ≠ some "create" := by
        intro t
        simpa using ha
      rw [classifyInlineBlade_not_create (hne t₁), classifyInlineBlade_not_create (hne t₂)]

end

/-! ## Through `exec` and the verb -/

section

variable {t₁ t₂ : List String} {raw : String}

theorem extractAfterDoubleDash_append (hx : "--" ∉ x) (t : List String) :
    extractAfterDoubleDash (x ++ t) = extractAfterDoubleDash t := by
  induction x with
  | nil => rfl
  | cons a x ih =>
    rw [mem_cons, not_or] at hx
    simp [extractAfterDoubleDash, Ne.symm hx.1, ih hx.2]

theorem extractAfterDoubleDash_dashes (hx : "--" ∉ x) (z : List String) :
    extractAfterDoubleDash (x ++ "--" :: z) = z := by
  rw [extractAfterDoubleDash_append hx]
  simp [extractAfterDoubleDash]

theorem inheritNamespace_selector {e₁ e₂ : EffectiveTarget} (ns : String)
    (h : e₁.selector = e₂.selector) :
    (inheritNamespace ns raw e₁).selector = (inheritNamespace ns raw e₂).selector := by
  simp only [selector, Prod.mk.injEq] at h
  obtain ⟨hs, hn, hm, hl⟩ := h
  unfold inheritNamespace
  rw [hn]
  split
  · simp [selector, hs, hm, hl]
  · simp [selector, hs, hn, hm, hl]

theorem map_inheritNamespace_selector {x₁ x₂ : Except PyError EffectiveTarget} (ns : String)
    (h : x₁.map selector = x₂.map selector) :
    (x₁.map (inheritNamespace ns raw)).map selector =
    (x₂.map (inheritNamespace ns raw)).map selector := by
  cases x₁ <;> cases x₂ <;> simp only [Except.map, Except.ok.injEq, reduceCtorEq] at h ⊢
  · exact h
  · exact inheritNamespace_selector ns h

theorem classifyKubectlExec_timeout {nested : List String → Except PyError EffectiveTarget}
    (h : TimeoutEdit t₁ t₂) (hp : Seam p)
    (hnested : ∀ {x z : List String}, p = x ++ "--" :: "kubectl" :: z →
      (nested (z ++ t₁)).map selector =
      (nested (z ++ t₂)).map selector) :
    (classifyKubectlExec nested (p ++ t₁) raw).map selector =
    (classifyKubectlExec nested (p ++ t₂) raw).map selector := by
  have hscan := h.sameScan.append hp
  by_cases hd : "--" ∈ p
  · obtain ⟨x, z, rfl, hx⟩ := eq_append_cons_of_mem hd
    obtain ⟨hz, hseam⟩ := hp.after
    obtain ⟨program, words, rfl⟩ := exists_cons_of_ne_nil hz
    have hin : ∀ t : List String,
        extractAfterDoubleDash ((x ++ "--" :: program :: words) ++ t) = program ::
            (words ++ t) := by
      intro t
      rw [append_assoc]
      exact extractAfterDoubleDash_dashes hx _
    have hhelp : hasHelpFlag (program :: (words ++ t₁)) = hasHelpFlag (program :: (words ++ t₂)) :=
      (h.sameScan.append hseam).help
    unfold classifyKubectlExec
    simp only [hscan.firstPositional, hscan.ns, hin, hhelp]
    split
    · rfl
    split
    · rfl
    split
    · next hprog =>
      subst hprog
      exact congrArg Except.ok (classifyInlineBlade_timeout h hseam.tail)
    split
    · next hprog =>
      subst hprog
      exact map_inheritNamespace_selector _ (hnested rfl)
    split <;> rfl
  · have hinner : extractAfterDoubleDash (p ++ t₁) = extractAfterDoubleDash (p ++ t₂) := by
      rw [extractAfterDoubleDash_append hd, extractAfterDoubleDash_append hd, h.afterDashes]
    rw [classifyKubectlExec_congr hscan hinner]

theorem resolveKindName_plain {v : String} (hv : PlainValue v) (more : List String) :
    resolveKindName none (v :: more) = none := by
  unfold resolveKindName splitKindName
  cases more with
  | nil | cons a more => simp [hv.noSlash, hv.noKind]

theorem classifyKubectlRollout_timeout (h : TimeoutEdit t₁ t₂) (hp : Seam p) :
    (classifyKubectlRollout (p ++ t₁) raw).selector =
    (classifyKubectlRollout (p ++ t₂) raw).selector := by
  have hplain : ∀ {v : String}, PlainValue v → ∀ r : List String,
      classifyKubectlResource none (v :: r) raw = .unknown raw := by
    intro v hv r
    unfold classifyKubectlResource
    rw [listPositionals_word hv.noFlag, resolveKindName_plain hv]
  cases p with
  | nil =>
    cases h with
    | inject hw => simp [classifyKubectlRollout, hplain hw]
    | boost hv hw r => simp [classifyKubectlRollout, hplain hv, hplain hw]
  | cons a p =>
    have hscan := h.sameScan.append hp.tail
    have hlabels : parseLabels (p ++ t₁) = parseLabels (p ++ t₂) :=
      parseLabelsFrom_append h.labels hp.tail ∅
    simp only [cons_append, classifyKubectlRollout]
    rw [classifyKubectlResource_congr hscan hlabels]

theorem classifyVerb_timeout {nested : List String → Except PyError EffectiveTarget} {sub : String}
    {rawArgs : Option (List (String × Json))} (h : TimeoutEdit t₁ t₂) (hp : Seam p)
    (hnested : ∀ {x z : List String}, p = x ++ "--" :: "kubectl" :: z →
      (nested (z ++ t₁)).map selector =
      (nested (z ++ t₂)).map selector) :
    (classifyVerb nested sub (p ++ t₁) raw rawArgs).map selector =
    (classifyVerb nested sub (p ++ t₂) raw rawArgs).map selector := by
  have hhead : ∀ {l : List String}, "" ∉ l ∧ "--timeout" ∉ l →
      l.contains ((p ++ t₁).headD "") = l.contains ((p ++ t₂).headD "") := by
    intro l hl
    cases p with
    | nil => exact h.head hl
    | cons a p => rfl
  refine classifyVerb_congr (h.sameScan.append hp) (dispatchVerb_congr (h.sameScan.append hp)
    (fun _ => parseLabelsFrom_append h.labels hp ∅)
    (fun _ => classifyKubectlExec_timeout h hp hnested)
    (fun _ => ⟨hhead (by decide), classifyKubectlRollout_timeout h hp⟩)
    (fun _ => hhead (by decide)))

end

/-! ## Through the whole call -/

structure PlainNamespaces (p : List String) : Prop where
  spaced : ∀ x f v y, p = x ++ f :: v :: y → isNsFlag f = true → isClosed v = true
  attached : ∀ a ∈ p, isNsEquals a = true → isClosed (afterChar '=' a) = true

variable {y : List String}

theorem PlainNamespaces.append_right (h : PlainNamespaces (x ++ y)) :
    PlainNamespaces y where
  spaced := fun x' f v y' hy hf => h.spaced (x ++ x') f v y' (by rw [hy, append_assoc]) hf
  attached := fun a ha he => h.attached a (mem_append_right x ha) he

theorem PlainNamespaces.append_left (h : PlainNamespaces (x ++ y)) :
    PlainNamespaces x where
  spaced := fun x' f v y' hx hf => h.spaced x' f v (y' ++ y) (by rw [hx]; simp) hf
  attached := fun a ha he => h.attached a (mem_append_left y ha) he

theorem parseNamespace_closed : ∀ {p : List String}, PlainNamespaces p →
    isClosed (parseNamespace p "") = true
  | [], _ => by decide
  | a :: p, h => by
    have ih := parseNamespace_closed (PlainNamespaces.append_right (x := [a]) h)
    simp only [parseNamespace]
    split
    · decide
    split
    · next he => exact h.attached a mem_cons_self he
    split
    · next hn =>
      cases p with
      | nil => decide
      | cons v p => exact h.spaced [] a v p rfl hn
    · exact ih

theorem Seam.append_right (h : Seam (x ++ y)) : Seam y := by
  induction x with
  | nil => exact h
  | cons a x ih => exact ih h.tail

theorem findSubcommandIndex_append {t : List String} :
    ∀ {p : List String} {i : Nat}, findSubcommandIndex p = some i →
      findSubcommandIndex (p ++ t) = some i
  | [], i, h => by simp [findSubcommandIndex] at h
  | a :: p, i, h => by
    rw [findSubcommandIndex_cons] at h
    rw [cons_append, findSubcommandIndex_cons]
    split at h
    · next hw => simpa [hw] using h
    next hw =>
    split at h
    · next ho =>
      obtain ⟨j, hj, rfl⟩ := map_eq_some_iff.mp h
      simp [hw, ho, findSubcommandIndex_append hj]
    next ho =>
    obtain ⟨j, hj, rfl⟩ := map_eq_some_iff.mp h
    cases p with
    | nil => simp [findSubcommandIndex] at hj
    | cons v p =>
      have ih := findSubcommandIndex_append (t := t) hj
      simp only [drop_succ_cons, drop_zero] at ih
      simp [hw, ho, ih]

theorem findSubcommandIndex_append_none {t : List String} :
    ∀ {p : List String}, Closed p → findSubcommandIndex p = none →
      findSubcommandIndex (p ++ t) = (findSubcommandIndex t).map (· + p.length)
  | [], _, _ => by simp
  | a :: p, hc, h => by
    rw [findSubcommandIndex_cons] at h
    rw [cons_append, findSubcommandIndex_cons]
    split at h
    · cases h
    next hw =>
    split at h
    · next ho =>
      rw [map_eq_none_iff] at h
      simp [hw, ho, findSubcommandIndex_append_none hc.tail h, Function.comp_def, Nat.add_assoc]
    next ho =>
    rw [map_eq_none_iff] at h
    cases p with
    | nil =>
      have ha := closed_singleton.mp hc
      rw [Bool.not_eq_true] at hw ho
      rw [isClosed, hw, ho] at ha
      cases ha
    | cons v p =>
      have ih := findSubcommandIndex_append_none (t := t) hc.tail.tail h
      simp [hw, ho, ih, Function.comp_def, Nat.add_assoc]

theorem findSubcommandIndex_timeout (v : String) (r : List String) :
    findSubcommandIndex ("--timeout" :: v :: r) = (findSubcommandIndex r).map (· + 2) := by
  have h1 : startsWith "--timeout" "-" = true := by decide
  have h2 : isOneToken "--timeout" = false := by decide
  rw [findSubcommandIndex_cons]
  simp [h1, h2]

theorem seam_namespace {ns : String} {rest : List String} (hns : isClosed ns = true)
    (hrest : Seam rest) : Seam ("-n" :: ns :: rest) := by
  have hfront : ∀ {x : List String}, Closed x → Closed ("-n" :: ns :: x) := by
    intro x hx
    cases x with
    | nil => exact closed_cons_cons.mpr (closed_singleton.mpr hns)
    | cons a x => exact closed_cons_cons.mpr (closed_cons_cons.mpr hx)
  refine ⟨hfront hrest.closed, ?_⟩
  intro x y hxy
  match x, hxy with
  | [], hxy => simp at hxy
  | [a], hxy =>
    simp only [cons_append, nil_append, cons.injEq] at hxy
    rw [hxy.2.1, not_isClosed_of_mem (by simp)] at hns
    cases hns
  | a :: b :: x, hxy =>
    simp only [cons_append, cons.injEq] at hxy
    obtain ⟨rfl, rfl, hrest'⟩ := hxy
    exact hfront (hrest.aligned x y hrest')

theorem propagateNamespace_append {t₁ t₂ pre rest : List String} (hpre : PlainNamespaces pre)
    (hrest : Seam rest) (h : restHasNamespace (rest ++ t₁) = restHasNamespace (rest ++ t₂)) :
    ∃ inj, propagateNamespace pre (rest ++ t₁) = (inj ++ rest) ++ t₁ ∧
      propagateNamespace pre (rest ++ t₂) = (inj ++ rest) ++ t₂ ∧ Seam (inj ++ rest) ∧
      (inj = [] ∨ ∃ ns, inj = ["-n", ns]) := by
  unfold propagateNamespace
  rw [h]
  dsimp only
  split
  · exact ⟨["-n", parseNamespace pre ""], rfl, rfl,
      seam_namespace (parseNamespace_closed hpre) hrest, Or.inr ⟨_, rfl⟩⟩
  · exact ⟨[], rfl, rfl, hrest, Or.inl rfl⟩

theorem suffix_of_inner {inj rest z : List String} (hinj : inj = [] ∨ ∃ ns, inj = ["-n", ns])
    (h : inj ++ rest = x ++ "--" :: "kubectl" :: z) : ∃ y, rest = y ++ z := by
  rcases hinj with rfl | ⟨ns, rfl⟩
  · exact ⟨x ++ ["--", "kubectl"], by simpa using h⟩
  · match x, h with
    | [], h => simp at h
    | [a], h =>
      simp only [cons_append, nil_append, cons.injEq] at h
      exact ⟨["kubectl"], h.2.2⟩
    | a :: b :: x, h =>
      simp only [cons_append, nil_append, cons.injEq] at h
      exact ⟨x ++ ["--", "kubectl"], by rw [h.2.2]; simp⟩

theorem classifyKubectl_timeout_no_verb {t₁ t₂ : List String} (h : TimeoutEdit t₁ t₂)
    (hp : Seam p) (hsub : findSubcommandIndex p = none) (depth : Nat) (raw : String)
    (rawArgs : Option (List (String × Json))) : classifyKubectl (depth + 1) (p ++ t₁) raw rawArgs =
      classifyKubectl (depth + 1) (p ++ t₂) raw rawArgs := by
  cases h with
  | @inject w hw =>
    have h₂ : findSubcommandIndex (p ++ ["--timeout", w]) = none := by
      rw [findSubcommandIndex_append_none hp.closed hsub, findSubcommandIndex_timeout]
      rfl
    rw [append_nil, classifyKubectl_no_verb hsub, classifyKubectl_no_verb h₂]
  | @boost v w hv hw r =>
    have hfind : ∀ u : String, findSubcommandIndex (p ++ "--timeout" :: u :: r) =
        (findSubcommandIndex r).map (· + 2 + p.length) := by
      intro u
      rw [findSubcommandIndex_append_none hp.closed hsub, findSubcommandIndex_timeout,
        Option.map_map]
      rfl
    cases hr : findSubcommandIndex r with
    | none =>
      rw [classifyKubectl_no_verb (by rw [hfind, hr]; rfl),
        classifyKubectl_no_verb (by rw [hfind, hr]; rfl)]
    | some j =>
      -- the verb stands behind the edit, which only its front part contains
      obtain ⟨pre, verb, rest, rfl, rfl⟩ := findSubcommandIndex_cut hr
      have hcut : ∀ u : String, p ++ "--timeout" :: u :: (pre ++ verb :: rest) =
          (p ++ "--timeout" :: u :: pre) ++ verb :: rest := by simp
      have hat : ∀ u : String,
          findSubcommandIndex ((p ++ "--timeout" :: u :: pre) ++ verb :: rest) =
          some (p ++ "--timeout" :: u :: pre).length := by
        intro u
        rw [← hcut, hfind, hr]
        simp only [map_some, length_append, length_cons]
        congr 1
        omega
      have hsame := ((TimeoutEdit.boost hv hw pre).sameScan.append hp).ns
      rw [hcut, hcut, classifyKubectl_at (hat v), classifyKubectl_at (hat w)]
      unfold propagateNamespace
      rw [hsame]

theorem classifyKubectl_timeout {t₁ t₂ : List String} (h : TimeoutEdit t₁ t₂) :
    ∀ (depth : Nat) {p : List String}, Seam p → PlainNamespaces p →
      ∀ (raw : String) (rawArgs : Option (List (String × Json))),
      (classifyKubectl depth (p ++ t₁) raw rawArgs).map selector =
      (classifyKubectl depth (p ++ t₂) raw rawArgs).map selector
  | 0, _, _, _, _, _ => rfl
  | depth + 1, p, hp, hns, raw, rawArgs => by
    cases hsub : findSubcommandIndex p with
    | some i =>
      -- the verb stands in front of the edit
      obtain ⟨pre, verb, rest, rfl, rfl⟩ := findSubcommandIndex_cut hsub
      have hfound : ∀ t : List String,
          findSubcommandIndex (pre ++ verb :: (rest ++ t)) = some pre.length := by
        intro t
        have happ := findSubcommandIndex_append (t := t) hsub
        simpa using happ
      have hrest : Seam rest := hp.append_right.tail
      have hnsrest : PlainNamespaces rest := (hns.append_right).append_right (x := [verb])
      obtain ⟨inj, h₁, h₂, hseam, hinj⟩ := propagateNamespace_append hns.append_left hrest
        (restHasNamespace_append h.sameScan.hasNs rest)
      simp only [append_assoc, cons_append]
      rw [classifyKubectl_at (hfound t₁), classifyKubectl_at (hfound t₂), h₁, h₂]
      apply classifyVerb_timeout h hseam
      intro x z hxz
      obtain ⟨y, rfl⟩ := suffix_of_inner hinj hxz
      exact classifyKubectl_timeout h depth hrest.append_right hnsrest.append_right raw none
    | none => rw [classifyKubectl_timeout_no_verb h hp hsub]

end ChaosBlade.TargetGuard
