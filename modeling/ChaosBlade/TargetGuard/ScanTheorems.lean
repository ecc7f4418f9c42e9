/-
TargetGuard.ScanTheorems: the classifier sees its arguments
only through a few scans.

`SameScan r₁ r₂` says that the scans of two argument lists agree, and
`classifyVerb_congr` that the classifier then reports the same selector.
-/
import ChaosBlade.TargetGuard.ClassifierTheorems

namespace ChaosBlade.TargetGuard

open Py List EffectiveTarget

variable {p : List String}

/-! ## Where a list can be cut -/

def isClosed (a : String) : Bool := !startsWith a "-" || isOneToken a

def Closed (p : List String) : Prop := ∀ a ∈ p.getLast?, isClosed a = true

theorem closed_nil : Closed [] := by
  intro a ha
  cases ha

variable {a : String}

theorem closed_singleton : Closed [a] ↔ isClosed a = true := by simp [Closed]

theorem closed_cons_cons {b : String} : Closed (a :: b :: p) ↔ Closed (b :: p) := by simp [Closed]

theorem Closed.tail (h : Closed (a :: p)) : Closed p := by
  cases p with
  | nil => exact closed_nil
  | cons b p => exact closed_cons_cons.mp h

theorem Closed.append_left {x y : List String} (hy : y ≠ []) (h : Closed (x ++ y)) : Closed y := by
  intro a ha
  apply h a
  rw [List.getLast?_append_of_ne_nil _ hy]
  exact ha

theorem not_isClosed_of_mem
    (h : a ∈ ["--", "-n", "--namespace", "-l", "--selector", "--labels", "--names", "--node"]) :
    isClosed a = false := by
  have hall : ∀ a ∈ ["--", "-n", "--namespace", "-l", "--selector", "--labels", "--names",
      "--node"], isClosed a = false := by decide
  exact hall a h

/-- A front part after which the scans start afresh: neither its last token nor
the token before a `--` is a flag that waits for its value. -/
structure Seam (p : List String) : Prop where
  closed : Closed p
  aligned : ∀ x y, p = x ++ "--" :: y → Closed x

theorem seam_nil : Seam [] := by
  refine ⟨closed_nil, ?_⟩
  intro x y h
  simp at h

theorem Seam.tail (h : Seam (a :: p)) : Seam p := by
  refine ⟨h.closed.tail, ?_⟩
  intro x y hp
  have hx : Closed (a :: x) := h.aligned (a :: x) y (by rw [hp, cons_append])
  exact hx.tail

theorem Seam.waiting (h : Seam (a :: p)) (ha : isClosed a = false) :
    ∃ v p', p = v :: p' ∧ v ≠ "--" := by
  cases p with
  | nil =>
    have hc := closed_singleton.mp h.closed
    rw [ha] at hc
    cases hc
  | cons v p' =>
    refine ⟨v, p', rfl, ?_⟩
    rintro rfl
    have hc := closed_singleton.mp (h.aligned [a] p' rfl)
    rw [ha] at hc
    cases hc

theorem Seam.after {x z : List String} (h : Seam (x ++ "--" :: z)) : z ≠ [] ∧ Seam z := by
  have hz : z ≠ [] := by
    rintro rfl
    have hc : isClosed "--" = true := h.closed "--" (by simp)
    cases hc
  refine ⟨hz, ?_, ?_⟩
  · have hc : Closed ((x ++ ["--"]) ++ z) := by simpa using h.closed
    exact hc.append_left hz
  · intro x' y' hz'
    have hc : Closed ((x ++ ["--"]) ++ x') := h.aligned _ y' (by simp [hz'])
    by_cases hx' : x' = []
    · rw [hx']
      exact closed_nil
    · exact hc.append_left hx'

/-! ## The scans of a list with a front part -/

section

variable {t₁ t₂ : List String}

theorem parseNamespace_append (ht : ∀ d, parseNamespace t₁ d = parseNamespace t₂ d) (d : String) :
    ∀ {p : List String}, Seam p → parseNamespace (p ++ t₁) d = parseNamespace (p ++ t₂) d
  | [], _ => ht d
  | a :: p, h => by
    have ih := parseNamespace_append ht d h.tail
    simp only [cons_append, parseNamespace]
    by_cases hd : a = "--"
    · simp [hd]
    by_cases he : isNsEquals a = true
    · simp [hd, he]
    by_cases hn : isNsFlag a = true
    · have ha : isClosed a = false := by
        apply not_isClosed_of_mem
        simp only [isNsFlag, Bool.or_eq_true, beq_iff_eq] at hn
        rcases hn with rfl | rfl <;> simp
      obtain ⟨v, p', rfl, -⟩ := h.waiting ha
      simp [hn]
    · simp [hn, ih]

theorem restHasNamespace_append (ht : restHasNamespace t₁ = restHasNamespace t₂) :
    ∀ (p : List String), restHasNamespace (p ++ t₁) = restHasNamespace (p ++ t₂)
  | [] => ht
  | a :: p => by
    have ih := restHasNamespace_append ht p
    simp [restHasNamespace, ih]

theorem parseLabelsFrom_append (ht : ∀ s, parseLabelsFrom t₁ s = parseLabelsFrom t₂ s) :
    ∀ {p : List String}, Seam p → ∀ s, parseLabelsFrom (p ++ t₁) s = parseLabelsFrom (p ++ t₂) s
  | [], _, s => ht s
  | a :: p, h, s => by
    rw [cons_append, cons_append, parseLabelsFrom_cons, parseLabelsFrom_cons]
    by_cases hl : isLabelFlag a = true
    · have ha : isClosed a = false := by
        apply not_isClosed_of_mem
        simp only [isLabelFlag, Bool.or_eq_true, beq_iff_eq] at hl
        rcases hl with (rfl | rfl) | rfl <;> simp
      obtain ⟨v, p', rfl, -⟩ := h.waiting ha
      have ih := parseLabelsFrom_append ht h.tail.tail (addSelector s v)
      simp [hl, ih]
    · have ih := parseLabelsFrom_append ht h.tail
      simp [hl, ih]

theorem listPositionals_word (hw : startsWith a "-" = false) (r : List String) :
    listPositionals (a :: r) = a :: listPositionals r := by
  have hd : a ≠ "--" := by
    rintro rfl
    revert hw
    decide
  rw [listPositionals_cons]
  simp [hd, hw]

theorem listPositionals_oneToken (hd : a ≠ "--") (hw : startsWith a "-" = true)
    (ho : isOneToken a = true) (r : List String) :
    listPositionals (a :: r) = listPositionals r := by
  rw [listPositionals_cons]
  simp [hd, hw, ho]

theorem listPositionals_twoTokens (hd : a ≠ "--") (hc : isClosed a = false)
    (v : String) (r : List String) : listPositionals (a :: v :: r) = listPositionals r := by
  simp only [isClosed, Bool.or_eq_false_iff] at hc
  rw [listPositionals_cons]
  simp [hd, hc.1, hc.2]

theorem listPositionals_append (ht : listPositionals t₁ = listPositionals t₂) :
    ∀ {p : List String}, Seam p → listPositionals (p ++ t₁) = listPositionals (p ++ t₂)
  | [], _ => ht
  | a :: p, h => by
    by_cases hd : a = "--"
    · simp [hd, listPositionals_cons]
    cases hc : isClosed a with
    | true =>
      have ih := listPositionals_append ht h.tail
      cases hw : startsWith a "-" with
      | false => rw [cons_append, cons_append, listPositionals_word hw, listPositionals_word hw, ih]
      | true =>
        have ho : isOneToken a = true := by simpa [isClosed, hw] using hc
        rw [cons_append, cons_append, listPositionals_oneToken hd hw ho,
          listPositionals_oneToken hd hw ho, ih]
    | false =>
      obtain ⟨v, p', rfl, -⟩ := h.waiting hc
      have ih := listPositionals_append ht h.tail.tail
      simp only [cons_append]
      rw [listPositionals_twoTokens hd hc, listPositionals_twoTokens hd hc, ih]

theorem parseFlagValue_append {flag : String} (hflag : isClosed flag = false)
    (ht : parseFlagValue flag t₁ = parseFlagValue flag t₂) :
    ∀ {p : List String}, Seam p → parseFlagValue flag (p ++ t₁) = parseFlagValue flag (p ++ t₂)
  | [], _ => ht
  | a :: p, h => by
    have ih := parseFlagValue_append hflag ht h.tail
    by_cases ha : a = flag
    · obtain ⟨v, p', rfl, -⟩ := h.waiting (ha ▸ hflag)
      simp [parseFlagValue, ha]
    · -- the last token of the list is read as if nothing followed
      have hcons : ∀ t : List String, parseFlagValue flag (a :: t) =
          if startsWith a (flag ++ "=") then afterChar '=' a else parseFlagValue flag t := by
        intro t
        cases t with
        | nil => simp [parseFlagValue]
        | cons v t => simp [parseFlagValue, ha]
      rw [cons_append, cons_append, hcons, hcons, ih]

end

def isCopySpec (a : String) : Bool := !startsWith a "-" && hasChar ':' a

structure SameScan (r₁ r₂ : List String) : Prop where
  file : usesFileInput r₁ = usesFileInput r₂
  help : hasHelpFlag r₁ = hasHelpFlag r₂
  ns : ∀ d, parseNamespace r₁ d = parseNamespace r₂ d
  hasNs : restHasNamespace r₁ = restHasNamespace r₂
  positionals : listPositionals r₁ = listPositionals r₂
  copySpec : r₁.find? isCopySpec = r₂.find? isCopySpec

theorem SameScan.firstPositional {r₁ r₂ : List String} (h : SameScan r₁ r₂) :
    firstPositional r₁ = firstPositional r₂ := by
  unfold TargetGuard.firstPositional
  rw [h.positionals]

theorem SameScan.append {t₁ t₂ : List String} (hp : Seam p) (h : SameScan t₁ t₂) :
    SameScan (p ++ t₁) (p ++ t₂) where
  file := by
    have hf := h.file
    unfold usesFileInput at hf ⊢
    rw [any_append, any_append, hf]
  help := by
    have hh := h.help
    simp only [hasHelpFlag, contains_eq_mem, mem_append, Bool.decide_or] at hh ⊢
    grind
  ns := fun d => parseNamespace_append h.ns d hp
  hasNs := restHasNamespace_append h.hasNs p
  positionals := listPositionals_append h.positionals hp
  copySpec := by rw [List.find?_append, List.find?_append, h.copySpec]

/-! ## The classifier on lists whose scans agree -/

def EffectiveTarget.selector (e : EffectiveTarget) : String × String × List String × Labels :=
  (e.scope, e.ns, e.names, e.labels)

section

variable {r₁ r₂ : List String} {raw : String}
  {nested₁ nested₂ : List String → Except PyError EffectiveTarget}

section

variable (h : SameScan r₁ r₂)
include h

theorem classifyKubectlResource_congr (hl : parseLabels r₁ = parseLabels r₂)
    (dk : Option String) : classifyKubectlResource dk r₁ raw =
        classifyKubectlResource dk r₂ raw := by
  unfold classifyKubectlResource
  simp [h.positionals, h.ns, hl]

theorem classifyKubectlDebug_congr : classifyKubectlDebug r₁ raw = classifyKubectlDebug r₂ raw := by
  unfold classifyKubectlDebug
  simp [h.firstPositional, h.ns]

theorem classifyKubectlNodeOp_congr :
    classifyKubectlNodeOp r₁ raw = classifyKubectlNodeOp r₂ raw := by
  unfold classifyKubectlNodeOp
  simp [h.firstPositional]

theorem classifyKubectlTaint_congr : classifyKubectlTaint r₁ raw = classifyKubectlTaint r₂ raw := by
  unfold classifyKubectlTaint
  rw [h.positionals]

theorem classifyKubectlRun_congr : classifyKubectlRun r₁ raw = classifyKubectlRun r₂ raw := by
  unfold classifyKubectlRun
  simp [h.firstPositional, h.ns]

theorem classifyKubectlCp_congr : classifyKubectlCp r₁ raw = classifyKubectlCp r₂ raw := by
  have hcopy : r₁.find? (fun a => !startsWith a "-" && hasChar ':' a) =
      r₂.find? (fun a => !startsWith a "-" && hasChar ':' a) := h.copySpec
  unfold classifyKubectlCp
  simp [hcopy, h.ns]

theorem dispatchVerb_congr {sub : String} (hlabels : sub ≠ "exec" → parseLabels r₁ = parseLabels r₂)
    (hexec : sub = "exec" → (classifyKubectlExec nested₁ r₁ raw).map selector =
      (classifyKubectlExec nested₂ r₂ raw).map selector)
    (hrollout : sub = "rollout" →
      readonlyRolloutSubs.contains (r₁.headD "") = readonlyRolloutSubs.contains (r₂.headD "") ∧
      (classifyKubectlRollout r₁ raw).selector = (classifyKubectlRollout r₂ raw).selector)
    (hconfig : sub = "config" →
      readonlyConfigSubs.contains (r₁.headD "") = readonlyConfigSubs.contains (r₂.headD "")) :
    (dispatchVerb nested₁ sub r₁ raw).map selector =
    (dispatchVerb nested₂ sub r₂ raw).map selector := by
  by_cases hs : sub = "exec"
  · have hx := hexec hs
    subst hs
    exact hx
  by_cases hr : sub = "rollout"
  · obtain ⟨hhead, hsel⟩ := hrollout hr
    unfold dispatchVerb
    simp only [hr, if_true, hhead]
    split
    · rfl
    · exact congrArg Except.ok hsel
  have hl := hlabels hs
  unfold dispatchVerb
  simp only [hs, hr, if_false, classifyKubectlResource_congr h hl, classifyKubectlDebug_congr h,
    classifyKubectlNodeOp_congr h, classifyKubectlTaint_congr h, classifyKubectlRun_congr h,
    classifyKubectlCp_congr h]
  by_cases hc : sub = "config"
  · simp only [hconfig hc]
  · simp [hc]

theorem classifyVerb_congr {sub : String} {rawArgs : Option (List (String × Json))}
    (hdispatch : (dispatchVerb nested₁ sub r₁ raw).map selector =
      (dispatchVerb nested₂ sub r₂ raw).map selector) :
    (classifyVerb nested₁ sub r₁ raw rawArgs).map selector =
    (classifyVerb nested₂ sub r₂ raw rawArgs).map selector := by
  have hmanifest : ∀ stdinData, classifyKubectlStdinManifest stdinData r₁ raw =
      classifyKubectlStdinManifest stdinData r₂ raw := by
    intro stdinData
    cases stdinData with
    | str yaml => simp [classifyKubectlStdinManifest, classifyManifestText, h.ns]
    | _ => rfl
  unfold classifyVerb
  simp only [h.file, h.help, hmanifest]
  split
  · rfl
  split
  · rfl
  split
  · rfl
  split
  · rfl
  · exact hdispatch

theorem classifyKubectlExec_congr (hinner : extractAfterDoubleDash r₁ = extractAfterDoubleDash r₂) :
    classifyKubectlExec nested₁ r₁ raw = classifyKubectlExec nested₁ r₂ raw := by
  unfold classifyKubectlExec
  simp [h.firstPositional, h.ns, hinner]

end

end

end ChaosBlade.TargetGuard
