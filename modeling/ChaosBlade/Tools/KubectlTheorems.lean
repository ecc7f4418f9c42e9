/-
Tools.KubectlTheorems: the command line that is screened
against the command line that is run.

The classifier cuts the argument string into tokens; the tool first edits
the string and then cuts it. What the two lists of tokens select is the
same if the edits only take whole pairs away that no scan of the classifier
looks at, and put a timeout where none waits for a value.
-/
import ChaosBlade.TargetGuard.TimeoutTheorems
import ChaosBlade.Tools.Kubectl

namespace ChaosBlade.Tools

open Py TargetGuard List Option Shlex EffectiveTarget

variable {p : List String} {db : CharDb}

/-! ## Dropped pairs in flag position -/

def selectorFlags : List String := ["-l", "--selector"]

/-- The tool takes the flag away, with its value. -/
def Removable (sub f : String) : Prop := f = "--kubeconfig" ∨ sub = "exec" ∧ f ∈ selectorFlags

/-- A pair that no scan looks at: a value of its own, behind tokens that leave no flag
waiting. -/
structure Unscanned (sub : String) (kept : List String) (v : String) : Prop where
  verb : startsWith sub "-" = false
  closed : Closed kept
  noDashes : "--" ∉ kept
  noFlag : startsWith v "-" = false
  noColon : hasChar ':' v = false
  front : kept = [] → sub ≠ "rollout" ∧ sub ≠ "config"

/-- The second list is the first without some pairs that no scan looks at; `kept` stands in front
of both. -/
inductive Trims (sub : String) : List String → List String → List String → Prop where
  | nil {kept : List String} : Trims sub kept [] []
  | keep {kept : List String} {a : String} {tokens trimmed : List String}
      (h : Trims sub (kept ++ [a]) tokens trimmed) : Trims sub kept (a :: tokens) (a :: trimmed)
  | drop {kept : List String} {f v : String} {tokens trimmed : List String} (hf : Removable sub f)
      (hv : Unscanned sub kept v) (h : Trims sub kept tokens trimmed) :
      Trims sub kept (f :: v :: tokens) trimmed

section

variable {nested : List String → Except PyError EffectiveTarget} {sub raw : String}
  {rawArgs : Option (List (String × Json))}

theorem seam_of_closed (hc : Closed p) (hd : "--" ∉ p) : Seam p := by
  refine ⟨hc, ?_⟩
  rintro x y rfl
  simp at hd

theorem classifyVerb_dropPair {y : List String} {f v : String}
    (hf : Removable sub f) (h : Unscanned sub p v) :
    (classifyVerb nested sub (p ++ f :: v :: y) raw rawArgs).map selector =
    (classifyVerb nested sub (p ++ y) raw rawArgs).map selector := by
  obtain ⟨-, hc, hd, hv, hcolon, hfront⟩ := h
  have hp := seam_of_closed hc hd
  have hskip : f ∈ skippedFlags := by
    rcases hf with rfl | ⟨-, hmem⟩
    · decide
    · revert f
      decide
  have hscan := (sameScan_drop hskip hv hcolon y).append hp
  -- what precedes a pair starts the arguments of the verbs that look at the first one
  have hcons : sub = "rollout" ∨ sub = "config" → ∃ a p', p = a :: p' := by
    intro hsub
    cases p with
    | nil => rcases hsub with rfl | rfl <;> simp at hfront
    | cons a p' => exact ⟨a, p', rfl⟩
  have hkube : sub ≠ "exec" → f = "--kubeconfig" := fun hne =>
    hf.resolve_right fun h => hne h.1
  refine classifyVerb_congr hscan (dispatchVerb_congr hscan (fun hne => ?_) (fun _ => ?_)
    (fun hr => ?_) (fun hcfg => ?_))
  · exact parseLabelsFrom_append (parseLabelsFrom_drop (.inl (hkube hne)) hv y) hp ∅
  · have hinner : extractAfterDoubleDash (p ++ f :: v :: y) = extractAfterDoubleDash (p ++ y) := by
      rw [extractAfterDoubleDash_append hd, extractAfterDoubleDash_append hd]
      simp [extractAfterDoubleDash, skipped_ne_dashes hskip, (plain_not_scanned hv).1]
    rw [classifyKubectlExec_congr hscan hinner]
  · obtain ⟨a, p', rfl⟩ := hcons (.inl hr)
    have hne : sub ≠ "exec" := by
      rw [hr]
      decide
    refine ⟨rfl, ?_⟩
    have hscan' := (sameScan_drop hskip hv hcolon y).append hp.tail
    have hlabels : parseLabels (p' ++ f :: v :: y) = parseLabels (p' ++ y) :=
      parseLabelsFrom_append (parseLabelsFrom_drop (.inl (hkube hne)) hv y) hp.tail ∅
    simp only [cons_append, classifyKubectlRollout]
    rw [classifyKubectlResource_congr hscan' hlabels]
  · obtain ⟨a, p', rfl⟩ := hcons (.inr hcfg)
    rfl

theorem classifyVerb_trims {kept tokens trimmed : List String} (h : Trims sub kept tokens trimmed) :
    (classifyVerb nested sub (kept ++ tokens) raw rawArgs).map selector =
    (classifyVerb nested sub (kept ++ trimmed) raw rawArgs).map selector := by
  induction h with
  | nil => rfl
  | @keep kept a tokens trimmed h ih => simpa using ih
  | drop hf hv h ih =>
    rw [classifyVerb_dropPair hf hv]
    exact ih

/-- Only a verb can stand in front of a pair that is taken away. -/
theorem Trims.same {kept tokens trimmed : List String} (h : Trims sub kept tokens trimmed)
    (hflag : startsWith sub "-" = true) : trimmed = tokens := by
  induction h with
  | nil => rfl
  | keep h ih => rw [ih]
  | drop hf hv h ih =>
    rw [hv.verb] at hflag
    cases hflag

end

/-! ## The timeout -/

/-- A front part behind which a timeout is read as one, also in the commands that are nested
in it. -/
structure TimeoutPlace (p : List String) : Prop where
  seam : Seam p
  namespaces : PlainNamespaces p

/-- What the tool does with the timeout of the text is done at such a place: an injected one comes
behind all tokens, a low one is replaced where it first stands. -/
structure TimeoutSafe (db : CharDb) (text : String) (tokens : List String) : Prop where
  inject : hasSub "--timeout" text = false → TimeoutPlace tokens
  boost : ∀ current n x y, Re.search (timeoutPattern db) none text.toList = some current →
    pyInt db current = some n → n < 600 → tokens = x ++ "--timeout" :: current :: y →
    ¬ ["--timeout", current] <:+: x ++ ["--timeout"] → TimeoutPlace x ∧ PlainValue current

theorem setTimeout_cut (current new : String) : ∀ tokens : List String,
    setTimeout current new tokens = tokens ∨ ∃ x y, tokens = x ++ "--timeout" :: current :: y ∧
      ¬ ["--timeout", current] <:+: x ++ ["--timeout"] ∧
      setTimeout current new tokens = x ++ "--timeout" :: new :: y
  | [] => .inl rfl
  | [_] => .inl rfl
  | a :: b :: rest => by
    rw [setTimeout]
    split
    · next h =>
      obtain ⟨rfl, rfl⟩ := h
      exact .inr ⟨[], rest, rfl, fun hinfix => by simpa using hinfix.length_le, rfl⟩
    · next hne =>
      rcases setTimeout_cut current new (b :: rest) with h | ⟨x, y, h₁, hfirst, h₂⟩
      · exact .inl (by rw [h])
      · refine .inr ⟨a :: x, y, by rw [h₁]; rfl, ?_, by rw [h₂]; rfl⟩
        rw [cons_append, infix_cons_iff]
        rintro (hpre | hinfix)
        · obtain ⟨rfl, hb⟩ := cons_prefix_cons.mp hpre
          -- the second token is the first behind `a`
          have hhead : (x ++ ["--timeout"]).head? = (b :: rest).head? := by
            rw [h₁]
            cases x <;> rfl
          obtain ⟨t, ht⟩ := hb
          rw [← ht] at hhead
          exact hne ⟨rfl, (some.inj hhead).symm⟩
        · exact hfirst hinfix

theorem ensureMinDuration_of_pyInt {current scope target action : String} {n : Int}
    (hn : pyInt db current = some n) :
    ensureMinDuration db (some current) scope target action = max 600 n := by
  have hcur : pyInt db (strip current) = some n := by
    unfold pyInt at hn ⊢
    rwa [strip_strip]
  have hne : current ≠ "" := by
    rintro rfl
    cases hn
  rw [ensureMinDuration_eq]
  dsimp only
  rw [if_neg hne, hcur, getD_some]

theorem ensureMinDuration_changed {current scope target action : String} {n : Int}
    (hn : pyInt db current = some n)
    (hne : ensureMinDuration db (some current) scope target action ≠ n) :
    ensureMinDuration db (some current) scope target action = 600 := by
  rw [ensureMinDuration_of_pyInt hn] at hne ⊢
  omega

theorem plainValue_600 : PlainValue (toString (600 : Int)) :=
  ⟨by decide, by decide +kernel, by decide, by decide⟩

theorem boostTimeout_edit (db : CharDb) (text : String) {tokens : List String}
    (h : (Re.search (bladeCreatePattern db) none text.toList).isSome = true →
      TimeoutSafe db text tokens) :
    boostTimeout db text tokens = tokens ∨ ∃ p t₁ t₂, tokens = p ++ t₁ ∧
      boostTimeout db text tokens = p ++ t₂ ∧ TimeoutEdit t₁ t₂ ∧ TimeoutPlace p := by
  unfold boostTimeout
  split
  · exact .inl rfl
  next hblade =>
  obtain ⟨hinject, hboost⟩ := h (by simpa [isSome_iff_ne_none] using hblade)
  dsimp only
  generalize (Re.search (faultPattern db) none text.toList).getD ("", "", "") = fault
  obtain ⟨scope, target, action⟩ := fault
  split
  · next hno =>
    refine .inr ⟨tokens, [], _, (append_nil _).symm, rfl, ?_, hinject (by simpa using hno)⟩
    have heff : ensureMinDuration db none scope target action = 600 := by
      rw [ensureMinDuration_eq]
      rfl
    rw [heff]
    exact .inject plainValue_600
  split
  · exact .inl rfl
  next current hcurrent =>
  split
  · exact .inl rfl
  next n hn =>
  split
  · exact .inl rfl
  next hne =>
  have hlow : n < 600 := by
    rw [ensureMinDuration_of_pyInt hn] at hne
    omega
  rw [ensureMinDuration_changed hn hne]
  rcases setTimeout_cut current (toString (600 : Int)) tokens with hsame | ⟨x, y, hx, hfirst, hset⟩
  · exact .inl hsame
  · obtain ⟨hplace, hv⟩ := hboost current n x y hcurrent hn hlow hx hfirst
    exact .inr ⟨x, _, _, hx, hset, .boost hv plainValue_600 y, hplace⟩

/-! ## Screened and run -/

def screenedTokens (sub vArgs : String) : List String :=
  coerceArgsList (.obj [("subcommand", .str sub), ("v_args", .str vArgs)])

/-- The edits of the tool do nothing to the tokens but to take such pairs away and to set such a
timeout, and the classifier drops no empty token. -/
structure FaithfulArgs (db : CharDb) (sub vArgs : String) : Prop where
  filled : sub ≠ "" ∧ "" ∉ splitArgs vArgs
  trimmed : Trims sub [] (splitArgs vArgs) (splitArgs (editArgs sub vArgs))
  timeout : sub = "exec" →
    (Re.search (bladeCreatePattern db) none (editArgs sub vArgs).toList).isSome = true →
      TimeoutSafe db (editArgs sub vArgs) (splitArgs (editArgs sub vArgs))

theorem screenedTokens_eq {sub vArgs : String} (hsub : sub ≠ "")
    (hempty : "" ∉ Shlex.splitArgs vArgs) :
    screenedTokens sub vArgs = sub :: Shlex.splitArgs vArgs := by
  have htokens : (if vArgs = "" then [] else splitArgs vArgs) = splitArgs vArgs := by
    split
    · next h =>
      rw [h]
      decide
    · rfl
  have hget : coerceArgsList (.obj [("subcommand", .str sub), ("v_args", .str vArgs)]) =
      (sub :: (if vArgs = "" then [] else splitArgs vArgs)).filter (· ≠ "") := by
    have h1 : Json.get? [("subcommand", .str sub), ("v_args", .str vArgs)] "subcommand" =
        some (.str sub) := rfl
    have h2 : Json.get? [("subcommand", .str sub), ("v_args", .str vArgs)] "v_args" =
        some (.str vArgs) := rfl
    simp only [coerceArgsList, h1, h2, Json.strOrEmpty_str]
  unfold screenedTokens
  rw [hget, htokens, filter_eq_self]
  intro t ht
  rcases mem_cons.mp ht with rfl | ht
  · simpa using hsub
  · have hne : t ≠ "" := by
      rintro rfl
      exact hempty ht
    simpa using hne

section

variable {sub : String} (hflag : startsWith sub "-" = false)
include hflag

theorem classifyKubectl_verb (depth : Nat) (tokens : List String) (raw : String)
    (rawArgs : Option (List (String × Json))) :
    classifyKubectl (depth + 1) (sub :: tokens) raw rawArgs =
      classifyVerb (fun inner => classifyKubectl depth inner raw none) sub tokens raw rawArgs := by
  have hfind : findSubcommandIndex ([] ++ sub :: tokens) = some ([] : List String).length := by
    rw [nil_append, findSubcommandIndex_cons]
    simp [hflag]
  have hprop : propagateNamespace [] tokens = tokens := by simp [propagateNamespace, parseNamespace]
  rw [← hprop, ← classifyKubectl_at hfind, hprop]
  rfl

theorem seam_cons (hp : Seam p) : Seam (sub :: p) := by
  have hfront : ∀ {x : List String}, Closed x → Closed (sub :: x) := by
    intro x hx
    cases x with
    | nil =>
      rw [closed_singleton, isClosed, hflag]
      rfl
    | cons a x => exact closed_cons_cons.mpr hx
  refine ⟨hfront hp.closed, ?_⟩
  intro x y hxy
  cases x with
  | nil => exact closed_nil
  | cons a x =>
    rw [cons_append, cons.injEq] at hxy
    rw [← hxy.1]
    exact hfront (hp.aligned x y hxy.2)

theorem plainNamespaces_cons (hp : PlainNamespaces p) : PlainNamespaces (sub :: p) := by
  obtain ⟨-, hn, he, -⟩ := plain_not_scanned hflag
  refine ⟨?_, ?_⟩
  · intro x f v y hxy hf
    cases x with
    | nil =>
      rw [nil_append, cons.injEq] at hxy
      rw [← hxy.1, hn] at hf
      cases hf
    | cons a x =>
      rw [cons_append, cons.injEq] at hxy
      exact hp.spaced x f v y hxy.2 hf
  · intro a ha hea
    rcases mem_cons.mp ha with rfl | ha
    · rw [he] at hea
      cases hea
    · exact hp.attached a ha hea

theorem classifyKubectl_boostTimeout {text : String} {tokens : List String}
    (h : (Re.search (bladeCreatePattern db) none text.toList).isSome = true →
      TimeoutSafe db text tokens) (depth : Nat) (raw : String)
    (rawArgs : Option (List (String × Json))) :
    (classifyKubectl depth (sub :: tokens) raw rawArgs).map selector =
    (classifyKubectl depth (sub :: boostTimeout db text tokens) raw rawArgs).map
      selector := by
  rcases boostTimeout_edit db text h with hsame | ⟨p, t₁, t₂, h₁, h₂, hedit, hp⟩
  · rw [hsame]
  · rw [h₂, h₁]
    exact classifyKubectl_timeout hedit depth (seam_cons hflag hp.seam)
      (plainNamespaces_cons hflag hp.namespaces) raw rawArgs

end

end ChaosBlade.Tools
