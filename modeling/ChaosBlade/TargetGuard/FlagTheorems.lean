/-
TargetGuard.FlagTheorems: the scanners of the classifier
against the flag rules of the command line.

`Cli.read` cuts a command line into chunks by the flag rules. The scanners
know nothing of chunks: each has a grammar of its own, which says for any
list of tokens what it reads there. They agree with the command line
exactly if what the grammars read is what the flags say.
-/
import ChaosBlade.Cli.Pflag
import ChaosBlade.TargetGuard.ClassifierTheorems

namespace ChaosBlade.TargetGuard

open Py List Cli
open ChaosBlade.Cli (Chunk)

variable {ts : List String}

def nsNames : List String := ["-n", "--namespace"]

def selectorNames : List String := ["-l", "--selector"]

/-! ## What the scanners read -/

def NsQuiet (t : String) : Prop := t ≠ "--" ∧ isNsFlag t = false ∧ isNsEquals t = false

def LabelQuiet (t : String) : Prop := t ≠ "--" ∧ isLabelFlag t = false ∧ isLabelEquals t = false

attribute [local simp] parseNamespace restHasNamespace

/-- Flags the scan for the verb passes over: a one-token flag alone, any other
one with the token behind it. -/
inductive Passed : List String → Prop
  | nil : Passed []
  | one {a : String} {ts : List String} (hflag : startsWith a "-" = true)
      (hone : isOneToken a = true) (h : Passed ts) : Passed (a :: ts)
  | two {a : String} {ts : List String} (hflag : startsWith a "-" = true)
      (htwo : isOneToken a = false) (v : String) (h : Passed ts) : Passed (a :: v :: ts)

/-- A line of flags only; the last one may lack its value. -/
inductive NoVerb (args : List String) : Prop
  | flags (h : Passed args)
  | cut {pre : List String} {a : String} (hargs : args = pre ++ [a]) (hpre : Passed pre)
      (hflag : startsWith a "-" = true) (htwo : isOneToken a = false)

theorem Passed.findSubcommandIndex {pre : List String} (h : Passed pre) (rest : List String) :
    findSubcommandIndex (pre ++ rest) = (findSubcommandIndex rest).map (· + pre.length) := by
  induction h with
  | nil => simp
  | @one a ts hflag hone _ ih =>
    rw [cons_append, findSubcommandIndex_cons]
    simp [hflag, hone, ih, Function.comp_def, Nat.add_assoc]
  | @two a ts hflag htwo v _ ih =>
    rw [cons_append, cons_append, findSubcommandIndex_cons]
    simp [hflag, htwo, ih, Function.comp_def, Nat.add_assoc]

theorem NoVerb.cons {a : String} {ts : List String} (hflag : startsWith a "-" = true)
    (hone : isOneToken a = true) (h : NoVerb ts) : NoVerb (a :: ts) := by
  cases h with
  | flags h => exact .flags (.one hflag hone h)
  | cut hargs hpre hlast htwo =>
    subst hargs
    exact .cut rfl (.one hflag hone hpre) hlast htwo

theorem NoVerb.cons_cons {a : String} {ts : List String} (hflag : startsWith a "-" = true)
    (htwo : isOneToken a = false) (v : String) (h : NoVerb ts) : NoVerb (a :: v :: ts) := by
  cases h with
  | flags h => exact .flags (.two hflag htwo v h)
  | cut hargs hpre hlast hlong =>
    subst hargs
    exact .cut rfl (.two hflag htwo v hpre) hlast hlong

/-- Every line either has a verb behind flags that are passed over, or none. -/
theorem verb_or_not : ∀ args : List String, NoVerb args ∨
    ∃ pre sub post, args = pre ++ sub :: post ∧ Passed pre ∧ startsWith sub "-" = false
  | [] => .inl (.flags .nil)
  | a :: rest => by
    cases hflag : startsWith a "-" with
    | false => exact .inr ⟨[], a, rest, rfl, .nil, hflag⟩
    | true =>
      cases hone : isOneToken a with
      | true =>
        rcases verb_or_not rest with h | ⟨pre, sub, post, rfl, hpre, hsub⟩
        · exact .inl (h.cons hflag hone)
        · exact .inr ⟨a :: pre, sub, post, rfl, .one hflag hone hpre, hsub⟩
      | false =>
        match rest with
        | [] => exact .inl (.cut (nil_append _).symm .nil hflag hone)
        | v :: rest' =>
          rcases verb_or_not rest' with h | ⟨pre, sub, post, rfl, hpre, hsub⟩
          · exact .inl (h.cons_cons hflag hone v)
          · exact .inr ⟨a :: v :: pre, sub, post, rfl, .two hflag hone v hpre, hsub⟩

theorem NoVerb.findSubcommandIndex {args : List String} (h : NoVerb args) :
    findSubcommandIndex args = none := by
  cases h with
  | flags h => simpa [TargetGuard.findSubcommandIndex] using h.findSubcommandIndex []
  | cut hargs hpre hflag htwo =>
    rw [hargs, hpre.findSubcommandIndex, findSubcommandIndex_cons]
    simp [hflag, htwo]
    rfl

/-- What the first token that looks like a namespace flag gives; a `--` or the
end of the line comes first otherwise. -/
inductive NsSeen : List String → Option String → Prop
  | nil : NsSeen [] none
  | stop (ts : List String) : NsSeen ("--" :: ts) none
  | bare {f : String} (hf : isNsFlag f = true) : NsSeen [f] none
  | spaced {f : String} (hf : isNsFlag f = true) (v : String) (ts : List String) :
      NsSeen (f :: v :: ts) (some v)
  | attached {a : String} (ha : isNsEquals a = true) (ts : List String) :
      NsSeen (a :: ts) (some (afterChar '=' a))
  | quiet {t : String} {ts : List String} {v : Option String} (ht : NsQuiet t)
      (h : NsSeen ts v) : NsSeen (t :: ts) v

theorem nsFlag_spec {f : String} (hf : isNsFlag f = true) : f ≠ "--" ∧ isNsEquals f = false := by
  have hmem : f ∈ nsNames := by simpa [isNsFlag, nsNames] using hf
  have hall : ∀ f ∈ nsNames, f ≠ "--" ∧ isNsEquals f = false := by decide
  exact hall f hmem

theorem nsEquals_ne {a : String} (ha : isNsEquals a = true) : a ≠ "--" := by
  rintro rfl
  revert ha
  decide

theorem NsSeen.parseNamespace {v : Option String} (h : NsSeen ts v) (d : String) :
    parseNamespace ts d = v.getD d := by
  induction h with
  | nil => rfl
  | stop ts => simp
  | bare hf => simp [nsFlag_spec hf, hf]
  | spaced hf v ts => simp [nsFlag_spec hf, hf]
  | attached ha ts => simp [nsEquals_ne ha, ha]
  | quiet ht _ ih => simp [ht.1, ht.2.1, ht.2.2, ih]

theorem exists_nsSeen : ∀ ts : List String, ∃ v, NsSeen ts v
  | [] => ⟨none, .nil⟩
  | t :: ts => by
    by_cases hstop : t = "--"
    · exact ⟨none, hstop ▸ .stop ts⟩
    cases heq : isNsEquals t with
    | true => exact ⟨_, .attached heq ts⟩
    | false =>
      cases hflag : isNsFlag t with
      | true => match ts with
        | [] => exact ⟨none, .bare hflag⟩
        | v :: ts => exact ⟨some v, .spaced hflag v ts⟩
      | false =>
        obtain ⟨v, h⟩ := exists_nsSeen ts
        exact ⟨v, .quiet ⟨hstop, hflag, heq⟩ h⟩

/-- The selectors a line is seen to give. A selector flag takes the next token
whatever it is. -/
inductive SelectorsSeen : List String → List String → Prop
  | nil : SelectorsSeen [] []
  | stop (ts : List String) : SelectorsSeen ("--" :: ts) []
  | bare {f : String} (hf : isLabelFlag f = true) : SelectorsSeen [f] []
  | spaced {f : String} {ts vs : List String} (hf : isLabelFlag f = true) (v : String)
      (h : SelectorsSeen ts vs) : SelectorsSeen (f :: v :: ts) (v :: vs)
  | attached {a : String} {ts vs : List String} (ha : isLabelEquals a = true)
      (h : SelectorsSeen ts vs) : SelectorsSeen (a :: ts) (afterChar '=' a :: vs)
  | quiet {t : String} {ts vs : List String} (ht : LabelQuiet t) (h : SelectorsSeen ts vs) :
      SelectorsSeen (t :: ts) vs

theorem labelFlag_spec {f : String} (hf : isLabelFlag f = true) :
    f ≠ "--" ∧ isLabelEquals f = false := by
  have hmem : f ∈ ["-l", "--selector", "--labels"] := by
    simpa [isLabelFlag, or_assoc] using hf
  have hall : ∀ a ∈ ["-l", "--selector", "--labels"], a ≠ "--" ∧ isLabelEquals a = false := by
    decide
  exact hall f hmem

theorem labelEquals_spec {a : String} (ha : isLabelEquals a = true) :
    a ≠ "--" ∧ isLabelFlag a = false := by
  refine ⟨?_, ?_⟩
  · rintro rfl
    revert ha
    decide
  · rw [Bool.eq_false_iff]
    intro hf
    rw [(labelFlag_spec hf).2] at ha
    cases ha

theorem SelectorsSeen.parseLabelsFrom {vs : List String} (h : SelectorsSeen ts vs) (s : Labels) :
    parseLabelsFrom ts s = vs.foldl addSelector s := by
  induction h generalizing s with
  | nil => rfl
  | stop ts =>
    rw [parseLabelsFrom_cons, if_pos rfl]
    rfl
  | bare hf =>
    rw [parseLabelsFrom_cons]
    simp [labelFlag_spec hf, hf, addSelector]
    rfl
  | spaced hf v _ ih =>
    rw [parseLabelsFrom_cons]
    simp [labelFlag_spec hf, hf, ih]
  | attached ha _ ih =>
    rw [parseLabelsFrom_cons]
    simp [labelEquals_spec ha, ha, ih]
  | quiet ht _ ih =>
    rw [parseLabelsFrom_cons]
    simp [ht.1, ht.2.1, ht.2.2, ih]

theorem exists_selectorsSeen : ∀ ts : List String, ∃ vs, SelectorsSeen ts vs
  | [] => ⟨[], .nil⟩
  | t :: ts => by
    by_cases hstop : t = "--"
    · exact ⟨[], hstop ▸ .stop ts⟩
    cases hflag : isLabelFlag t with
    | true => match ts with
      | [] => exact ⟨[], .bare hflag⟩
      | v :: ts =>
        obtain ⟨vs, h⟩ := exists_selectorsSeen ts
        exact ⟨v :: vs, .spaced hflag v h⟩
    | false =>
      obtain ⟨vs, h⟩ := exists_selectorsSeen ts
      cases heq : isLabelEquals t with
      | true => exact ⟨_, .attached heq h⟩
      | false => exact ⟨vs, .quiet ⟨hstop, hflag, heq⟩ h⟩

/-- The namespace `g` in front of the verb counts: no token behind the verb looks
like a namespace flag. -/
structure Carried (pre post : List String) (g : String) : Prop where
  seen : NsSeen pre (some g)
  nonempty : g ≠ ""
  quiet : ∀ t ∈ post.takeWhile (· ≠ "--"), NsQuiet t

theorem restHasNamespace_eq_false :
    restHasNamespace ts = false ↔ ∀ t ∈ ts.takeWhile (· ≠ "--"), NsQuiet t := by
  induction ts with
  | nil => simp
  | cons t ts ih =>
    by_cases hstop : t = "--"
    · simp [hstop]
    · simp [hstop, ih, NsQuiet, and_assoc]

theorem Carried.propagateNamespace {pre post : List String} {g : String} (h : Carried pre post g) :
    propagateNamespace pre post = "-n" :: g :: post := by
  have hseen : TargetGuard.parseNamespace pre "" = g := h.seen.parseNamespace ""
  unfold TargetGuard.propagateNamespace
  rw [hseen]
  exact if_pos ⟨h.nonempty, restHasNamespace_eq_false.mpr h.quiet⟩

theorem propagateNamespace_eq_self {pre post : List String} (h : ∀ g, ¬ Carried pre post g) :
    propagateNamespace pre post = post := by
  unfold propagateNamespace
  refine if_neg ?_
  rintro ⟨hne, hhas⟩
  obtain ⟨v, hv⟩ := exists_nsSeen pre
  rw [hv.parseNamespace] at hne
  cases v with
  | none => exact hne rfl
  | some g => exact h g ⟨hv, hne, restHasNamespace_eq_false.mp hhas⟩

/-! ## The scanners together -/

/-- The values found are those of the chunks. -/
def SameValues (rest : List String) (chunks : List Chunk) (d : String) : Prop :=
  parseNamespace rest d = (Cli.lastValue nsNames chunks).getD d ∧
    (parseLabels rest).Same ((Cli.lastValue selectorNames chunks).elim ∅ (addSelector ∅))

def ScannersAgree (T : Cli.FlagTable) (args : List String) (d : String) : Prop :=
  ∀ chunks, Cli.read T args = some chunks →
    match findSubcommandIndex args with
    | none => Cli.words chunks = []
    | some i => args[i]? = (Cli.words chunks).head? ∧
        SameValues (propagateNamespace (args.take i) (args.drop (i + 1))) chunks d

/-- What is seen behind the verb is what the chunks say. -/
structure SaysSame (post : List String) (ns : Option String) (chunks : List Chunk) (d : String) :
    Prop where
  ns : ns.getD d = (Cli.lastValue nsNames chunks).getD d
  labels : ∃ vs, SelectorsSeen post vs ∧ (vs.foldl addSelector ∅).Same
    ((Cli.lastValue selectorNames chunks).elim ∅ (addSelector ∅))

inductive LinesUp (args : List String) (chunks : List Chunk) (d : String) : Prop
  | noVerb (hargs : NoVerb args) (hwords : Cli.words chunks = [])
  | own {pre post : List String} {sub : String} {ns : Option String}
      (hargs : args = pre ++ sub :: post) (hpre : Passed pre) (hsub : startsWith sub "-" = false)
      (hword : (Cli.words chunks).head? = some sub) (hown : ∀ g, ¬ Carried pre post g)
      (hns : NsSeen post ns) (hreads : SaysSame post ns chunks d)
  | carried {pre post : List String} {sub g : String}
      (hargs : args = pre ++ sub :: post) (hpre : Passed pre) (hsub : startsWith sub "-" = false)
      (hword : (Cli.words chunks).head? = some sub) (hcarried : Carried pre post g)
      (hreads : SaysSame ("-n" :: g :: post) (some g) chunks d)

theorem sameValues_iff {rest : List String} {ns : Option String} (hns : NsSeen rest ns)
    (chunks : List Chunk) (d : String) :
    SameValues rest chunks d ↔ SaysSame rest ns chunks d := by
  unfold SameValues parseLabels
  rw [hns.parseNamespace]
  constructor
  · rintro ⟨hn, hl⟩
    obtain ⟨vs, hvs⟩ := exists_selectorsSeen rest
    rw [hvs.parseLabelsFrom] at hl
    exact ⟨hn, vs, hvs, hl⟩
  · rintro ⟨hn, vs, hvs, hl⟩
    rw [hvs.parseLabelsFrom]
    exact ⟨hn, hl⟩

/-- The scanners at a verb behind flags that are passed over. -/
theorem scan_at_verb {pre : List String} {sub : String} (hpre : Passed pre)
    (hsub : startsWith sub "-" = false) (post : List String) :
    findSubcommandIndex (pre ++ sub :: post) = some pre.length ∧
      (pre ++ sub :: post)[pre.length]? = some sub ∧
      (pre ++ sub :: post).take pre.length = pre ∧
      (pre ++ sub :: post).drop (pre.length + 1) = post := by
  have hindex := hpre.findSubcommandIndex (sub :: post)
  rw [findSubcommandIndex_cons] at hindex
  refine ⟨by simpa [hsub] using hindex, by simp, take_left' rfl, ?_⟩
  rw [← drop_drop, drop_left' rfl]
  rfl

/-- A namespace put behind the verb is the first one seen there. -/
theorem nsSeen_carried (g : String) (post : List String) : NsSeen ("-n" :: g :: post) (some g) :=
  .spaced (by decide) g post

theorem scan_iff (args : List String) (chunks : List Chunk) (d : String) :
    (match findSubcommandIndex args with
    | none => Cli.words chunks = []
    | some i => args[i]? = (Cli.words chunks).head? ∧
        SameValues (propagateNamespace (args.take i) (args.drop (i + 1))) chunks d) ↔
      LinesUp args chunks d := by
  constructor
  · intro h
    rcases verb_or_not args with hno | ⟨pre, sub, post, rfl, hpre, hsub⟩
    · rw [hno.findSubcommandIndex] at h
      exact .noVerb hno h
    · obtain ⟨hindex, hget, htake, hdrop⟩ := scan_at_verb hpre hsub post
      rw [hindex] at h
      obtain ⟨hword, hsame⟩ := h
      rw [hget] at hword
      rw [htake, hdrop] at hsame
      by_cases hcar : ∃ g, Carried pre post g
      · obtain ⟨g, hg⟩ := hcar
        rw [hg.propagateNamespace, sameValues_iff (nsSeen_carried g post)] at hsame
        exact .carried rfl hpre hsub hword.symm hg hsame
      · have hown : ∀ g, ¬ Carried pre post g := fun g hg => hcar ⟨g, hg⟩
        obtain ⟨ns, hns⟩ := exists_nsSeen post
        rw [propagateNamespace_eq_self hown, sameValues_iff hns] at hsame
        exact .own rfl hpre hsub hword.symm hown hns hsame
  · intro h
    cases h with
    | noVerb hargs hwords =>
      rw [hargs.findSubcommandIndex]
      exact hwords
    | @own pre post sub ns hargs hpre hsub hword hown hns hreads =>
      obtain ⟨hindex, hget, htake, hdrop⟩ := scan_at_verb hpre hsub post
      subst hargs
      rw [hindex]
      refine ⟨hget.trans hword.symm, ?_⟩
      rw [htake, hdrop, propagateNamespace_eq_self hown]
      exact (sameValues_iff hns chunks d).mpr hreads
    | @carried pre post sub g hargs hpre hsub hword hcarried hreads =>
      obtain ⟨hindex, hget, htake, hdrop⟩ := scan_at_verb hpre hsub post
      subst hargs
      rw [hindex]
      refine ⟨hget.trans hword.symm, ?_⟩
      rw [htake, hdrop, hcarried.propagateNamespace]
      exact (sameValues_iff (nsSeen_carried _ _) chunks d).mpr hreads

def namespaceFlags : Cli.FlagTable where
  long f := ["--namespace", "--selector", "--field-selector"].contains f
  short c := ['n', 'l'].contains c

/-- The value of a field selector that looks like a namespace flag does no harm
behind the namespace. -/
example : ScannersAgree namespaceFlags
    ["get", "pods", "-n", "prod", "--field-selector", "-n"] "default" := by
  intro chunks hread
  cases hread
  exact ⟨rfl, by decide, (Dict.beq_iff_same _ _).mp (by decide)⟩

end ChaosBlade.TargetGuard
