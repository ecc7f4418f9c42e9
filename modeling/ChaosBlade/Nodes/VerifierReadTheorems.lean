/-
Nodes.VerifierReadTheorems: which verdicts can be read: what
the sources of a verification have to be like for `finalize_verification`
not to raise.

The readers join the evidence of steps and append to the warnings, both
as the model wrote them.
-/
import ChaosBlade.Nodes.VerifierVerdictTheorems

namespace ChaosBlade.Nodes

open Py Agent List Option

/-! ## Texts where texts are expected -/

def TextEvidence (item : Json) : Prop := ∀ v ∈ item.field? "evidence", ∃ text, v = .str text

def InjectSource.WellTyped : InjectSource → Prop
  | .submitted args => isObject args = true ∧
      (∀ item ∈ listField args "checklist", TextEvidence item) ∧
      ∃ ws : List String, listOrEmpty ((args.field? "warnings").getD .null) = .ok (ws.map .str)
  | .json fs =>
    (∀ item ∈ listField (.obj fs) "verification_checklist",
      isObject item = true ∧ TextEvidence item) ∧
    ∃ ws : List String, (Json.get? fs "warnings").getD (.arr []) = strList ws
  | .text _ => True

structure Tidy (v : Verdict) : Prop where
  warnings : ∃ ws : List String, v.warnings = strList ws
  steps : ∀ c ∈ v.checklist, ∀ item ∈ c.items, TextEvidence item

def Tidies (x : Except PyError Verdict) : Prop := ∃ v, x = .ok v ∧ Tidy v

variable {v : Verdict} {items : List Json} {db : CharDb} {x : Findings}

theorem Tidies.of_ok (h : Tidy v) : Tidies (.ok v) := ⟨v, rfl, h⟩

theorem Tidies.bind {y : Except PyError Verdict} {f : Verdict → Except PyError Verdict}
    (h : Tidies y) (hf : ∀ v, Tidy v → Tidies (f v)) : Tidies (y >>= f) := by
  obtain ⟨v, rfl, hv⟩ := h
  exact hf v hv

theorem Tidy.warn (h : Tidy v) (text : String) : Tidies (v.warn text) := by
  obtain ⟨ws, hws⟩ := h.warnings
  refine ⟨{ v with warnings := strList (ws ++ [text]) }, ?_, ⟨_, rfl⟩, h.steps⟩
  simp [Verdict.warn, hws, strList]

theorem Tidy.warnAll : ∀ (texts : List String) {v : Verdict}, Tidy v → Tidies (v.warnAll texts)
  | [], _, h => .of_ok h
  | text :: texts, _, h => (h.warn text).bind fun _ hv => Tidy.warnAll texts hv

/-! ## The readers -/

theorem returns_ite {α : Type} {c : Prop} [Decidable c] {y z : Except PyError α} (hy : Returns y)
    (hz : Returns z) : Returns (if c then y else z) := by
  split
  · exact hy
  · exact hz

theorem joinEvidence_returns (h : ∀ item ∈ items, TextEvidence item) :
    Returns (joinEvidence items) := by
  have hfrom : ∀ i, Returns (joinEvidenceFrom i items) := by
    induction items with
    | nil => exact fun i => returns_ok _
    | cons item rest ih =>
      intro i
      obtain ⟨texts, htexts⟩ := ih (fun j hj => h j (mem_cons_of_mem _ hj)) (i + 1)
      unfold joinEvidenceFrom
      cases hev : item.field? "evidence" with
      | none => exact ⟨_, by simp [htexts]; rfl⟩
      | some v =>
        obtain ⟨text, rfl⟩ := h item mem_cons_self v hev
        exact ⟨_, by simp [htexts]; rfl⟩
  obtain ⟨texts, htexts⟩ := hfrom 0
  exact ⟨_, by simp [joinEvidence, htexts]; rfl⟩

theorem joinNonPassed_returns (h : ∀ item ∈ items, TextEvidence item) :
    Returns (joinEvidence (items.filter isNonPassed)) :=
  joinEvidence_returns fun item hitem => h item (mem_of_mem_filter hitem)

theorem detectChecklist_returns (status : Json) (failed : String)
    (h : ∀ item ∈ items, TextEvidence item) :
    Returns (detectChecklistConclusionInconsistency items status failed) := by
  obtain ⟨evidence, hev⟩ := joinNonPassed_returns h
  refine returns_ite (returns_ok _) ?_
  rw [hev]
  exact ⟨_, rfl⟩

theorem checkConclusion_tidies (h : ∀ item ∈ items, TextEvidence item) (hv : Tidy v) :
    Tidies (checkConclusion items v) := by
  obtain ⟨evidence, hev⟩ := joinNonPassed_returns h
  obtain ⟨found, hfound⟩ := detectChecklist_returns v.status evidence h
  unfold checkConclusion
  split
  · rw [hev]
    dsimp only [bind, Except.bind]
    rw [hfound]
    cases found with
    | none => exact .of_ok hv
    | some found =>
      obtain ⟨warning, downgrade⟩ := found
      obtain ⟨v₁, h₁, hv₁⟩ := hv.warn warning
      simp only [h₁]
      refine .of_ok ?_
      split
      · exact ⟨hv₁.warnings, hv₁.steps⟩
      · exact hv₁
  · exact .of_ok hv

theorem Tidy.ite_warn {c : Prop} [Decidable c] {level text : String} (hv : Tidy v) :
    Tidies (if c then ({ v with level := level } : Verdict).warn text else .ok v) := by
  split
  · have hv' : Tidy { v with level := level } := ⟨hv.warnings, hv.steps⟩
    exact hv'.warn text
  · exact .of_ok hv

theorem syncLevel_tidy (hv : Tidy v) : Tidy (syncLevel v) := by
  unfold syncLevel
  split
  · exact ⟨hv.warnings, hv.steps⟩
  · exact hv

theorem getD_of_isObject {args : Json} (h : isObject args = true) (k : String) (d : Json) :
    args.getD k d = .ok ((args.field? k).getD d) := by
  cases args with
  | obj fs => rfl
  | null => cases h
  | bool b => cases h
  | int n => cases h
  | float text nonzero => cases h
  | str text => cases h
  | arr xs => cases h

theorem checklistOf_steps {c : Prop} [Decidable c] (h : ∀ item ∈ items, TextEvidence item) :
    ∀ c' ∈ (if c then none else some (checklistOf items)), ∀ item ∈ c'.items,
        TextEvidence item := by
  intro c' hc'
  split at hc'
  · cases hc'
  · obtain rfl := some.inj hc'
    exact h

theorem verificationFromSubmitArgs_tidies {args : Json}
    (h : (InjectSource.submitted args).WellTyped) : Tidies (verificationFromSubmitArgs args) := by
  obtain ⟨hobj, hsteps, ws, hws⟩ := h
  have hitems : ∀ item ∈ (listField args "checklist").filter isObject, TextEvidence item :=
    fun item hitem => hsteps item (mem_of_mem_filter hitem)
  unfold verificationFromSubmitArgs
  simp only [getD_of_isObject hobj, hws, bind, Except.bind]
  refine Tidies.bind (checkConclusion_tidies hitems ?_) fun v₁ h₁ => ?_
  · exact ⟨⟨ws, rfl⟩, checklistOf_steps hitems⟩
  refine Tidies.bind h₁.ite_warn fun v₂ h₂ => ?_
  refine Tidies.bind h₂.ite_warn fun v₃ h₃ => ?_
  exact .of_ok (syncLevel_tidy h₃)

theorem requireObjects_ok (h : ∀ item ∈ items, isObject item = true) : requireObjects items =
    .ok () := by
  have : items.find? (fun item => !isObject item) = none := by
    rw [List.find?_eq_none]
    intro item hitem
    simp [h item hitem]
  simp [requireObjects, this]

theorem verificationFromJson_tidies {fs : List (String × Json)}
    (h : (InjectSource.json fs).WellTyped) : Tidies (verificationFromJson fs) := by
  obtain ⟨hsteps, ws, hws⟩ := h
  have hitems : ∀ item ∈ listField (.obj fs) "verification_checklist", TextEvidence item :=
    fun item hitem => (hsteps item hitem).2
  unfold verificationFromJson
  simp only [requireObjects_ok fun item hitem => (hsteps item hitem).1]
  refine Tidies.bind (checkConclusion_tidies hitems ?_) fun v₁ h₁ => .of_ok (syncLevel_tidy h₁)
  exact ⟨⟨ws, hws⟩, checklistOf_steps hitems⟩

theorem StepItem.textEvidence (item : StepItem) : TextEvidence item.toJson := by
  intro v hv
  obtain ⟨step, status, evidence⟩ := item
  cases evidence with
  | none => cases hv
  | some text => exact ⟨text, (some.inj hv).symm⟩

theorem parseVerificationResult_tidies (content : String) :
    Tidies (parseVerificationResult db content) := by
  have hitems : ∀ item ∈ parseChecklistItems db content, TextEvidence item := by
    intro item hitem
    obtain ⟨step, -, rfl⟩ := List.mem_map.mp hitem
    exact step.textEvidence
  refine Tidies.bind (checkConclusion_tidies hitems ?_) fun v₁ h₁ => ?_
  · exact ⟨⟨_, rfl⟩, checklistOf_steps hitems⟩
  refine Tidies.bind (h₁.warnAll _) fun v₂ h₂ => ?_
  refine Tidies.bind (h₂.warnAll _) fun v₃ h₃ => ?_
  exact .of_ok ⟨h₃.warnings, h₃.steps⟩

theorem verdictFrom_tidies (db : CharDb) {source : InjectSource} (h : source.WellTyped) :
    Tidies (verdictFrom db source) := by
  cases source with
  | submitted args => exact verificationFromSubmitArgs_tidies h
  | json fs => exact verificationFromJson_tidies h
  | text content => exact parseVerificationResult_tidies content

/-! ## The checks after the reader -/

def Findings.Answers (db : CharDb) (x : Findings) (source : InjectSource) : Prop :=
  Returns (x.contradictions source.details ((source.checklist db).elim [] Checklist.items))

theorem capStatus_tidy (hv : Tidy v) : Tidy (capStatus v) := by
  unfold capStatus
  split
  · exact ⟨hv.warnings, hv.steps⟩
  · exact hv

theorem crossCheckEvidence_tidies {found : List String} (hv : Tidy v)
    (hfound : x.contradictions v.details (v.checklist.elim [] Checklist.items) = .ok found) :
    Tidies (crossCheckEvidence x v) := by
  unfold crossCheckEvidence
  rw [hfound]
  cases found with
  | nil => exact .of_ok hv
  | cons text texts =>
    refine Tidies.bind (hv.warnAll _) fun v₁ h₁ => ?_
    exact (capStatus_tidy h₁).ite_warn

variable {parts : String}

theorem overrideStep_textEvidence {item : Json} (h : TextEvidence item) :
    TextEvidence (overrideStep parts item) := by
  unfold overrideStep
  split
  · split
    · intro v hv
      rw [Json.field?_obj, Json.get?, Dict.lookup_setEntry, if_pos rfl] at hv
      exact ⟨_, (some.inj hv).symm⟩
    · exact h
  · exact h

theorem overrideStatus_tidies (hv : Tidy v) : Tidies (overrideStatus parts v) := by
  unfold overrideStatus
  split
  · refine Tidy.warn ?_ _
    exact ⟨hv.warnings, hv.steps⟩
  · exact hv.warn _

theorem overrideVerdict_tidies {c : Checklist} (hv : Tidy v)
    (hc : v.checklist = some c) : Tidies (overrideVerdict parts c v) := by
  have hsteps : ∀ c' ∈ some { c with items := c.items.map (overrideStep parts) },
      ∀ item ∈ c'.items, TextEvidence item := by
    rintro c' ⟨⟩ item hitem
    obtain ⟨step, hstep, rfl⟩ := List.mem_map.mp hitem
    exact overrideStep_textEvidence (hv.steps c hc step hstep)
  refine Tidies.bind ?_ fun v₁ h₁ => ?_
  · exact overrideStatus_tidies ⟨hv.warnings, hsteps⟩
  · refine .of_ok ?_
    split
    · exact ⟨h₁.warnings, h₁.steps⟩
    · exact h₁

theorem enforceBurn_tidies (hv : Tidy v) :
    ∃ v' enforced, enforceBurn x v = .ok (v', enforced) ∧ Tidy v' := by
  unfold enforceBurn
  split
  · next parts c _ hc =>
    split
    · obtain ⟨v', h, hv'⟩ := overrideVerdict_tidies hv hc
      exact ⟨v', true, by rw [h]; rfl, hv'⟩
    · exact ⟨v, false, rfl, hv⟩
  · exact ⟨v, false, rfl, hv⟩

theorem requireTexts_ok (h : ∀ item ∈ items, TextEvidence item) : requireTexts items = .ok () := by
  unfold requireTexts
  split
  · next v hfound =>
    obtain ⟨item, hitem, hv⟩ := List.exists_of_findSome?_eq_some hfound
    have htext := h item (mem_of_mem_filter hitem)
    split at hv
    · cases hv
    · next hne =>
      cases hev : item.field? "evidence" with
      | none =>
        rw [hev] at hne
        exact absurd rfl (hne "")
      | some v' =>
        obtain ⟨text, rfl⟩ := htext v' hev
        rw [hev] at hne
        exact absurd rfl (hne text)
  · rfl

theorem stepCoverage_returns (db : CharDb) (x : Findings) (args : Option Json) (hv : Tidy v) :
    Returns (stepCoverage db x args v.checklist) := by
  unfold stepCoverage
  split
  · exact returns_ok _
  · next c hc =>
    refine returns_ite (returns_ok _) ?_
    rw [requireTexts_ok (hv.steps c hc)]
    exact returns_ite ⟨_, rfl⟩ ⟨_, rfl⟩

theorem applyCoverage_tidies (enforced : Bool) (c : Coverage) (hv : Tidy v) :
    Tidies (applyCoverage enforced c v) := by
  unfold applyCoverage
  split
  · refine Tidies.bind (hv.warn _) fun v₁ h₁ => .of_ok ?_
    split
    · exact ⟨h₁.warnings, h₁.steps⟩
    · exact h₁
  · exact .of_ok hv

theorem warnTargets_tidies (layer1 : Layer1Result) (names : List String) (hv : Tidy v) :
    Tidies (warnTargets layer1 names v) := by
  obtain ⟨ws, hws⟩ := hv.warnings
  unfold warnTargets
  split
  · rw [hws]
    dsimp only [strList, Json.contains, bind, Except.bind]
    split
    · exact .of_ok hv
    · exact hv.warn _
  · exact .of_ok hv

theorem forceBaseline_tidies (hv : Tidy v) : Tidies (forceBaseline x v) := by
  unfold forceBaseline
  dsimp only
  split
  · refine Tidy.warn ?_ _
    exact ⟨hv.warnings, hv.steps⟩
  · exact .of_ok hv

theorem requireJoinable_ok (ws : List String) : requireJoinable (strList ws) = .ok () := by
  have hnone : (ws.map Json.str).findIdx? (fun w => !isString w) = none := by
    rw [List.findIdx?_eq_none_iff]
    intro w hw
    obtain ⟨text, -, rfl⟩ := List.mem_map.mp hw
    rfl
  simp [requireJoinable, strList, hnone]

theorem examine_tidies (layer1 : Layer1Result) (names : List String) {source : InjectSource}
    (hsource : ∀ fs, source = .json fs → isJsonVerdict fs = true) (hwell : source.WellTyped)
    (hanswers : x.Answers db source) :
    ∃ e, examine db x layer1 names source = .ok e ∧ Tidy e.verdict := by
  obtain ⟨v₁, h₁, t₁⟩ := verdictFrom_tidies db hwell
  have hreads := verdictFrom_reads hsource h₁
  obtain ⟨found, hfound⟩ := hanswers
  rw [← hreads.details, ← hreads.checklist] at hfound
  obtain ⟨v₂, h₂, t₂⟩ := crossCheckEvidence_tidies t₁ hfound
  obtain ⟨v₃, enforced, h₃, t₃⟩ := enforceBurn_tidies (x := x) t₂
  obtain ⟨c, hc⟩ := stepCoverage_returns db x source.args? t₃
  obtain ⟨v₄, h₄, t₄⟩ := applyCoverage_tidies enforced c t₃
  obtain ⟨v₅, h₅, t₅⟩ := warnTargets_tidies layer1 names t₄
  refine ⟨⟨v₅, c, gapsOf x layer1 enforced c v₅⟩, ?_, t₅⟩
  unfold examine
  simp only [h₁, h₂, h₃, hc, h₄, h₅, bind, Except.bind]
  rfl

def VerdictReadable (db : CharDb) (x : Findings) (s : AgentState) : Prop :=
  ∃ source, injectSource s.messages = .ok source ∧ source.WellTyped ∧ x.Answers db source

theorem readVerification_returns {s : AgentState} (h : VerdictReadable db x s) :
    Returns (readVerification db x s) := by
  obtain ⟨source, hsource, hwell, hanswers⟩ := h
  obtain ⟨e, he, hv⟩ := examine_tidies (s.injectLayer1Cache.getD {})
    ((s.faultSpec.map FaultSpec.names).getD []) (injectSource_json hsource) hwell hanswers
  obtain ⟨v, hforce, hv'⟩ := forceBaseline_tidies (x := x) hv
  obtain ⟨ws, hws⟩ := hv'.warnings
  unfold readVerification
  simp only [hsource, he, bind, Except.bind]
  refine returns_ite ⟨_, rfl⟩ ?_
  simp only [hforce, hws, requireJoinable_ok]
  exact ⟨_, rfl⟩

end ChaosBlade.Nodes
