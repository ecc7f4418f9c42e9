/-
Nodes.VerifierVerdictTheorems: is the level `verified` backed
by the verdict it stands in and by the pass that writes it?

Each source has its own way to a contradiction.
-/
import ChaosBlade.Nodes.ExecuteLoopTheorems
import ChaosBlade.Nodes.VerifierFinalize

namespace ChaosBlade.Nodes

open Py Agent Except Json Option Verdict

/-! ## What the sources say -/

def ChecklistRefutes (items : List Json) : Prop :=
  ∃ evidence warning, joinEvidence (items.filter isNonPassed) = .ok evidence ∧
    detectChecklistConclusionInconsistency items (.str "passed") evidence =
      .ok (some (warning, true))

def InjectSource.status : InjectSource → Json
  | .submitted args => (args.field? "layer2_status").getD (.str "unknown")
  | .json fs => (Json.get? fs "layer2").getD .null
  | .text content => .str (effectLayer2 (lower content))

def InjectSource.details : InjectSource → Json
  | .submitted args => (args.field? "layer2_details").getD (.str "")
  | .json fs => (Json.get? fs "layer2_details").getD (.str "")
  | .text content => .str (injectDetails (lower content))

def InjectSource.items (db : CharDb) : InjectSource → List Json
  | .submitted args => (listField args "checklist").filter isObject
  | .json fs => listField (.obj fs) "verification_checklist"
  | .text content => parseChecklistItems db content

def InjectSource.checklist (db : CharDb) (source : InjectSource) : Option Checklist :=
  match source with
  | .submitted args =>
    if listField args "checklist" = [] then none else some (checklistOf (source.items db))
  | source => if source.items db = [] then none else some (checklistOf (source.items db))

def InjectSource.usesBaseline : InjectSource → Bool
  | .submitted args => ((args.field? "baseline_used").getD (.bool false)).truthy
  | .json _ => false
  | .text content => declaredFlag "baselineused:" (lower content) == some true

def InjectSource.declaresUnobserved : InjectSource → Bool
  | .submitted args => (args.field? "primary_evidence_observed").any deniedValue
  | .json fs => (Json.get? fs "primary_evidence_observed").any deniedValue
  | .text content => deniesEvidence content

def InjectSource.Upheld (db : CharDb) (source : InjectSource) : Prop :=
  source.status ≠ .str "partial" ∧
    ¬ (source.status = .str "passed" ∧ ChecklistRefutes (source.items db))

def TextSaysVerified (low : String) : Prop :=
  (∃ line, lineAfter "overall:" low = some line ∧ saysVerified (strip line) = true) ∨
  lineAfter "overall:" low = none ∧ effectLayer2 low = "passed" ∧
    (saidLayer1 low = "passed" ∨ saidLayer1 low = "skipped")

def InjectSource.ClaimsVerified (db : CharDb) (source : InjectSource) : Prop :=
  source.Upheld db ∧
  match source with
  | .submitted args =>
    args.field? "overall" = some (.str "verified") ∧
    ((args.field? "primary_evidence_observed").getD (.bool false)).truthy = true ∧
    source.status ≠ .str "failed"
  | .json fs => Json.get? fs "overall" = some (.str "verified")
  | .text content => TextSaysVerified (lower content) ∧
    declaredFlag "primaryevidenceobserved:" (lower content) ≠ some false

/-! ## Steps that only warn -/

variable {v v' : Verdict} {db : CharDb} {x : Findings} {items : List Json}

def OnlyWarned (v v' : Verdict) : Prop := ∃ w, v' = { v with warnings := w }

theorem OnlyWarned.refl (v : Verdict) : OnlyWarned v v := ⟨v.warnings, rfl⟩

variable {v₁ v₂ v₃ : Verdict}

theorem OnlyWarned.trans (h : OnlyWarned v₁ v₂) (h' : OnlyWarned v₂ v₃) : OnlyWarned v₁ v₃ := by
  obtain ⟨w, rfl⟩ := h
  obtain ⟨w', rfl⟩ := h'
  exact ⟨w', rfl⟩

theorem Verdict.warn_onlyWarned {text : String} (h : v.warn text = .ok v') : OnlyWarned v v' := by
  unfold warn at h
  split at h
  · cases h
    exact ⟨_, rfl⟩
  · cases h

theorem Verdict.warnAll_onlyWarned :
    ∀ {texts : List String} {v : Verdict}, v.warnAll texts = .ok v' → OnlyWarned v v'
  | [], v, h => by
    obtain rfl := ok.inj h
    exact .refl v
  | text :: texts, v, h => by
    obtain ⟨v₁, h₁, h⟩ := bind_eq_ok.mp h
    exact (warn_onlyWarned h₁).trans (warnAll_onlyWarned h)

theorem warnTargets_onlyWarned {layer1 : Layer1Result} {names : List String}
    (h : warnTargets layer1 names v = .ok v') : OnlyWarned v v' := by
  unfold warnTargets at h
  split at h
  · obtain ⟨known, -, h⟩ := bind_eq_ok.mp h
    split at h
    · cases h
      exact .refl v
    · exact warn_onlyWarned h
  · cases h
    exact .refl v

/-! ## The readers -/

theorem checkConclusion_cases (h : checkConclusion items v = .ok v') :
    (v.status = .str "passed" ∧ ChecklistRefutes items ∧
      OnlyWarned { v with status := .str "partial" } v') ∨
    (¬ (v.status = .str "passed" ∧ ChecklistRefutes items) ∧ OnlyWarned v v') := by
  unfold checkConclusion at h
  split at h
  case isFalse hpassed =>
    cases h
    exact .inr ⟨fun hr => hpassed (isStr_iff.mpr hr.1), .refl v⟩
  case isTrue hpassed =>
    have hstatus := isStr_iff.mp hpassed
    obtain ⟨evidence, hev, h⟩ := bind_eq_ok.mp h
    obtain ⟨found, hfound, h⟩ := bind_eq_ok.mp h
    rw [hstatus] at hfound
    have hrefutes : ∀ found', found = found' →
        (ChecklistRefutes items ↔ ∃ w, found' = some (w, true)) := by
      rintro found' rfl
      constructor
      · rintro ⟨evidence', w, hev', hw⟩
        obtain rfl := ok.inj (hev.symm.trans hev')
        exact ⟨w, ok.inj (hfound.symm.trans hw)⟩
      · rintro ⟨w, rfl⟩
        exact ⟨evidence, w, hev, hfound⟩
    cases found with
    | none =>
      cases h
      refine .inr ⟨fun hr => ?_, .refl v⟩
      obtain ⟨w, hw⟩ := (hrefutes _ rfl).mp hr.2
      cases hw
    | some found =>
      obtain ⟨warning, downgrade⟩ := found
      obtain ⟨v₁, hwarn, h⟩ := bind_eq_ok.mp h
      obtain ⟨w, rfl⟩ := warn_onlyWarned hwarn
      cases h
      cases downgrade with
      | true => exact .inl ⟨hstatus, (hrefutes _ rfl).mpr ⟨_, rfl⟩, w, rfl⟩
      | false =>
        refine .inr ⟨fun hr => ?_, w, rfl⟩
        obtain ⟨w', hw'⟩ := (hrefutes _ rfl).mp hr.2
        simp at hw'

structure SameParts (v v' : Verdict) : Prop where
  details : v'.details = v.details
  checklist : v'.checklist = v.checklist
  overall : v'.overall = v.overall
  observed : v'.primaryEvidenceObserved = v.primaryEvidenceObserved
  used : v'.baselineUsed = v.baselineUsed
  restarts : v'.sideEffects = v.sideEffects

theorem SameParts.refl (v : Verdict) : SameParts v v := ⟨rfl, rfl, rfl, rfl, rfl, rfl⟩

theorem SameParts.trans (h : SameParts v₁ v₂) (h' : SameParts v₂ v₃) :
    SameParts v₁ v₃ where
  details := h'.details.trans h.details
  checklist := h'.checklist.trans h.checklist
  overall := h'.overall.trans h.overall
  observed := h'.observed.trans h.observed
  used := h'.used.trans h.used
  restarts := h'.restarts.trans h.restarts

structure Lowers (v v' : Verdict) (c : Prop) : Prop where
  parts : SameParts v v'
  status : v'.status = v.status
  level : v'.level = "verified" ↔ v.level = "verified" ∧ ¬ c

theorem OnlyWarned.lowers (h : OnlyWarned v v') : Lowers v v' False := by
  obtain ⟨w, rfl⟩ := h
  exact ⟨⟨rfl, rfl, rfl, rfl, rfl, rfl⟩, rfl, by simp⟩

theorem syncLevel_lowers (v : Verdict) : Lowers v (syncLevel v) (v.status = .str "partial") := by
  unfold syncLevel
  split
  · next h =>
    refine ⟨⟨rfl, rfl, rfl, rfl, rfl, rfl⟩, rfl, ?_⟩
    exact iff_of_false (by simp) fun hv => hv.2 (isStr_iff.mp h.1)
  · next h =>
    refine ⟨.refl v, rfl, fun hv => ⟨hv, fun hp => ?_⟩, And.left⟩
    exact h ⟨isStr_iff.mpr hp, .inl hv⟩

theorem lowers_of_warn {c : Prop} [Decidable c] {level text : String} (hlevel : level ≠ "verified")
    (h : (if c then ({ v with level := level } : Verdict).warn text else .ok v) = .ok v') :
    Lowers v v' c := by
  split at h
  · next hc =>
    obtain ⟨w, rfl⟩ := warn_onlyWarned h
    exact ⟨⟨rfl, rfl, rfl, rfl, rfl, rfl⟩, rfl, iff_of_false hlevel fun hv => hv.2 hc⟩
  · next hc =>
    cases h
    exact ⟨.refl v, rfl, fun hv => ⟨hv, hc⟩, And.left⟩

theorem requireObserved_lowers (h : requireObserved v = .ok v') :
    Lowers v v' (v.primaryEvidenceObserved ≠ some true) := by
  have c := lowers_of_warn (by decide) h
  refine ⟨c.parts, c.status, c.level.trans ?_⟩
  exact and_congr_right fun hv => not_congr (and_iff_right hv)

theorem requireEffect_lowers (h : requireEffect v = .ok v') :
    Lowers v v' (v.status = .str "failed") := by
  have c := lowers_of_warn (by decide) h
  refine ⟨c.parts, c.status, c.level.trans ?_⟩
  exact and_congr_right fun hv => not_congr ((and_iff_left hv).trans isStr_iff)

structure Concludes (items : List Json) (v v' : Verdict) : Prop where
  parts : SameParts v v'
  level : v'.level = v.level
  upheld : v'.status ≠ .str "partial" ↔
    v.status ≠ .str "partial" ∧ ¬ (v.status = .str "passed" ∧ ChecklistRefutes items)
  status : v'.status ≠ .str "partial" → v'.status = v.status

theorem checkConclusion_concludes (h : checkConclusion items v =
    .ok v') : Concludes items v v' := by
  obtain ⟨hp, hr, w, rfl⟩ | ⟨hr, w, rfl⟩ := checkConclusion_cases h
  · refine ⟨⟨rfl, rfl, rfl, rfl, rfl, rfl⟩, rfl, ?_, fun hs => absurd rfl hs⟩
    exact iff_of_false (fun hs => hs rfl) fun hu => hu.2 ⟨hp, hr⟩
  · exact ⟨⟨rfl, rfl, rfl, rfl, rfl, rfl⟩, rfl, ⟨fun hs => ⟨hs, hr⟩, And.left⟩, fun _ => rfl⟩

structure Reads (db : CharDb) (source : InjectSource) (v : Verdict) : Prop where
  level : v.level = "verified" ↔ source.ClaimsVerified db
  status : v.level = "verified" → v.status = source.status
  details : v.details = source.details
  checklist : v.checklist = source.checklist db
  used : v.baselineUsed.any Json.truthy = source.usesBaseline
  restarts : v.sideEffects = none
  /-- The gap between the evidence and the conclusion does not occur with the level. -/
  consistent : v.level = "verified" →
    ¬ (v.primaryEvidenceObserved ≠ some true ∧ v.overall.any (·.isStr "verified") = true)

attribute [local simp] overallToLevel

theorem overallToLevel_verified {overall : Option Json} :
    overallToLevel (overall.getD (.str "unverified")) = "verified" ↔
      overall = some (.str "verified") := by
  cases overall with
  | none => simp
  | some v =>
    cases v with
    | str level =>
      simp only [overallToLevel, getD_some, some_inj, str.injEq]
      split
      · rfl
      · next h =>
        refine iff_of_false (by simp) ?_
        rintro rfl
        exact h (by decide)
    | null => simp
    | bool b => simp
    | int n => simp
    | float text nonzero => simp
    | arr xs => simp
    | obj fs => simp

theorem verificationFromSubmitArgs_reads {args : Json}
    (h : verificationFromSubmitArgs args = .ok v) : Reads db (.submitted args) v := by
  obtain ⟨checklist, hc, h⟩ := bind_eq_ok.mp h
  obtain ⟨status, hs, h⟩ := bind_eq_ok.mp h
  obtain ⟨overall, ho, h⟩ := bind_eq_ok.mp h
  obtain ⟨ws, -, h⟩ := bind_eq_ok.mp h
  obtain ⟨warnings, -, h⟩ := bind_eq_ok.mp h
  obtain ⟨details, hd, h⟩ := bind_eq_ok.mp h
  obtain ⟨observed, hobs, h⟩ := bind_eq_ok.mp h
  obtain ⟨used, hu, h⟩ := bind_eq_ok.mp h
  obtain ⟨v₁, h₁, h⟩ := bind_eq_ok.mp h
  obtain ⟨v₂, h₂, h⟩ := bind_eq_ok.mp h
  obtain ⟨v₃, h₃, h⟩ := bind_eq_ok.mp h
  cases h
  obtain rfl := getD_eq_ok hc
  obtain rfl := getD_eq_ok hs
  obtain rfl := getD_eq_ok ho
  obtain rfl := getD_eq_ok hd
  obtain rfl := getD_eq_ok hobs
  obtain rfl := getD_eq_ok hu
  have c₁ := checkConclusion_concludes h₁
  have c₂ := requireObserved_lowers h₂
  have c₃ := requireEffect_lowers h₃
  have c₄ := syncLevel_lowers v₃
  have parts := ((c₁.parts.trans c₂.parts).trans c₃.parts).trans c₄.parts
  have status : (syncLevel v₃).status = v₁.status :=
    c₄.status.trans (c₃.status.trans c₂.status)
  have hlevel₁ : v₁.level = "verified" ↔ args.field? "overall" = some (.str "verified") := by
    rw [c₁.level]
    exact overallToLevel_verified
  have hobserved : v₁.primaryEvidenceObserved = some true ↔
      ((args.field? "primary_evidence_observed").getD (.bool false)).truthy = true := by
    rw [c₁.parts.observed, some_inj]
  -- the level stands through all steps: the evidence, a failed and a partial Layer 2
  have hlevel : (syncLevel v₃).level = "verified" ↔
      v₁.level = "verified" ∧ v₁.primaryEvidenceObserved = some true ∧
        v₁.status ≠ .str "failed" ∧ v₁.status ≠ .str "partial" := by
    rw [c₄.level, c₃.level, c₂.level, c₃.status, c₂.status, not_not, and_assoc, and_assoc]
  have hupheld : v₁.status ≠ .str "partial" ↔ (InjectSource.submitted args).Upheld db := c₁.upheld
  refine ⟨?_, ?_, parts.details, parts.checklist, ?_, parts.restarts, ?_⟩
  · rw [hlevel, hlevel₁, hobserved]
    constructor
    · rintro ⟨ho, hobs, hf, hp⟩
      exact ⟨hupheld.mp hp, ho, hobs, fun h => hf ((c₁.status hp).trans h)⟩
    · rintro ⟨hu, ho, hobs, hf⟩
      have hp := hupheld.mpr hu
      exact ⟨ho, hobs, fun h => hf ((c₁.status hp).symm.trans h), hp⟩
  · intro hv
    exact status.trans (c₁.status (hlevel.mp hv).2.2.2)
  · rw [parts.used]
    rfl
  · intro hv hgap
    apply hgap.1
    rw [c₄.parts.observed, c₃.parts.observed, c₂.parts.observed]
    exact (hlevel.mp hv).2.1

theorem jsonOverall_verified {fs : List (String × Json)} (hfs : isJsonVerdict fs = true) :
    ((Json.get? fs "overall").getD .null).toStr = "verified" ↔
      Json.get? fs "overall" = some (.str "verified") := by
  obtain ⟨level, -, hlevel⟩ := List.any_eq_true.mp (Bool.and_eq_true_iff.mp hfs).2
  have hget := isStr_iff.mp hlevel
  cases hover : Json.get? fs "overall" with
  | none =>
    rw [hover] at hget
    cases hget
  | some v =>
    rw [hover, getD_some] at hget
    subst hget
    simp

theorem verificationFromJson_reads {fs : List (String × Json)} (hfs : isJsonVerdict fs = true)
    (h : verificationFromJson fs = .ok v) : Reads db (.json fs) v := by
  obtain ⟨_, -, h⟩ := bind_eq_ok.mp h
  obtain ⟨v₁, h₁, h⟩ := bind_eq_ok.mp h
  cases h
  have c₁ := checkConclusion_concludes h₁
  have c₂ := syncLevel_lowers v₁
  have parts := c₁.parts.trans c₂.parts
  have hupheld : v₁.status ≠ .str "partial" ↔ (InjectSource.json fs).Upheld db := c₁.upheld
  have hlevel₁ : v₁.level = "verified" ↔ Json.get? fs "overall" = some (.str "verified") := by
    rw [c₁.level]
    exact jsonOverall_verified hfs
  refine ⟨?_, ?_, parts.details, parts.checklist, ?_, parts.restarts, ?_⟩
  · rw [c₂.level, hlevel₁]
    exact ⟨fun hv => ⟨hupheld.mp hv.2, hv.1⟩, fun hv => ⟨hv.2, hupheld.mpr hv.1⟩⟩
  · intro hv
    exact c₂.status.trans (c₁.status (c₂.level.mp hv).2)
  · rw [parts.used]
    rfl
  · rintro - ⟨-, hover⟩
    rw [parts.overall] at hover
    cases hover

theorem injectOverallLevel_verified {line : String} :
    injectOverallLevel line = "verified" ↔ saysVerified line = true := by
  unfold injectOverallLevel
  split_ifs <;> simp_all

theorem determineLevel_verified {layer1 layer2 : String} :
    determineLevel layer1 layer2 = "verified" ↔
      layer2 = "passed" ∧ (layer1 = "passed" ∨ layer1 = "skipped") := by
  unfold determineLevel
  split_ifs <;> simp_all

theorem saidLevel_verified {low : String} :
    saidLevel low (effectLayer2 low) = "verified" ↔ TextSaysVerified low := by
  unfold saidLevel TextSaysVerified
  cases lineAfter "overall:" low with
  | some line => simp [injectOverallLevel_verified]
  | none => simp [determineLevel_verified]

theorem textLevel_verified {low : String} {status : Json}
    (hstatus : status ≠ .str "partial" → status = .str (effectLayer2 low)) :
    textLevel low status = "verified" ↔ status ≠ .str "partial" ∧ TextSaysVerified low := by
  by_cases hp : status = .str "partial"
  · subst hp
    exact iff_of_false (by simp [textLevel, Json.isStr]) fun hv => hv.1 rfl
  · have hp' : ¬ status.isStr "partial" = true := fun h => hp (isStr_iff.mp h)
    rw [and_iff_right hp, ← saidLevel_verified, textLevel, if_neg hp', hstatus hp]
    rfl

theorem claimsUnobserved_iff {low level : String} : claimsUnobserved low level = true ↔
      level = "verified" ∧ declaredFlag "primaryevidenceobserved:" low = some false := by
  simp [claimsUnobserved]

theorem parseVerificationResult_reads {content : String}
    (h : parseVerificationResult db content = .ok v) : Reads db (.text content) v := by
  obtain ⟨v₁, h₁, h⟩ := bind_eq_ok.mp h
  obtain ⟨v₂, h₂, h⟩ := bind_eq_ok.mp h
  obtain ⟨v₃, h₃, h⟩ := bind_eq_ok.mp h
  obtain rfl := ok.inj h
  have c₁ := checkConclusion_concludes h₁
  have c₂ := (warnAll_onlyWarned h₂).lowers
  have c₃ := (warnAll_onlyWarned h₃).lowers
  have parts := (c₁.parts.trans c₂.parts).trans c₃.parts
  have hupheld : v₁.status ≠ .str "partial" ↔ (InjectSource.text content).Upheld db := c₁.upheld
  have htext : textLevel (lower content) v₁.status = "verified" ↔
      v₁.status ≠ .str "partial" ∧ TextSaysVerified (lower content) := textLevel_verified c₁.status
  have hlevel : (if claimsUnobserved (lower content) (textLevel (lower content) v₁.status) = true
      then "partial" else textLevel (lower content) v₁.status) = "verified" ↔
      v₁.status ≠ .str "partial" ∧ TextSaysVerified (lower content) ∧
        declaredFlag "primaryevidenceobserved:" (lower content) ≠ some false := by
    rw [← and_assoc, ← htext]
    split
    · next hu => exact iff_of_false (by simp) fun hv => hv.2 (claimsUnobserved_iff.mp hu).2
    · next hu => exact ⟨fun hv => ⟨hv, fun hd => hu (claimsUnobserved_iff.mpr ⟨hv, hd⟩)⟩, And.left⟩
  refine ⟨?_, ?_, parts.details, parts.checklist, ?_, parts.restarts, ?_⟩
  · exact hlevel.trans (and_congr_left fun _ => hupheld)
  · intro hv
    exact (c₃.status.trans c₂.status).trans (c₁.status (hlevel.mp hv).1)
  · change v₃.baselineUsed.any Json.truthy = _
    rw [parts.used]
    change Json.truthy _ = (declaredFlag "baselineused:" (lower content) == some true)
    cases declaredFlag "baselineused:" (lower content) with
    | none => rfl
    | some used => cases used <;> rfl
  · rintro - ⟨-, hover⟩
    change v₃.overall.any _ = true at hover
    rw [parts.overall] at hover
    cases hover

theorem verdictFrom_reads {source : InjectSource}
    (hsource : ∀ fs, source = .json fs → isJsonVerdict fs = true)
    (h : verdictFrom db source = .ok v) : Reads db source v := by
  cases source with
  | submitted args => exact verificationFromSubmitArgs_reads h
  | json fs => exact verificationFromJson_reads (hsource fs rfl) h
  | text content => exact parseVerificationResult_reads h

theorem injectSource_json {messages : List Message} {source : InjectSource}
    (h : injectSource messages = .ok source) (fs : List (String × Json)) (hfs : source = .json fs) :
    isJsonVerdict fs = true := by
  subst hfs
  unfold injectSource at h
  split at h
  · cases h
  · obtain ⟨read, -, h⟩ := bind_eq_ok.mp h
    split at h
    · split at h
      · next hj =>
        cases ok.inj h
        exact hj
      · cases h
    · cases h

/-! ## The checks after the reader -/

structure Passes (v v' : Verdict) (c : Prop) : Prop where
  parts : SameParts v v'
  status : v'.level = "verified" → v'.status = v.status
  level : v'.level = "verified" ↔ v.level = "verified" ∧ c

theorem Passes.trans {c c' : Prop} (h : Passes v₁ v₂ c)
    (h' : Passes v₂ v₃ c') : Passes v₁ v₃ (c ∧ c') where
  parts := h.parts.trans h'.parts
  status := fun hv => (h'.status hv).trans (h.status (h'.level.mp hv).1)
  level := by rw [h'.level, h.level, and_assoc]

theorem OnlyWarned.passes (h : OnlyWarned v v') : Passes v v' True := by
  obtain ⟨w, rfl⟩ := h
  exact ⟨⟨rfl, rfl, rfl, rfl, rfl, rfl⟩, fun _ => rfl, by simp⟩

def Findings.Agrees (x : Findings) (details : Json) (c : Option Checklist) : Prop :=
  x.contradictions details (c.elim [] Checklist.items) = .ok []

theorem capStatus_parts (v : Verdict) : SameParts v (capStatus v) := by
  unfold capStatus
  split
  · exact ⟨rfl, rfl, rfl, rfl, rfl, rfl⟩
  · exact .refl v

theorem crossCheckEvidence_passes (h : crossCheckEvidence x v = .ok v') :
    Passes v v' (x.Agrees v.details v.checklist) := by
  unfold crossCheckEvidence at h
  obtain ⟨found, hfound, h⟩ := bind_eq_ok.mp h
  split at h
  · obtain rfl := ok.inj h
    exact ⟨.refl v, fun _ => rfl, fun hv => ⟨hv, hfound⟩, And.left⟩
  · next hne =>
    obtain ⟨w, hw, h⟩ := bind_eq_ok.mp h
    have hlowers := lowers_of_warn (by decide) h
    have hparts := (warnAll_onlyWarned hw).lowers.parts.trans (capStatus_parts w)
    have hlevel : v'.level ≠ "verified" := fun hv => (hlowers.level.mp hv).2 (hlowers.level.mp hv).1
    have hdiffers : ¬ x.Agrees v.details v.checklist :=
      fun hagrees => hne (ok.inj (hfound.symm.trans hagrees))
    exact ⟨hparts.trans hlowers.parts, fun hv => absurd hv hlevel,
      iff_of_false hlevel fun hv => hdiffers hv.2⟩

theorem applyCoverage_passes {c : Coverage} (h : applyCoverage false c v = .ok v') :
    Passes v v' (¬ (c.isGap = true ∧ v.status = .str "passed")) := by
  unfold applyCoverage at h
  split at h
  · next hgap =>
    obtain ⟨w, hw, h⟩ := bind_eq_ok.mp h
    obtain ⟨warnings, rfl⟩ := warn_onlyWarned hw
    obtain rfl := ok.inj h
    dsimp only
    split
    · next hp =>
      have hp := isStr_iff.mp hp.2
      have hlevel : (if v.level = "verified" then "partial" else v.level) ≠ "verified" := by
        split
        · decide
        · assumption
      exact ⟨⟨rfl, rfl, rfl, rfl, rfl, rfl⟩, fun hv => absurd hv hlevel,
        iff_of_false hlevel fun hv => hv.2 ⟨hgap, hp⟩⟩
    · next hp =>
      refine ⟨⟨rfl, rfl, rfl, rfl, rfl, rfl⟩, fun _ => rfl, fun hv => ⟨hv, fun hc => ?_⟩, And.left⟩
      exact hp ⟨rfl, isStr_iff.mpr hc.2⟩
  · next hgap =>
    obtain rfl := ok.inj h
    exact ⟨.refl v, fun _ => rfl, fun hv => ⟨hv, fun hc => hgap hc.1⟩, And.left⟩

theorem enforceBurn_none (hburn : x.burnIo = none) : enforceBurn x v = .ok (v, false) := by
  unfold enforceBurn
  rw [hburn]

/-! ## The verdict after the checks -/

def StepsMissing (db : CharDb) (x : Findings) (source : InjectSource) : Prop :=
  ∃ c, stepCoverage db x source.args? (source.checklist db) = .ok c ∧ c.isGap = true

/-- The level stands after all checks: the source claims it, the timeline agrees, and
no step is missing where Layer 2 passed. -/
def LevelStands (db : CharDb) (x : Findings) (source : InjectSource) : Prop :=
  source.ClaimsVerified db ∧ x.Agrees source.details (source.checklist db) ∧
    ¬ (StepsMissing db x source ∧ source.status = .str "passed")

def NothingOpen (db : CharDb) (x : Findings) (layer1 : Layer1Result)
    (source : InjectSource) : Prop :=
  ¬ StepsMissing db x source ∧ ¬ (layer1.status = .passed ∧ layer1.affectedCount = 0) ∧
    (hasBaseline x = true → source.usesBaseline = true)

variable {source : InjectSource} {layer1 : Layer1Result} {names : List String} {e : Examined}

theorem gapsOf_eq_nil {c : Coverage} (hrestarts : v.sideEffects = none) (hconsistent :
      ¬ (v.primaryEvidenceObserved ≠ some true ∧ v.overall.any (·.isStr "verified") = true)) :
    gapsOf x layer1 false c v = [] ↔
      ¬ c.isGap = true ∧ ¬ (layer1.status = .passed ∧ layer1.affectedCount = 0) ∧
        (hasBaseline x = true → v.baselineUsed.any Json.truthy = true) := by
  have hnone : showsRestarts v = false := by simp [showsRestarts, hrestarts]
  unfold gapsOf
  rw [if_neg hconsistent, hnone]
  simp

theorem examine_spec (hburn : x.burnIo = none)
    (hsource : ∀ fs, source = .json fs → isJsonVerdict fs = true)
    (h : examine db x layer1 names source = .ok e) :
    (e.verdict.level = "verified" ↔ LevelStands db x source) ∧
    (e.verdict.level = "verified" → e.verdict.status = source.status ∧
      (e.gaps = [] ↔ NothingOpen db x layer1 source)) := by
  obtain ⟨v₁, h₁, h⟩ := bind_eq_ok.mp h
  obtain ⟨v₂, h₂, h⟩ := bind_eq_ok.mp h
  obtain ⟨⟨v₃, enforced⟩, h₃, h⟩ := bind_eq_ok.mp h
  obtain ⟨c, hc, h⟩ := bind_eq_ok.mp h
  obtain ⟨v₄, h₄, h⟩ := bind_eq_ok.mp h
  obtain ⟨v₅, h₅, h⟩ := bind_eq_ok.mp h
  cases h
  obtain ⟨rfl, rfl⟩ := Prod.mk.inj (ok.inj ((enforceBurn_none hburn).symm.trans h₃))
  have hreads := verdictFrom_reads hsource h₁
  have p₂ := crossCheckEvidence_passes h₂
  have p := (p₂.trans (applyCoverage_passes h₄)).trans (warnTargets_onlyWarned h₅).passes
  rw [p₂.parts.checklist, hreads.checklist] at hc
  have hmissing : StepsMissing db x source ↔ c.isGap = true := by
    constructor
    · rintro ⟨c', hc', hgap⟩
      obtain rfl := ok.inj (hc.symm.trans hc')
      exact hgap
    · exact fun hgap => ⟨c, hc, hgap⟩
  have hlevel : v₅.level = "verified" ↔ LevelStands db x source := by
    rw [p.level, hreads.level, hreads.details, hreads.checklist, ← hmissing, and_true]
    refine and_congr_right fun hclaims => and_congr_right fun hagrees => ?_
    have hv₁ := hreads.level.mpr hclaims
    have hv₂ : v₂.level = "verified" := by
      rw [p₂.level, hreads.details, hreads.checklist]
      exact ⟨hv₁, hagrees⟩
    rw [p₂.status hv₂, hreads.status hv₁]
  refine ⟨hlevel, fun hv => ?_⟩
  have hv₁ := (p.level.mp hv).1
  refine ⟨(p.status hv).trans (hreads.status hv₁), ?_⟩
  have hrestarts : v₅.sideEffects = none := p.parts.restarts.trans hreads.restarts
  have hconsistent := hreads.consistent hv₁
  rw [← p.parts.observed, ← p.parts.overall] at hconsistent
  unfold NothingOpen
  rw [gapsOf_eq_nil hrestarts hconsistent, hmissing, p.parts.used, hreads.used]

/-! ## The node -/

variable {σ : Setup} {a : Answer} {s s' : AgentState}

section

variable {reading : FinalReading}
  (hreading : a.finalReading (s.injectLayer1Cache.getD {}) s.messages = reading)
include hreading

theorem finalizeVerification_asks
    (hask : reading.gaps ≠ [] ∧ s.reverifyCount < reading.maxAttempts) :
    (finalizeVerification σ a s).messages = s.messages ++ [.human (reverifyText reading.gaps)] := by
  subst hreading
  unfold finalizeVerification
  rw [if_pos hask]

theorem finalizeVerification_writes
    (hask : ¬ (reading.gaps ≠ [] ∧ s.reverifyCount < reading.maxAttempts)) :
    (finalizeVerification σ a s).messages = s.messages ∧ (finalizeVerification σ a s).verification =
        .obj (("layer1", layer1ToDict (s.injectLayer1Cache.getD {})) :: reading.fields) := by
  subst hreading
  unfold finalizeVerification
  rw [if_neg hask]
  constructor
  · exact markWallClockTimeout_keeps _ _ _ _ _ _ AgentState.messages fun _ _ _ => rfl
  · exact markWallClockTimeout_keeps _ _ _ _ _ _ AgentState.verification fun _ _ _ => rfl

end

theorem forceBaseline_keeps (h : forceBaseline x v = .ok v') :
    v'.level = v.level ∧ v'.status = v.status := by
  unfold forceBaseline at h
  dsimp only at h
  split at h
  · obtain ⟨w, rfl⟩ := warn_onlyWarned h
    exact ⟨rfl, rfl⟩
  · cases h
    exact ⟨rfl, rfl⟩

theorem finalizeVerify_cases (h : finalizeVerify σ a x s = some s') :
    ∃ source e, injectSource s.messages = .ok source ∧
      examine σ.db x (s.injectLayer1Cache.getD {}) ((s.faultSpec.map FaultSpec.names).getD [])
        source = .ok e ∧ ((e.gaps ≠ [] ∧ s.reverifyCount < maxReverifyAttempts x s.faultSpec ∧
          s'.messages ≠ s.messages) ∨
        (¬ (e.gaps ≠ [] ∧ s.reverifyCount < maxReverifyAttempts x s.faultSpec) ∧
          s'.messages = s.messages ∧ s'.verification.field? "level" = some (.str e.verdict.level) ∧
          layerOf "layer2" s'.verification = some e.verdict.status)) := by
  obtain ⟨reading, hreading, h⟩ := bind_eq_some_iff.mp h
  obtain ⟨source, hsource, hreading⟩ := bind_eq_ok.mp (toOption_eq_some.mp hreading)
  obtain ⟨e, he, hreading⟩ := bind_eq_ok.mp hreading
  cases h
  refine ⟨source, e, hsource, he, ?_⟩
  dsimp only at hreading
  split at hreading
  · next hask =>
    cases hreading
    refine .inl ⟨hask.1, hask.2, ?_⟩
    rw [finalizeVerification_asks rfl (by simpa using hask)]
    simp
  · next hask =>
    obtain ⟨v, hv, hreading⟩ := bind_eq_ok.mp hreading
    obtain ⟨_, -, hreading⟩ := bind_eq_ok.mp hreading
    cases hreading
    obtain ⟨hlevel, hstatus⟩ := forceBaseline_keeps hv
    have hask' : ¬ (e.gaps.map (GapType.instruction e.coverage.missing) ≠ [] ∧
        s.reverifyCount < maxReverifyAttempts x s.faultSpec) := by simpa using hask
    refine .inr ⟨hask, (finalizeVerification_writes rfl hask').1, ?_, ?_⟩
    · rw [(finalizeVerification_writes rfl hask').2, ← hlevel]
      rfl
    · rw [(finalizeVerification_writes rfl hask').2, ← hstatus]
      rfl

/-- What a pass writes is not contradicted: a level `verified`, without a measured burn,
has a Layer 2 that passed, a source that does not deny its primary evidence, and no
gap. -/
def WritesBacked (x : Findings) (source : InjectSource) (gaps : List GapType) (s s' : AgentState) :
    Prop :=
  s'.messages = s.messages → x.burnIo = none →
    s'.verification.field? "level" = some (.str "verified") →
    layerOf "layer2" s'.verification = some (.str "passed") ∧
      source.declaresUnobserved = false ∧ gaps = []

def SourceBacks (db : CharDb) (x : Findings) (s : AgentState) (source : InjectSource) : Prop :=
  x.burnIo = none → LevelStands db x source →
  (s.reverifyCount < maxReverifyAttempts x s.faultSpec →
    NothingOpen db x (s.injectLayer1Cache.getD {}) source) →
  source.status = .str "passed" ∧ source.declaresUnobserved = false ∧
    NothingOpen db x (s.injectLayer1Cache.getD {}) source

/-- A level `verified` is written with its backing exactly if the source backs it. -/
theorem verifiedVerdict_backed_iff (h : finalizeVerify σ a x s = some s') :
    ∃ source e, injectSource s.messages = .ok source ∧
      examine σ.db x (s.injectLayer1Cache.getD {}) ((s.faultSpec.map FaultSpec.names).getD [])
        source = .ok e ∧ (WritesBacked x source e.gaps s s' ↔ SourceBacks σ.db x s source) := by
  obtain ⟨source, e, hsource, he, hcases⟩ := finalizeVerify_cases h
  refine ⟨source, e, hsource, he, ?_⟩
  unfold WritesBacked SourceBacks
  by_cases hburn : x.burnIo = none
  swap
  · exact ⟨fun _ hb => absurd hb hburn, fun _ _ hb => absurd hb hburn⟩
  obtain ⟨hlevel, hverified⟩ := examine_spec hburn (injectSource_json hsource) he
  obtain ⟨hgaps, hleft, hasked⟩ | ⟨hask, hsame, hwritten, hstatus⟩ := hcases
  · -- the model is asked again: nothing is written, and something is open
    refine ⟨fun _ _ hstands hopen => ?_, fun _ hm => absurd hm hasked⟩
    exact absurd ((hverified (hlevel.mpr hstands)).2.mpr (hopen hleft)) hgaps
  · rw [hwritten, hstatus, some_inj, some_inj, str.injEq]
    constructor
    · intro hbacked _ hstands _
      have hv := hlevel.mpr hstands
      obtain ⟨hpassed, hobserved, hnone⟩ := hbacked hsame hburn hv
      exact ⟨(hverified hv).1 ▸ hpassed, hobserved, (hverified hv).2.mp hnone⟩
    · intro hbacks _ _ hv
      obtain ⟨hst, hopen⟩ := hverified hv
      have hleft : s.reverifyCount < maxReverifyAttempts x s.faultSpec →
          NothingOpen σ.db x (s.injectLayer1Cache.getD {}) source := by
        intro hleft
        exact hopen.mp (by_contra fun hne => hask ⟨hne, hleft⟩)
      obtain ⟨hpassed, hobserved, hnothing⟩ := hbacks hburn (hlevel.mp hv) hleft
      exact ⟨hst.trans hpassed, hobserved, hopen.mpr hnothing⟩

def verifiedArgs (status : String) (observed : Json) : Json :=
  .obj [("overall", .str "verified"), ("layer2_status", .str status),
    ("primary_evidence_observed", observed)]

def submittedVerified (args : Json) (reverifyCount : Nat) (layer1 : Layer1Result) : AgentState where
  messages := [.ai { toolCalls := [⟨submitVerificationToolName, args, "c1"⟩] }]
  injectLayer1Cache := some layer1
  reverifyCount := reverifyCount

def threeVerified : AgentState :=
  submittedVerified (verifiedArgs "passed" (.bool true)) 0 ⟨.passed, "", "", 3, false⟩

/-- An experiment that has affected three resources is verified, with its backing. -/
theorem threeVerified_backed : ∃ s' source gaps, finalizeVerify {} {} {} threeVerified = some s' ∧
    s'.verification.field? "level" = some (.str "verified") ∧
    SourceBacks asciiDb {} threeVerified source ∧ WritesBacked {} source gaps threeVerified s' := by
  have hruns : ∃ s', finalizeVerify {} {} {} threeVerified = some s' ∧
      s'.verification.field? "level" = some (.str "verified") := ⟨_, rfl, rfl⟩
  obtain ⟨s', h, hlevel⟩ := hruns
  obtain ⟨source, e, hsource, -, hiff⟩ := verifiedVerdict_backed_iff h
  obtain rfl : InjectSource.submitted (verifiedArgs "passed" (.bool true)) = source :=
    Except.ok.inj hsource
  have hbacks : SourceBacks asciiDb {} threeVerified
      (.submitted (verifiedArgs "passed" (.bool true))) :=
    fun _ _ hopen => ⟨rfl, rfl, hopen (by decide)⟩
  exact ⟨s', _, e.gaps, h, hlevel, hbacks, hiff.mpr hbacks⟩

def hedgedVerified : String :=
  "Overall: verified\nPrimaryEvidenceObserved: false, else true"

/-- A Layer 2 that was skipped is written with the level `verified`. So is a verdict whose primary
evidence is declared `'false'`, as a text, or `false` on a line that has the word true in it; and,
after the one attempt, a verdict about an experiment that has affected nothing. -/
theorem verified_without_backing :
    (∃ s', finalizeVerify {} {} {} (submittedVerified (verifiedArgs "skipped" (.bool true)) 0
        ⟨.passed, "", "", 3, false⟩) = some s' ∧
      s'.verification.field? "level" = some (.str "verified") ∧
      layerOf "layer2" s'.verification = some (.str "skipped")) ∧
    (∃ s', finalizeVerify {} {} {} (submittedVerified (verifiedArgs "passed" (.str "false")) 0
        ⟨.passed, "", "", 3, false⟩) = some s' ∧
      s'.verification.field? "level" = some (.str "verified") ∧
      (InjectSource.submitted (verifiedArgs "passed" (.str "false"))).declaresUnobserved = true) ∧
    ((parseVerificationResult asciiDb hedgedVerified).map Verdict.level = .ok "verified" ∧
      deniesEvidence hedgedVerified = true) ∧
    ∃ s' e, finalizeVerify {} {} {} (submittedVerified (verifiedArgs "passed" (.bool true)) 1
        ⟨.passed, "", "", 0, false⟩) = some s' ∧
      s'.verification.field? "level" = some (.str "verified") ∧
      examine asciiDb {} ⟨.passed, "", "", 0, false⟩ []
        (.submitted (verifiedArgs "passed" (.bool true))) = .ok e ∧
      e.gaps = [.layer1Contradiction] :=
  ⟨⟨_, rfl, rfl, rfl⟩, ⟨_, rfl, rfl, by decide +kernel⟩, by decide +kernel,
    _, _, rfl, rfl, rfl, rfl⟩

end ChaosBlade.Nodes
