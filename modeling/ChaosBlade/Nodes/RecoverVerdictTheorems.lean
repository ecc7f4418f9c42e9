/-
Nodes.RecoverVerdictTheorems: is the level `recovered` backed
by the rest of the verdict it stands in?

Both sources can say `recovered` next to something that does not bear it
out.
-/
import ChaosBlade.Nodes.RecoverParse

namespace ChaosBlade.Nodes

open Py Agent Dict Except Json List Option

variable {σ : Setup} {a : Answer} {s s' : AgentState}

/-! ## What is written -/

def stepsOf (v : Json) : List Json := listField ((v.field? "checklist").getD .null) "items"

def LeavesOpen (item : Json) : Prop :=
  ∃ status ∈ incompleteStatuses, item.field? "status" = some (.str status)

def declaresUnobserved : VerdictSource → Bool
  | .submitted args => (args.field? "primary_evidence_observed").any deniedValue
  | .text content => deniesEvidence content

structure Backed (source : VerdictSource) (v : Json) : Prop where
  layer2 : layerOf "layer2" v = some (.str "passed") ∨
    layerOf "layer2" v = some (.str "skipped") ∧ layerOf "layer1" v = some (.str "passed")
  steps : ∀ item ∈ stepsOf v, ¬ LeavesOpen item
  observed : declaresUnobserved source = false

def RecoveredIsBacked (source : VerdictSource) (v : Json) : Prop :=
  v.field? "level" = some (.str "recovered") → Backed source v

def ResultAgrees (s : AgentState) : Prop :=
  s.result.field? "recovered" = some (.bool true) ↔
    s.recoverVerification.field? "level" = some (.str "recovered") ∨
    s.recoverVerification.field? "level" = some (.str "partial")

def SameOutcome (s s' : AgentState) : Prop :=
  s'.result = s.result ∧ s'.recoverVerification = s.recoverVerification

/-! ## Completing a verdict -/

theorem get?_append_of_ne {k j : String} (h : k ≠ j) (fs : List (String × Json)) (v : Json) :
    Json.get? (fs ++ [(j, v)]) k = Json.get? fs k := by
  simp [Json.get?, lookup_append, lookup_cons_eq_if, if_neg h]

theorem addWarning_get? {warning k : String} {fs fs' : List (String × Json)}
    (h : addWarning warning fs = .ok fs') (hk : k ≠ "warnings") :
    Json.get? fs' k = Json.get? fs k := by
  unfold addWarning at h
  split at h
  · cases h
    simp [Json.get?, lookup_setEntry, if_neg hk]
  · cases h
    simp [Json.get?, lookup_setEntry, if_neg hk]
  · cases h

theorem completeVerdict_get? {layer1 : Layer1Result} {k : String} {fs fs' : List (String × Json)}
    (h : completeVerdict a layer1 fs = .ok fs') (hw : k ≠ "warnings")
    (hb : k ≠ "baseline_confidence") :
    Json.get? fs' k = if k = "layer1" then some (layer1ToDict layer1) else Json.get? fs k := by
  have hset : Json.get? (Dict.setEntry "layer1" (layer1ToDict layer1) fs) k =
      if k = "layer1" then some (layer1ToDict layer1) else Json.get? fs k :=
    lookup_setEntry _ _ _ _
  rw [← hset]
  unfold completeVerdict at h
  dsimp only at h
  generalize Dict.setEntry "layer1" (layer1ToDict layer1) fs = fs₁ at h ⊢
  generalize hfs₂ : (if (Json.get? fs₁ "baseline_confidence").isSome = true then fs₁
    else fs₁ ++ [("baseline_confidence", .str a.baselineConfidence)]) = fs₂ at h
  have hconf : Json.get? fs₂ k = Json.get? fs₁ k := by
    rw [← hfs₂]
    split
    · rfl
    · exact get?_append_of_ne hb _ _
  split_ifs at h
  · exact (addWarning_get? h hw).trans hconf
  · cases h
    exact hconf

/-! ## The node -/

structure WritesVerdict (σ : Setup) (a : Answer) (s : AgentState) (layer1 : Layer1Result)
    (read fs : List (String × Json)) (level : Json) (s' : AgentState) : Prop where
  cached : restoreLayer1 s.recoverLayer1Cache = some layer1
  verdict : verdictOf { a with recoverReading := recoveryReading σ.db } s.skillName
    (verdictSource s.messages) = .ok read
  complete : completeVerdict { a with recoverReading := recoveryReading σ.db } layer1 read = .ok fs
  named : Json.get? fs "level" = some level
  result : s'.result.field? "recovered" = some (.bool (isRecovered level))
  written : s'.recoverVerification = .obj fs

theorem finalizeRecover_writes (h : finalizeRecover σ a s = some s')
    (hsame : s'.messages = s.messages) :
    ∃ layer1 read fs level, WritesVerdict σ a s layer1 read fs level s' := by
  have hprompt : ∀ text : String, s.messages ++ [.human text] ≠ s.messages := by simp
  obtain ⟨layer1, hcached, h⟩ := bind_eq_some_iff.mp h
  obtain ⟨read, hread, h⟩ := bind_eq_some_iff.mp h
  split at h
  · cases h
    exact absurd hsame (hprompt _)
  obtain ⟨fs, hfs, h⟩ := bind_eq_some_iff.mp h
  obtain ⟨layer2, -, h⟩ := bind_eq_some_iff.mp h
  split at h
  · cases h
    exact absurd hsame (hprompt _)
  obtain ⟨level, hlevel, h⟩ := bind_eq_some_iff.mp h
  cases h
  exact ⟨layer1, read, fs, level, hcached, toOption_eq_some.mp hread, toOption_eq_some.mp hfs,
    hlevel, rfl, rfl⟩

theorem isRecovered_iff {level : Json} :
    isRecovered level = true ↔ level = .str "recovered" ∨ level = .str "partial" := by
  cases level <;> simp [isRecovered]

variable {layer1 : Layer1Result} {read fs : List (String × Json)} {level : Json}

section

variable (h : WritesVerdict σ a s layer1 read fs level s')
include h

theorem WritesVerdict.resultAgrees : ResultAgrees s' := by
  unfold ResultAgrees
  rw [h.result, h.written, Json.field?_obj, h.named, some_inj, some_inj,
    some_inj, bool.injEq, isRecovered_iff]

theorem WritesVerdict.get? {k : String}
    (hw : k ≠ "warnings") (hb : k ≠ "baseline_confidence") (hk : k ≠ "layer1") :
    s'.recoverVerification.field? k = Json.get? read k := by
  rw [h.written, Json.field?_obj, completeVerdict_get? h.complete hw hb, if_neg hk]

theorem WritesVerdict.layer1Of :
    layerOf "layer1" s'.recoverVerification = some (.str (Layer1Status.value layer1.status)) := by
  unfold layerOf
  rw [h.written, Json.field?_obj, completeVerdict_get? h.complete (by decide) (by decide),
    if_pos rfl]
  rfl

end

theorem Layer1Status.value_eq_passed {st : Layer1Status} :
    Layer1Status.value st = "passed" ↔ st = .passed := by cases st <;> decide

/-! ## The submit call -/

theorem submittedLevel_eq_recovered {overall layer2 : Json} :
    submittedLevel overall layer2 = .str "recovered" ↔
      overall = .str "recovered" ∧ layer2 ≠ .str "failed" ∧ layer2 ≠ .str "partial" := by
  unfold submittedLevel
  split
  · simp
  · simp
  · next hf hp =>
    refine iff_of_true rfl ⟨rfl, ?_, ?_⟩
    · rintro rfl
      exact hf rfl
    · rintro rfl
      exact hp rfl
  · simp
  · next hr _ _ _ => exact iff_of_false (by simp) fun h => hr h.1

structure Submitted (args : Json) (fs : List (String × Json)) : Prop where
  level : Json.get? fs "level" = some (submittedLevel
    ((args.field? "overall").getD (.str "unrecovered"))
    ((args.field? "layer2_status").getD (.str "unknown")))
  layer2 : layerOf "layer2" (.obj fs) =
    some ((args.field? "layer2_status").getD (.str "unknown"))
  steps : stepsOf (.obj fs) = listField args "checklist"

theorem recoverVerificationFromSubmitArgs_submitted {args : Json}
    (h : recoverVerificationFromSubmitArgs args = .ok fs) : Submitted args fs := by
  obtain ⟨checklist, hc, h⟩ := bind_eq_ok.mp h
  obtain ⟨layer2, hl, h⟩ := bind_eq_ok.mp h
  obtain ⟨overall, ho, h⟩ := bind_eq_ok.mp h
  obtain ⟨details, -, h⟩ := bind_eq_ok.mp h
  obtain ⟨ws, -, h⟩ := bind_eq_ok.mp h
  obtain ⟨warnings, -, h⟩ := bind_eq_ok.mp h
  obtain ⟨used, -, h⟩ := bind_eq_ok.mp h
  cases h
  obtain rfl := getD_eq_ok hc
  obtain rfl := getD_eq_ok hl
  obtain rfl := getD_eq_ok ho
  refine ⟨rfl, rfl, ?_⟩
  -- without a list there is no checklist, and an empty one is not written
  generalize hlist : listField args "checklist" = items
  unfold listField at hlist
  cases hfield : args.field? "checklist" with
  | none =>
    rw [hfield] at hlist
    subst hlist
    rfl
  | some v =>
    rw [hfield] at hlist
    cases v with
    | arr xs =>
      obtain rfl : xs = items := hlist
      by_cases hxs : xs = []
      · subst hxs
        rfl
      · simp only [getD_some, if_neg hxs]
        rfl
    | null | bool b | int n | float text nonzero | str text | obj fields => subst hlist; rfl

def Layer1Passed (s : AgentState) : Prop :=
  (restoreLayer1 s.recoverLayer1Cache).map Layer1Result.status = some .passed

theorem WritesVerdict.layer1_iff (h : WritesVerdict σ a s layer1 read fs level s') :
    layerOf "layer1" s'.recoverVerification = some (.str "passed") ↔ Layer1Passed s := by
  rw [h.layer1Of, Layer1Passed, h.cached, map_some, some_inj, some_inj,
    str.injEq, Layer1Status.value_eq_passed]

theorem WritesVerdict.backed_iff (h : WritesVerdict σ a s layer1 read fs level s')
    (source : VerdictSource) : RecoveredIsBacked source s'.recoverVerification ↔
      (Json.get? read "level" = some (.str "recovered") →
        (layerOf "layer2" (.obj read) = some (.str "passed") ∨
          layerOf "layer2" (.obj read) = some (.str "skipped") ∧ Layer1Passed s) ∧
        (∀ item ∈ stepsOf (.obj read), ¬ LeavesOpen item) ∧
          declaresUnobserved source = false) := by
  have hlevel := h.get? (k := "level") (by decide) (by decide) (by decide)
  have hlayer2 : layerOf "layer2" s'.recoverVerification = layerOf "layer2" (.obj read) := by
    unfold layerOf
    rw [h.get? (by decide) (by decide) (by decide), Json.field?_obj]
  have hsteps : stepsOf s'.recoverVerification = stepsOf (.obj read) := by
    unfold stepsOf
    rw [h.get? (by decide) (by decide) (by decide), Json.field?_obj]
  unfold RecoveredIsBacked
  rw [hlevel]
  constructor
  · intro hbacked hrec
    have hb := hbacked hrec
    rw [← hlayer2, ← hsteps, ← h.layer1_iff]
    exact ⟨hb.layer2, hb.steps, hb.observed⟩
  · intro hagrees hrec
    have ha := hagrees hrec
    rw [← hlayer2, ← hsteps, ← h.layer1_iff] at ha
    exact ⟨ha.1, ha.2.1, ha.2.2⟩

/-- If the arguments say `recovered`, and Layer 2 has neither failed nor is partial,
they have what backs the level. -/
def SubmitAgrees (s : AgentState) (args : Json) : Prop :=
  args.field? "overall" = some (.str "recovered") →
  args.field? "layer2_status" ≠ some (.str "failed") →
  args.field? "layer2_status" ≠ some (.str "partial") →
    (args.field? "layer2_status" = some (.str "passed") ∨
      args.field? "layer2_status" = some (.str "skipped") ∧ Layer1Passed s) ∧
    (∀ item ∈ listField args "checklist", ¬ LeavesOpen item) ∧
    (args.field? "primary_evidence_observed").any deniedValue = false

theorem getD_eq_iff {o : Option Json} {d v : Json} (h : d ≠ v) : o.getD d = v ↔ o = some v := by
  cases o with
  | none => simpa using h
  | some w => simp

theorem Submitted.agrees_iff {args : Json} (h : Submitted args read)
    (hw : WritesVerdict σ a s layer1 read fs level s') :
    RecoveredIsBacked (.submitted args) s'.recoverVerification ↔ SubmitAgrees s args := by
  rw [hw.backed_iff, h.level, h.layer2, h.steps, some_inj, submittedLevel_eq_recovered,
    getD_eq_iff (by simp), some_inj, some_inj, getD_eq_iff (by simp),
    getD_eq_iff (by simp), ne_eq, ne_eq, getD_eq_iff (by simp), getD_eq_iff (by simp)]
  constructor
  · intro hb hoverall hfailed hpart
    exact hb ⟨hoverall, hfailed, hpart⟩
  · rintro hb ⟨hoverall, hfailed, hpart⟩
    exact hb hoverall hfailed hpart

/-! ## The text -/

variable (v : RecoveryText)

theorem RecoveryText.layer2Of_fields :
    layerOf "layer2" (.obj v.fields) = some (.str v.status) := rfl

theorem RecoveryText.level_fields : Json.get? v.fields "level" = some (.str v.level) := rfl

theorem RecoveryText.stepsOf_fields : stepsOf (.obj v.fields) = v.items.map StepItem.toJson := by
  unfold RecoveryText.fields
  split
  · next h =>
    rw [h]
    rfl
  · rfl

theorem leavesOpen_toJson {item : StepItem} :
    LeavesOpen item.toJson ↔ item.status ∈ incompleteStatuses := by
  have hstatus : item.toJson.field? "status" = some (.str item.status) := rfl
  unfold LeavesOpen
  rw [hstatus]
  simp

theorem incompleteSteps_eq_nil {items : List StepItem} :
    incompleteSteps items = [] ↔ ∀ item ∈ items.map StepItem.toJson, ¬ LeavesOpen item := by
  simp [incompleteSteps, leavesOpen_toJson]

theorem detectRecoveryChecklistInconsistency_isSome {items : List StepItem} {status : String} :
    (detectRecoveryChecklistInconsistency items status).isSome = true ↔
      status = "passed" ∧ incompleteSteps items ≠ [] := by
  unfold detectRecoveryChecklistInconsistency
  dsimp only
  split
  · next h =>
    tauto
  · next h =>
    tauto

def FailureContradicted (db : CharDb) (content : String) : Prop :=
  (detectRecoveryContradiction (recoveryDetails (lower content))
    (parseRecoveryChecklistItems db content)).isSome = true

theorem correctedLayer2_cases (db : CharDb) (content : String) :
    (correctedLayer2 db content = "partial" ∧
      (saidLayer2 (lower content) = "partial" ∨ (saidLayer2 (lower content) = "passed" ∧
          incompleteSteps (parseRecoveryChecklistItems db content) ≠ []) ∨
        saidLayer2 (lower content) = "failed" ∧ FailureContradicted db content)) ∨
    (correctedLayer2 db content = saidLayer2 (lower content) ∧
      saidLayer2 (lower content) ≠ "partial" ∧ (saidLayer2 (lower content) = "passed" →
        incompleteSteps (parseRecoveryChecklistItems db content) = []) ∧
      (saidLayer2 (lower content) = "failed" → ¬ FailureContradicted db content)) := by
  unfold correctedLayer2 layer2Contradiction checkedLayer2 FailureContradicted
  dsimp only
  generalize saidLayer2 (lower content) = said
  generalize parseRecoveryChecklistItems db content = items
  by_cases hincons : (detectRecoveryChecklistInconsistency items said).isSome = true
  · have hpassed := detectRecoveryChecklistInconsistency_isSome.mp hincons
    exact .inl ⟨by simp [hincons], .inr (.inl hpassed)⟩
  have hcomplete : said = "passed" → incompleteSteps items = [] := by
    intro hsaid
    by_contra hne
    exact hincons (detectRecoveryChecklistInconsistency_isSome.mpr ⟨hsaid, hne⟩)
  simp only [if_neg hincons]
  by_cases hfailed : said = "failed"
  · subst hfailed
    rw [if_pos rfl]
    split
    · next hc => exact .inl ⟨rfl, .inr (.inr ⟨rfl, hc⟩)⟩
    · next hc => exact .inr ⟨rfl, by decide, hcomplete, fun _ => hc⟩
  · simp only [if_neg hfailed, isSome_none, Bool.false_eq_true, if_false]
    by_cases hpart : said = "partial"
    · exact .inl ⟨hpart, .inl hpart⟩
    · exact .inr ⟨trivial, hpart, hcomplete, fun h => absurd h hfailed⟩

theorem overallLevel_eq_recovered {overall : String} :
    overallLevel overall = "recovered" ↔ saysRecovered overall = true := by
  unfold overallLevel
  split
  · next h => exact iff_of_true rfl h
  · next h =>
    refine iff_of_false ?_ h
    split_ifs <;> decide

/-- The text says that the fault is gone: on its overall line, or, without one, by
a Layer 2 that passed or was skipped. -/
def ClaimsRecovered (low : String) : Prop :=
  (∃ line, lineAfter "overall:" low = some line ∧ saysRecovered (strip line) = true) ∨
  lineAfter "overall:" low = none ∧ (saidLayer2 low = "passed" ∨ saidLayer2 low = "skipped")

theorem recoveryLevel_of_partial (low : String) : recoveryLevel low "partial" = "partial" := by
  unfold recoveryLevel
  exact if_pos rfl

theorem recoveryLevel_eq_recovered {low status : String} (hpart : status ≠ "partial")
    (hsaid : status = saidLayer2 low) :
    recoveryLevel low status = "recovered" ↔ ClaimsRecovered low := by
  unfold recoveryLevel ClaimsRecovered
  rw [if_neg hpart]
  cases lineAfter "overall:" low with
  | some line => simp [overallLevel_eq_recovered]
  | none =>
    simp only [levelOfLayer2]
    split_ifs <;> simp_all

/-- A summary that is taken for a verdict declares no evidence missing. A verdict
that says `recovered`, with evidence the parser does not object to, has a Layer 2
that passed or is corrected to `partial`, or one that was skipped, with a passed
Layer 1 and a checklist that leaves nothing open. -/
def TextAgrees (db : CharDb) (s : AgentState) (content : String) : Prop :=
  let low := lower content
  if isExecutionResult low then
    saysSuccess low = true → deniesEvidence content = false
  else
    ClaimsRecovered low → evidenceObjection low (recoveryDetails low) s.skillName = none →
      saidLayer2 low = "partial" ∨
      saidLayer2 low = "passed" ∧
        (incompleteSteps (parseRecoveryChecklistItems db content) ≠ [] ∨
          deniesEvidence content = false) ∨
      saidLayer2 low = "failed" ∧ FailureContradicted db content ∨
      saidLayer2 low = "skipped" ∧ Layer1Passed s ∧
        incompleteSteps (parseRecoveryChecklistItems db content) = [] ∧
        deniesEvidence content = false

section

variable {db : CharDb} {content skill : String}

structure ReadsVerdict (db : CharDb) (content skill : String) (v : RecoveryText) : Prop where
  status : v.status = correctedLayer2 db content
  items : v.items = parseRecoveryChecklistItems db content
  level : v.level = "recovered" ↔
    recoveryLevel (lower content) (correctedLayer2 db content) = "recovered" ∧
    evidenceObjection (lower content) (recoveryDetails (lower content)) skill = none

theorem parseRecovery_readsVerdict (h : ¬ isExecutionResult (lower content) = true) :
    ReadsVerdict db content skill (parseRecoveryVerificationResult db content skill) := by
  unfold parseRecoveryVerificationResult
  simp only [if_neg h]
  generalize hstatus : correctedLayer2 db content = status
  generalize hread : recoveryLevel (lower content) status = level
  refine ⟨hstatus.symm, rfl, ?_⟩
  rw [hstatus, hread]
  by_cases hlevel : level = "recovered"
  · rw [if_pos hlevel]
    cases evidenceObjection (lower content) (recoveryDetails (lower content)) skill with
    | none => simp
    | some text => simp
  · simp [hlevel]

end

theorem textAgrees_iff {content : String}
    (hw : WritesVerdict σ a s layer1 (recoveryReading σ.db content s.skillName) fs level s') :
    RecoveredIsBacked (.text content) s'.recoverVerification ↔ TextAgrees σ.db s content := by
  rw [hw.backed_iff]
  unfold recoveryReading TextAgrees declaresUnobserved
  rw [RecoveryText.level_fields, RecoveryText.layer2Of_fields, RecoveryText.stepsOf_fields,
    ← incompleteSteps_eq_nil]
  dsimp only
  split
  · next hexec =>
    -- a summary has no checklist, and its Layer 2 passes with it
    have hparse : parseRecoveryVerificationResult σ.db content s.skillName =
        executionVerdict (lower content) := if_pos hexec
    rw [hparse]
    unfold executionVerdict
    split
    · next hsuccess => simp [hsuccess, incompleteSteps]
    · next hsuccess => simp [hsuccess]
  · next hexec =>
    have hv : ReadsVerdict σ.db content s.skillName _ := parseRecovery_readsVerdict hexec
    generalize parseRecoveryVerificationResult σ.db content s.skillName = v at hv
    rw [hv.status, hv.items, some_inj, str.injEq, hv.level]
    rcases correctedLayer2_cases σ.db content with
      ⟨hstatus, hsaid⟩ | ⟨hstatus, hpart, hpassed, hfailed⟩
    · -- a partial Layer 2 takes the level with it
      rw [hstatus, recoveryLevel_of_partial]
      refine iff_of_true (fun h => absurd h.1 (by decide)) fun _ _ => ?_
      rcases hsaid with hsaid | hsaid | hsaid
      · exact .inl hsaid
      · exact .inr (.inl ⟨hsaid.1, .inl hsaid.2⟩)
      · exact .inr (.inr (.inl hsaid))
    · rw [recoveryLevel_eq_recovered (hstatus ▸ hpart) hstatus, hstatus]
      generalize saidLayer2 (lower content) = said at hpart hpassed hfailed
      constructor
      · intro hbacked hclaims hobjection
        obtain ⟨hlayer2, hsteps, hobserved⟩ := hbacked ⟨hclaims, hobjection⟩
        rcases hlayer2 with hsaid | ⟨hsaid, hlayer1⟩
        · exact .inr (.inl ⟨by simpa using hsaid, .inr hobserved⟩)
        · exact .inr (.inr (.inr ⟨by simpa using hsaid, hlayer1, hsteps, hobserved⟩))
      · rintro hagrees ⟨hclaims, hobjection⟩
        rcases hagrees hclaims hobjection with
          rfl | ⟨rfl, hopen | hobserved⟩ | ⟨rfl, hc⟩ | ⟨rfl, hlayer1, hsteps, hobserved⟩
        · exact absurd rfl hpart
        · exact absurd (hpassed rfl) hopen
        · exact ⟨.inl rfl, hpassed rfl, hobserved⟩
        · exact absurd hc (hfailed rfl)
        · exact ⟨.inr ⟨rfl, hlayer1⟩, hsteps, hobserved⟩

def SourceAgrees (db : CharDb) (s : AgentState) : VerdictSource → Prop
  | .submitted args => SubmitAgrees s args
  | .text content => TextAgrees db s content

theorem WritesVerdict.agrees_iff (h : WritesVerdict σ a s layer1 read fs level s') :
    RecoveredIsBacked (verdictSource s.messages) s'.recoverVerification ↔
      SourceAgrees σ.db s (verdictSource s.messages) := by
  have hread := h.verdict
  generalize verdictSource s.messages = source at hread ⊢
  cases source with
  | submitted args => exact (recoverVerificationFromSubmitArgs_submitted hread).agrees_iff h
  | text content =>
    cases hread
    exact textAgrees_iff h

/-! ## The loop -/

theorem resultAgrees_of_unrecovered (hresult : s.result.field? "recovered" = some (.bool false))
    (hlevel : s.recoverVerification.field? "level" = some (.str "unrecovered")) :
    ResultAgrees s := by
  unfold ResultAgrees
  rw [hresult, hlevel]
  simp

theorem recoverOverrun_not_agrees (uid : String) : ¬ ResultAgrees (recoverOverrun σ a s uid) := by
  intro h
  have hlevel : (recoverOverrun σ a s uid).recoverVerification.field? "level" =
    some (.str "partial") := rfl
  have := h.mpr (.inr hlevel)
  cases this

theorem recoverVerifierLoop_outcome (h : recoverVerifierLoop σ a s = some s') :
    (s.verifierLoopCount < σ.settings.maxRecoverVerifierLoop → SameOutcome s s' ∨ ResultAgrees s') ∧
    (σ.settings.maxRecoverVerifierLoop ≤ s.verifierLoopCount → ¬ ResultAgrees s') := by
  rcases recoverVerifierLoop_step h with ⟨hle, uid, rfl⟩ | ⟨hlt, h⟩
  · exact ⟨fun hlt => absurd hlt (by omega), fun _ => recoverOverrun_not_agrees uid⟩
  refine ⟨fun _ => ?_, fun hle => absurd hlt (by omega)⟩
  cases h with
  | exceeded | fails => exact .inr (resultAgrees_of_unrecovered rfl rfl)
  | recovers | verifies => exact .inl ⟨rfl, rfl⟩

theorem recoverVerifier_resultAgrees {db : CharDb} (h : recoverVerifier db a s = some s') :
    ResultAgrees s' := by
  obtain ⟨uid, -, h⟩ := bind_eq_some_iff.mp h
  obtain ⟨kubectl, -, h⟩ := bind_eq_some_iff.mp h
  obtain rfl := some.inj h
  generalize (!kubectl && decide (uid ≠ "") && (plainLayer1 a uid kubectl).status == .passed) =
    recovered
  cases recovered with
  | false => exact resultAgrees_of_unrecovered rfl rfl
  | true => exact iff_of_true rfl (.inl rfl)

/-! ## Verdicts and results -/

/-- A verdict that is written is backed, and the result agrees with it, exactly if
its source agrees with itself. Apart from it a result is written by a pass of the
loop, where it agrees with the level within the limit and never beyond it, and by
the node without a model. -/
theorem recoverVerdict_backed_iff (σ : Setup) (a : Answer) (s s' : AgentState) :
    (finalizeRecover σ a s = some s' → s'.messages = s.messages →
      (RecoveredIsBacked (verdictSource s.messages) s'.recoverVerification ∧ ResultAgrees s' ↔
        SourceAgrees σ.db s (verdictSource s.messages))) ∧ (recoverVerifierLoop σ a s = some s' →
      (s.verifierLoopCount < σ.settings.maxRecoverVerifierLoop →
        SameOutcome s s' ∨ ResultAgrees s') ∧
      (σ.settings.maxRecoverVerifierLoop ≤ s.verifierLoopCount → ¬ ResultAgrees s')) ∧
    (recoverVerifier σ.db a s = some s' → ResultAgrees s') := by
  refine ⟨?_, recoverVerifierLoop_outcome, recoverVerifier_resultAgrees⟩
  intro h hsame
  obtain ⟨layer1, read, fs, level, hw⟩ := finalizeRecover_writes h hsame
  rw [and_iff_left hw.resultAgrees]
  exact hw.agrees_iff

def recoveredArgs : Json :=
  .obj [("overall", .str "recovered"), ("layer2_status", .str "passed"),
    ("checklist", .arr [.obj [("step", .int 1), ("status", .str "failed")]])]

def submittedRecovered : AgentState where
  messages := [.ai { toolCalls := [⟨submitRecoverVerificationToolName, recoveredArgs, "c1"⟩] }]
  recoverLayer1Cache := some (.result { status := .passed })

def hedgedRecovered : String :=
  "Overall: recovered\nPrimaryEvidenceObserved: false, else true"

/-- The verdict is written as it was submitted, a declaration `false` on a line with the word true
in it is not seen, and a pass beyond the limit says both that the recovery is partial and that there
is none. -/
theorem recovered_with_failed_step : (∃ s', finalizeRecover {} {} submittedRecovered = some s' ∧
      s'.recoverVerification.field? "level" = some (.str "recovered") ∧
      ∃ item ∈ stepsOf s'.recoverVerification, LeavesOpen item) ∧
    ((parseRecoveryVerificationResult asciiDb hedgedRecovered "").level = "recovered" ∧
      deniesEvidence hedgedRecovered = true) ∧
    ∃ s', recoverVerifierLoop {} {} { verifierLoopCount := 60 } = some s' ∧
      s'.recoverVerification.field? "level" = some (.str "partial") ∧
      s'.result.field? "recovered" = some (.bool false) := by
  refine ⟨⟨_, rfl, rfl, _, mem_cons_self, "failed", by decide, rfl⟩, by decide +kernel,
    _, rfl, rfl, rfl⟩

end ChaosBlade.Nodes
