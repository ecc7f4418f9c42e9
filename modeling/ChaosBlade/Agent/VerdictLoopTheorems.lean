/-
Agent.VerdictLoopTheorems: do the two verification loops end
with a verdict?

Both are counted loops, so the number of passes is bounded whatever the
model and the tools do.
-/
import ChaosBlade.Agent.RecoverGraph
import ChaosBlade.Agent.VerifyGraph
import ChaosBlade.Nodes.RecoverVerdictTheorems
import ChaosBlade.Nodes.VerifierReadTheorems

namespace ChaosBlade.Agent

open Py Nodes ChaosBlade.Graph.StateGraph Option

variable {σ : Setup} {s s' : AgentState} {settings : Settings} {now : Rat}

/-! ## Tools -/

def ToolsAnswer (a : Answer) (s : AgentState) : Prop :=
  ∀ turn, lastTurn s.messages = some turn → ∀ tc ∈ turn.toolCalls, (a.tool tc).isSome = true

section

variable {a : Answer}

theorem toolNode_isSome {turn : AIMessage} (hturn : lastTurn s.messages = some turn)
    (h : ToolsAnswer a s) : (toolNode a s).isSome = true := by
  have hresults : ∀ calls : List ToolCall, (∀ tc ∈ calls, (a.tool tc).isSome = true) →
      ∃ results, calls.mapM (toolResult a) = some results := by
    intro calls
    induction calls with
    | nil => exact fun _ => ⟨[], rfl⟩
    | cons tc calls ih =>
      intro hall
      obtain ⟨out, hout⟩ := isSome_iff_exists.mp (hall tc List.mem_cons_self)
      obtain ⟨results, hrest⟩ := ih fun tc' h' => hall tc' (List.mem_cons_of_mem _ h')
      exact ⟨_, by simp [toolResult, hout, hrest]; rfl⟩
  obtain ⟨results, hmap⟩ := hresults turn.toolCalls (h turn hturn)
  simp [toolNode, hturn, hmap]

@[simp] theorem lastTurn_append_ai (messages : List Message) (r : AIMessage) :
    lastTurn (messages ++ [.ai r]) = some r := by simp [lastTurn]

theorem toolNode_count (h : toolNode a s = some s') :
    s'.verifierLoopCount = s.verifierLoopCount := (toolNode_staysPut h).count

/-! ## The loop of the verifier -/

structure AddsTurn (s s' : AgentState) : Prop where
  count : s'.verifierLoopCount = s.verifierLoopCount + 1
  started : s'.pipelineStartedAt = s.pipelineStartedAt
  turn : ∃ r, lastTurn s'.messages = some r

theorem wallClockExceeded_congr (h : s'.pipelineStartedAt = s.pipelineStartedAt) :
    wallClockExceeded settings now s' = wallClockExceeded settings now s := by
  unfold wallClockExceeded
  rw [h]

theorem verifierLoop_cases (h : verifierLoop σ a s = some s') :
    s'.verification.truthy = true ∨
      AddsTurn s s' ∧ s.verifierLoopCount < σ.settings.maxVerifierLoop := by
  unfold verifierLoop at h
  dsimp only at h
  split at h
  · cases h
    exact .inl rfl
  · split at h
    · cases h
      exact .inl rfl
    · obtain ⟨r, -, h⟩ := bind_eq_some_iff.mp h
      cases h
      refine .inr ⟨⟨?_, ?_, r, ?_⟩, by omega⟩
      · exact markWallClockTimeout_keeps _ _ _ _ _ _ AgentState.verifierLoopCount fun _ _ _ => rfl
      · exact markWallClockTimeout_keeps _ _ _ _ _ _ AgentState.pipelineStartedAt fun _ _ _ => rfl
      · rw [markWallClockTimeout_keeps _ _ _ _ _ _ AgentState.messages fun _ _ _ => rfl]
        exact lastTurn_append_ai _ r

theorem verifierLoop_isSome (h : s.verifierLoopCount < σ.settings.maxVerifierLoop →
      (verifierLayer1 a s).isTerminal = false → a.response.isSome = true) :
    (verifierLoop σ a s).isSome = true := by
  unfold verifierLoop
  dsimp only
  split
  · rfl
  · split
    · rfl
    · next hlimit hterminal =>
      obtain ⟨r, hr⟩ := isSome_iff_exists.mp (h (by omega) (by simpa using hterminal))
      simp [hr]

theorem finalizeVerify_count {x : Findings} (h : finalizeVerify σ a x s = some s') :
    s'.verifierLoopCount = s.verifierLoopCount := by
  obtain ⟨reading, -, h⟩ := bind_eq_some_iff.mp h
  cases h
  unfold finalizeVerification
  dsimp only
  split
  · rfl
  · exact markWallClockTimeout_keeps _ _ _ _ _ _ AgentState.verifierLoopCount fun _ _ _ => rfl

end

def VerifyNode.role : VerifyNode → Role
  | .verifierLoop => .body
  | .verifierTools => .helper
  | .finalizeVerification => .close

variable {route : VerifierRoute}

theorem verifyLoopEdge_role {m : VerifyNode}
    (h : verifyLoopEdge σ route = some m) : m.role ≠ .body := by
  cases route with
  | goOn =>
    unfold verifyLoopEdge verifierEdge at h
    dsimp only at h
    split at h <;> cases h <;> decide
  | finalize =>
    cases h
    decide
  | done => cases h

theorem verifyLoopEdge_eq_none : verifyLoopEdge σ route = none ↔ route = .done := by
  unfold verifyLoopEdge verifierEdge
  cases route with
  | goOn => cases σ.verifierTools <;> simp [InjectNode.verify?]
  | finalize | done => simp [InjectNode.verify?]

theorem shouldContinueVerifier_eq_done : shouldContinueVerifier settings now s = .done ↔
      s.verification.truthy = true ∨ wallClockExceeded settings now s = true := by
  unfold shouldContinueVerifier
  split_ifs <;> simp_all

theorem verifyEdge_of_verdict {a : Answer × Findings} (h : s.verification.truthy = true) :
    verifyEdge σ .verifierLoop a s = none :=
  verifyLoopEdge_eq_none.mpr (shouldContinueVerifier_eq_done.mpr (.inl h))

theorem verifyGraph_loop (σ : Setup) :
    (verifyGraph σ).CountedLoop VerifyNode.role AgentState.verifierLoopCount
      σ.settings.maxVerifierLoop where
  body := by
    intro n a s s' hn _ hact
    cases n <;> cases hn
    rcases verifierLoop_cases hact with hverdict | ⟨hadds, hlt⟩
    · exact .inl (verifyEdge_of_verdict hverdict)
    · exact .inr ⟨hadds.count, hlt, fun m hm => verifyLoopEdge_role hm⟩
  helper := by
    intro n a s s' hn hact
    cases n <;> cases hn
    refine ⟨toolNode_count hact, fun m hm => ?_⟩
    revert hm
    simp only [verifyGraph, verifyEdge, VerifyNode.inject, injectEdge, bind_some]
    cases routeAfterVerifierTools s' <;> rintro ⟨⟩ <;> decide
  close := by
    intro n a s s' hn hact
    cases n <;> cases hn
    refine ⟨finalizeVerify_count hact, fun m hm => ?_⟩
    revert hm
    simp only [verifyGraph, verifyEdge, VerifyNode.inject, injectEdge, bind_some]
    cases routeAfterFinalize s' <;> rintro ⟨⟩
    rfl

/-- What is asked of a visit: within the limit and with a Layer 1 that has not failed
the model answers, the tools answer, and what the model has submitted or written can
be read. The time budget is not exceeded when the router looks. -/
def VerifyVisitOk (σ : Setup) : VerifyNode → Answer × Findings → AgentState → Prop
  | .verifierLoop, a, s => wallClockExceeded σ.settings a.1.nowRoute s = false ∧
      (s.verifierLoopCount < σ.settings.maxVerifierLoop →
        (verifierLayer1 a.1 s).isTerminal = false → a.1.response.isSome = true)
  | .verifierTools, a, s => ToolsAnswer a.1 s
  | .finalizeVerification, a, s => VerdictReadable σ.db a.2 s

def VerifyRunOk (σ : Setup) (w : Nat → Answer × Findings) (s : AgentState) : Prop :=
  ∀ k n t, (verifyGraph σ).run w (verifyStart s) k = some ⟨some n, t⟩ → VerifyVisitOk σ n (w k) t

section

variable {w : Nat → Answer × Findings} {k : Nat} {t : AgentState}

theorem lastTurn_of_verifierTools
    (h : (verifyGraph σ).run w (verifyStart s) k = some ⟨some .verifierTools, t⟩) :
    ∃ turn, lastTurn t.messages = some turn := by
  cases k with
  | zero => cases h
  | succ k =>
    obtain ⟨n, t₀, -, hact, hedge⟩ := run_pred h
    cases n with
    | verifierLoop =>
      rcases verifierLoop_cases hact with hverdict | ⟨hadds, -⟩
      · cases (verifyEdge_of_verdict hverdict).symm.trans hedge
      · exact hadds.turn
    | verifierTools =>
      exact absurd rfl (((verifyGraph_loop σ).helper rfl hact).2 .verifierTools hedge)
    | finalizeVerification => cases ((verifyGraph_loop σ).close rfl hact).2 .verifierTools hedge

theorem verifyAct_isSome (hok : VerifyRunOk σ w s) (n : VerifyNode)
    (h : (verifyGraph σ).run w (verifyStart s) k = some ⟨some n, t⟩) :
    (verifyAct σ n (w k) t).isSome = true := by
  have hvisit := hok k n t h
  cases n with
  | verifierLoop => exact verifierLoop_isSome hvisit.2
  | verifierTools =>
    obtain ⟨turn, hturn⟩ := lastTurn_of_verifierTools h
    exact toolNode_isSome hturn hvisit
  | finalizeVerification =>
    obtain ⟨reading, hreading⟩ := readVerification_returns hvisit
    have hsome : (readVerification σ.db (w k).2 t).toOption = some reading :=
      toOption_eq_some.mpr hreading
    simp [verifyAct, finalizeVerify, hsome]

theorem verdict_of_verifyEnd (hok : VerifyRunOk σ w s)
    (h : (verifyGraph σ).run w (verifyStart s) k = some ⟨none, t⟩) :
    t.verification.truthy = true := by
  cases k with
  | zero => cases h
  | succ k =>
    obtain ⟨n, t₀, hrun, hact, hedge⟩ := run_pred h
    cases n with
    | verifierLoop =>
      rcases verifierLoop_cases hact with hverdict | ⟨hadds, -⟩
      · exact hverdict
      · have hclock : wallClockExceeded σ.settings (w k).1.nowRoute t = false :=
          (wallClockExceeded_congr hadds.started).trans (hok k _ t₀ hrun).1
        rcases shouldContinueVerifier_eq_done.mp (verifyLoopEdge_eq_none.mp hedge) with hv | hc
        · exact hv
        · cases hclock.symm.trans hc
    | verifierTools =>
      revert hedge
      simp only [verifyGraph, verifyEdge, VerifyNode.inject, injectEdge, bind_some]
      cases routeAfterVerifierTools t <;> rintro ⟨⟩
    | finalizeVerification =>
      by_contra hnone
      have hloop : routeAfterFinalize t = .loop := if_neg hnone
      simp only [verifyGraph, verifyEdge, VerifyNode.inject, injectEdge, bind_some, hloop] at hedge
      cases hedge

end

/-! ## The loop of the recover verifier -/

/-- The pass goes on with a recovery by the model: it answers, with calls or with a
summary that is no failure, and its passes are not used up. -/
def GoesOnRecovering (σ : Setup) (a : Answer) (s : AgentState) : Prop :=
  (recoverBranch σ s = .ok .startRecovery ∨ recoverBranch σ s = .ok .goOnRecovery ∧
    s.layer1IterationCount < σ.settings.maxRecoverLayer1Iterations) ∧
  ∃ r, a.response = some r ∧ (r.toolCalls = [] →
    ∃ text, turnText r = some text ∧ (parseLayer1RecoveryResult text).isTerminal = false)

variable {a : Answer}

structure RecoversOn (σ : Setup) (a : Answer) (s s' : AgentState) : Prop where
  goes : GoesOnRecovering σ a s
  adds : AddsTurn s s'
  context : s'.layer2ContextAdded = s.layer2ContextAdded
  /-- The passes of Layer 1 are counted with those of the loop. -/
  iterations : s.verifierLoopCount = 0 ∨ s.layer1IterationCount = s.verifierLoopCount →
    s'.layer1IterationCount = s'.verifierLoopCount

theorem count_of_startRecovery (h : recoverBranch σ s = .ok .startRecovery) :
    s.verifierLoopCount = 0 := by
  by_contra hne
  rcases recoverBranch_of_later (phase_of_isLayer1 h rfl).1 hne h with hb | hb <;> cases hb

theorem count_of_goOnRecovery (h : recoverBranch σ s = .ok .goOnRecovery) :
    s.verifierLoopCount ≠ 0 := by
  intro hcount
  obtain ⟨hphase, hlimit⟩ := phase_of_isLayer1 h rfl
  obtain ⟨uid, -, hchoice⟩ := (recoverBranch_first hcount hphase (by omega)).mp h
  cases hchoice

theorem recoverVerifierLoop_cases (h : recoverVerifierLoop σ a s = some s') :
    s'.recoverVerification.truthy = true ∨
      s.verifierLoopCount < σ.settings.maxRecoverVerifierLoop ∧ AddsTurn s s' ∧
        (s'.layer2ContextAdded = true ∨ RecoversOn σ a s s') := by
  rcases recoverVerifierLoop_step h with ⟨-, uid, rfl⟩ | ⟨hlt, h⟩
  · exact .inl rfl
  cases h with
  | exceeded | fails => exact .inl rfl
  | @recovers r _ _ _ _ _ hb hr hsummary hgrows =>
    have hgoes : GoesOnRecovering σ a s := ⟨hb.imp And.left (And.imp_right And.right), r, hr,
        hsummary⟩
    suffices hon : RecoversOn σ a s _ from .inr ⟨hlt, hon.adds, .inr hon⟩
    refine ⟨hgoes, ⟨rfl, rfl, r, lastTurn_append_ai _ r⟩, rfl, fun hiter => ?_⟩
    rcases hb with ⟨hb, rfl⟩ | ⟨hb, rfl, -⟩
    · simp [count_of_startRecovery hb]
    · exact congrArg (· + 1) (hiter.resolve_left (count_of_goOnRecovery hb))
  | @verifies _ _ _ r => exact .inr ⟨hlt, ⟨rfl, rfl, r, lastTurn_append_ai _ r⟩, .inl rfl⟩

def RecoverNode.role : RecoverNode → Role
  | .recoverVerifierLoop => .body
  | .recoverVerifierTools => .helper
  | .finalizeRecoverVerification => .close

theorem recoverLoopEdge_role {m : RecoverNode}
    (h : recoverLoopEdge σ route = some m) : m.role ≠ .body := by
  cases route with
  | goOn =>
    unfold recoverLoopEdge at h
    dsimp only at h
    split at h <;> cases h <;> decide
  | finalize =>
    cases h
    decide
  | done => cases h

theorem recoverGraph_loop (σ : Setup) :
    (recoverGraph σ).CountedLoop RecoverNode.role AgentState.verifierLoopCount
      σ.settings.maxRecoverVerifierLoop where
  body := by
    intro n a s s' hn _ hact
    cases n <;> cases hn
    rcases recoverVerifierLoop_cases hact with hverdict | ⟨hlt, hadds, -⟩
    · exact .inl (recoverEdge_of_verdict hverdict)
    · exact .inr ⟨hadds.count, hlt, fun m hm => recoverLoopEdge_role hm⟩
  helper := by
    intro n a s s' hn hact
    cases n <;> cases hn
    refine ⟨toolNode_count hact, fun m hm => ?_⟩
    revert hm
    simp only [recoverGraph, recoverEdge]
    cases routeAfterRecoverVerifierTools s' <;> rintro ⟨⟩ <;> decide
  close := by
    intro n a s s' hn hact
    cases n <;> cases hn
    refine ⟨(finalizeRecoverVerification_staysPut hact).count, fun m hm => ?_⟩
    revert hm
    simp only [recoverGraph, recoverEdge]
    cases routeAfterRecoverFinalize s' <;> rintro ⟨⟩
    rfl

/-! ## Reading the verdict of a recovery -/

structure Writable (fs : List (String × Json)) : Prop where
  level : ∃ v, Json.get? fs "level" = some v
  layer2 : ∃ l, Json.get? fs "layer2" = some (.obj l)
  warnings : ∃ ws, Json.get? fs "warnings" = some (.arr ws)

theorem recoverVerificationFromSubmitArgs_writable {args : Json} (hobj : isObject args = true)
    (hws : Returns (listOrEmpty ((args.field? "warnings").getD .null))) :
    ∃ fs, recoverVerificationFromSubmitArgs args = .ok fs ∧ Writable fs := by
  obtain ⟨ws, hws⟩ := hws
  unfold recoverVerificationFromSubmitArgs
  simp only [getD_of_isObject hobj, hws, bind, Except.bind]
  exact ⟨_, rfl, ⟨_, rfl⟩, ⟨_, rfl⟩, ⟨_, rfl⟩⟩

theorem recoveryReading_writable (db : CharDb) (text skill : String) :
    Writable (recoveryReading db text skill) := by
  generalize parseRecoveryVerificationResult db text skill = v
  exact ⟨⟨_, rfl⟩, ⟨_, rfl⟩, ⟨_, rfl⟩⟩

theorem addWarning_returns {warning : String} {fs : List (String × Json)} {ws : List Json}
    (h : Json.get? fs "warnings" = some (.arr ws)) : Returns (addWarning warning fs) := by
  unfold addWarning
  rw [h]
  exact returns_ok _

theorem completeVerdict_returns (a : Answer) (layer1 : Layer1Result) {fs : List (String × Json)}
    (h : Writable fs) : Returns (completeVerdict a layer1 fs) := by
  obtain ⟨ws, hws⟩ := h.warnings
  have hset : Json.get? (Dict.setEntry "layer1" (layer1ToDict layer1) fs) "warnings" =
      some (.arr ws) := by
    rw [Json.get?, Dict.lookup_setEntry, if_neg (by decide)]
    exact hws
  unfold completeVerdict
  dsimp only
  generalize Dict.setEntry "layer1" (layer1ToDict layer1) fs = fs₁ at hset ⊢
  generalize hfs₂ : (if (Json.get? fs₁ "baseline_confidence").isSome = true then fs₁
    else fs₁ ++ [("baseline_confidence", .str a.baselineConfidence)]) = fs₂
  have hget : Json.get? fs₂ "warnings" = some (.arr ws) := by
    rw [← hfs₂]
    split
    · exact hset
    · exact (get?_append_of_ne (by decide) _ _).trans hset
  exact returns_ite (addWarning_returns hget) (returns_ok _)

/-- What is asked of a visit to the verdict: Layer 1 is not in progress, and submitted
arguments have the types they are read with. -/
structure RecoverReadable (s : AgentState) : Prop where
  cached : ∀ p, s.recoverLayer1Cache ≠ some (.inProgress p)
  submitted : ∀ args, extractRecoverSubmitArgs s.messages = some args →
    isObject args = true ∧ Returns (listOrEmpty ((args.field? "warnings").getD .null))

theorem restoreLayer1_isSome {cache : Option RecoverLayer1Cache}
    (h : ∀ p, cache ≠ some (.inProgress p)) : ∃ layer1, restoreLayer1 cache = some layer1 := by
  match cache with
  | none => exact ⟨_, rfl⟩
  | some (.inProgress p) => exact absurd rfl (h p)
  | some (.result r) => exact ⟨_, rfl⟩

theorem verdictOf_writable (hreads : a.recoverReading = recoveryReading σ.db)
    (h : RecoverReadable s) :
    ∃ fs, verdictOf a s.skillName (verdictSource s.messages) = .ok fs ∧ Writable fs := by
  unfold verdictSource
  cases hargs : extractRecoverSubmitArgs s.messages with
  | none => exact ⟨_, rfl, hreads ▸ recoveryReading_writable σ.db _ _⟩
  | some args =>
    obtain ⟨hobj, hws⟩ := h.submitted args hargs
    exact recoverVerificationFromSubmitArgs_writable hobj hws

theorem finalizeRecoverVerification_isSome (hreads : a.recoverReading = recoveryReading σ.db)
    (h : RecoverReadable s) : (finalizeRecoverVerification σ a s).isSome = true := by
  obtain ⟨layer1, hlayer1⟩ := restoreLayer1_isSome h.cached
  obtain ⟨read, hread, hwritable⟩ := verdictOf_writable hreads h
  obtain ⟨fs, hfs⟩ := completeVerdict_returns a layer1 hwritable
  obtain ⟨level, hlevel⟩ := hwritable.level
  obtain ⟨l, hl⟩ := hwritable.layer2
  have hlevel' : Json.get? fs "level" = some level := by
    rw [completeVerdict_get? hfs (by decide) (by decide), if_neg (by decide)]
    exact hlevel
  have hl' : Json.get? fs "layer2" = some (.obj l) := by
    rw [completeVerdict_get? hfs (by decide) (by decide), if_neg (by decide)]
    exact hl
  obtain ⟨layer2, hlayer2⟩ : Returns (layer2Status fs) := by
    unfold layer2Status
    rw [hl']
    exact returns_ok _
  unfold finalizeRecoverVerification
  simp only [hlayer1, hread, hfs, hlayer2, Except.toOption, bind_eq_bind, bind_some]
  split
  · rfl
  · split
    · rfl
    · simp [hlevel']

/-! ## Runs of the recover graph -/

/-- What is asked of a pass. The time budget is not exceeded when the router looks;
the injection can be read off the messages; Layer 2 finds Layer 1 done, and the model
answers there; a summary of the model is a text. And a pass that goes on with Layer 1
is not the last one. -/
structure RecoverPassOk (σ : Setup) (a : Answer) (s : AgentState) : Prop where
  clock : wallClockExceeded σ.settings a.nowRoute s = false
  reads : Returns (recoverBranch σ s)
  cached : recoverBranch σ s = .ok .restore → ∀ p, s.recoverLayer1Cache ≠ some (.inProgress p)
  answers : ∀ {b uid layer1}, recoverBranch σ s = .ok b →
    recoverLayer1 σ a s uid b = some (.proceed layer1) → layer1.isTerminal = false →
    a.response.isSome = true
  summary : recoverBranch σ s = .ok .startRecovery ∨ recoverBranch σ s = .ok .goOnRecovery →
    ∀ r, a.response = some r → r.toolCalls = [] → (turnText r).isSome = true
  last : GoesOnRecovering σ a s →
    s.verifierLoopCount + 1 < σ.settings.maxRecoverVerifierLoop ∨ s.layer2ContextAdded = true

def RecoverVisitOk (σ : Setup) : RecoverNode → Answer → AgentState → Prop
  | .recoverVerifierLoop, a, s => RecoverPassOk σ a s
  | .recoverVerifierTools, a, s => ToolsAnswer a s
  | .finalizeRecoverVerification, a, s =>
    a.recoverReading = recoveryReading σ.db ∧ RecoverReadable s

theorem kubectl_of_startRecovery (h : recoverBranch σ s = .ok .startRecovery) :
    ∃ kubectl, wasKubectlBladeInjectionSuccessful s.messages = .ok kubectl := by
  obtain ⟨hphase, hlimit⟩ := phase_of_isLayer1 h rfl
  obtain ⟨uid, -, hchoice⟩ :=
    (recoverBranch_first (count_of_startRecovery h) hphase (by omega)).mp h
  cases hchoice with
  | startRecovery hattempted _ => exact kubectl_of_wasBladeCreateAttempted hattempted

theorem recoverLayer1_isSome (uid : String) {b : RecoverBranch} (hok : RecoverPassOk σ a s)
    (hb : recoverBranch σ s = .ok b) : ∃ step, recoverLayer1 σ a s uid b = some step := by
  cases b with
  | overrun | hostDestroy | uidMissing | noContext => exact ⟨_, rfl⟩
  | restore =>
    obtain ⟨layer1, h⟩ := restoreLayer1_isSome (hok.cached hb)
    exact ⟨.proceed layer1, by simp [recoverLayer1, h]⟩
  | startRecovery =>
    obtain ⟨kubectl, hkubectl⟩ := kubectl_of_startRecovery hb
    unfold recoverLayer1 startRecovery
    cases hr : a.response with
    | none => exact ⟨_, rfl⟩
    | some r =>
      dsimp only
      split
      · exact ⟨_, by rw [hkubectl]; rfl⟩
      · next hcalls =>
        obtain ⟨text, htext⟩ := isSome_iff_exists.mp
          (hok.summary (.inl hb) r hr (not_not.mp hcalls))
        exact ⟨_, by rw [htext]; rfl⟩
  | goOnRecovery =>
    unfold recoverLayer1 goOnRecovery
    dsimp only
    split
    · exact ⟨_, rfl⟩
    · cases hr : a.response with
      | none => exact ⟨_, rfl⟩
      | some r =>
        dsimp only
        split
        · exact ⟨_, rfl⟩
        · next hcalls =>
          obtain ⟨text, htext⟩ := isSome_iff_exists.mp
            (hok.summary (.inr hb) r hr (not_not.mp hcalls))
          exact ⟨_, by rw [htext]; rfl⟩

theorem recoverVerifierLoop_isSome (hok : RecoverPassOk σ a s) :
    (recoverVerifierLoop σ a s).isSome = true := by
  obtain ⟨b, hb⟩ := hok.reads
  obtain ⟨uid, huid, -⟩ := recoverBranch_eq_ok.mp hb
  obtain ⟨step, hstep⟩ := recoverLayer1_isSome uid hok hb
  cases step with
  | leave t =>
    rw [recoverVerifierLoop_of_leave huid hb hstep]
    rfl
  | proceed layer1 =>
    cases hterminal : layer1.isTerminal with
    | true => simp [recoverVerifierLoop, huid, hb, hstep, hterminal, Except.toOption]
    | false =>
      obtain ⟨r, hr⟩ := isSome_iff_exists.mp (hok.answers hb hstep hterminal)
      rw [recoverVerifierLoop_of_proceed huid hb hstep hterminal hr]
      rfl

theorem shouldContinueRecoverVerifier_eq_done :
    shouldContinueRecoverVerifier settings now s = .done ↔
      s.recoverVerification.truthy = true ∨ wallClockExceeded settings now s = true ∨
        settings.maxRecoverVerifierLoop ≤ s.verifierLoopCount ∧ s.layer2ContextAdded = false := by
  unfold shouldContinueRecoverVerifier
  split_ifs <;> simp_all

theorem recoverLoopEdge_eq_none : recoverLoopEdge σ route = none ↔ route = .done := by
  cases route <;> simp [recoverLoopEdge]
  split <;> simp

def RecoverRunOk (σ : Setup) (w : Nat → Answer) (s : AgentState) : Prop :=
  ∀ k n t, (recoverGraph σ).run w (recoverStart s) k = some ⟨some n, t⟩ →
    RecoverVisitOk σ n (w k) t

section

variable {w : Nat → Answer} {k : Nat} {t : AgentState}

theorem lastTurn_of_recoverVerifierTools
    (h : (recoverGraph σ).run w (recoverStart s) k = some ⟨some .recoverVerifierTools, t⟩) :
    ∃ turn, lastTurn t.messages = some turn := by
  cases k with
  | zero => cases h
  | succ k =>
    obtain ⟨n, t₀, -, hact, hedge⟩ := run_pred h
    cases n with
    | recoverVerifierLoop =>
      rcases recoverVerifierLoop_cases hact with hverdict | ⟨-, hadds, -⟩
      · cases (recoverEdge_of_verdict hverdict).symm.trans hedge
      · exact hadds.turn
    | recoverVerifierTools =>
      exact absurd rfl (((recoverGraph_loop σ).helper rfl hact).2 .recoverVerifierTools hedge)
    | finalizeRecoverVerification =>
      cases ((recoverGraph_loop σ).close rfl hact).2 .recoverVerifierTools hedge

theorem recoverAct_isSome (hok : RecoverRunOk σ w s) (n : RecoverNode)
    (h : (recoverGraph σ).run w (recoverStart s) k = some ⟨some n, t⟩) :
    (recoverAct σ n (w k) t).isSome = true := by
  have hvisit := hok k n t h
  cases n with
  | recoverVerifierLoop => exact recoverVerifierLoop_isSome hvisit
  | recoverVerifierTools =>
    obtain ⟨turn, hturn⟩ := lastTurn_of_recoverVerifierTools h
    exact toolNode_isSome hturn hvisit
  | finalizeRecoverVerification => exact finalizeRecoverVerification_isSome hvisit.1 hvisit.2

theorem verdict_of_recoverEnd (hok : RecoverRunOk σ w s)
    (h : (recoverGraph σ).run w (recoverStart s) k = some ⟨none, t⟩) :
    t.recoverVerification.truthy = true := by
  cases k with
  | zero => cases h
  | succ k =>
    obtain ⟨n, t₀, hrun, hact, hedge⟩ := run_pred h
    cases n with
    | recoverVerifierLoop =>
      have hpass : RecoverPassOk σ (w k) t₀ := hok k _ t₀ hrun
      rcases recoverVerifierLoop_cases hact with hverdict | ⟨-, hadds, hcontext⟩
      · exact hverdict
      · rcases shouldContinueRecoverVerifier_eq_done.mp (recoverLoopEdge_eq_none.mp hedge) with
          hv | hc | ⟨hlimit, hbefore⟩
        · exact hv
        · cases (hpass.clock.symm.trans (wallClockExceeded_congr hadds.started).symm).trans hc
        · -- only a pass of Layer 1 could leave like that, and it is not the last one
          rcases hcontext with hadded | hon
          · cases hbefore.symm.trans hadded
          · rcases hpass.last hon.goes with hlt | hadded
            · rw [hadds.count] at hlimit
              omega
            · cases (hon.context.trans hadded).symm.trans hbefore
    | recoverVerifierTools =>
      revert hedge
      simp only [recoverGraph, recoverEdge]
      cases routeAfterRecoverVerifierTools t <;> rintro ⟨⟩
    | finalizeRecoverVerification =>
      by_contra hnone
      have hloop : routeAfterRecoverFinalize t = .loop := if_neg hnone
      simp only [recoverGraph, recoverEdge, hloop] at hedge
      cases hedge

end

/-! ## Both loops -/

/-- The verifier loop makes at most one pass more than its limit, and a run in which
every visit meets what is asked of it leaves for `se_detect` with a verdict. -/
def InjectVerdictReached (σ : Setup) (w : Nat → Answer × Findings) (s : AgentState) : Prop :=
  (∀ k, visits (verifyGraph σ) (· = .verifierLoop) w (verifyStart s) k ≤
    σ.settings.maxVerifierLoop + 1) ∧
  (VerifyRunOk σ w s → ∃ k t, (verifyGraph σ).run w (verifyStart s) k = some ⟨none, t⟩ ∧
    t.verification.truthy = true)

def RecoverVerdictReached (σ : Setup) (w : Nat → Answer) (s : AgentState) : Prop :=
  (∀ k, visits (recoverGraph σ) (· = .recoverVerifierLoop) w (recoverStart s) k ≤
    σ.settings.maxRecoverVerifierLoop + 1) ∧
  (RecoverRunOk σ w s → ∃ k t, (recoverGraph σ).run w (recoverStart s) k = some ⟨none, t⟩ ∧
    t.recoverVerification.truthy = true)

def onePass : Setup where
  settings := { maxVerifierLoop := 1 }

def submitsVerdict : Answer × Findings :=
  ({ response := some { toolCalls :=
      [⟨submitVerificationToolName, verifiedArgs "passed" (.bool true), "c1"⟩] }
     layer1 := fun _ _ _ => ⟨.passed, "", "", 3, false⟩ }, {})

theorem submitsVerdict_runOk : VerifyRunOk onePass (fun _ => submitsVerdict) {} := by
  have hend : ∃ s, (verifyGraph onePass).run (fun _ => submitsVerdict) (verifyStart {}) 2 =
      some ⟨none, s⟩ := ⟨_, rfl⟩
  obtain ⟨s, hend⟩ := hend
  intro k n t h
  match k with
  | 0 =>
    cases h
    exact ⟨rfl, fun _ _ => rfl⟩
  | 1 =>
    cases h
    exact ⟨.submitted (verifiedArgs "passed" (.bool true)), rfl, ⟨rfl, nofun, [], rfl⟩,
        returns_ok _⟩
  | 2 => cases hend.symm.trans h
  | k + 3 => exact absurd h (run_ne_of_end hend (by omega))

def failedDestroy : Answer where
  destroy := .ok "Error: not found"

def hostExperiment : AgentState where
  bladeUid := "4f3a1c0e9b7d4a65"

theorem failedDestroy_runOk : RecoverRunOk onePass (fun _ => failedDestroy) hostExperiment := by
  have hend : ∃ s,
      (recoverGraph onePass).run (fun _ => failedDestroy) (recoverStart hostExperiment) 1 =
      some ⟨none, s⟩ := ⟨_, rfl⟩
  obtain ⟨s, hend⟩ := hend
  intro k n t h
  match k with
  | 0 =>
    cases h
    have hbranch : recoverBranch onePass hostExperiment = .ok .hostDestroy := rfl
    refine ⟨rfl, ⟨_, hbranch⟩, fun hr => ?_, fun hb hstep hterminal => ?_, fun hr => ?_, ?_⟩
    · cases hbranch.symm.trans hr
    · cases hbranch.symm.trans hb
      cases hstep
      cases hterminal
    · rcases hr with hr | hr <;> cases hbranch.symm.trans hr
    · rintro ⟨hr | hr, -⟩
      · cases hbranch.symm.trans hr
      · cases hbranch.symm.trans hr.1
  | 1 => cases hend.symm.trans h
  | k + 2 => exact absurd h (run_ne_of_end hend (by omega))

def keepsCalling : Answer where
  response := some { toolCalls := [⟨"kubectl", .obj [("subcommand", .str "get")], "c1"⟩] }
  tool := fun _ => some ⟨"ok", .success⟩

def toldFault : AgentState where
  injectContext := "kubectl scale deployment web --replicas=0"

def twoPasses : Setup where
  settings := { maxRecoverVerifierLoop := 2, maxRecoverLayer1Iterations := 2 }

def numberEvidenceArgs : Json :=
  .obj [("layer2_status", .str "passed"),
    ("checklist", .arr [.obj [("status", .str "failed"), ("evidence", .int 5)]])]

def numberEvidence : Answer × Findings :=
  ({ response := some { toolCalls := [⟨submitVerificationToolName, numberEvidenceArgs, "c1"⟩] } },
      {})

end ChaosBlade.Agent
