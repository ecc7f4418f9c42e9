/-
Agent.InjectReads: what the nodes of the inject graph do not
read: the `result` of an earlier experiment, and its Layer 1 cache before
the verifier has written a new one.

Each node commutes with a change of the two fields. The verifier reads the
cache from its second pass on, and its verdict always; there the two
states have to agree on it. The routers read neither field.
-/
import ChaosBlade.Agent.InjectFrame
import Mathlib.Tactic.Simps.Basic

namespace ChaosBlade.Agent

open Py Nodes AgentState Option

variable {n : InjectNode} {settings : Settings}

@[simps]
def AgentState.withRecord (s : AgentState) (r : Json) (c : Option Layer1Result) : AgentState :=
  { s with result := r, injectLayer1Cache := c }

variable {σ : Setup} {a : Answer} {s s' : AgentState} {r : Json} {c : Option Layer1Result}

theorem injectEdge_withRecord : injectEdge σ n a (s.withRecord r c) = injectEdge σ n a s := by
  cases n <;> rfl

theorem bind_withRecord {α : Type} {x : Option α} {f g : α → Option AgentState}
    (h : ∀ y, f y = (g y).map (·.withRecord r c)) :
    (x >>= f) = (x >>= g).map (·.withRecord r c) := by
  cases x with
  | none => rfl
  | some y => exact h y

/-! ## Dialogue -/

theorem toolNode_withRecord :
    toolNode a (s.withRecord r c) = (toolNode a s).map (·.withRecord r c) := by
  unfold toolNode
  exact bind_withRecord fun turn => bind_withRecord fun results => rfl

theorem intentClarification_withRecord :
    intentClarification σ a (s.withRecord r c) = (intentClarification σ a s).withRecord r c := by
  unfold intentClarification
  simp only [withRecord_confirmedIntent, withRecord_dialogueRound, withRecord_messages]
  split
  · rfl
  split
  · rfl
  split
  · rfl
  split
  · rfl
  split <;> rfl

theorem intentConfirm_withRecord :
    intentConfirm a (s.withRecord r c) = (intentConfirm a s).withRecord r c := by
  unfold intentConfirm
  simp only [withRecord_dryRun]
  split
  · rfl
  · split <;> rfl

theorem planRounds_withRecord {fuel i : Nat} {said : List Message} :
    planRounds a (s.withRecord r c) fuel i said =
      (planRounds a s fuel i said).map (·.withRecord r c) := by
  induction fuel generalizing i said with
  | zero => rfl
  | succ fuel ih =>
    unfold planRounds
    cases planRound (a.rounds i) with
    | answered exchange => exact ih
    | raised => rfl
    | ended text => rfl
    | submitted => rfl
    | tools turn => rfl

theorem recoverHandler_withRecord :
    ∃ r', recoverHandler a (s.withRecord r c) = (recoverHandler a s).withRecord r' c := by
  unfold recoverHandler
  simp only [withRecord_recoverTaskId]
  split
  · exact ⟨r, rfl⟩
  · split <;> exact ⟨_, rfl⟩

theorem saveMemory_withRecord :
    saveMemory a (s.withRecord r c) = (saveMemory a s).withRecord r c := by
  have hinfer : inferFailure (s.withRecord r c) = (inferFailure s).withRecord r c := by
    unfold inferFailure
    simp only [withRecord_failureDetail, withRecord_error,
      withRecord_replanCount, withRecord_replanContext,
      withRecord_verification, withRecord_bladeUid]
    split
    · rfl
    split
    · split <;> rfl
    split
    · split <;> rfl
    split <;> rfl
  unfold saveMemory
  simp only [withRecord_confirmedIntent]
  split
  · rfl
  · rw [hinfer]
    rfl

/-! ## Planning -/

theorem directSetup_withRecord :
    directSetup a (s.withRecord r c) = (directSetup a s).withRecord r c := by
  unfold directSetup
  split <;> rfl

theorem agentLoop_withRecord :
    agentLoop σ a (s.withRecord r c) = (agentLoop σ a s).map (·.withRecord r c) := by
  have hpass : planningPass (s.withRecord r c) = planningPass s := rfl
  unfold agentLoop
  simp only [hpass]
  split
  · rfl
  · refine bind_withRecord fun m => ?_
    have hturn : planTurn a (s.withRecord r c) m = (planTurn a s m).withRecord r c := rfl
    simp only [hturn, withRecord_skillName]
    split
    · refine bind_withRecord fun text => ?_
      split <;> rfl
    · rfl

theorem rejectPlanChange_withRecord {endText goOnText : String} :
    rejectPlanChange endText goOnText (s.withRecord r c) =
      (rejectPlanChange endText goOnText s).withRecord r c := by
  unfold rejectPlanChange
  simp only [withRecord_planChangeRejectCount]
  split <;> rfl

theorem planChangeConfirm_withRecord :
    planChangeConfirm a (s.withRecord r c) = (planChangeConfirm a s).withRecord r c := by
  unfold planChangeConfirm
  simp only [withRecord_messages, withRecord_faultSpec,
    withRecord_interactionMode, rejectPlanChange_withRecord]
  split
  · split
    · rfl
    · split <;> rfl
  · rfl

theorem acceptPlanning_withRecord {exit : Option ToolMessage} :
    acceptPlanning a (s.withRecord r c) exit =
      (acceptPlanning a s exit).map (·.withRecord r c) := by
  have hplan : planOf exit (s.withRecord r c) = planOf exit s := rfl
  have hlacks : lacksUseCase a (s.withRecord r c) = lacksUseCase a s := rfl
  unfold acceptPlanning
  simp only [hplan, hlacks]
  refine bind_withRecord fun plan => bind_withRecord fun lacks => ?_
  cases lacks <;> rfl

theorem extractPlanningMetadata_withRecord : extractPlanningMetadata a (s.withRecord r c) =
      (extractPlanningMetadata a s).map (·.withRecord r c) := by
  unfold extractPlanningMetadata
  simp only [withRecord_messages, acceptPlanning_withRecord]
  split
  · split
    · split
      · refine bind_withRecord fun browsed => ?_
        cases browsed <;> rfl
      · rfl
    · split <;> rfl
  · rfl

/-! ## The gate -/

theorem attachSafetyScore_withRecord {overall : Int} :
    attachSafetyScore settings overall (s.withRecord r c) =
      (attachSafetyScore settings overall s).withRecord r c := by
  unfold attachSafetyScore
  simp only [withRecord_safetyStatus, withRecord_blastRadiusScope]
  split <;> split <;> rfl

theorem failSafety_withRecord {overall : Int} {reason context : String}
    {category : FailureCategory} :
    failSafety settings overall (s.withRecord r c) reason category context =
      (failSafety settings overall s reason category context).withRecord r c := by
  unfold failSafety
  rw [← attachSafetyScore_withRecord]
  rfl

theorem safetyCheck_withRecord :
    safetyCheck σ a (s.withRecord r c) = (safetyCheck σ a s).map (·.withRecord r c) := by
  unfold safetyCheck
  simp only [withRecord_faultSpec, withRecord_skillName, failSafety_withRecord]
  split
  · rfl
  split
  · rfl
  split
  · rfl
  · refine bind_withRecord fun frozen => ?_
    simp only [pure_def, map_some, ← attachSafetyScore_withRecord]
    rfl

theorem confirmationGate_withRecord :
    confirmationGate a (s.withRecord r c) = (confirmationGate a s).map (·.withRecord r c) := by
  have hfreeze : freezeFromState (s.withRecord r c) = freezeFromState s := rfl
  unfold confirmationGate
  simp only [withRecord_dryRun, withRecord_safetyStatus, withRecord_forceOverride,
    withRecord_interactionMode, hfreeze]
  split
  · rfl
  split
  · cases (freezeFromState s).toOption <;> rfl
  split
  · rfl
  split
  · cases (freezeFromState s).toOption <;> rfl
  · rfl

theorem toolScreenerNode_withRecord :
    toolScreenerNode σ a (s.withRecord r c) = (toolScreenerNode σ a s).map (·.withRecord r c) := by
  have hscreen : toolScreenerAnswered σ.depth σ.settings (s.withRecord r c) a.decision =
      toolScreenerAnswered σ.depth σ.settings s a.decision := rfl
  unfold toolScreenerNode
  simp only [hscreen]
  cases (toolScreenerAnswered σ.depth σ.settings s a.decision).toOption <;> rfl

/-! ## Execution -/

theorem markWallClockTimeout_withRecord {now : Rat} {before result : AgentState}
    {hasError hasDetail : Bool} :
    markWallClockTimeout settings now (before.withRecord r c) (result.withRecord r c)
        hasError hasDetail =
      (markWallClockTimeout settings now before result hasError hasDetail).withRecord r c := by
  have hwall : wallClockExceeded settings now (before.withRecord r c) =
      wallClockExceeded settings now before := rfl
  unfold markWallClockTimeout
  rw [hwall]
  split <;> rfl

theorem executeTurn_withRecord {m : AIMessage} {text : String} {seen : Sighting} :
    executeTurn σ a (s.withRecord r c) m text seen =
      (executeTurn σ a s m text seen).withRecord r c := by
  have hlast : lastPassFails σ (s.withRecord r c) seen = lastPassFails σ s seen := rfl
  unfold executeTurn
  simp only [hlast]
  split <;> rfl

theorem executeLoop_withRecord :
    executeLoop σ a (s.withRecord r c) = (executeLoop σ a s).map (·.withRecord r c) := by
  have hzombie : zombieReplan σ.settings (s.withRecord r c) = zombieReplan σ.settings s := rfl
  have hreason : ∀ {text}, replanReason (s.withRecord r c) text = replanReason s text := rfl
  have hcontext : ∀ {reason},
      buildReplanContext (s.withRecord r c) reason = buildReplanContext s reason := rfl
  have hlast : ∀ {seen}, lastPassFails σ (s.withRecord r c) seen = lastPassFails σ s seen := rfl
  have hgrant : ∀ {context x}, grantReplan σ.settings context (AgentState.withRecord x r c) =
      (grantReplan σ.settings context x).withRecord r c := rfl
  have hexhaust : ∀ {context messages x},
      exhaustReplan context messages (AgentState.withRecord x r c) =
        (exhaustReplan context messages x).withRecord r c := rfl
  have hhistory : ∀ {m text seen}, turnHistory a (s.withRecord r c) m text seen =
      turnHistory a s m text seen := rfl
  unfold executeLoop
  simp only [withRecord_executeLoopCount, withRecord_messages,
    withRecord_replanCount, hzombie, hreason, hcontext, hlast, hhistory,
    executeTurn_withRecord, hgrant, hexhaust, markWallClockTimeout_withRecord]
  split
  · rfl
  split
  · rfl
  refine bind_withRecord fun m => bind_withRecord fun seen => bind_withRecord fun text =>
    bind_withRecord fun reason => ?_
  cases reason with
  | none => rfl
  | some reason =>
    refine bind_withRecord fun context => ?_
    split <;> rfl

theorem directExecute_withRecord :
    directExecute σ a (s.withRecord r c) = (directExecute σ a s).map (·.withRecord r c) := by
  unfold directExecute
  simp only [withRecord_faultSpec]
  split
  · rfl
  · refine bind_withRecord fun created => ?_
    obtain ⟨uid, output⟩ := created
    cases uid with
    | some uid => rfl
    | none => cases a.direct.fallback <;> rfl

/-! ## Verification -/

theorem seDetect_withRecord : seDetect a (s.withRecord r c) = (seDetect a s).withRecord r c := by
  unfold seDetect
  simp only [withRecord_faultSpec, withRecord_injectionStartTime]
  split
  · rfl
  · split <;> rfl

theorem verifierLoop_withRecord (h : s.verifierLoopCount ≠ 0 → c = s.injectLayer1Cache) :
    ∃ r' c', verifierLoop σ a (s.withRecord r c) = (verifierLoop σ a s).map (·.withRecord r' c') ∧
      ∀ s', verifierLoop σ a s = some s' → s'.verifierLoopCount ≠ 0 →
        c' = s'.injectLayer1Cache := by
  have hlayer : verifierLayer1 a (s.withRecord r c) = verifierLayer1 a s := by
    unfold verifierLayer1
    simp only [withRecord_verifierLoopCount, withRecord_injectLayer1Cache]
    split
    · rfl
    case isFalse hcount => rw [h hcount]
  unfold verifierLoop
  simp only [withRecord_verifierLoopCount, hlayer]
  split
  · refine ⟨verifierResult s false, c, rfl, ?_⟩
    intro s' hs' hcount
    cases hs'
    exact h hcount
  split
  · refine ⟨verifierResult s false, c, rfl, ?_⟩
    intro s' hs' hcount
    cases hs'
    exact h hcount
  · refine ⟨r, some (verifierLayer1 a s), ?_⟩
    cases a.response with
    | none => exact ⟨rfl, by rintro s' ⟨⟩⟩
    | some m =>
      have hwall : wallClockExceeded σ.settings a.now (s.withRecord r c) =
          wallClockExceeded σ.settings a.now s := rfl
      constructor
      · simp only [markWallClockTimeout, hwall]
        split <;> rfl
      intro s' hs' _
      obtain ⟨e, d, hmark⟩ := markWallClockTimeout_eq σ.settings a.now s
        { s with
          verifierLoopCount := s.verifierLoopCount + 1
          injectLayer1Cache := some (verifierLayer1 a s)
          messages := a.compact s.messages ++ a.contextMessages ++ [.ai m] } false false
      obtain rfl := some.inj hs'
      rw [hmark]

theorem finalizeVerification_withRecord :
    ∃ r', finalizeVerification σ a (s.withRecord r s.injectLayer1Cache) =
      (finalizeVerification σ a s).withRecord r' s.injectLayer1Cache := by
  have hwall : wallClockExceeded σ.settings a.now (s.withRecord r s.injectLayer1Cache) =
      wallClockExceeded σ.settings a.now s := rfl
  unfold finalizeVerification
  simp only [withRecord_injectLayer1Cache, withRecord_messages, withRecord_reverifyCount]
  split
  · exact ⟨r, rfl⟩
  · simp only [markWallClockTimeout, hwall]
    split
    · exact ⟨_, rfl⟩
    · exact ⟨_, rfl⟩

/-! ## One visit -/

theorem injectAct_withRecord (hloop : n ≠ .verifierLoop) (hfinal : n ≠ .finalizeVerification) :
    ∃ r', injectAct σ n a (s.withRecord r c) = (injectAct σ n a s).map (·.withRecord r' c) := by
  cases n <;> simp only [injectAct, map_some, some.injEq]
  case verifierLoop => exact absurd rfl hloop
  case finalizeVerification => exact absurd rfl hfinal
  case recoverHandler => exact recoverHandler_withRecord
  case reject => exact ⟨_, rfl⟩
  all_goals refine ⟨r, ?_⟩
  case loadMemory => rfl
  case intentClarification => exact intentClarification_withRecord
  case clarificationTools => exact toolNode_withRecord
  case planBuilder => exact planRounds_withRecord
  case planBuilderTools => exact toolNode_withRecord
  case intentConfirm => exact intentConfirm_withRecord
  case directSetup => exact directSetup_withRecord
  case agentLoop => exact agentLoop_withRecord
  case phase1Screener => rfl
  case phase1Tools => exact toolNode_withRecord
  case planChangeConfirm => exact planChangeConfirm_withRecord
  case extractPlanningMetadata => exact extractPlanningMetadata_withRecord
  case safetyCheck => exact safetyCheck_withRecord
  case confirmationGate => exact confirmationGate_withRecord
  case baselineCapture => rfl
  case seSnapshot => rfl
  case executeLoop => exact executeLoop_withRecord
  case toolScreener => exact toolScreenerNode_withRecord
  case phase2Tools => exact toolNode_withRecord
  case directExecute => exact directExecute_withRecord
  case verifierTools => exact toolNode_withRecord
  case seDetect => exact seDetect_withRecord
  case saveMemory => exact saveMemory_withRecord

theorem injectAct_injectLayer1Cache (hloop : n ≠ .verifierLoop)
    (hfinal : n ≠ .finalizeVerification) (h : injectAct σ n a s = some s') :
    s'.injectLayer1Cache = s.injectLayer1Cache := by
  obtain ⟨r', hr'⟩ := injectAct_withRecord (σ := σ) (a := a) (s := s) (r := s.result)
    (c := s.injectLayer1Cache) hloop hfinal
  have hself : s.withRecord s.result s.injectLayer1Cache = s := rfl
  rw [hself, h, map_some, some.injEq] at hr'
  rw [hr', withRecord_injectLayer1Cache]

end ChaosBlade.Agent
