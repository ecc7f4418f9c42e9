/-
Agent.InjectFrame: what the nodes of the inject graph leave
alone.

The ledger of a state holds the fields that the entry of a turn, the loop
counters and the outcome of an experiment hang on. Most nodes do not write
any of them. The eight that do get a lemma that says which; every result
about whole runs takes its frame from here and does not look into a node.
-/
import ChaosBlade.Agent.InjectGraph
import ChaosBlade.Nodes.ExecuteLoopTheorems

namespace ChaosBlade.Agent

open Py Nodes ChaosBlade.Graph Option

structure Ledger where
  direct : Bool
  dryRun : Bool
  interactionMode : String
  pipelineStartedAt : Rat
  planConfirmed : Bool
  agentLoopCount : Nat
  executeLoopCount : Nat
  verifierLoopCount : Nat
  replanCount : Nat
  bladeUid : String
  injectionMethod : Option InjectionMethod
  verification : Json

def AgentState.ledger (s : AgentState) : Ledger where
  direct := s.direct
  dryRun := s.dryRun
  interactionMode := s.interactionMode
  pipelineStartedAt := s.pipelineStartedAt
  planConfirmed := s.planConfirmed
  agentLoopCount := s.agentLoopCount
  executeLoopCount := s.executeLoopCount
  verifierLoopCount := s.verifierLoopCount
  replanCount := s.replanCount
  bladeUid := s.bladeUid
  injectionMethod := s.injectionMethod
  verification := s.verification

variable {σ : Setup} {a : Answer} {s s' : AgentState} {n : InjectNode}

@[simp] theorem markWallClockTimeout_ledger (settings : Settings) (now : Rat)
    (before result : AgentState) (hasError hasDetail : Bool) :
    (markWallClockTimeout settings now before result hasError hasDetail).ledger = result.ledger :=
  markWallClockTimeout_keeps _ _ _ _ _ _ AgentState.ledger fun _ _ _ => rfl

/-! ## The nodes that write none of it -/

theorem toolNode_ledger (h : toolNode a s = some s') : s'.ledger = s.ledger := by
  obtain ⟨turn, -, h⟩ := bind_eq_some_iff.mp h
  obtain ⟨results, -, h⟩ := bind_eq_some_iff.mp h
  cases h
  rfl

theorem intentClarification_ledger : (intentClarification σ a s).ledger = s.ledger := by
  unfold intentClarification
  split
  · rfl
  split
  · rfl
  split
  · rfl
  split
  · rfl
  split <;> rfl

theorem intentConfirm_ledger : (intentConfirm a s).ledger = s.ledger := by
  unfold intentConfirm
  split
  · rfl
  · split <;> rfl

theorem directSetup_ledger : (directSetup a s).ledger = s.ledger := by
  unfold directSetup
  split <;> rfl

theorem rejectPlanChange_ledger (endText goOnText : String) :
    (rejectPlanChange endText goOnText s).ledger = s.ledger := by
  unfold rejectPlanChange
  simp only
  split <;> rfl

theorem planChangeConfirm_ledger : (planChangeConfirm a s).ledger = s.ledger := by
  unfold planChangeConfirm
  split
  · split
    · exact rejectPlanChange_ledger _ _
    · split
      · rfl
      · exact rejectPlanChange_ledger _ _
  · rfl

theorem acceptPlanning_ledger {exit : Option ToolMessage} (h : acceptPlanning a s exit = some s') :
    s'.ledger = s.ledger := by
  obtain ⟨plan, -, h⟩ := bind_eq_some_iff.mp h
  obtain ⟨lacks, -, h⟩ := bind_eq_some_iff.mp h
  split at h <;> cases h <;> rfl

theorem extractPlanningMetadata_ledger (h : extractPlanningMetadata a s = some s') :
    s'.ledger = s.ledger := by
  unfold extractPlanningMetadata at h
  split at h
  · split at h
    · split at h
      · obtain ⟨browsed, -, h⟩ := bind_eq_some_iff.mp h
        split at h <;> cases h <;> rfl
      · exact acceptPlanning_ledger h
    · split at h
      · exact acceptPlanning_ledger h
      · cases h
        rfl
  · exact acceptPlanning_ledger h

theorem attachSafetyScore_ledger (settings : Settings) (overall : Int) :
    (attachSafetyScore settings overall s).ledger = s.ledger := by
  unfold attachSafetyScore
  simp only
  split <;> split <;> rfl

theorem safetyCheck_ledger (h : safetyCheck σ a s = some s') : s'.ledger = s.ledger := by
  unfold safetyCheck at h
  simp only at h
  split at h
  · cases h
    exact attachSafetyScore_ledger _ _
  split at h
  · cases h
    exact attachSafetyScore_ledger _ _
  split at h
  · cases h
    exact attachSafetyScore_ledger _ _
  obtain ⟨frozen, -, h⟩ := bind_eq_some_iff.mp h
  cases h
  exact attachSafetyScore_ledger _ _

theorem confirmationGate_ledger (h : confirmationGate a s = some s') : s'.ledger = s.ledger := by
  have happrove : ∀ {x}, (do
      let frozen ← (freezeFromState s).toOption
      return { s with needsConfirmation := false, approvedTarget := frozen }) = some x →
      x.ledger = s.ledger := by
    intro x hx
    obtain ⟨frozen, -, hx⟩ := bind_eq_some_iff.mp hx
    cases hx
    rfl
  unfold confirmationGate at h
  split at h
  · cases h
    rfl
  split at h
  · exact happrove h
  split at h
  · cases h
    rfl
  split at h
  · exact happrove h
  · cases h
    rfl

theorem toolScreenerNode_ledger (h : toolScreenerNode σ a s = some s') : s'.ledger = s.ledger := by
  obtain ⟨d, -, h⟩ := bind_eq_some_iff.mp h
  cases h
  rfl

theorem saveMemory_ledger : (saveMemory a s).ledger = s.ledger := by
  have hinfer : (inferFailure s).ledger = s.ledger := by
    unfold inferFailure
    simp only
    split
    · rfl
    split
    · split <;> rfl
    split
    · split <;> rfl
    split <;> rfl
  unfold saveMemory
  split
  · rfl
  · exact hinfer

def InjectNode.quiet : InjectNode → Bool
  | .planBuilder | .agentLoop | .executeLoop | .directExecute | .verifierLoop
  | .finalizeVerification | .seDetect | .recoverHandler => false
  | _ => true

theorem injectAct_quiet (h : injectAct σ n a s = some s') (hq : n.quiet = true) :
    s'.ledger = s.ledger := by
  cases n <;> simp only [InjectNode.quiet, Bool.false_eq_true] at hq <;>
    simp only [injectAct] at h
  case clarificationTools => exact toolNode_ledger h
  case planBuilderTools => exact toolNode_ledger h
  case phase1Tools => exact toolNode_ledger h
  case phase2Tools => exact toolNode_ledger h
  case verifierTools => exact toolNode_ledger h
  case extractPlanningMetadata => exact extractPlanningMetadata_ledger h
  case safetyCheck => exact safetyCheck_ledger h
  case confirmationGate => exact confirmationGate_ledger h
  case toolScreener => exact toolScreenerNode_ledger h
  all_goals cases h
  case loadMemory => rfl
  case intentClarification => exact intentClarification_ledger
  case intentConfirm => exact intentConfirm_ledger
  case directSetup => exact directSetup_ledger
  case phase1Screener => rfl
  case planChangeConfirm => exact planChangeConfirm_ledger
  case baselineCapture => rfl
  case seSnapshot => rfl
  case saveMemory => exact saveMemory_ledger
  case reject => rfl

/-! ## The nodes that write some of it -/

theorem planRounds_ledger {fuel i : Nat} {said : List Message}
    (h : planRounds a s fuel i said = some s') :
    s'.ledger = s.ledger ∨ s'.ledger = { s.ledger with planConfirmed := true } := by
  induction fuel generalizing i said with
  | zero =>
    cases h
    exact .inl rfl
  | succ fuel ih =>
    unfold planRounds at h
    split at h
    · cases h
    · exact ih h
    · cases h
      exact .inl rfl
    · cases h
      exact .inr rfl
    · cases h
      exact .inl rfl

theorem planBuilder_ledger (h : planBuilder σ a s = some s') :
    s'.ledger = s.ledger ∨ s'.ledger = { s.ledger with planConfirmed := true } :=
  planRounds_ledger h

theorem agentLoop_ledger (h : agentLoop σ a s = some s') :
    (σ.settings.maxAgentLoop < planningPass s ∧ s'.ledger = s.ledger) ∨
      (planningPass s ≤ σ.settings.maxAgentLoop ∧
        s'.ledger = { s.ledger with agentLoopCount := planningPass s }) := by
  unfold agentLoop at h
  simp only at h
  split at h
  case isTrue hlimit =>
    cases h
    exact .inl ⟨hlimit, rfl⟩
  case isFalse hlimit =>
    refine .inr ⟨by omega, ?_⟩
    obtain ⟨r, -, h⟩ := bind_eq_some_iff.mp h
    split at h
    · obtain ⟨text, -, h⟩ := bind_eq_some_iff.mp h
      split at h <;> cases h <;> rfl
    · cases h
      rfl

theorem executeLoop_ledger (h : executeLoop σ a s = some s') : ∃ e r u m, s'.ledger =
      { s.ledger with executeLoopCount := e, replanCount := r, bladeUid := u, injectionMethod := m }
      := by
  cases executeLoop_step h with
  | overrun | zombie => exact ⟨_, _, _, _, rfl⟩
  | @carryOn r seen text | @granted r seen text | @exhausted r seen text =>
    obtain ⟨_, _, _, _, hturn⟩ := executeTurn_eq r text seen σ a s
    rw [markWallClockTimeout_ledger, hturn]
    exact ⟨_, _, _, _, rfl⟩

theorem directExecute_ledger (h : directExecute σ a s = some s') :
    ∃ u m, s'.ledger = { s.ledger with executeLoopCount := 1, bladeUid := u, injectionMethod := m }
      := by
  unfold directExecute at h
  simp only at h
  split at h
  · cases h
    exact ⟨_, _, rfl⟩
  · obtain ⟨⟨uid, output⟩, -, h⟩ := bind_eq_some_iff.mp h
    split at h
    · cases h
      exact ⟨_, _, rfl⟩
    · split at h <;> cases h <;> exact ⟨_, _, rfl⟩

theorem recoverHandler_ledger : ∃ u, (recoverHandler a s).ledger =
    { s.ledger with bladeUid := u } := by
  unfold recoverHandler
  split
  · exact ⟨s.bladeUid, rfl⟩
  · split
    · exact ⟨s.bladeUid, rfl⟩
    · exact ⟨s.bladeUid, rfl⟩
    · exact ⟨_, rfl⟩
    · exact ⟨s.bladeUid, rfl⟩

theorem verifierLoop_ledger (h : verifierLoop σ a s = some s') :
    s'.ledger = { s.ledger with verifierLoopCount := s.verifierLoopCount + 1 } ∨
      ∃ f fs, s'.ledger = { s.ledger with verification := .obj (f :: fs) } := by
  unfold verifierLoop at h
  simp only at h
  split at h
  · cases h
    exact .inr ⟨_, _, rfl⟩
  split at h
  · cases h
    exact .inr ⟨_, _, rfl⟩
  · obtain ⟨r, -, h⟩ := bind_eq_some_iff.mp h
    cases h
    exact .inl (markWallClockTimeout_ledger _ _ _ _ _ _)

theorem finalizeVerification_ledger : (finalizeVerification σ a s).ledger = s.ledger ∨
      ∃ f fs, (finalizeVerification σ a s).ledger =
        { s.ledger with verification := .obj (f :: fs) } := by
  unfold finalizeVerification
  simp only
  split
  · exact .inl rfl
  · exact .inr ⟨_, _, markWallClockTimeout_ledger _ _ _ _ _ _⟩

theorem seDetect_ledger : ∃ v, (seDetect a s).ledger = { s.ledger with verification := v } := by
  unfold seDetect
  split
  · exact ⟨_, rfl⟩
  · split
    · exact ⟨_, rfl⟩
    · exact ⟨_, rfl⟩

/-! ## One visit -/

inductive LedgerStep (l : Ledger) : InjectNode → Ledger → Prop where
  | quiet {n : InjectNode} (h : n.quiet = true) : LedgerStep l n l
  | plan (confirmed : Bool) (h : l.planConfirmed = true → confirmed = true) :
      LedgerStep l .planBuilder { l with planConfirmed := confirmed }
  | count (k : Nat) : LedgerStep l .agentLoop { l with agentLoopCount := k }
  | execute (e r : Nat) (u : String) (m : Option InjectionMethod) :
      LedgerStep l .executeLoop
        { l with executeLoopCount := e, replanCount := r, bladeUid := u, injectionMethod := m }
  | direct (u : String) (m : Option InjectionMethod) :
      LedgerStep l .directExecute
        { l with executeLoopCount := 1, bladeUid := u, injectionMethod := m }
  | recover (u : String) : LedgerStep l .recoverHandler { l with bladeUid := u }
  | verify (k : Nat) (v : Json) :
      LedgerStep l .verifierLoop { l with verifierLoopCount := k, verification := v }
  | finalize (v : Json) : LedgerStep l .finalizeVerification { l with verification := v }
  | detect (v : Json) : LedgerStep l .seDetect { l with verification := v }

theorem injectAct_ledger (h : injectAct σ n a s = some s') : LedgerStep s.ledger n s'.ledger := by
  cases hq : n.quiet
  case true =>
    rw [injectAct_quiet h hq]
    exact .quiet hq
  case false =>
    cases n <;> simp only [InjectNode.quiet, Bool.true_eq_false] at hq
    case planBuilder =>
      rcases planBuilder_ledger h with h | h <;> rw [h]
      · exact .plan _ id
      · exact .plan true fun _ => rfl
    case agentLoop =>
      rcases agentLoop_ledger h with ⟨-, h⟩ | ⟨-, h⟩ <;> rw [h] <;> exact .count _
    case executeLoop =>
      obtain ⟨_, _, _, _, h⟩ := executeLoop_ledger h
      rw [h]
      exact .execute _ _ _ _
    case directExecute =>
      obtain ⟨_, _, h⟩ := directExecute_ledger h
      rw [h]
      exact .direct _ _
    case verifierLoop =>
      rcases verifierLoop_ledger h with h | ⟨_, _, h⟩ <;> rw [h] <;> exact .verify _ _
    all_goals cases h
    case finalizeVerification =>
      rcases finalizeVerification_ledger (σ := σ) (a := a) (s := s) with h | ⟨_, _, h⟩ <;>
        rw [h] <;> exact .finalize _
    case seDetect =>
      obtain ⟨_, h⟩ := seDetect_ledger (a := a) (s := s)
      rw [h]
      exact .detect _
    case recoverHandler =>
      obtain ⟨_, h⟩ := recoverHandler_ledger (a := a) (s := s)
      rw [h]
      exact .recover _

structure SameEntry (s s' : AgentState) : Prop where
  direct : s'.direct = s.direct
  dryRun : s'.dryRun = s.dryRun
  interactionMode : s'.interactionMode = s.interactionMode
  pipelineStartedAt : s'.pipelineStartedAt = s.pipelineStartedAt

theorem SameEntry.trans {s₁ s₂ s₃ : AgentState} (h : SameEntry s₁ s₂) (h' : SameEntry s₂ s₃) :
    SameEntry s₁ s₃ :=
  ⟨h'.direct.trans h.direct, h'.dryRun.trans h.dryRun, h'.interactionMode.trans h.interactionMode,
    h'.pipelineStartedAt.trans h.pipelineStartedAt⟩

variable {l l' : Ledger}

theorem LedgerStep.entry (h : LedgerStep l n l') :
    l'.direct = l.direct ∧ l'.dryRun = l.dryRun ∧ l'.interactionMode = l.interactionMode ∧
      l'.pipelineStartedAt = l.pipelineStartedAt := by cases h <;> exact ⟨rfl, rfl, rfl, rfl⟩

theorem injectAct_entry (h : injectAct σ n a s = some s') : SameEntry s s' :=
  have h := (injectAct_ledger h).entry
  ⟨h.1, h.2.1, h.2.2.1, h.2.2.2⟩

theorem injectRun_entry {w : Nat → Answer} {c d : Config InjectNode AgentState} {k : Nat}
    (h : (injectGraph σ).run w c k = some d) : SameEntry c.state d.state := by
  refine StateGraph.run_inv (fun d => SameEntry c.state d.state) ?_ ⟨rfl, rfl, rfl, rfl⟩ h
  intro a c₁ c₂ h₁ hstep
  obtain ⟨n, s, -, hact, rfl⟩ := StateGraph.step_eq_some.mp hstep
  exact h₁.trans (injectAct_entry hact)

theorem LedgerStep.planConfirmed (h : LedgerStep l n l')
    (hl : l.planConfirmed = true) : l'.planConfirmed = true := by
  cases h with
  | plan confirmed hconf => exact hconf hl
  | _ => exact hl

theorem LedgerStep.confirms (h : LedgerStep l n l') (hn : n ≠ .planBuilder) :
    l'.planConfirmed = l.planConfirmed := by cases h <;> first | rfl | contradiction

theorem injectRun_planConfirmed {w : Nat → Answer} {c d : Config InjectNode AgentState} {k : Nat}
    (h : (injectGraph σ).run w c k = some d) (hc : c.state.planConfirmed = true) :
    d.state.planConfirmed = true := by
  refine StateGraph.run_inv (fun d => d.state.planConfirmed = true) ?_ hc h
  intro a c₁ c₂ h₁ hstep
  obtain ⟨n, s, -, hact, rfl⟩ := StateGraph.step_eq_some.mp hstep
  exact (injectAct_ledger hact).planConfirmed h₁

theorem LedgerStep.counters (h : LedgerStep l n l') (ha : n ≠ .agentLoop)
    (he : n ≠ .executeLoop) (hd : n ≠ .directExecute) :
    l'.agentLoopCount = l.agentLoopCount ∧ l'.executeLoopCount = l.executeLoopCount ∧
      l'.replanCount = l.replanCount := by cases h <;> first | exact ⟨rfl, rfl, rfl⟩ | contradiction

theorem LedgerStep.verifierLoopCount (h : LedgerStep l n l')
    (hn : n ≠ .verifierLoop) : l'.verifierLoopCount = l.verifierLoopCount := by
  cases h <;> first | rfl | contradiction

theorem LedgerStep.injection (h : LedgerStep l n l') (he : n ≠ .executeLoop)
    (hd : n ≠ .directExecute) (hr : n ≠ .recoverHandler) :
    l'.bladeUid = l.bladeUid ∧ l'.injectionMethod = l.injectionMethod := by
  cases h <;> first | exact ⟨rfl, rfl⟩ | contradiction

theorem injectAct_counters (h : injectAct σ n a s = some s') (ha : n ≠ .agentLoop)
    (he : n ≠ .executeLoop) (hd : n ≠ .directExecute) :
    s'.agentLoopCount = s.agentLoopCount ∧ s'.executeLoopCount = s.executeLoopCount ∧
      s'.replanCount = s.replanCount :=
  (injectAct_ledger h).counters ha he hd

end ChaosBlade.Agent
