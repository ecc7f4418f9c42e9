/-
Nodes.ToolScreenerTheorems: which batches the execute-phase
screener releases.

`toolScreenerAnswered_pass_iff` says exactly when an enforcing run takes
the `pass` route: no call of the batch is rejected, or some call drifts
and the user, asked for the first time, approves.
-/
import ChaosBlade.Nodes.ToolScreener
import ChaosBlade.TargetGuard.TotalityTheorems

namespace ChaosBlade.Nodes

open Py Agent TargetGuard

/-! ## The verdict of one call -/

def callVerdict (depth : Nat) (skillScriptAllowed : Bool) (approved : Option ApprovedTarget)
    (tc : ToolCall) : Except PyError GuardVerdict :=
  (inferEffectiveTarget depth tc.name tc.args skillScriptAllowed).map
    fun effective => (targetDriftGuard effective approved).verdict

section

variable {depth : Nat} {allowed : Bool} {approved : Option ApprovedTarget} {tc : ToolCall}

theorem screenCall_verdict_of_ok {v : GuardVerdict}
    (h : callVerdict depth allowed approved tc = .ok v) :
    (screenCall depth allowed approved tc).verdict = v := by
  unfold callVerdict at h
  unfold screenCall
  cases hc : inferEffectiveTarget depth tc.name tc.args allowed with
  | error e => simp [hc, Except.map] at h
  | ok effective => simpa [hc, Except.map] using h

theorem screenCall_verdict_eq {v : GuardVerdict} (hv : v ≠ .allow) :
    (screenCall depth allowed approved tc).verdict = v ↔
      callVerdict depth allowed approved tc = .ok v := by
  refine ⟨fun h => ?_, screenCall_verdict_of_ok⟩
  unfold screenCall at h
  unfold callVerdict
  cases hc : inferEffectiveTarget depth tc.name tc.args allowed with
  | error e =>
    simp only [hc] at h
    exact absurd h.symm hv
  | ok effective => simpa [hc, Except.map] using h

theorem screenCall_isDrift : (screenCall depth allowed approved tc).isDrift = true ↔
      callVerdict depth allowed approved tc = .ok .rejectDrift := by
  unfold CallDecision.isDrift
  rw [beq_iff_eq]
  exact screenCall_verdict_eq (by decide)

theorem screenCall_isOtherReject : (screenCall depth allowed approved tc).isOtherReject = true ↔
      callVerdict depth allowed approved tc = .ok .rejectBanned ∨
      callVerdict depth allowed approved tc = .ok .rejectUnknown := by
  unfold CallDecision.isOtherReject
  rw [Bool.or_eq_true, beq_iff_eq, beq_iff_eq, screenCall_verdict_eq (by decide),
    screenCall_verdict_eq (by decide)]

end

def HasDrift (depth : Nat) (settings : Settings) (state : AgentState)
    (approved : Option ApprovedTarget) : Prop :=
  ∃ tc ∈ state.pendingCalls,
    callVerdict depth settings.skillScriptDefaultAllow approved tc = .ok .rejectDrift

def HasOtherReject (depth : Nat) (settings : Settings) (state : AgentState)
    (approved : Option ApprovedTarget) : Prop :=
  ∃ tc ∈ state.pendingCalls,
    callVerdict depth settings.skillScriptDefaultAllow approved tc = .ok .rejectBanned ∨
    callVerdict depth settings.skillScriptDefaultAllow approved tc = .ok .rejectUnknown

def DriftApproved (state : AgentState) (answer : Json) : Prop :=
  state.driftRejectCount < 1 ∧ state.interactionMode ≠ "cli" ∧ answer = .str "approved"

section

variable {depth : Nat} {settings : Settings} {state : AgentState}
  {approved : Option ApprovedTarget} {msg : AIMessage} {answer : Json} {delta : Delta}

section

variable (hturn : state.pendingTurn = some msg)
include hturn

theorem pendingCalls_of_turn : state.pendingCalls = msg.toolCalls := by
  unfold AgentState.pendingCalls
  rw [hturn]

theorem any_isDrift_iff :
    (screenCalls depth settings approved msg.toolCalls).any CallDecision.isDrift = true ↔
      HasDrift depth settings state approved := by
  unfold HasDrift screenCalls
  rw [pendingCalls_of_turn hturn]
  simp [screenCall_isDrift]

theorem any_isOtherReject_iff :
    (screenCalls depth settings approved msg.toolCalls).any CallDecision.isOtherReject = true ↔
      HasOtherReject depth settings state approved := by
  unfold HasOtherReject screenCalls
  rw [pendingCalls_of_turn hturn]
  simp [screenCall_isOtherReject]

end

/-! ## The routes of a run -/

/-- A batch without a rejection, or with a drift that is approved. -/
def Released (depth : Nat) (settings : Settings) (state : AgentState)
    (approved : Option ApprovedTarget) (answer : Json) : Prop :=
  (¬ HasDrift depth settings state approved ∧ ¬ HasOtherReject depth settings state approved) ∨
    (HasDrift depth settings state approved ∧ DriftApproved state answer)

/-- A pending batch is released, or goes back with every call answered. -/
inductive BatchStep (depth : Nat) (settings : Settings) (state : AgentState)
    (approved : Option ApprovedTarget) (msg : AIMessage) (answer : Json) (delta : Delta) : Prop
  | passes (hroute : delta.screenerRoute = .pass) (hmessages : delta.messages = [])
      (h : ¬ settings.targetGuardEnforcing = true ∨ Released depth settings state approved answer)
  | returns (hroute : delta.screenerRoute = .retry)
      (hmessages : delta.messages = (screenCalls depth settings approved msg.toolCalls).map
        (rejectionMessage approved.isNone))
      (h : ¬ Released depth settings state approved answer)

theorem screenDrift_step (hdrift : HasDrift depth settings state approved) {screening : Screening}
    (hs : screenDrift settings state msg approved
      (screenCalls depth settings approved msg.toolCalls) = .ok screening)
    (hrun : screening.answered answer = .ok delta) :
    BatchStep depth settings state approved msg answer delta := by
  have hreleased : Released depth settings state approved answer ↔ DriftApproved state answer := by
    simp [Released, hdrift]
  unfold screenDrift at hs
  split at hs
  · next hcount =>
    cases hs
    cases hrun
    exact .returns rfl rfl fun h => absurd (hreleased.mp h).1 (by omega)
  next hcount =>
  split at hs
  · next hmode =>
    cases hs
    cases hrun
    exact .returns rfl rfl fun h => (hreleased.mp h).2.1 hmode
  next hmode =>
  obtain ⟨agentReason, -, hi⟩ := bind_eq_ok.mp hs
  cases hi
  unfold Screening.answered resumeDrift at hrun
  dsimp only at hrun
  split at hrun
  · obtain ⟨correction, -, hd⟩ := bind_eq_ok.mp hrun
    cases hd
    exact .passes rfl rfl (.inr (hreleased.mpr ⟨by omega, hmode, rfl⟩))
  · next hne =>
    cases hrun
    exact .returns rfl rfl fun h => hne (hreleased.mp h).2.2

theorem toolScreenerAnswered_step
    (hrun : toolScreenerAnswered depth settings state answer = .ok delta) :
    (state.pendingTurn = none ∧ delta = { screenerRoute := .pass }) ∨
      ∃ msg approved, state.pendingTurn = some msg ∧
        approvedFromDict state.approvedTarget = .ok approved ∧
        BatchStep depth settings state approved msg answer delta := by
  obtain ⟨screening, hs, hrun⟩ := bind_eq_ok.mp hrun
  unfold toolScreener at hs
  split at hs
  · next hturn =>
    cases hs
    cases hrun
    exact .inl ⟨hturn, rfl⟩
  next msg hturn =>
  obtain ⟨approved, happ, hs⟩ := bind_eq_ok.mp hs
  refine .inr ⟨msg, approved, hturn, happ, ?_⟩
  dsimp only at hs
  split at hs
  · next hquiet =>
    cases hs
    cases hrun
    refine .passes rfl rfl (.imp_right .inl ?_)
    rw [← any_isDrift_iff hturn, ← any_isOtherReject_iff hturn]
    simpa using hquiet
  next hreject =>
  split at hs
  · next hdrift => exact screenDrift_step ((any_isDrift_iff hturn).mp hdrift) hs hrun
  · next hdrift =>
    cases hs
    cases hrun
    refine .returns rfl rfl ?_
    rw [Released, ← any_isDrift_iff hturn, ← any_isOtherReject_iff hturn]
    simp only [Bool.not_eq_true] at hdrift
    simp only [hdrift, Bool.false_or] at hreject ⊢
    simp_all

theorem toolScreenerAnswered_pass_iff (henf : settings.targetGuardEnforcing = true)
    (happ : approvedFromDict state.approvedTarget = .ok approved)
    (hrun : toolScreenerAnswered depth settings state answer = .ok delta) :
    delta.screenerRoute = .pass ↔ Released depth settings state approved answer := by
  rcases toolScreenerAnswered_step hrun with ⟨hturn, rfl⟩ | ⟨msg, approved', hturn, happ', hstep⟩
  · have hcalls : state.pendingCalls = [] := by
      unfold AgentState.pendingCalls
      rw [hturn]
    simp [Released, HasDrift, HasOtherReject, hcalls]
  · cases happ.symm.trans happ'
    cases hstep with
    | passes hroute _ h => exact iff_of_true hroute (h.resolve_left (not_not.mpr henf))
    | returns hroute _ h => exact iff_of_false (by simp [hroute]) h

/-! ## Banned calls -/

/-- An enforcing run that passes holds back every banned and every
unclassifiable call, except exactly when such a call shares the batch with a
drift that the user approves. -/
theorem pass_holds_back_rejected_iff (henf : settings.targetGuardEnforcing = true)
    (happ : approvedFromDict state.approvedTarget = .ok approved)
    (hrun : toolScreenerAnswered depth settings state answer = .ok delta) :
    (delta.screenerRoute = .pass → ∀ tc ∈ state.pendingCalls, ∀ v,
        callVerdict depth settings.skillScriptDefaultAllow approved tc = .ok v →
        v ≠ .rejectBanned ∧ v ≠ .rejectUnknown) ↔
    ¬ (HasDrift depth settings state approved ∧ HasOtherReject depth settings state approved ∧
      DriftApproved state answer) := by
  rw [toolScreenerAnswered_pass_iff henf happ hrun]
  constructor
  · rintro h ⟨hdrift, ⟨tc, htc, hother⟩, happr⟩
    have hnot := h (Or.inr ⟨hdrift, happr⟩) tc htc
    rcases hother with hb | hu
    · exact (hnot _ hb).1 rfl
    · exact (hnot _ hu).2 rfl
  · intro hmix hpass tc htc v hv
    have hno : ¬ HasOtherReject depth settings state approved := by
      intro hother
      rcases hpass with ⟨-, hnone⟩ | ⟨hdrift, happr⟩
      · exact hnone hother
      · exact hmix ⟨hdrift, hother, happr⟩
    constructor
    · rintro rfl
      exact hno ⟨tc, htc, Or.inl hv⟩
    · rintro rfl
      exact hno ⟨tc, htc, Or.inr hv⟩

end

/-! ### A mixed batch -/

def webApproval : Json :=
  .obj [("scope", .str "pod"), ("namespace", .str "prod"), ("names", .arr [.str "web"])]

def deleteOther : ToolCall :=
  { name := "kubectl", id := "1"
    args := .obj [("subcommand", .str "delete"), ("v_args", .str "pod other -n prod")] }

def mixedBatch : AgentState :=
  { messages := [.ai { toolCalls :=
      [deleteOther,
        { name := "kubectl", id := "2", args := .obj [("subcommand", .str "proxy")] }] }]
    approvedTarget := some webApproval
    interactionMode := "tui" }

def driftOnly : AgentState :=
  { mixedBatch with messages := [.ai { toolCalls := [deleteOther] }] }

/-- The approved drift releases the banned call of its batch. -/
theorem mixedBatch_passes :
    (toolScreenerAnswered 1 {} mixedBatch (.str "approved")).map Delta.screenerRoute = .ok .pass ∧
    ∃ approved, approvedFromDict mixedBatch.approvedTarget = .ok approved ∧
      ∃ tc ∈ mixedBatch.pendingCalls, callVerdict 1 true approved tc = .ok .rejectBanned := by
  refine ⟨by decide +kernel, some { scope := "pod", ns := "prod", names := ["web"] },
    by decide, ?_⟩
  exact ⟨_, List.mem_cons_of_mem _ List.mem_cons_self, by decide⟩

/-- The drifting call alone: approved, it passes, and nothing banned passes
with it. -/
theorem driftOnly_passes_unbanned :
    ∃ delta, toolScreenerAnswered 1 {} driftOnly (.str "approved") = .ok delta ∧
      delta.screenerRoute = .pass ∧ ∀ tc ∈ driftOnly.pendingCalls, ∀ v,
        callVerdict 1 true (some { scope := "pod", ns := "prod", names := ["web"] }) tc = .ok v →
        v ≠ .rejectBanned ∧ v ≠ .rejectUnknown := by
  have hroute : (toolScreenerAnswered 1 {} driftOnly (.str "approved")).map Delta.screenerRoute
      = .ok .pass := by decide +kernel
  obtain ⟨delta, hrun, hpass⟩ := map_eq_ok.mp hroute
  refine ⟨delta, hrun, hpass,
    (pass_holds_back_rejected_iff rfl (by decide) hrun).mpr ?_ hpass⟩
  rintro ⟨-, hother, -⟩
  revert hother
  unfold HasOtherReject
  decide +kernel

end ChaosBlade.Nodes
