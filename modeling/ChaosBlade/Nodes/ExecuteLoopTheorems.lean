/-
Nodes.ExecuteLoopTheorems: what one pass of `execute_loop` can
do to the state.

`ExecuteStep` lists the five ways a pass ends, with everything that has to
hold for each; `executeLoop_step` says that these are all.
-/
import ChaosBlade.Nodes.ExecuteLoop

namespace ChaosBlade.Nodes

open Py Agent Option AgentState

/-! ## The time budget -/

section

variable (settings : Settings) (now : Rat) (before result : AgentState) (hasError hasDetail : Bool)

theorem markWallClockTimeout_eq :
    ∃ e d, markWallClockTimeout settings now before result hasError hasDetail =
      { result with error := e, failureDetail := d } := by
  unfold markWallClockTimeout
  split
  · exact ⟨_, _, rfl⟩
  · exact ⟨result.error, result.failureDetail, rfl⟩

theorem markWallClockTimeout_keeps {α : Type} (f : AgentState → α)
    (hf : ∀ t e d, f { t with error := e, failureDetail := d } = f t) :
    f (markWallClockTimeout settings now before result hasError hasDetail) = f result := by
  obtain ⟨_, _, h⟩ := markWallClockTimeout_eq settings now before result hasError hasDetail
  rw [h]
  exact hf _ _ _

@[simp] theorem markWallClockTimeout_fields :
    let s := markWallClockTimeout settings now before result hasError hasDetail
    s.executeLoopCount = result.executeLoopCount ∧ s.replanRequested = result.replanRequested ∧
      s.replanCount = result.replanCount ∧ s.replanContext = result.replanContext := by
  obtain ⟨_, _, h⟩ := markWallClockTimeout_eq settings now before result hasError hasDetail
  simp [h]

@[simp] theorem markWallClockTimeout_bladeUid :
    (markWallClockTimeout settings now before result hasError hasDetail).bladeUid =
      result.bladeUid :=
  markWallClockTimeout_keeps _ _ _ _ _ _ bladeUid fun _ _ _ => rfl

@[simp] theorem markWallClockTimeout_injectionMethod :
    (markWallClockTimeout settings now before result hasError hasDetail).injectionMethod =
      result.injectionMethod :=
  markWallClockTimeout_keeps _ _ _ _ _ _ injectionMethod fun _ _ _ => rfl

theorem markWallClockTimeout_of_not_exceeded (h : wallClockExceeded settings now before = false) :
    markWallClockTimeout settings now before result hasError hasDetail = result := by
  simp [markWallClockTimeout, h]

end

/-! ## The step -/

inductive ExecuteStep (σ : Setup) (a : Answer) (s : AgentState) : AgentState → Prop where
  /-- The loop has used up its passes. -/
  | overrun (h : σ.settings.maxExecuteLoop ≤ s.executeLoopCount) :
      ExecuteStep σ a s (s.failWith .executionTimeout
        ("max_iterations=" ++ toString σ.settings.maxExecuteLoop) s.messages)
  /-- An old request is found that can not be granted any more. -/
  | zombie (h : s.executeLoopCount < σ.settings.maxExecuteLoop) (hz : zombieReplan σ.settings s) :
      ExecuteStep σ a s
        { s.failWith .replanExhausted ("attempts=" ++ toString s.replanCount) s.messages with
          replanRequested := false
          executeLoopCount := s.executeLoopCount + 1 }
  /-- There is no reason for a new plan. -/
  | carryOn {r : AIMessage} {seen : Sighting} {text : String}
      (h : s.executeLoopCount < σ.settings.maxExecuteLoop) (hr : a.response = some r)
      (hseen : observeInjection σ.db s.messages = .ok seen) (htext : turnText r = some text)
      (hreason : replanReason s text = .ok none) :
      ExecuteStep σ a s (markWallClockTimeout σ.settings a.now s (executeTurn σ a s r text seen)
        (lastPassFails σ s seen) (lastPassFails σ s seen))
  | granted {r : AIMessage} {seen : Sighting} {text reason : String} {context : ReplanContext}
      (h : s.executeLoopCount < σ.settings.maxExecuteLoop) (hr : a.response = some r)
      (hseen : observeInjection σ.db s.messages = .ok seen) (htext : turnText r = some text)
      (hreason : replanReason s text = .ok (some reason))
      (hcontext : buildReplanContext s reason = .ok context)
      (hcount : s.replanCount < σ.settings.maxReplanCount) :
      ExecuteStep σ a s (markWallClockTimeout σ.settings a.now s
        (grantReplan σ.settings context (executeTurn σ a s r text seen)) false
        (lastPassFails σ s seen))
  | exhausted {r : AIMessage} {seen : Sighting} {text reason : String} {context : ReplanContext}
      (h : s.executeLoopCount < σ.settings.maxExecuteLoop) (hr : a.response = some r)
      (hseen : observeInjection σ.db s.messages = .ok seen) (htext : turnText r = some text)
      (hreason : replanReason s text = .ok (some reason))
      (hcontext : buildReplanContext s reason = .ok context)
      (hcount : σ.settings.maxReplanCount ≤ s.replanCount) :
      ExecuteStep σ a s (markWallClockTimeout σ.settings a.now s
        (exhaustReplan context (turnHistory a s r text seen) (executeTurn σ a s r text seen))
        true true)

variable {σ : Setup} {a : Answer} {s s' : AgentState}

theorem executeLoop_step (h : executeLoop σ a s = some s') : ExecuteStep σ a s s' := by
  unfold executeLoop at h
  simp only at h
  split at h
  case isTrue hlimit =>
    cases h
    exact .overrun (by omega)
  case isFalse hlimit =>
    have hlt : s.executeLoopCount < σ.settings.maxExecuteLoop := by omega
    split at h
    case isTrue hz =>
      cases h
      exact .zombie hlt hz
    case isFalse =>
      obtain ⟨r, hr, h⟩ := bind_eq_some_iff.mp h
      obtain ⟨seen, hseen, h⟩ := bind_eq_some_iff.mp h
      obtain ⟨text, htext, h⟩ := bind_eq_some_iff.mp h
      obtain ⟨reason, hreason, h⟩ := bind_eq_some_iff.mp h
      rw [toOption_eq_some] at hseen hreason
      cases reason with
      | none =>
        cases h
        exact .carryOn hlt hr hseen htext hreason
      | some reason =>
        obtain ⟨context, hcontext, h⟩ := bind_eq_some_iff.mp h
        rw [toOption_eq_some] at hcontext
        split at h
        case isTrue hcount =>
          cases h
          exact .granted hlt hr hseen htext hreason hcontext hcount
        case isFalse hcount =>
          cases h
          exact .exhausted hlt hr hseen htext hreason hcontext (by omega)

/-! ## The fields a pass leaves alone -/

section

variable (r : AIMessage) (text : String) (seen : Sighting)

theorem executeTurn_eq (σ : Setup) (a : Answer) (s : AgentState) :
    ∃ m t e d, executeTurn σ a s r text seen = { s with
        messages := a.compact s.messages ++ turnMessages a s r text seen
        executeLoopCount := s.executeLoopCount + 1
        bladeUid := seen.uid.getD s.bladeUid
        injectionMethod := m
        injectionStartTime := t
        error := e
        failureDetail := d } := by
  unfold executeTurn
  simp only
  split
  · exact ⟨_, _, _, _, rfl⟩
  · exact ⟨_, _, s.error, s.failureDetail, rfl⟩

@[simp] theorem executeTurn_fields : let s' := executeTurn σ a s r text seen
    s'.executeLoopCount = s.executeLoopCount + 1 ∧ s'.replanCount = s.replanCount ∧
      s'.replanRequested = s.replanRequested := by
  obtain ⟨_, _, _, _, h⟩ := executeTurn_eq r text seen σ a s
  simp [h]

@[simp] theorem executeTurn_bladeUid :
    (executeTurn σ a s r text seen).bladeUid = seen.uid.getD s.bladeUid := by
  obtain ⟨_, _, _, _, h⟩ := executeTurn_eq r text seen σ a s
  rw [h]

end

/-! ## The way to the verifier -/

theorem recorded_of_verifier {settings : Settings} {now : Rat}
    (h : shouldContinueExecuteLoop settings now s = .verifier) :
    s.bladeUid ≠ "" ∨ s.injectionMethod ≠ none := by
  by_contra hno
  simp only [not_or] at hno
  unfold shouldContinueExecuteLoop at h
  simp only [hno.1, hno.2] at h
  split at h
  · cases h
  split at h
  · split at h <;> cases h
  split at h
  · cases h
  split at h
  · split at h <;> cases h
  split at h
  · cases h
  · split at h <;> cases h

end ChaosBlade.Nodes
