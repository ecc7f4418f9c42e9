/-
Nodes.ScreenerAnswerTheorems: the answers the two gates give
to a batch.

A batch that goes back to the model needs one `ToolMessage` per call. The
gate of the execute loop maps its decisions and so answers each call. The
planner's gate answers the rejected calls and then the others, leaving out
those whose id it has answered already: a call that shares its id with a
rejected one gets no answer.
-/
import ChaosBlade.Nodes.Phase1Screener
import ChaosBlade.Nodes.ToolScreenerTheorems

namespace ChaosBlade.Nodes

open Py Agent TargetGuard List

def Delta.answeredIds (delta : Delta) : List String := delta.messages.map ToolMessage.toolCallId

/-- A batch that passes is left to the tools, one that goes back is answered:
each id as often as the batch has it. -/
structure AnswersBatch (state : AgentState) (delta : Delta) : Prop where
  passed : delta.screenerRoute = .pass → delta.messages = []
  returned : delta.screenerRoute ≠ .pass →
    delta.answeredIds.Perm (state.pendingCalls.map ToolCall.id)

section

variable {depth : Nat} {settings : Settings} {state : AgentState}
  {approved : Option ApprovedTarget} {msg : AIMessage} {answer : Json} {delta : Delta}

theorem AnswersBatch.of_pass (hroute : delta.screenerRoute = .pass) (hmsgs : delta.messages = []) :
    AnswersBatch state delta :=
  ⟨fun _ => hmsgs, fun hne => absurd hroute hne⟩

theorem screenCall_toolCallId (allowed : Bool) (tc : ToolCall) :
    (screenCall depth allowed approved tc).toolCallId = tc.id := by
  unfold screenCall
  split <;> rfl

theorem AnswersBatch.of_rejections (hturn : state.pendingTurn = some msg)
    (hroute : delta.screenerRoute = .retry) (hmsgs : delta.messages =
      (screenCalls depth settings approved msg.toolCalls).map (rejectionMessage approved.isNone)) :
    AnswersBatch state delta := by
  refine ⟨fun hpass => ?_, fun _ => ?_⟩
  · rw [hroute] at hpass
    cases hpass
  · have hids : delta.answeredIds = state.pendingCalls.map ToolCall.id := by
      unfold Delta.answeredIds screenCalls at *
      rw [hmsgs, pendingCalls_of_turn hturn, map_map, map_map]
      exact map_congr_left fun tc _ => screenCall_toolCallId _ tc
    rw [hids]

theorem toolScreener_answers (hrun : toolScreenerAnswered depth settings state answer = .ok delta) :
    AnswersBatch state delta := by
  rcases toolScreenerAnswered_step hrun with ⟨-, rfl⟩ | ⟨msg, approved, hturn, -, hstep⟩
  · exact .of_pass rfl rfl
  cases hstep with
  | passes hroute hmessages => exact .of_pass hroute hmessages
  | returns hroute hmessages => exact .of_rejections hturn hroute hmessages

end

section

variable (depth : Nat) (settings : Settings) (state : AgentState)

def rejectedCalls : List ToolCall :=
  state.pendingCalls.filter fun tc => (phase1Violation depth settings tc).isSome

def legitimateCalls : List ToolCall :=
  state.pendingCalls.filter fun tc => (phase1Violation depth settings tc).isNone

def IdsApart : Prop :=
  ∀ tc ∈ legitimateCalls depth settings state, ∀ r ∈ rejectedCalls depth settings state,
      tc.id ≠ r.id

variable {depth settings state}

theorem phase1Violation_toolCallId {tc : ToolCall} {m : ToolMessage}
    (h : phase1Violation depth settings tc = some m) : m.toolCallId = tc.id := by
  unfold phase1Violation at h
  split at h
  · cases h
  · split at h
    · cases h
    · cases h
      rfl

theorem rejections_ids : ∀ calls : List ToolCall,
    (calls.filterMap (phase1Violation depth settings)).map ToolMessage.toolCallId =
      (calls.filter fun tc => (phase1Violation depth settings tc).isSome).map ToolCall.id
  | [] => rfl
  | tc :: calls => by
    cases h : phase1Violation depth settings tc with
    | none => simp [h, rejections_ids calls]
    | some m => simp [h, rejections_ids calls, phase1Violation_toolCallId h]

theorem calls_split : (rejectedCalls depth settings state ++
    legitimateCalls depth settings state).Perm state.pendingCalls := by
  have h := filter_append_perm (fun tc => (phase1Violation depth settings tc).isSome)
    state.pendingCalls
  simpa [rejectedCalls, legitimateCalls] using h

def skippedCalls (depth : Nat) (settings : Settings) (state : AgentState) : List ToolCall :=
  (legitimateCalls depth settings state).filter fun tc =>
    !((rejectedCalls depth settings state).map ToolCall.id).contains tc.id

theorem skippedCalls_length_iff :
    (skippedCalls depth settings state).length = (legitimateCalls depth settings state).length ↔
      IdsApart depth settings state := by
  unfold skippedCalls IdsApart
  rw [length_filter_eq_length_iff]
  simp only [Bool.not_eq_true', contains_eq_mem, decide_eq_false_iff_not, mem_map,
    not_exists, not_and]
  constructor
  · intro h tc htc r hr heq
    exact h tc htc r hr heq.symm
  · intro h tc htc r hr heq
    exact h tc htc r hr heq.symm

theorem phase1Screener_eq : phase1Screener depth settings state =
      if state.pendingCalls.filterMap (phase1Violation depth settings) = [] ∨
        settings.phase1ScreenerEnforcing = false then { screenerRoute := .pass }
      else
        { screenerRoute := .retry
          messages := state.pendingCalls.filterMap (phase1Violation depth settings) ++
            (skippedCalls depth settings state).map fun tc => makeSkippedMessage tc.name tc.id
                } := by
  unfold phase1Screener skippedCalls legitimateCalls rejectedCalls
  rw [← rejections_ids]
  dsimp only
  split
  · next h => rw [if_pos (Or.inl h)]
  · next h =>
    split
    · next henf => rw [if_pos (Or.inr henf)]
    · next henf => rw [if_neg (by simp [h, henf])]

theorem phase1Screener_answers_iff (henf : settings.phase1ScreenerEnforcing = true) :
    AnswersBatch state (phase1Screener depth settings state) ↔ IdsApart depth settings state := by
  rw [phase1Screener_eq]
  split
  · next h =>
    -- nothing is rejected, so no id can be shared with a rejected call
    have hnil := h.resolve_right (by simp [henf])
    refine iff_of_true (.of_pass rfl rfl) fun tc _ r hr => ?_
    have hr' := mem_filter.mp hr
    rw [List.filterMap_eq_nil_iff.mp hnil r hr'.1] at hr'
    cases hr'.2
  · have hids : (rejectedCalls depth settings state ++ skippedCalls depth settings state).map
        ToolCall.id = Delta.answeredIds
          { screenerRoute := .retry
            messages := state.pendingCalls.filterMap (phase1Violation depth settings) ++
              (skippedCalls depth settings state).map fun tc =>
                makeSkippedMessage tc.name tc.id } := by
      unfold Delta.answeredIds
      rw [map_append, map_append, rejections_ids, map_map]
      rfl
    have hsplit : ((rejectedCalls depth settings state ++
        legitimateCalls depth settings state).map ToolCall.id).Perm
          (state.pendingCalls.map ToolCall.id) := calls_split.map _
    rw [← skippedCalls_length_iff]
    constructor
    · intro h
      have hlen := (h.returned (by simp)).length_eq
      rw [← hids, ← hsplit.length_eq] at hlen
      simpa using hlen
    · intro h
      have hskip : skippedCalls depth settings state = legitimateCalls depth settings state :=
        filter_sublist.eq_of_length h
      constructor
      · intro hpass
        cases hpass
      · intro _
        rw [← hids, hskip]
        exact hsplit

end

/-- Both gates answer a returned batch once per call and add nothing to one that
passes. For the enforcing gate of the planner that is so exactly if no call that
would pass has the id of a rejected one. -/
theorem screeners_answer_batch (depth : Nat) (settings : Settings) (state : AgentState) :
    (∀ answer delta, toolScreenerAnswered depth settings state answer = .ok delta →
      AnswersBatch state delta) ∧ (AnswersBatch state (phase1Screener depth settings state) ↔
      settings.phase1ScreenerEnforcing = false ∨ IdsApart depth settings state) := by
  refine ⟨fun _ _ h => toolScreener_answers h, ?_⟩
  cases henf : settings.phase1ScreenerEnforcing with
  | false =>
    rw [phase1Screener_eq, if_pos (Or.inr henf)]
    exact iff_of_true (.of_pass rfl rfl) (Or.inl rfl)
  | true => simp [phase1Screener_answers_iff henf]

def sharedId : AgentState :=
  { messages := [.ai { toolCalls :=
      [{ name := "blade_create", args := .obj [], id := "c1" },
       { name := "kubectl", args := strList ["get", "pods"], id := "c1" }] }] }

/-- Two calls under one id, one rejected: the batch goes back with one answer. -/
theorem sharedId_unanswered : (phase1Screener 1 {} sharedId).screenerRoute = .retry ∧
    (phase1Screener 1 {} sharedId).answeredIds = ["c1"] ∧
    sharedId.pendingCalls.map ToolCall.id = ["c1", "c1"] := by decide

end ChaosBlade.Nodes
