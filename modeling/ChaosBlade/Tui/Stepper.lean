/-
Tui.Stepper: the pipeline stepper of `tui/src/state/reducer.ts`.

Of the state only the live stepper, the steppers in the history and the
two flags of a turn are kept; an action that touches none of them is
`other`, the cards of `HISTORY_APPENDED` included. Whether `REPLAY_STARTED`
finds something pending is up to the action.
-/
import ChaosBlade.Process.Events
import Mathlib.Tactic.Common

namespace ChaosBlade.Tui

open Process

inductive PhaseName where
  | intent | agentLoop | safety | execute | verify
  deriving DecidableEq

inductive PhaseStatus where
  | pending | inProgress | completed | failed
  deriving DecidableEq

structure PhaseStep where
  phase : PhaseName
  status : PhaseStatus
  deriving DecidableEq

abbrev PhaseStepper := List PhaseStep

def injectPhaseOrder : List PhaseName := [.intent, .agentLoop, .safety, .execute, .verify]

def mapNodeToStep (node phase : String) : Option PhaseName :=
  if phase = "intent" then some .intent
  else if phase = "verify" then some .verify
  else if phase = "safety" then some (if node = "intent_confirm" then .intent else .safety)
  else if phase = "inject" then some (if node = "agent_loop" then .agentLoop else .execute)
  else none

def buildPhaseStepper (activeIndex : Nat) : PhaseStepper :=
  injectPhaseOrder.mapIdx fun idx phase =>
    ⟨phase, if idx < activeIndex then .completed
      else if idx = activeIndex then .inProgress else .pending⟩

def applyActivePhase (stepper : PhaseStepper) (activeIndex : Nat) : PhaseStepper :=
  stepper.mapIdx fun idx step =>
    if idx < activeIndex then { step with status := .completed }
    else if idx = activeIndex ∧ step.status = .pending then { step with status := .inProgress }
    else step

def finalisePhaseStepper (failed : Bool) (stepper : PhaseStepper) : PhaseStepper :=
  stepper.map fun step =>
    if failed then
      if step.status = .inProgress then { step with status := .failed } else step
    else { step with status := .completed }

structure StepperState where
  currentPhaseStepper : Option PhaseStepper := none
  history : List PhaseStepper := []
  currentTurnFailed : Bool := false
  currentTurnRejected : Bool := false

inductive Action where
  | turnStarted
  | nodeStarted (node phase : String)
  | resultReceived (failed : Bool)
  | errorReceived
  | confirmUserDecided (rejected : Bool)
  | turnDone
  | turnAborted
  | turnTransition
  | replayStarted (pending : Bool)
  | replayEnded
  | historyCleared
  | other

def commitPending (failed : Bool) (s : StepperState) : StepperState :=
  match s.currentPhaseStepper with
  | none => s
  | some stepper =>
    let failed := failed || s.currentTurnRejected || s.currentTurnFailed
    { s with history := s.history ++ [finalisePhaseStepper failed stepper]
             currentPhaseStepper := none }

def nodeStarted (s : StepperState) (step : PhaseName) : Option PhaseStepper :=
  match s.currentPhaseStepper with
  | some stepper => some (applyActivePhase stepper (injectPhaseOrder.idxOf step))
  | none =>
    if step = .intent then none else some (buildPhaseStepper (injectPhaseOrder.idxOf step))

def reducer (s : StepperState) : Action → StepperState
  | .turnStarted => { history := s.history }
  | .nodeStarted node phase =>
    match mapNodeToStep node phase with
    | none => s
    | some step => { s with currentPhaseStepper := nodeStarted s step }
  | .resultReceived failed => { s with currentTurnFailed := s.currentTurnFailed || failed }
  | .errorReceived => { s with currentTurnFailed := true }
  | .confirmUserDecided rejected => { s with currentTurnRejected := rejected }
  | .turnDone | .turnTransition | .replayEnded => commitPending false s
  | .turnAborted => commitPending true { s with currentTurnFailed := true }
  | .replayStarted pending =>
    { (if pending then commitPending false s else s) with currentPhaseStepper := none }
  | .historyCleared => { s with history := [] }
  | .other => s

/-! ## Shapes -/

def PhaseStepper.statuses (stepper : PhaseStepper) : List PhaseStatus :=
  stepper.map PhaseStep.status

/-- Completed steps, then at most one that is in progress or failed, then pending ones. -/
def PhaseStepper.InOrder (stepper : PhaseStepper) : Prop :=
  ∃ done active left, active ∈ [[], [PhaseStatus.inProgress], [.failed]] ∧
    stepper.statuses = .replicate done .completed ++ active ++ .replicate left .pending

def PhaseStatus.rank : PhaseStatus → Nat
  | .pending => 0
  | .inProgress => 1
  | .completed | .failed => 2

/-- No step of the first stepper has gone back in the second. -/
def PhaseStepper.NotLater (before after : PhaseStepper) : Prop :=
  before.length = after.length ∧ ∀ p ∈ before.zip after,
    p.1.phase = p.2.phase ∧ p.1.status.rank ≤ p.2.status.rank
  deriving Decidable

-- a live stepper is always as if it had just been built at its furthest step
theorem applyActivePhase_build : ∀ i < 5, ∀ j < 5,
    applyActivePhase (buildPhaseStepper i) j = buildPhaseStepper (max i j) := by decide

theorem statuses_build : ∀ i < 5, (buildPhaseStepper i).statuses =
    .replicate i .completed ++ [.inProgress] ++ .replicate (4 - i) .pending := by decide

theorem statuses_failed : ∀ i < 5, (finalisePhaseStepper true (buildPhaseStepper i)).statuses =
    .replicate i .completed ++ [.failed] ++ .replicate (4 - i) .pending := by decide

theorem statuses_done : ∀ i < 5, (finalisePhaseStepper false (buildPhaseStepper i)).statuses =
    .replicate 5 .completed := by decide

theorem build_notLater : ∀ i < 5, ∀ j < 5, i ≤ j →
    (buildPhaseStepper i).NotLater (buildPhaseStepper j) := by decide

theorem finalise_notLater : ∀ failed, ∀ i < 5,
    (buildPhaseStepper i).NotLater (finalisePhaseStepper failed (buildPhaseStepper i)) := by decide

variable {i : Nat}

theorem finalise_inOrder (hi : i < 5) : ∀ failed,
    (finalisePhaseStepper failed (buildPhaseStepper i)).InOrder
  | true => ⟨i, _, 4 - i, by simp, statuses_failed i hi⟩
  | false => ⟨5, [], 0, by simp, statuses_done i hi⟩

/-! ## Runs -/

/-- The live stepper has got as far as the `i`-th step. -/
def LiveAt (s : StepperState) (i : Nat) : Prop :=
  i < 5 ∧ s.currentPhaseStepper = some (buildPhaseStepper i)

structure Ordered (s : StepperState) : Prop where
  live : s.currentPhaseStepper = none ∨ ∃ i, LiveAt s i
  history : ∀ stepper ∈ s.history, stepper.InOrder

variable {s : StepperState}

theorem history_commitPending (h : LiveAt s i) (failed : Bool) :
    (commitPending failed s).history = s.history ++ [finalisePhaseStepper
      (failed || s.currentTurnRejected || s.currentTurnFailed) (buildPhaseStepper i)] := by
  simp [commitPending, h.2]

theorem Ordered.commitPending (h : Ordered s) (failed : Bool) :
    Ordered (commitPending failed s) := by
  rcases h.live with hnone | ⟨i, hi⟩
  · rw [Tui.commitPending, hnone]
    exact h
  · refine ⟨.inl (by simp [Tui.commitPending, hi.2]), ?_⟩
    rw [history_commitPending hi, List.forall_mem_append, List.forall_mem_singleton]
    exact ⟨h.history, finalise_inOrder hi.1 _⟩

theorem idxOf_lt (step : PhaseName) : injectPhaseOrder.idxOf step < 5 := by cases step <;> decide

theorem LiveAt.nodeStarted (h : LiveAt s i) (node phase : String) :
    ∃ j, i ≤ j ∧ LiveAt (reducer s (.nodeStarted node phase)) j := by
  simp only [reducer]
  cases mapNodeToStep node phase with
  | none => exact ⟨i, i.le_refl, h⟩
  | some step =>
    refine ⟨max i (injectPhaseOrder.idxOf step), by omega, ?_, ?_⟩
    · exact Nat.max_lt.mpr ⟨h.1, idxOf_lt step⟩
    · simp [Tui.nodeStarted, h.2, applyActivePhase_build i h.1 _ (idxOf_lt step)]

theorem Ordered.nodeStarted (h : Ordered s) (node phase : String) :
    Ordered (reducer s (.nodeStarted node phase)) := by
  rcases h.live with hnone | ⟨i, hi⟩
  · simp only [reducer]
    cases mapNodeToStep node phase with
    | none => exact h
    | some step =>
      refine ⟨?_, h.history⟩
      by_cases hstep : step = .intent
      · simp [Tui.nodeStarted, hnone, hstep]
      · exact .inr ⟨_, idxOf_lt step, by simp [Tui.nodeStarted, hnone, hstep]⟩
  · obtain ⟨j, -, hj⟩ := hi.nodeStarted node phase
    refine ⟨.inr ⟨j, hj⟩, ?_⟩
    simp only [reducer]
    cases mapNodeToStep node phase <;> exact h.history

theorem Ordered.reducer (h : Ordered s) (a : Action) : Ordered (reducer s a) := by
  cases a with
  | nodeStarted node phase => exact h.nodeStarted node phase
  | turnDone | turnTransition | replayEnded => exact h.commitPending false
  | turnAborted =>
    exact Ordered.commitPending (s := { s with currentTurnFailed := true }) ⟨h.live, h.history⟩ true
  | replayStarted pending =>
    refine ⟨.inl rfl, ?_⟩
    cases pending
    · exact h.history
    · exact (h.commitPending false).history
  | turnStarted => exact ⟨.inl rfl, h.history⟩
  | historyCleared => exact ⟨h.live, nofun⟩
  | resultReceived | errorReceived | confirmUserDecided | other => exact ⟨h.live, h.history⟩

/-- The actions that neither begin nor end a turn. -/
def Action.inTurn : Action → Bool
  | .nodeStarted _ _ | .resultReceived _ | .errorReceived | .confirmUserDecided _
  | .historyCleared | .other => true
  | _ => false

def Action.endsTurn : Action → Bool
  | .turnDone | .turnAborted | .turnTransition | .replayEnded => true
  | _ => false

theorem LiveAt.reducer (h : LiveAt s i) {a : Action} (ha : a.inTurn = true) :
    ∃ j, i ≤ j ∧ LiveAt (reducer s a) j := by
  cases a with
  | nodeStarted node phase => exact h.nodeStarted node phase
  | resultReceived | errorReceived | confirmUserDecided | historyCleared | other =>
    exact ⟨i, i.le_refl, h⟩
  | _ => cases ha

/-- Every stepper is in order; inside a turn no step goes back, and an end of the turn
takes it into the history, with its active step marked if there was an error. -/
theorem stepper_moves_forward (actions : List Action) :
    let s := after reducer {} actions
    (∀ stepper ∈ s.history ++ s.currentPhaseStepper.toList, stepper.InOrder) ∧
    ∀ stepper, s.currentPhaseStepper = some stepper →
      (∀ more, AllSteps reducer (fun _ a => a.inTurn = true) s more → ∃ later,
        (after reducer s more).currentPhaseStepper = some later ∧ stepper.NotLater later) ∧
      ∀ a, a.endsTurn = true → ∃ last, (reducer s a).history = s.history ++ [last] ∧
        stepper.NotLater last ∧ (a = .turnAborted ∨ s.currentTurnFailed = true →
          stepper.statuses.count .inProgress = 1 ∧ last.statuses =
            stepper.statuses.map fun x => if x = .inProgress then .failed else x) := by
  intro s
  have h : Ordered s :=
    after_history ⟨.inl rfl, nofun⟩ (fun _ a h => Ordered.reducer h a) actions
  rcases h.live with hnone | ⟨i, hi⟩
  · simpa [hnone] using h.history
  rw [hi.2]
  have hlive : (buildPhaseStepper i).InOrder := ⟨i, _, 4 - i, by simp, statuses_build i hi.1⟩
  refine ⟨List.forall_mem_append.mpr ⟨h.history, by simpa using hlive⟩, fun stepper hs => ?_⟩
  cases hs
  refine ⟨fun more hmore => ?_, fun a ha => ?_⟩
  · have hrun : ∃ j, i ≤ j ∧ LiveAt (after reducer s more) j := by
      refine after_of_allSteps (P := fun t => ∃ j, i ≤ j ∧ LiveAt t j) (fun t a ha ht => ?_) hmore
        ⟨i, i.le_refl, hi⟩
      obtain ⟨j, hij, hj⟩ := ht
      obtain ⟨k, hjk, hk⟩ := hj.reducer ha
      exact ⟨k, Nat.le_trans hij hjk, hk⟩
    obtain ⟨j, hij, hj⟩ := hrun
    exact ⟨_, hj.2, build_notLater i hi.1 j hj.1 hij⟩
  · have hfailed : (buildPhaseStepper i).statuses.count .inProgress = 1 ∧
        (finalisePhaseStepper true (buildPhaseStepper i)).statuses =
          (buildPhaseStepper i).statuses.map fun x => if x = .inProgress then .failed else x := by
      rw [statuses_failed i hi.1, statuses_build i hi.1]
      simp [List.count_replicate]
    cases a with
    | turnAborted =>
      refine ⟨_, history_commitPending (s := { s with currentTurnFailed := true }) hi true, ?_, ?_⟩
      · exact finalise_notLater _ i hi.1
      · simpa using hfailed
    | turnDone | turnTransition | replayEnded =>
      refine ⟨_, history_commitPending hi false, finalise_notLater _ i hi.1, fun herr => ?_⟩
      simpa [herr.resolve_left nofun] using hfailed
    | _ => cases ha

end ChaosBlade.Tui
