/-
Server.Turn: `server/routes/turn.py`: one turn of a
conversation in the terminal interface.

A conversation has one thread. A turn merges its payload into the thread's
checkpoint, runs the inject graph from `load_memory`, and leaves the state
behind that the run got to: at its end, where it raised, or where the
client went away. The payload of the first turn is a full one; the later
ones reset what must not be carried on, and every key they omit keeps its
value. Keys that no modelled node reads are left out.

A plan the user has confirmed sets `plan_confirmed`, and nothing ever
clears it: no payload resets it and no node writes `false`.
-/
import ChaosBlade.Agent.InjectFrame

namespace ChaosBlade.Server

open Py Agent ChaosBlade.Graph Nodes

/-! ## Payloads -/

/-- The body of the request, with the id the endpoint gives the turn. A `/plan`
command sets `dry_run`. -/
structure TurnRequest where
  input : String := ""
  permissionMode : String := "confirm"
  dryRun : Bool := false
  turnId : String := "turn-000000000000"

/-- The payload of the first turn: the spec is a placeholder that holds the
user's words. -/
def firstPayload (settings : Settings) (request : TurnRequest) (s : AgentState) : AgentState :=
  { s with
    taskId := request.turnId
    interactionMode := "tui"
    faultSpec := some { source := "tui", userDescription := request.input }
    needsConfirmation := request.permissionMode == "confirm"
    safetyStatus := .pending
    kubeconfig := settings.kubeconfigPath
    dryRun := request.dryRun }

def continuingPayload (request : TurnRequest) (s : AgentState) : AgentState :=
  { s with
    taskId := request.turnId
    input := request.input
    confirmedIntent := some .unset
    recoverTaskId := ""
    safetyStatus := .pending
    agentLoopCount := 0
    executeLoopCount := 0
    verifierLoopCount := 0
    error := ""
    replanRequested := false
    replanCount := 0
    replanContext := none
    dryRun := request.dryRun }

/-! ## Conversations -/

/-- One turn: the request, what the world answers, and the number of visits
after which the turn is cut short if it is not over before. -/
structure Turn where
  request : TurnRequest := {}
  world : Nat → Answer := fun _ => {}
  visits : Nat

def Turn.leaves (σ : Setup) (t : Turn) (s : AgentState) : AgentState :=
  ((injectGraph σ).stopped t.world (injectStart s) t.visits).state

def enteredWith (σ : Setup) (turns : Nat → Turn) : Nat → AgentState
  | 0 => firstPayload σ.settings (turns 0).request {}
  | j + 1 => continuingPayload (turns (j + 1)).request
      ((turns j).leaves σ (enteredWith σ turns j))

/-! ## Starting a recovery -/

/-- A row of the task store, as far as a recovery reads it. -/
structure TaskRecord where
  bladeUid : String := ""
  skillName : String := ""
  ns : String := ""
  resourceType : String := ""
  names : List String := []
  labels : Dict String := ∅
  params : Dict String := ∅
  injectContext : String := ""
  kubeconfig : String := ""
  injectionMethod : Option InjectionMethod := none

/-- The state a recovery starts with, from the state of the injection. The
messages are not carried over; `contextOf` is `build_inject_context`. -/
def recoverInitial (contextOf : List Message → String) (taskId : String) (sv : AgentState) :
    AgentState where
  taskId := taskId
  bladeUid := sv.bladeUid
  skillName := sv.skillName
  injectContext := contextOf sv.messages
  faultSpec := sv.faultSpec
  kubeconfig := sv.kubeconfig
  injectionMethod := sv.injectionMethod

def buildRecoverInitialFromStore (taskId : String) (record : Option TaskRecord) :
    Option AgentState :=
  match record with
  | none => none
  | some record =>
    if record.bladeUid = "" then none
    else some
      { taskId
        bladeUid := record.bladeUid
        skillName := record.skillName
        injectContext := record.injectContext
        faultSpec := some
          { ns := record.ns, scope := record.resourceType, names := record.names
            labels := record.labels, params := record.params, source := "task_store_rebuild" }
        kubeconfig := record.kubeconfig
        injectionMethod := record.injectionMethod }

/-- What the endpoint can look up: the checkpoints of the inject graph by
thread, `none` also if the lookup raises, and the task store. -/
structure Lookup where
  checkpoint : String → Option AgentState
  record : String → Option TaskRecord
  contextOf : List Message → String := fun _ => ""

/-- The state of the injection to recover: the thread named like the task, else
the conversation's own state, each only if it has a uid. -/
def injectionState (look : Lookup) (conversation : AgentState) : Option AgentState :=
  match look.checkpoint conversation.recoverTaskId with
  | some s => if s.bladeUid ≠ "" then some s else ownState
  | none => ownState
where
  ownState : Option AgentState := if conversation.bladeUid ≠ "" then some conversation else none

/-- The recovery a turn launches when its run has left `conversation`; `paused`
at an interrupt it launches none. -/
def autoRecover (look : Lookup) (paused : Bool) (conversation : AgentState) : Option AgentState :=
  if conversation.confirmedIntent = some .recover ∧ conversation.recoverTaskId ≠ "" ∧
      paused = false then
    match injectionState look conversation with
    | some sv => some (recoverInitial look.contextOf conversation.taskId sv)
    | none =>
      buildRecoverInitialFromStore conversation.taskId (look.record conversation.recoverTaskId)
  else none

/-! ## The shortcut -/

def TakesShortcut (σ : Setup) (turns : Nat → Turn) (j : Nat) : Prop :=
  routeAfterLoadMemory (loadMemoryNode (enteredWith σ turns j)) = .safetyCheck

instance (σ : Setup) (turns : Nat → Turn) (j : Nat) : Decidable (TakesShortcut σ turns j) :=
  inferInstanceAs (Decidable (_ = LoadMemoryRoute.safetyCheck))

def roundsSubmit (a : Answer) : Nat → Nat → Bool
  | 0, _ => false
  | fuel + 1, i => match planRound (a.rounds i) with
    | .submitted => true
    | .answered _ => roundsSubmit a fuel (i + 1)
    | _ => false

def SubmitsPlan (σ : Setup) (turns : Nat → Turn) (j : Nat) : Prop :=
  ∃ k < (turns j).visits, ∃ s,
    (injectGraph σ).run (turns j).world (injectStart (enteredWith σ turns j)) k =
        some ⟨some .planBuilder, s⟩ ∧
      roundsSubmit ((turns j).world k) (σ.settings.maxPlanBuilderRounds - s.planBuilderRound) 0 =
        true

def AuthorisesOnce (σ : Setup) (turns : Nat → Turn) : Prop :=
  ∀ i j, i < j → TakesShortcut σ turns i → TakesShortcut σ turns j →
    ∃ l, i < l ∧ l < j ∧ SubmitsPlan σ turns l

/-! ## What stays in the checkpoint -/

theorem planRounds_submits {a : Answer} {s s' : AgentState} {fuel i : Nat} {said : List Message}
    (h : planRounds a s fuel i said = some s') (hs' : s'.planConfirmed = true) :
    s.planConfirmed = true ∨ roundsSubmit a fuel i = true := by
  induction fuel generalizing i said with
  | zero =>
    cases h
    exact .inl hs'
  | succ fuel ih =>
    unfold planRounds at h
    unfold roundsSubmit
    cases hround : planRound (a.rounds i) with
    | submitted => exact .inr rfl
    | raised =>
      rw [hround] at h
      cases h
    | answered exchange =>
      rw [hround] at h
      exact ih h
    | ended text | tools r =>
      rw [hround] at h
      cases h
      exact .inl hs'

section

variable (σ : Setup) (turns : Nat → Turn)

theorem leaves_entry (t : Turn) (s : AgentState) : SameEntry s (t.leaves σ s) := by
  obtain ⟨i, -, hrun⟩ := StateGraph.exists_run_eq_stopped (g := injectGraph σ) (w := t.world)
    (c := injectStart s) (k := t.visits)
  exact injectRun_entry hrun

theorem leaves_planConfirmed (t : Turn) {s : AgentState} (h : s.planConfirmed = true) :
    (t.leaves σ s).planConfirmed = true := by
  obtain ⟨i, -, hrun⟩ := StateGraph.exists_run_eq_stopped (g := injectGraph σ) (w := t.world)
    (c := injectStart s) (k := t.visits)
  exact injectRun_planConfirmed hrun h

theorem enteredWith_mode (j : Nat) :
    (enteredWith σ turns j).interactionMode = "tui" ∧ (enteredWith σ turns j).direct = false ∧
      (enteredWith σ turns j).dryRun = (turns j).request.dryRun := by
  induction j with
  | zero => exact ⟨rfl, rfl, rfl⟩
  | succ j ih =>
    have h := leaves_entry σ (turns j) (enteredWith σ turns j)
    exact ⟨h.interactionMode.trans ih.1, h.direct.trans ih.2.1, rfl⟩

theorem enteredWith_planConfirmed {i j : Nat} (hij : i ≤ j)
    (h : (enteredWith σ turns i).planConfirmed = true) :
    (enteredWith σ turns j).planConfirmed = true := by
  induction hij with
  | refl => exact h
  | step _ ih => exact leaves_planConfirmed σ _ ih

/-! ## One plan, one run -/

theorem takesShortcut_iff (j : Nat) : TakesShortcut σ turns j ↔
      (turns j).request.dryRun = false ∧ (enteredWith σ turns j).planConfirmed = true ∧
        (enteredWith σ turns j).skillName ≠ "" ∧
        (enteredWith σ turns j).faultSpec.any FaultSpec.isComplete = true := by
  obtain ⟨hmode, hdirect, hdry⟩ := enteredWith_mode σ turns j
  rw [← hdry]
  unfold TakesShortcut routeAfterLoadMemory specReadyForExecute
  simp only [loadMemoryNode, hmode, hdirect]
  cases (enteredWith σ turns j).dryRun <;> simp

/-- Of the nodes only the plan builder confirms a plan, and only in a visit that
submits one. -/
theorem injectAct_submits {a : Answer} {n : InjectNode} {s s' : AgentState}
    (h : injectAct σ n a s = some s') (hs' : s'.planConfirmed = true) :
    s.planConfirmed = true ∨ n = .planBuilder ∧
      roundsSubmit a (σ.settings.maxPlanBuilderRounds - s.planBuilderRound) 0 = true := by
  by_cases hn : n = .planBuilder
  · subst hn
    exact (planRounds_submits h hs').imp_right fun hsub => ⟨rfl, hsub⟩
  · left
    have hkeep : s'.planConfirmed = s.planConfirmed := (injectAct_ledger h).confirms hn
    rw [← hkeep]
    exact hs'

theorem injectRun_submits {w : Nat → Answer} {c d : Config InjectNode AgentState} {k : Nat}
    (h : (injectGraph σ).run w c k = some d) (hd : d.state.planConfirmed = true) :
    c.state.planConfirmed = true ∨ ∃ i < k, ∃ s,
      (injectGraph σ).run w c i = some ⟨some .planBuilder, s⟩ ∧
        roundsSubmit (w i) (σ.settings.maxPlanBuilderRounds - s.planBuilderRound) 0 = true := by
  induction k generalizing d with
  | zero =>
    cases h
    exact .inl hd
  | succ k ih =>
    obtain ⟨o, s⟩ := d
    obtain ⟨n, s₀, h₀, hact, -⟩ := StateGraph.run_pred h
    rcases injectAct_submits σ hact hd with hs₀ | ⟨rfl, hsub⟩
    · rcases ih h₀ hs₀ with hc | ⟨i, hi, hrun⟩
      · exact .inl hc
      · exact .inr ⟨i, by omega, hrun⟩
    · exact .inr ⟨k, by omega, s₀, h₀, hsub⟩

theorem leaves_submits (j : Nat)
    (h : ((turns j).leaves σ (enteredWith σ turns j)).planConfirmed = true) :
    (enteredWith σ turns j).planConfirmed = true ∨ SubmitsPlan σ turns j := by
  obtain ⟨k, hk, hrun⟩ := StateGraph.exists_run_eq_stopped (g := injectGraph σ)
    (w := (turns j).world) (c := injectStart (enteredWith σ turns j)) (k := (turns j).visits)
  rcases injectRun_submits σ hrun h with h | ⟨i, hi, hsub⟩
  · exact .inl h
  · exact .inr ⟨i, by omega, hsub⟩

/-- A confirmed plan in the checkpoint was submitted in an earlier turn. -/
theorem submitted_before {j : Nat} (h : (enteredWith σ turns j).planConfirmed = true) :
    ∃ l < j, SubmitsPlan σ turns l := by
  induction j with
  | zero => cases h
  | succ j ih =>
    rcases leaves_submits σ turns j h with h | hsub
    · obtain ⟨l, hl, hsub⟩ := ih h
      exact ⟨l, by omega, hsub⟩
    · exact ⟨j, by omega, hsub⟩

/-- Once a run has been authorised, a later ordinary message that finds the
skill and a complete spec is taken for another go. -/
theorem takesShortcut_again {i j : Nat} (hij : i ≤ j) (hi : TakesShortcut σ turns i)
    (hdry : (turns j).request.dryRun = false) (hskill : (enteredWith σ turns j).skillName ≠ "")
    (hspec : (enteredWith σ turns j).faultSpec.any FaultSpec.isComplete = true) :
    TakesShortcut σ turns j := by
  have hplan := ((takesShortcut_iff σ turns i).mp hi).2.1
  exact (takesShortcut_iff σ turns j).mpr
    ⟨hdry, enteredWith_planConfirmed σ turns hij hplan, hskill, hspec⟩

/-- After a plan at most one ordinary message is sent before the next plan. -/
def OneMessagePerPlan : Prop :=
  ∀ p i j, p < i → i < j → SubmitsPlan σ turns p →
    (turns i).request.dryRun = false → (turns j).request.dryRun = false →
      ∃ l, i < l ∧ l < j ∧ SubmitsPlan σ turns l

/-- A confirmed plan authorises one run, in every conversation in which no
second ordinary message follows a plan. The confirmation is never taken back,
so a second one finds it, and runs the plan again. -/
theorem authorisesOnce_of_oneMessagePerPlan (h : OneMessagePerPlan σ turns) :
    AuthorisesOnce σ turns := by
  intro i j hij hi hj
  obtain ⟨hi, hplan, -⟩ := (takesShortcut_iff σ turns i).mp hi
  obtain ⟨p, hp, hsub⟩ := submitted_before σ turns hplan
  exact h p i j hp hij hsub hi ((takesShortcut_iff σ turns j).mp hj).1

end

def planTurnSample : Turn where
  request := { input := "stress the cart", dryRun := true }
  world := fun k =>
    { rounds := fun _ =>
        { response := some
            { toolCalls := [if k = 1 then
                { name := "activate_skill", args := .obj [("skill_name", .str "k8s-chaos-skills")] }
              else { name := "submit_plan", args := .obj [("summary", .str "cpu load")] }] } }
      tool := fun _ => some { content := "ok" }
      plannedSpec :=
        { ns := "shop", scope := "pod", names := ["cart-0"], bladeTarget := "cpu"
          bladeAction := "fullload" } }
  visits := 4

def rejectedConversation : Nat → Turn
  | 0 => planTurnSample
  | 1 => { request := { input := "go" }, visits := 4 }
  | _ => { request := { input := "thanks" }, visits := 4 }

/-- Two plans, each with one message behind it; then only plans. -/
def twoPlans : Nat → Turn
  | 1 | 3 => { request := { input := "go" }, visits := 4 }
  | _ => planTurnSample

theorem twoPlans_ordinary : ∀ {i : Nat}, (twoPlans i).request.dryRun = false → i = 1 ∨ i = 3
  | 0, h | 2, h | _ + 4, h => by cases h
  | 1, _ => .inl rfl
  | 3, _ => .inr rfl

theorem twoPlans_authorisesOnce :
    OneMessagePerPlan {} twoPlans ∧ AuthorisesOnce {} twoPlans := by
  have hsub : SubmitsPlan {} twoPlans 2 := ⟨3, by decide, _, rfl, by decide⟩
  have h : OneMessagePerPlan {} twoPlans := by
    intro p i j _ hij _ hi hj
    rcases twoPlans_ordinary hi with rfl | rfl <;> rcases twoPlans_ordinary hj with rfl | rfl
    · omega
    · exact ⟨2, by omega, by omega, hsub⟩
    · omega
    · omega
  exact ⟨h, authorisesOnce_of_oneMessagePerPlan {} twoPlans h⟩

/-- The last message goes to `safety_check` again, without a new plan. -/
theorem not_authorisesOnce_rejected : ¬ AuthorisesOnce {} rejectedConversation := by
  intro h
  obtain ⟨l, hlow, hhigh, -⟩ := h 1 2 (by decide) (by decide) (by decide)
  omega

/-! ## The experiment a recovery destroys -/

variable {look : Lookup} {conversation : AgentState} {record : TaskRecord}

/-- A turn that recovers a task with a recorded uid starts the recovery with
this uid exactly if the task has a thread of its own, or the conversation has
no uid, or the conversation's latest uid is the same. -/
theorem autoRecover_bladeUid_iff (hintent : conversation.confirmedIntent = some .recover)
    (htask : conversation.recoverTaskId ≠ "")
    (hrecord : look.record conversation.recoverTaskId = some record) (huid : record.bladeUid ≠ "")
    (hthread : ∀ s, look.checkpoint conversation.recoverTaskId = some s →
      s.bladeUid = record.bladeUid) :
    (autoRecover look false conversation).map AgentState.bladeUid = some record.bladeUid ↔
      (look.checkpoint conversation.recoverTaskId).isSome = true ∨ conversation.bladeUid = "" ∨
        conversation.bladeUid = record.bladeUid := by
  unfold autoRecover
  rw [if_pos ⟨hintent, htask, rfl⟩, hrecord]
  cases hcheck : look.checkpoint conversation.recoverTaskId with
  | some s =>
    have hs := hthread s hcheck
    simp [injectionState, hcheck, hs, huid, recoverInitial]
  | none =>
    by_cases hown : conversation.bladeUid = ""
    · simp [injectionState, injectionState.ownState, hcheck, hown, buildRecoverInitialFromStore,
        huid]
    · simp [injectionState, injectionState.ownState, hcheck, hown, recoverInitial]

def twoExperiments : Lookup where
  checkpoint := fun _ => none
  record := fun
    | "task-1" => some { bladeUid := "uid-1" }
    | "task-2" => some { bladeUid := "uid-2" }
    | _ => none

def recoverFirst (latest : String) : AgentState where
  confirmedIntent := some .recover
  recoverTaskId := "task-1"
  bladeUid := latest

theorem autoRecover_bladeUid_only :
    (autoRecover twoExperiments false (recoverFirst "uid-1")).map AgentState.bladeUid =
      some "uid-1" := by
  have hrecord : twoExperiments.record (recoverFirst "uid-1").recoverTaskId =
      some { bladeUid := "uid-1" } := rfl
  refine (autoRecover_bladeUid_iff rfl (by decide) hrecord (by decide) ?_).mpr (.inr (.inr rfl))
  rintro s ⟨⟩

/-- The first experiment is chosen, and the second one is destroyed instead. -/
theorem autoRecover_bladeUid_other :
    (twoExperiments.record (recoverFirst "uid-2").recoverTaskId).map TaskRecord.bladeUid =
        some "uid-1" ∧
      (autoRecover twoExperiments false (recoverFirst "uid-2")).map AgentState.bladeUid =
        some "uid-2" := by decide

end ChaosBlade.Server
