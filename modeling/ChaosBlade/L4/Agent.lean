/-
L4.Agent: the L4 adapter, `l4/agent.py` and the outbound half
of `l4/adapter.py`: an inject graph, a recovery of what it left behind, and
one status for the platform.

The two graphs are inputs: how the inject graph ends, the checkpoint it
leaves, and what the recover graph returns or raises. An exception of the
inject graph can be healed once, and then the whole attempt is repeated on
the same thread. Results are cached by task id.

What the runtime is asked and told decides no status, and is left out, as
are the texts and the extras of a result.
-/
import ChaosBlade.Agent.TaskState

namespace ChaosBlade.L4

open Py Agent

inductive Status where
  | passed
  | failed
  | cancelled
  | degraded
  deriving DecidableEq

def statusOf : TaskState → Status
  | .injected => .passed
  | .recovered => .passed
  | .partialRecovered => .degraded
  | .failed => .failed
  | .rejected => .failed
  | .injecting => .degraded
  | .recovering => .degraded
  | .completed => .passed
  | .waitingInput => .failed

inductive GraphEnd where
  | finished
  | cancelled
  | raised (e : PyError)

/-- One run of the inject graph and of the recovery that may follow it. -/
structure Attempt where
  graph : GraphEnd
  /-- The values of the inject thread afterwards, `none` if there are none. -/
  checkpoint : Option Values
  /-- The tokens of the trace exceed the budget. -/
  overBudget : Bool
  /-- What the recover graph returns; `none` is an empty result. -/
  recover : Except PyError (Option Values)

def Attempt.values (a : Attempt) : Values := a.checkpoint.getD fun _ => none

def Attempt.bladeUid (a : Attempt) : Option Json := a.values "blade_uid"

structure Env where
  /-- A runtime was passed. -/
  runtime : Bool
  /-- `runtime.heal` reports that it healed. -/
  heals : Bool
  /-- The exceptions of `build_status_data` and `build_inject_context`. -/
  statusData : Values → Except PyError Unit
  injectContext : Values → Except PyError Unit

/-- An invocation of the recover graph: its `blade_uid` and its result. -/
structure Recovery where
  uid : Option Json
  result : Except PyError (Option Values)

def injectResult (env : Env) (a : Attempt) : Except PyError Status :=
  match a.graph with
  | .cancelled => .ok .cancelled
  | .raised e => .error e
  | .finished => do
    let state ← inferTaskState a.values
    env.statusData a.values
    let status := statusOf state
    return if env.runtime && a.overBudget && status = .passed then .degraded else status

def emergencyRecover (env : Env) (a : Attempt) : List Recovery :=
  match a.checkpoint with
  | none => []
  | some values =>
    match isSet (values "blade_uid"), env.injectContext values with
    | true, .ok _ => [⟨values "blade_uid", a.recover⟩]
    | _, _ => []

/-- What the recovery makes of the status of the injection. With a runtime its exception
ends up in the attributes of a step. -/
def recoveredStatus (env : Env) (status : Status) :
    Except PyError (Option Values) → Except PyError Status
  | .error e => if env.runtime then .ok status else .error e
  | .ok none => .ok status
  | .ok (some values) => do
    match ← inferTaskState values with
    | .recovered => return .passed
    | .partialRecovered => return .degraded
    | _ => return status

def runRecover (env : Env) (a : Attempt) (status : Status) :
    Except PyError Status × List Recovery :=
  match a.checkpoint with
  | none => (.ok status, [])
  | some values =>
    match env.injectContext values with
    | .error e => (.error e, [])
    | .ok _ => (recoveredStatus env status a.recover, [⟨values "blade_uid", a.recover⟩])

def attempt (env : Env) (autoRecover : Bool) (a : Attempt) :
    Except PyError Status × List Recovery :=
  match injectResult env a with
  | .error e => (.error e, [])
  | .ok .failed => (.ok .failed, [])
  | .ok .cancelled => (.ok .cancelled, emergencyRecover env a)
  | .ok status => if autoRecover then runRecover env a status else (.ok status, [])

/-- A call of `execute`, with the outcomes of its graphs. The second attempt is only made
when the first one is healed. -/
structure Call where
  taskId : String
  autoRecover : Bool := true
  env : Env
  first : Attempt
  second : Attempt

/-- What a call did: the attempt that decided its status, the recoveries of that attempt
and those of an attempt before it. -/
structure Deed where
  call : Call
  last : Attempt
  status : Status
  recoveries : List Recovery
  earlier : List Recovery := []

def asyncExecute (call : Call) : Deed :=
  match attempt call.env call.autoRecover call.first with
  | (.ok status, recoveries) =>
    { call := call, last := call.first, status := status, recoveries := recoveries }
  | (.error _, recoveries) =>
    if call.env.runtime && call.env.heals then
      let (result, recoveries') := attempt call.env call.autoRecover call.second
      { call := call, last := call.second, status := result.toOption.getD .failed
        recoveries := recoveries', earlier := recoveries }
    else { call := call, last := call.first, status := .failed, recoveries := recoveries }

/-- The cache of results, oldest first. -/
abbrev Completed := List (String × Deed)

def execute (completed : Completed) (call : Call) : Completed × Deed :=
  match completed.lookup call.taskId with
  | some deed => (completed, deed)
  | none =>
    let deed := asyncExecute call
    let completed := completed ++ [(call.taskId, deed)]
    (if completed.length > 100 then completed.tail else completed, deed)

def executeAll (completed : Completed) : List Call → List Deed
  | [] => []
  | call :: calls => (execute completed call).2 :: executeAll (execute completed call).1 calls

open List

def Recovers (recover : Except PyError (Option Values)) (state : TaskState) : Prop :=
  ∃ values, recover = .ok (some values) ∧ inferTaskState values = .ok state

def NoneLeftRunning (d : Deed) : Prop :=
  isSet d.last.bladeUid →
    (∃ r ∈ d.earlier ++ d.recoveries, r.uid = d.last.bladeUid) ∧
    (d.status = .passed →
      ∃ r ∈ d.recoveries, r.uid = d.last.bladeUid ∧ Recovers r.result .recovered)

/-! ## When nothing is left running -/

/-- The recovery brings its attempt down: it raises and no runtime catches that, or its
state cannot be read. -/
def RecoveryRaises (env : Env) (recover : Except PyError (Option Values)) : Prop :=
  (env.runtime = false ∧ ∃ e, recover = .error e) ∨
  ∃ values e, recover = .ok (some values) ∧ inferTaskState values = .error e

/-- The injection left values, and came to a result that is recovered from. -/
def GoesOn (env : Env) (a : Attempt) : Prop :=
  a.checkpoint.isSome ∧ (injectResult env a = .ok .passed ∨ injectResult env a = .ok .degraded)

def Raises (env : Env) (a : Attempt) : Prop :=
  (∃ e, injectResult env a = .error e) ∨
  GoesOn env a ∧ ((∃ e, env.injectContext a.values = .error e) ∨ RecoveryRaises env a.recover)

/-- The attempt that decides a call: the second one if the first raises and is healed. -/
inductive Decides (call : Call) : Attempt → Prop where
  | first (h : (call.env.runtime && call.env.heals) = true → ¬ Raises call.env call.first) :
      Decides call call.first
  | second (heals : (call.env.runtime && call.env.heals) = true)
      (raises : Raises call.env call.first) : Decides call call.second

/-- The recover graph is invoked: the injection was cancelled or did not fail, and the state
of the recovery can be built. -/
def Invokes (env : Env) (a : Attempt) : Prop :=
  (injectResult env a = .ok .cancelled ∨ GoesOn env a) ∧ ∃ u, env.injectContext a.values = .ok u

/-- A recovery after an injection that passed is not one whose outcome is dropped. -/
def OutcomeHeard (env : Env) (a : Attempt) : Prop :=
  injectResult env a = .ok .passed → Invokes env a →
    Recovers a.recover .recovered ∨ Recovers a.recover .partialRecovered ∨
      RecoveryRaises env a.recover

/-- What a call needs in order not to leave an experiment running. -/
def Settles (call : Call) : Prop :=
  ∀ a, Decides call a → isSet a.bladeUid →
    (Invokes call.env a ∨ Invokes call.env call.first ∧ call.first.bladeUid = a.bladeUid) ∧
    OutcomeHeard call.env a

/-! ## One attempt -/

theorem checkpoint_of_uid {a : Attempt} (h : isSet a.bladeUid) : a.checkpoint = some a.values := by
  rcases hcheckpoint : a.checkpoint with _ | values
  · simp [Attempt.bladeUid, Attempt.values, hcheckpoint] at h
  · simp [Attempt.values, hcheckpoint]

section

variable {env : Env} {a : Attempt}

theorem recoveredStatus_raises {status : Status} {recover : Except PyError (Option Values)} :
    (∃ e, recoveredStatus env status recover = .error e) ↔ RecoveryRaises env recover := by
  rcases recover with e | _ | values
  · cases hruntime : env.runtime <;> simp [recoveredStatus, RecoveryRaises, hruntime]
  · simp [recoveredStatus, RecoveryRaises]
  · rcases hstate : inferTaskState values with e | state
    · simp [recoveredStatus, RecoveryRaises, hstate, bind, Except.bind]
    · cases state <;>
        simp [recoveredStatus, RecoveryRaises, hstate, bind, Except.bind, pure, Except.pure]

/-- What the attempt does behind an injection that passed or was degraded. -/
theorem attempt_goesOn {status : Status} (hresult : injectResult env a = .ok status)
    (hstatus : status = .passed ∨ status = .degraded) :
    attempt env true a = runRecover env a status := by
  rcases hstatus with rfl | rfl <;> simp [attempt, hresult]

theorem runRecover_raises {status : Status} (hcheckpoint : a.checkpoint.isSome) :
    (∃ e, (runRecover env a status).1 = .error e) ↔
      (∃ e, env.injectContext a.values = .error e) ∨ RecoveryRaises env a.recover ∧
        ∃ u, env.injectContext a.values = .ok u := by
  obtain ⟨values, hvalues⟩ := Option.isSome_iff_exists.mp hcheckpoint
  have hsame : a.values = values := by simp [Attempt.values, hvalues]
  rcases hcontext : env.injectContext values with e | u
  · simp [runRecover, hvalues, hsame, hcontext]
  · simp [runRecover, hvalues, hsame, hcontext, recoveredStatus_raises]

theorem attempt_raises : (∃ e, (attempt env true a).1 = .error e) ↔ Raises env a := by
  rcases hresult : injectResult env a with e | status
  · simp [attempt, hresult, Raises]
  cases status with
  | failed => simp [attempt, hresult, Raises, GoesOn]
  | cancelled => simp [attempt, hresult, Raises, GoesOn]
  | passed | degraded =>
    rw [attempt_goesOn hresult (by simp)]
    rcases hcheckpoint : a.checkpoint with _ | values
    · simp [runRecover, hcheckpoint, Raises, hresult, GoesOn]
    · rw [runRecover_raises (by simp [hcheckpoint])]
      rcases hcontext : env.injectContext a.values with e | u <;>
        simp [Raises, hresult, GoesOn, hcheckpoint, hcontext]

theorem attempt_uid : ∀ r ∈ (attempt env true a).2, r.uid = a.bladeUid := by
  unfold attempt emergencyRecover runRecover Attempt.bladeUid Attempt.values
  rcases a.checkpoint with _ | values
  · split <;> simp
  · rcases hcontext : env.injectContext values with e | u <;>
      cases hset : isSet (values "blade_uid") <;> split <;> simp [hcontext, hset]

theorem attempt_invokes {u : Option Json} (hu : isSet u) :
    (∃ r ∈ (attempt env true a).2, r.uid = u) ↔ Invokes env a ∧ a.bladeUid = u := by
  by_cases huid : a.bladeUid = u
  · have hcheckpoint := checkpoint_of_uid (huid ▸ hu)
    have huid' : a.values "blade_uid" = u := huid
    have hset : isSet (a.values "blade_uid") = true := huid' ▸ hu
    rcases hresult : injectResult env a with e | status
    · simp [attempt, hresult, Invokes, GoesOn]
    cases status with
    | failed => simp [attempt, hresult, Invokes, GoesOn]
    | cancelled =>
      rcases hcontext : env.injectContext a.values with e | w <;>
        simp [attempt, hresult, Invokes, emergencyRecover, hcheckpoint, hcontext, huid, huid', hu]
    | passed | degraded =>
      rw [attempt_goesOn hresult (by simp)]
      rcases hcontext : env.injectContext a.values with e | w <;>
        simp [runRecover, hresult, Invokes, GoesOn, hcheckpoint, hcontext, huid, huid']
  · refine ⟨fun ⟨r, hr, hru⟩ => absurd ?_ huid, fun h => absurd h.2 huid⟩
    rw [← attempt_uid r hr, hru]

theorem attempt_passed (huid : isSet a.bladeUid) :
    ((attempt env true a).1.toOption.getD .failed = .passed →
      ∃ r ∈ (attempt env true a).2, r.uid = a.bladeUid ∧ Recovers r.result .recovered) ↔
    OutcomeHeard env a := by
  have hcheckpoint := checkpoint_of_uid huid
  rcases hresult : injectResult env a with e | status
  · simp [attempt, hresult, OutcomeHeard, Except.toOption]
  cases status with
  | failed => simp [attempt, hresult, OutcomeHeard, Except.toOption]
  | cancelled => simp [attempt, hresult, OutcomeHeard, Except.toOption]
  | passed | degraded =>
    rw [attempt_goesOn hresult (by simp)]
    rcases hcontext : env.injectContext a.values with e | w
    · simp [runRecover, hcheckpoint, hcontext, OutcomeHeard, Invokes, Except.toOption]
    rcases hrecover : a.recover with e | _ | values
    · cases hruntime : env.runtime <;>
        simp [runRecover, hcheckpoint, hcontext, hresult, OutcomeHeard, Invokes, GoesOn, hrecover,
          recoveredStatus, hruntime, Recovers, RecoveryRaises, Except.toOption]
    · simp [runRecover, hcheckpoint, hcontext, hresult, OutcomeHeard, Invokes, GoesOn, hrecover,
        recoveredStatus, Recovers, RecoveryRaises, Except.toOption]
    · rcases hstate : inferTaskState values with e | state
      · simp [runRecover, hcheckpoint, hcontext, hresult, OutcomeHeard, Invokes, GoesOn, hrecover,
          recoveredStatus, Recovers, RecoveryRaises, hstate, bind, Except.bind, Except.toOption]
      · cases state <;>
          simp [runRecover, hcheckpoint, hcontext, hresult, OutcomeHeard, Invokes, GoesOn, hrecover,
            recoveredStatus, Recovers, RecoveryRaises, hstate, bind, Except.bind, pure, Except.pure,
            Except.toOption, Attempt.bladeUid]

end

/-! ## Calls -/

variable (call : Call)

/-- A call is its deciding attempt, and the attempt before it that was healed. -/
theorem asyncExecute_spec (hauto : call.autoRecover = true) :
    Decides call (asyncExecute call).last ∧ (asyncExecute call).status =
      (attempt call.env true (asyncExecute call).last).1.toOption.getD .failed ∧
    (asyncExecute call).recoveries = (attempt call.env true (asyncExecute call).last).2 ∧
    ((asyncExecute call).earlier = [] ∧ (asyncExecute call).last = call.first ∨
      (asyncExecute call).earlier = (attempt call.env true call.first).2) := by
  rcases hfirst : attempt call.env true call.first with ⟨result, recoveries⟩
  cases result with
  | ok status =>
    have hcalm : ¬ Raises call.env call.first := by simp [← attempt_raises, hfirst]
    simp only [asyncExecute, hauto, hfirst]
    exact ⟨.first fun _ => hcalm, rfl, by simp⟩
  | error e =>
    have hraises : Raises call.env call.first := by simp [← attempt_raises, hfirst]
    by_cases hheals : (call.env.runtime && call.env.heals) = true
    · simp only [asyncExecute, hauto, hfirst, if_pos hheals]
      exact ⟨.second hheals hraises, by simp⟩
    · simp only [asyncExecute, hauto, hfirst, if_neg hheals]
      exact ⟨.first fun h => absurd h hheals, rfl, by simp⟩

theorem decides_unique {call : Call} {a a' : Attempt} (h : Decides call a) (h' : Decides call a') :
    a = a' := by
  cases h with
  | first h =>
    cases h' with
    | first => rfl
    | second hheals hraises => exact absurd hraises (h hheals)
  | second hheals hraises =>
    cases h' with
    | first h => exact absurd hraises (h hheals)
    | second => rfl

theorem asyncExecute_settles (hauto : call.autoRecover = true) :
    NoneLeftRunning (asyncExecute call) ↔ Settles call := by
  obtain ⟨hdecides, hstatus, hrecoveries, hearlier⟩ := asyncExecute_spec call hauto
  have hsettles : Settles call ↔ (isSet (asyncExecute call).last.bladeUid →
      (Invokes call.env (asyncExecute call).last ∨ Invokes call.env call.first ∧
        call.first.bladeUid = (asyncExecute call).last.bladeUid) ∧
      OutcomeHeard call.env (asyncExecute call).last) :=
    ⟨fun h => h _ hdecides, fun h a ha => decides_unique hdecides ha ▸ h⟩
  rw [hsettles]
  refine forall_congr' fun huid => and_congr ?_ ?_
  · simp only [mem_append, or_and_right, exists_or, hrecoveries, attempt_invokes huid]
    rcases hearlier with ⟨hnone, hfirst⟩ | hsome
    · simp [hnone, hfirst]
    · rw [hsome, attempt_invokes huid]
      simp [or_comm]
  · rw [hstatus, hrecoveries]
    exact attempt_passed huid

/-- The cache only holds results of calls that were executed. -/
theorem execute_deed {completed : Completed} (h : ∀ entry ∈ completed, ∃ c,
    entry.2 = asyncExecute c) :
    (∃ c, (execute completed call).2 = asyncExecute c) ∧
      ∀ entry ∈ (execute completed call).1, ∃ c, entry.2 = asyncExecute c := by
  unfold execute
  rcases hlookup : completed.lookup call.taskId with _ | deed
  · have hnew : ∀ entry ∈ completed ++ [(call.taskId, asyncExecute call)],
        ∃ c, entry.2 = asyncExecute c := by
      intro entry hentry
      rcases mem_append.mp hentry with hold | hnew
      · exact h entry hold
      · rw [mem_singleton.mp hnew]
        exact ⟨call, rfl⟩
    refine ⟨⟨call, rfl⟩, fun entry hentry => hnew entry ?_⟩
    dsimp only at hentry
    split at hentry
    · exact mem_of_mem_tail hentry
    · exact hentry
  · obtain ⟨front, rest, rfl, -⟩ := List.lookup_eq_some_iff.mp hlookup
    exact ⟨h (call.taskId, deed) (by simp), h⟩

theorem executeAll_deed {completed : Completed}
    (h : ∀ entry ∈ completed, ∃ c, entry.2 = asyncExecute c) (calls : List Call) :
    ∀ d ∈ executeAll completed calls, ∃ c, d = asyncExecute c := by
  induction calls generalizing completed with
  | nil => simp [executeAll]
  | cons call calls ih =>
    intro d hd
    obtain ⟨hdeed, hcache⟩ := execute_deed call h
    rcases mem_cons.mp hd with rfl | hd
    · exact hdeed
    · exact ih hcache d hd

theorem asyncExecute_call : (asyncExecute call).call = call := by
  unfold asyncExecute
  split
  · rfl
  · split <;> rfl

/-- Every result of a sequence of calls, cached or not: no experiment is left running, and none
is passed that is not recovered, exactly if the call behind the result settles what it leaves. -/
theorem executeAll_settled_iff (calls : List Call) :
    ∀ d ∈ executeAll [] calls, d.call.autoRecover = true →
      (NoneLeftRunning d ↔ Settles d.call) := by
  intro d hd hauto
  obtain ⟨call, rfl⟩ := executeAll_deed (by simp) calls d hd
  rw [asyncExecute_call] at hauto ⊢
  exact asyncExecute_settles call hauto

def platform : Env where
  runtime := true
  heals := false
  statusData := fun _ => .ok ()
  injectContext := fun _ => .ok ()

def stateWith (key : String) (value : Json) : Values := fun k =>
  if k = "blade_uid" then some (.str "cc015e9bd9c68406") else if k = key then some value else none

def verifiedInjection : Values :=
  stateWith "verification"
    (.obj [("layer1", .obj [("status", .str "passed")]),
        ("layer2", .obj [("status", .str "passed")])])

def recoveredBy (recover : Except PyError (Option Values)) : Call where
  taskId := "task-1"
  env := platform
  first :=
    { graph := .finished, checkpoint := some verifiedInjection, overBudget := false
      recover := recover }
  second := { graph := .cancelled, checkpoint := none, overBudget := false, recover := .ok none }

def recoveredState : Values := fun k =>
  if k = "operation" then some (.str "recover")
  else if k = "recover_verification" then some (.obj [("level", .str "recovered")])
  else if k = "result" then some (.obj [("recovered", .bool true)]) else none

/-- The injection is recovered, and passed for that. -/
theorem recoveredInjection_settled :
    (execute [] (recoveredBy (.ok (some recoveredState)))).2.status = .passed ∧
    NoneLeftRunning (execute [] (recoveredBy (.ok (some recoveredState)))).2 := by
  refine ⟨rfl, (executeAll_settled_iff [recoveredBy (.ok (some recoveredState))] _
    (by simp [executeAll]) rfl).mpr ?_⟩
  intro a ha _
  have hcalm : ¬ Raises platform (recoveredBy (.ok (some recoveredState))).first := by
    rw [← attempt_raises]
    exact fun ⟨e, h⟩ => nomatch h
  cases ha with
  | first => exact ⟨.inl ⟨.inr ⟨rfl, .inl rfl⟩, (), rfl⟩,
      fun _ _ => .inl ⟨recoveredState, rfl, rfl⟩⟩
  | second _ hraises => exact absurd hraises hcalm

/-! ## Experiments that are left running -/

def failedInjection : Call where
  taskId := "task-2"
  env := platform
  first :=
    { graph := .finished
      checkpoint := some (stateWith "error" (.str "verification failed"))
      overBudget := false
      recover := .ok none }
  second := { graph := .cancelled, checkpoint := none, overBudget := false, recover := .ok none }

def failedRecovery : Call := recoveredBy (.error ⟨.valueError, "Expecting value"⟩)

/-- It is passed with nothing recovered, and the failed injection is not recovered at
all. -/
theorem experiments_left_running : ¬ NoneLeftRunning (execute [] failedRecovery).2 ∧
    ¬ NoneLeftRunning (execute [] failedInjection).2 := by
  have hpassed : (execute [] failedRecovery).2.status = .passed := by rfl
  have hrecoveries : (execute [] failedRecovery).2.recoveries =
      [⟨some (.str "cc015e9bd9c68406"), .error ⟨.valueError, "Expecting value"⟩⟩] := by rfl
  constructor
  · intro h
    obtain ⟨-, hrecovered⟩ := h rfl
    obtain ⟨r, hr, -, values, hvalues, -⟩ := hrecovered hpassed
    rw [hrecoveries, mem_singleton] at hr
    rw [hr] at hvalues
    cases hvalues
  · intro h
    obtain ⟨⟨r, hr, -⟩, -⟩ := h rfl
    cases hr

end ChaosBlade.L4
