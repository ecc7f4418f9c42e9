/-
Exec.KubernetesTheorems: what the Kubernetes executor reports.

The response is decided by the last answer that was read (`exec_spec`),
whatever came before it, the answer to the request included.
-/
import ChaosBlade.Exec.Kubernetes

namespace ChaosBlade.Exec.Kubernetes

open Go List

/-! ## One read -/

def readsDone (op : Operation) : Answer → Bool
  | .found r => r.phase = if op = .create then .running else .destroyed
  | .failed _ text => op = .destroy && saysNotFound text

def settles (op : Operation) : Answer → Bool
  | .found r => if op = .create then !r.expStatuses.isEmpty else r.phase = .destroyed
  | .failed _ _ => true

theorem createStatusResult_success (uid : String) (success : Bool) (errMsg : String)
    (expStatus : List ExperimentStatus) :
    (createStatusResult uid success errMsg expStatus).success = success := by
  unfold createStatusResult
  split
  · rfl
  · split <;> rfl

theorem createStatusResult_statuses (uid : String) (success : Bool) (errMsg : String)
    (expStatus : List ExperimentStatus) :
    (createStatusResult uid success errMsg expStatus).statuses.isEmpty = expStatus.isEmpty := by
  unfold createStatusResult
  split
  · rfl
  · split <;> rfl

attribute [local simp] readsDone Env.failWithResult returnSuccess

theorem queryStatus_spec (env : Env) (op : Operation) (uid : String) (a : Answer) :
    (queryStatus env op uid a).1.success = readsDone op a ∧
      (queryStatus env op uid a).2 = settles op a := by
  cases a with
  | failed missing text =>
    cases op <;> cases hsays : saysNotFound text <;>
      simp [queryStatus, settles, hsays]
  | found r =>
    obtain ⟨phase, statuses⟩ := r
    cases op <;> cases phase <;>
      simp [queryStatus, settles, reached, contrary, unexpected, completed,
          createStatusResult_success, createStatusResult_statuses]

/-! ## The reads of a call -/

def untilSettled (op : Operation) : List Answer → List Answer
  | [] => []
  | a :: answers => if settles op a then [a] else a :: untilSettled op answers

def lastDone (op : Operation) (reads : List Answer) : Bool :=
  (reads.getLast?.map (readsDone op)).getD false

attribute [local simp] lastDone untilSettled

@[simp] theorem lastDone_nil (op : Operation) : lastDone op [] = false := rfl

@[simp] theorem lastDone_concat (op : Operation) (reads : List Answer) (a : Answer) :
    lastDone op (reads ++ [a]) = readsDone op a := by simp

theorem poll_spec (env : Env) (op : Operation) (uid : String) (polls before : List Answer)
    (response : Response) (h : response.success = lastDone op before) :
    (poll env op uid response polls).1.success = lastDone op (before ++ untilSettled op polls) ∧
    (poll env op uid response polls).2.1 = untilSettled op polls ∧
    (poll env op uid response polls).2.2 = polls.any (settles op) := by
  -- the response so far is that of the reads before, which grow by one each round
  induction polls generalizing response before with
  | nil => simp [poll, h]
  | cons a polls ih =>
    obtain ⟨hsuccess, hsettles⟩ := queryStatus_spec env op uid a
    by_cases hdone : settles op a = true
    · simp [poll, hsettles, hdone, hsuccess]
    · obtain ⟨hlast, hreads, hleft⟩ := ih (before ++ [a]) (queryStatus env op uid a).1
        (by simp [hsuccess])
      simp [poll, hsettles, hdone, hlast, hreads, hleft]

def Answer.isError : Answer → Bool
  | .found _ => false
  | .failed _ _ => true

def requestReads (op : Operation) (answers : Answers) : List Answer :=
  if answers.request.isSome then []
  else
    match op with
    | .destroy => [answers.first]
    | .create =>
      if readsDone .create answers.created || answers.created.isError then [answers.created]
      else [answers.created, answers.first]

theorem afterCreate_spec (env : Env) (uid : String) (answers : Answers)
    (h : answers.request = none) :
    (afterCreate env uid answers).1.success = lastDone .create (requestReads .create answers) ∧
      (afterCreate env uid answers).2 = requestReads .create answers := by
  obtain ⟨hfirst, -⟩ := queryStatus_spec env .create uid answers.first
  unfold afterCreate requestReads
  rcases hcreated : answers.created with r | ⟨missing, text⟩
  · by_cases hrunning : r.phase = .running
    · simp [h, hrunning, reached]
    · simp [h, hrunning, hfirst, Answer.isError]
  · simp [h, Answer.isError, Env.refused]

theorem request_spec (env : Env) (op : Operation) (uid : String) (answers : Answers) :
    (request env op uid answers).1.success = lastDone op (requestReads op answers) ∧
      (request env op uid answers).2 = requestReads op answers := by
  rcases hrequest : answers.request with _ | text
  · cases op with
    | create =>
      simp only [request, hrequest]
      exact afterCreate_spec env uid answers hrequest
    | destroy =>
      simp [request, requestReads, hrequest, (queryStatus_spec env .destroy uid answers.first).1]
  · cases op <;>
      simp [request, requestReads, hrequest, Env.refused]

section

variable (env : Env) (op : Operation) (uid flag : String) (answers : Answers)

def starts : Bool := answers.client.isNone && !(op = .destroy && uid = env.unknownUid)

def accepts : Bool := starts env op uid answers && answers.request.isNone

def reads : List Answer :=
  if starts env op uid answers then
    requestReads op answers ++
      if waitingTime flag > Time.second then untilSettled op answers.polls else []
  else []

def returnsEarly : Bool :=
  if starts env op uid answers && waitingTime flag > Time.second then answers.polls.any (settles op)
  else 0 < waitingTime flag

attribute [local simp] returnsEarly accepts

theorem exec_spec :
    (exec env op uid flag answers).response.success = lastDone op (reads env op uid flag answers) ∧
    (exec env op uid flag answers).accepted = accepts env op uid answers ∧
    (exec env op uid flag answers).observed = reads env op uid flag answers ∧
    (exec env op uid flag answers).timeLeft = returnsEarly env op uid flag answers := by
  obtain ⟨hrequest, hreads⟩ := request_spec env op uid answers
  obtain ⟨hlast, hpolls, hleft⟩ := poll_spec env op uid answers.polls _ _ hrequest
  rcases hclient : answers.client with _ | text
  · by_cases hunknown : op = .destroy ∧ uid = env.unknownUid
    · simp [exec, hclient, hunknown, reads, starts]
    · have hstarts : starts env op uid answers = true :=
        by simpa [starts, hclient, ← not_and_or] using hunknown
      have hexec : exec env op uid flag answers = await env op uid (waitingTime flag) answers := by
        simp only [exec, hclient]
        exact if_neg (by simpa using hunknown)
      rw [hexec]
      by_cases hwait : waitingTime flag > Time.second
      · simp [await, hwait, reads, hstarts, hlast, hpolls, hleft, hreads]
      · simp [await, hwait, reads, hstarts, hrequest, hreads]
  · simp [exec, hclient, reads, starts]

end

/-! ## What a call should report -/

def Answer.observes : Answer → Bool
  | .found _ => true
  | .failed missing _ => missing

def lastSeen (observed : List Answer) : Option Answer := (observed.filter Answer.observes).getLast?

def Done (op : Operation) : Answer → Prop
  | .found r => r.phase = if op = .create then .running else .destroyed
  | .failed missing _ => op = .destroy ∧ missing

def ClusterPhase.Pending (p : ClusterPhase) : Prop := p ≠ .running ∧ p ≠ .destroyed ∧ p ≠ .error

def SeenDone (op : Operation) (observed : List Answer) : Prop :=
  ∃ a, lastSeen observed = some a ∧ Done op a

def SeenPending (observed : List Answer) : Prop :=
  ∃ r, lastSeen observed = some (.found r) ∧ r.phase.Pending

structure Reports (op : Operation) (o : Outcome) : Prop where
  success : o.response.success ↔ o.accepted ∧ SeenDone op o.observed
  patience : SeenPending o.observed → o.timeLeft → o.response.success

/-- The last answers for which it is so, after the answers before them. What reads as the
wanted state follows a request that was accepted. An error says `not found` when the
resource is missing (and is to be destroyed), and otherwise only where the wanted state
was seen before. While there is time, the call does not end on a pending phase, or on an
error after one. -/
def EndsWell (op : Operation) (accepted early : Bool) (before : List Answer) : Answer → Prop
  | .found r => (readsDone op (.found r) → accepted) ∧ (early → ¬ r.phase.Pending)
  | .failed true text =>
    (op = .destroy ∧ saysNotFound text → accepted) ∧
    (accepted → op = .destroy → saysNotFound text)
  | .failed false text =>
    (op = .destroy ∧ saysNotFound text → accepted) ∧
    (accepted → (op = .destroy ∧ saysNotFound text ↔ SeenDone op before)) ∧
    (early → SeenPending before → op = .destroy ∧ saysNotFound text)

def OutcomeCondition (op : Operation) (accepted : Bool) (reads : List Answer)
    (early : Bool) : Prop :=
  ∀ before a, reads = before ++ [a] → EndsWell op accepted early before a

theorem lastSeen_concat (observed : List Answer) (a : Answer) :
    lastSeen (observed ++ [a]) = if a.observes then some a else lastSeen observed := by
  unfold lastSeen
  cases ha : a.observes <;> simp [ha]

variable {op : Operation}

theorem readsDone_found {r : Resource} :
    readsDone op (.found r) = true ↔ Done op (.found r) := by simp [Done]

theorem not_done_of_pending {r : Resource} (h : r.phase.Pending) : ¬ Done op (.found r) := by
  intro hdone
  cases op with
  | create => exact h.1 hdone
  | destroy => exact h.2.1 hdone

attribute [local simp] Answer.observes SeenPending SeenDone

theorem reports_concat {o : Outcome} {before : List Answer} {a : Answer}
    (hobserved : o.observed = before ++ [a]) (hsuccess : o.response.success = readsDone op a) :
    Reports op o ↔ EndsWell op o.accepted o.timeLeft before a := by
  have hseen : lastSeen o.observed = if a.observes then some a else lastSeen before := by
    rw [hobserved, lastSeen_concat]
  rcases a with r | ⟨_ | _, text⟩
  · have hdone : SeenDone op o.observed ↔ Done op (.found r) := by simp [hseen]
    have hpending : SeenPending o.observed ↔ r.phase.Pending := by simp [hseen]
    have hread : o.response.success = true ↔ Done op (.found r) := by rw [hsuccess, readsDone_found]
    constructor
    · intro h
      refine ⟨fun hr => (h.success.mp (hsuccess.trans hr)).1, fun hearly hphase => ?_⟩
      exact not_done_of_pending hphase (hread.mp (h.patience (hpending.mpr hphase) hearly))
    · rintro ⟨hrequest, hphase⟩
      refine ⟨?_, fun hp hearly => absurd (hpending.mp hp) (hphase hearly)⟩
      rw [hdone, hread]
      exact ⟨fun hd => ⟨hrequest (readsDone_found.mpr hd), hd⟩, fun hd => hd.2⟩
  -- an error that says nothing about the resource leaves what was seen before
  · have hdone : SeenDone op o.observed ↔ SeenDone op before := by simp [hseen]
    have hpending : SeenPending o.observed ↔ SeenPending before := by simp [hseen]
    have hread : o.response.success = true ↔ op = .destroy ∧ saysNotFound text := by simp [hsuccess]
    constructor
    · intro h
      refine ⟨fun hr => (h.success.mp (hread.mpr hr)).1, fun haccepted => ?_, fun hearly hp => ?_⟩
      · rw [← hread, h.success, hdone]
        simp [haccepted]
      · exact hread.mp (h.patience (hpending.mpr hp) hearly)
    · rintro ⟨hrequest, herror, hinterrupted⟩
      refine ⟨?_, fun hp hearly => hread.mpr (hinterrupted hearly (hpending.mp hp))⟩
      rw [hdone, hread]
      exact ⟨fun hr => ⟨hrequest hr, (herror (hrequest hr)).mp hr⟩,
        fun hr => (herror hr.1).mpr hr.2⟩
  · have hdone : SeenDone op o.observed ↔ op = .destroy := by simp [hseen, Done]
    have hpending : ¬ SeenPending o.observed := by simp [hseen]
    have hread : o.response.success = true ↔ op = .destroy ∧ saysNotFound text := by simp [hsuccess]
    constructor
    · intro h
      refine ⟨fun hr => (h.success.mp (hread.mpr hr)).1, fun haccepted hop => ?_⟩
      exact (hread.mp (h.success.mpr ⟨haccepted, hdone.mpr hop⟩)).2
    · rintro ⟨hrequest, hmissing⟩
      refine ⟨?_, fun hp => absurd hp hpending⟩
      rw [hdone, hread]
      exact ⟨fun hr => ⟨hrequest hr, hr.1⟩, fun hr => ⟨hr.2, hmissing hr.1 hr.2⟩⟩

theorem reports_nil {o : Outcome} (hobserved : o.observed = [])
    (hsuccess : o.response.success = false) : Reports op o := by
  have hseen : lastSeen o.observed = none := by rw [hobserved]; rfl
  exact ⟨by simp [hsuccess, hseen], by simp [hseen]⟩

/-- The response reports what came of the operation exactly if the last answer that was read
decides it rightly. -/
theorem reports_iff (env : Env) (op : Operation) (uid flag : String) (answers : Answers) :
    Reports op (exec env op uid flag answers) ↔
      OutcomeCondition op (accepts env op uid answers) (reads env op uid flag answers)
        (returnsEarly env op uid flag answers) := by
  obtain ⟨hsuccess, haccepted, hobserved, hleft⟩ := exec_spec env op uid flag answers
  rw [← haccepted, ← hobserved, ← hleft]
  rcases eq_nil_or_concat (reads env op uid flag answers) with hnil | ⟨before, a, hreads⟩
  · rw [hnil] at hsuccess hobserved
    refine iff_of_true (reports_nil hobserved hsuccess) fun before a heq => ?_
    simp [hobserved] at heq
  · rw [hreads, concat_eq_append] at hobserved
    rw [hreads, concat_eq_append, lastDone_concat] at hsuccess
    rw [reports_concat hobserved hsuccess, OutcomeCondition, hobserved]
    constructor
    · intro h before' a' heq
      obtain ⟨rfl, hlast⟩ := append_inj' heq rfl
      cases hlast
      exact h
    · exact fun h => h before a rfl

def plainEnv : Env where
  sprintf := fun _ flags => Py.join ", " flags
  unknownUid := "unknown"

def takenName : Answers where
  client := none
  request := some "chaosblades.chaosblade.io already exists"
  created := .failed true "not read"
  first := .failed true "not read"
  polls := [.found ⟨.running, [⟨true, "Success", "", []⟩]⟩]

def slowStart : Answers where
  client := none
  request := none
  created := .found ⟨.initial, []⟩
  first := .found ⟨.initial, []⟩
  polls := [.found ⟨.initialized, [⟨false, "", "", []⟩]⟩,
      .found ⟨.running, [⟨true, "Success", "", []⟩]⟩]

/-- The refused create succeeds, and the slow one fails with seconds to wait. -/
theorem refusedCreate_not_reported :
    ¬ Reports .create (exec plainEnv .create "cc015e9bd9c68406" "" takenName) ∧
    ¬ Reports .create (exec plainEnv .create "cc015e9bd9c68406" "" slowStart) := by
  constructor
  · intro h
    have hsuccess : (exec plainEnv .create "cc015e9bd9c68406" "" takenName).response.success =
        true := by
      decide
    have hrefused : (exec plainEnv .create "cc015e9bd9c68406" "" takenName).accepted = false := by
      decide
    have haccepted := (h.success.mp hsuccess).1
    rw [hrefused] at haccepted
    cases haccepted
  · intro h
    have hobserved : lastSeen (exec plainEnv .create "cc015e9bd9c68406" "" slowStart).observed =
        some (.found ⟨.initialized, [⟨false, "", "", []⟩]⟩) := by decide
    have hearly : (exec plainEnv .create "cc015e9bd9c68406" "" slowStart).timeLeft = true := by
      decide
    have hfailure :
        (exec plainEnv .create "cc015e9bd9c68406" "" slowStart).response.success = false := by
      decide
    have hsuccess := h.patience ⟨_, hobserved, nofun, nofun, nofun⟩ hearly
    rw [hfailure] at hsuccess
    cases hsuccess

end ChaosBlade.Exec.Kubernetes
