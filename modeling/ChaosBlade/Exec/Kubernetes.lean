/-
Exec.Kubernetes: the Kubernetes executor,
`exec/kubernetes/executor.go`.

`Exec` makes one request (create or delete of a ChaosBlade resource) and
then reads the resource once a second until a read completes it or the
waiting time is over. What the API server answers is an input: `Answers`
has the answer to the request and to every read, in the order of the code.
The polls are the reads at the ticks before the context is done; their
number is up to the clock, so any list is possible.
-/
import ChaosBlade.Go.Time
import ChaosBlade.Py.Str

namespace ChaosBlade.Exec.Kubernetes

open Go

/-! ## The resource -/

def phaseTexts : List String :=
  ["", "Initialized", "Running", "Updating", "Destroying", "Destroyed", "Error"]

/-- A phase is a text to the API; `other` is one that is not listed. -/
inductive ClusterPhase where
  | initial
  | initialized
  | running
  | updating
  | destroying
  | destroyed
  | error
  | other (text : String) (unlisted : text ∉ phaseTexts)
  deriving DecidableEq

def ClusterPhase.text : ClusterPhase → String
  | .initial => ""
  | .initialized => "Initialized"
  | .running => "Running"
  | .updating => "Updating"
  | .destroying => "Destroying"
  | .destroyed => "Destroyed"
  | .error => "Error"
  | .other text _ => text

structure ResourceStatus where
  id : String := ""
  state : String
  code : Int := 0
  error : String := ""
  success : Bool
  deriving DecidableEq

structure ExperimentStatus where
  success : Bool
  state : String
  error : String
  resStatuses : List ResourceStatus
  deriving DecidableEq

structure Resource where
  phase : ClusterPhase
  expStatuses : List ExperimentStatus
  deriving DecidableEq

/-- What a read of the resource answers. `missing` is the reason of the error, which the
code does not look at: it reads the text. -/
inductive Answer where
  | found (r : Resource)
  | failed (missing : Bool) (text : String)
  deriving DecidableEq

/-! ## Responses -/

structure StatusResult where
  uid : String
  success : Bool
  error : String
  statuses : List ResourceStatus

inductive Code where
  | ok
  | k8sExecFailed
  | unexpectedStatus
  | parameterInvalid
  | status (n : Int)

structure Response where
  code : Code
  success : Bool
  err : String
  result : Option StatusResult

/-- `CodeType.Sprintf`, and the uid that stands for none. -/
structure Env where
  sprintf : Code → List String → String
  unknownUid : String

def returnSuccess (result : StatusResult) : Response := ⟨.ok, true, "", some result⟩

variable (env : Env)

def Env.failWithResult (code : Code) (result : StatusResult) (flags : List String) : Response :=
  ⟨code, false, env.sprintf code flags, some result⟩

/-- `CreateStatusResult`. The first resource status lends its error, and an experiment
without resource statuses becomes one. -/
def createStatusResult (uid : String) (success : Bool) (errMsg : String)
    (expStatus : List ExperimentStatus) : StatusResult :=
  match expStatus with
  | [] => ⟨uid, success, errMsg, []⟩
  | e :: _ =>
    match e.resStatuses with
    | [] => ⟨uid, success, errMsg, [{ state := e.state, error := e.error, success := e.success }]⟩
    | s :: ss => ⟨uid, success, if s.error ≠ "" then s.error else errMsg, s :: ss⟩

def createConfirmFailedStatusResult (uid errMsg : String) : StatusResult :=
  ⟨uid, false, errMsg,
    [{ id := uid, state := ClusterPhase.error.text, error := errMsg, success := false }]⟩

def createConfirmDestroyedStatusResult (uid : String) : StatusResult :=
  ⟨uid, true, "", [{ id := uid, state := "Destroyed", success := true }]⟩

/-! ## Reading the status -/

inductive Operation where
  | create
  | destroy
  deriving DecidableEq

def Operation.text : Operation → String
  | .create => "create"
  | .destroy => "destroy"

variable (op : Operation)

def completed (result : StatusResult) : Bool :=
  match op with
  | .destroy => result.success
  | .create => !result.statuses.isEmpty

def saysNotFound (text : String) : Bool := Py.hasSub "not found" text

/-- The end of `QueryStatus`: a phase that is neither running nor destroyed. -/
def unexpected (uid : String) (r : Resource) : Response × Bool :=
  let result := createStatusResult uid false (env.sprintf .unexpectedStatus [op.text, r.phase.text])
    r.expStatuses
  let code := match result.statuses with
    | s :: _ => if 0 < s.code then Code.status s.code else .unexpectedStatus
    | [] => .unexpectedStatus
  (⟨code, false, result.error, some result⟩, completed op result)

def contrary (uid wanted : String) (r : Resource) : Response × Bool :=
  let errMsg := env.sprintf .unexpectedStatus [wanted, r.phase.text]
  let result := createStatusResult uid false errMsg r.expStatuses
  (env.failWithResult .unexpectedStatus result ["running", r.phase.text], completed op result)

def reached (uid : String) (r : Resource) : Response × Bool :=
  let result := createStatusResult uid true "" r.expStatuses
  (returnSuccess result, completed op result)

/-- `QueryStatus` once it has a client: the response, and whether it completes the
operation. -/
def queryStatus (uid : String) : Answer → Response × Bool
  | .failed _ text =>
    if saysNotFound text && op = .destroy then
      (returnSuccess (createConfirmDestroyedStatusResult uid), true)
    else
      let errMsg := env.sprintf .k8sExecFailed ["getClient", text]
      (env.failWithResult .k8sExecFailed (createConfirmFailedStatusResult uid errMsg)
        ["getClient", text], true)
  | .found r =>
    match r.phase, op with
    | .running, .create => reached op uid r
    | .running, .destroy => contrary env op uid "destroyed" r
    | .destroyed, .create => contrary env op uid "running" r
    | .destroyed, .destroy => reached op uid r
    | _, _ => unexpected env op uid r

/-! ## The call -/

structure Answers where
  /-- The error of `getClient`. -/
  client : Option String
  /-- The error of the create or the delete. -/
  request : Option String
  /-- The read inside `create`. -/
  created : Answer
  /-- The read of the `QueryStatus` that follows the request. -/
  first : Answer
  polls : List Answer

/-- What a call leaves behind: its response, whether the API accepted the request, the
answers it read, and whether waiting time was left when it returned. -/
structure Outcome where
  response : Response
  accepted : Bool
  observed : List Answer
  timeLeft : Bool

def Env.refused (uid request text : String) : Response :=
  env.failWithResult .k8sExecFailed
    (createConfirmFailedStatusResult uid (env.sprintf .k8sExecFailed [request, text])) [request,
        text]

/-- The method `create`, after the API accepted the object: the response and the reads. -/
def afterCreate (uid : String) (answers : Answers) : Response × List Answer :=
  match answers.created with
  | .failed _ text => (env.refused uid "create" text, [answers.created])
  | .found r =>
    if r.phase = .running then ((reached .create uid r).1, [answers.created])
    else ((queryStatus env .create uid answers.first).1, [answers.created, answers.first])

def request (env : Env) (op : Operation) (uid : String) (answers : Answers) :
    Response × List Answer :=
  match answers.request, op with
  | some text, .create => (env.refused uid "create" text, [])
  | some text, .destroy => (env.refused uid "delete" text, [])
  | none, .create => afterCreate env uid answers
  | none, .destroy => ((queryStatus env .destroy uid answers.first).1, [answers.first])

def defaultWaitingTime : String := "20s"

/-- The waiting time in nanoseconds; a text that is no duration stands for the default. -/
def waitingTime (flag : String) : Int :=
  match Time.parseDuration (if flag = "" then defaultWaitingTime else flag) with
  | .ok d => d
  | .error _ => 20 * Time.second

/-- The loop over the ticks: the response, the reads, and whether it returned before the
context was done. -/
def poll (env : Env) (op : Operation) (uid : String) (response : Response) :
    List Answer → Response × List Answer × Bool
  | [] => (response, [], false)
  | a :: answers =>
    let (response', done) := queryStatus env op uid a
    if done then (response', [a], true)
    else
      let (last, observed, left) := poll env op uid response' answers
      (last, a :: observed, left)

def await (uid : String) (wait : Int) (answers : Answers) : Outcome :=
  let (response, reads) := request env op uid answers
  if wait > Time.second then
    let (last, observed, left) := poll env op uid response answers.polls
    ⟨last, answers.request.isNone, reads ++ observed, left⟩
  else ⟨response, answers.request.isNone, reads, 0 < wait⟩

def exec (uid flag : String) (answers : Answers) : Outcome :=
  match answers.client with
  | some text => ⟨⟨.k8sExecFailed, false, env.sprintf .k8sExecFailed ["getClient", text], none⟩,
      false, [], 0 < waitingTime flag⟩
  | none =>
    if op = .destroy && uid = env.unknownUid then
      ⟨⟨.parameterInvalid, false, env.sprintf .parameterInvalid
        ["suid", env.unknownUid, "not support destroy k8s experiments without uid"], none⟩,
        false, [], 0 < waitingTime flag⟩
    else await env op uid (waitingTime flag) answers

end ChaosBlade.Exec.Kubernetes
