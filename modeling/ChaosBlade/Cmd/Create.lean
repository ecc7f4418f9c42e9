/-
Cmd.Create: `blade create`: `cli/cmd/create.go`, the record it
keeps (`cli/cmd/command.go`, `data/experiment.go`) and the flags it reads
(`createExpModel` of `cli/cmd/exp.go`).

A run of the action command leaves behind what it printed, what it posted
to the endpoint, the experiment table, the executor call it made, the
command line it handed to `nohup`, and how it ended: with the value of
`RunE` or with a panic. What lies outside the program is in `Env`: the
executor, the database errors, the generator of uids, the process table
and the local channel. An executor may add flags to the model it is handed
(the Kubernetes one adds `cgroup-root`); none touches a field that is read
here afterwards, so the model after the call is the model before it.
-/
import ChaosBlade.Go.Time
import ChaosBlade.Py.Str

namespace ChaosBlade.Cmd

open Go

/-! ## Responses -/

/-- The codes of the `spec` package that the command itself looks at or makes. -/
inductive Code where
  | ok
  | returnOKDirectly
  | parameterLess
  | generateUidFailed
  | commandIllegal
  | databaseError
  | osCmdExecFailed
  | other (n : Nat)
  deriving DecidableEq

/-- An `interface{}`, by its dynamic type. `other` carries what `json.Marshal` makes of it. -/
inductive Value where
  | nil
  | int (n : Int)
  | str (s : String)
  | other (json : Option String)
  deriving DecidableEq

structure Response where
  code : Code
  success : Bool
  err : String
  result : Value
  deriving DecidableEq

def returnSuccess (result : Value) : Response := ⟨.ok, true, "", result⟩

/-! ## Experiments -/

inductive Status where
  | created
  | success
  | running
  | error
  | destroyed
  | revoked
  deriving DecidableEq

structure ExperimentModel where
  uid : String
  command : String
  subCommand : String
  flag : String
  status : Status
  error : String

/-- The experiment table, in the order of its ids. -/
abbrev Source := List ExperimentModel

def Source.query (source : Source) (uid : String) : Option ExperimentModel :=
  source.find? (·.uid = uid)

def Source.update (source : Source) (uid : String) (status : Status) (msg : String) : Source :=
  source.map fun m => if m.uid = uid then { m with status := status, error := msg } else m

structure ExpModel where
  target : String
  scope : String
  actionName : String
  actionProcessHang : Bool
  actionFlags : List (String × String)
  deriving DecidableEq

def ExpModel.flag (m : ExpModel) (name : String) : String := (m.actionFlags.lookup name).getD ""

def uidFlag : String := "uid"
def asyncFlag : String := "async"
def endpointFlag : String := "endpoint"
def nohupFlag : String := "nohup"
def timeoutFlag : String := "timeout"

/-- What every registered action has: the persistent flags of `create`, and the timeout
that `addTimeoutFlag` adds. -/
def commonFlags : List String := [uidFlag, asyncFlag, endpointFlag, nohupFlag, timeoutFlag]

/-- A registered action: its `CommandPath`, its place in the specs and its flags in the
order of `VisitAll`. -/
structure Command where
  path : String
  scope : String
  target : String
  actionName : String
  processHang : Bool
  flagNames : List String
  common : ∀ n ∈ commonFlags, n ∈ flagNames

/-- The values of the flags of one invocation. -/
abbrev Values := String → String

def Command.visited (cmd : Command) (values : Values) : List (String × String) :=
  (cmd.flagNames.filter fun n => values n ≠ "false").map fun n => (n, values n)

def createExpModel (cmd : Command) (values : Values) : ExpModel where
  target := cmd.target
  scope := cmd.scope
  actionName := cmd.actionName
  actionProcessHang := cmd.processHang
  actionFlags := cmd.visited values

/-! ## The world around a run -/

structure Env where
  /-- The uids `util.GenerateUid` draws, and the error that follows them. -/
  draws : List String
  draws_ne : ∀ uid ∈ draws, uid ≠ ""
  drawError : String
  insertError : Option String
  updateError : Option String
  /-- `executor.Exec`. -/
  exec : String → ExpModel → Response
  /-- The error of `process.NewProcess`. -/
  newProcess : Int → Option String
  /-- `channel.NewLocalChannel().Run(ctx, "nohup", args)`. -/
  nohup : String → Response
  /-- `path.Join(util.GetProgramPath(), "blade")`. -/
  blade : String
  /-- `CodeType.Sprintf`. -/
  sprintf : Code → List String → String
  /-- `spec.ConvertExpMatchersToString`. -/
  flagsInline : ExpModel → String
  /-- The text is JSON. -/
  isJson : String → Bool
  /-- `json.Marshal` of a text. -/
  quoted : String → String
  /-- `json.Marshal` of a `datasourceCreateResult`. -/
  datasourceJson : String → Option String → String
  /-- `uint64` of a negative `float64`. -/
  negative : ℚ → Nat

variable (env : Env)

def Env.failWithFlags (code : Code) (flags : List String) : Response :=
  ⟨code, false, env.sprintf code flags, .nil⟩

def Env.update (env : Env) (source : Source) (uid : String) (status : Status) (msg : String) :
    Source :=
  if env.updateError.isSome then source else source.update uid status msg

def Env.insert (source : Source) (m : ExperimentModel) : Except String Source :=
  match env.insertError with
  | some e => .error e
  | none =>
    if (source.query m.uid).isSome then .error "UNIQUE constraint failed: experiment.uid"
    else .ok (source ++ [m])

/-! ## The record -/

def generateUid (source : Source) (drawError : String) : List String → Except String String
  | [] => .error drawError
  | uid :: draws =>
    if (source.query uid).isSome then generateUid source drawError draws else .ok uid

def parseCommandPath (path : String) : Except String (String × String) :=
  match Py.splitChar ' ' path with
  | _ :: _ :: command :: sub :: rest => .ok (command, Py.join " " (sub :: rest))
  | _ => .error "not illegal command"

def chosenUid (source : Source) (model : ExpModel) : Except String String :=
  if model.flag uidFlag = "" then generateUid source env.drawError env.draws
  else .ok (model.flag uidFlag)

def recordExpModel (source : Source) (cmd : Command) (model : ExpModel) : Source × Response :=
  match chosenUid env source model with
  | .error e => (source, env.failWithFlags .generateUidFailed [e])
  | .ok uid =>
    match parseCommandPath cmd.path with
    | .error e => (source, env.failWithFlags .commandIllegal [e])
    | .ok (command, subCommand) =>
      match env.insert source ⟨uid, command, subCommand, env.flagsInline model, .created, ""⟩ with
      | .error e => (source, env.failWithFlags .databaseError ["insert", e])
      | .ok source' => (source', returnSuccess (.str uid))

/-! ## Runs -/

inductive GoError where
  | response (r : Response)
  | duration (e : Time.ParseError)
  deriving DecidableEq

inductive Panic where
  | nilDereference
  | typeAssertion
  deriving DecidableEq

inductive Exit where
  | returned (err : Option GoError)
  | panicked (panic : Panic)
  deriving DecidableEq

structure Run where
  source : Source
  exit : Exit
  /-- `model.Uid`, once the run has a record. -/
  uid : Option String := none
  printed : List Response := []
  /-- The bodies posted to the endpoint. -/
  posted : List (Option ExperimentModel) := []
  /-- The call of the executor, which is also what `PostRunE` reads. -/
  executed : Option (String × ExpModel) := none
  /-- The arguments `nohup` was started with. -/
  spawned : Option String := none

def Run.Panics (r : Run) : Prop := ∃ p, r.exit = .panicked p

def checkTimeout (tt : String) : Option Time.ParseError :=
  if tt = "" || (parseUint tt).isSome then none
  else
    match Time.parseDuration tt with
    | .ok _ => none
    | .error e => some e

/-! ## The asynchronous branch -/

def childCommand (cmd : Command) (uid : String) : String :=
  if cmd.scope = "host" then
    "create " ++ cmd.target ++ " " ++ cmd.actionName ++ " --uid " ++ uid ++ " --nohup=true"
  else if cmd.scope = "docker" ∨ cmd.scope = "cri" then
    "create " ++ cmd.scope ++ " " ++ cmd.target ++ " " ++ cmd.actionName ++ " --uid " ++ uid ++
      " --nohup=true"
  else
    "create k8s " ++ cmd.scope ++ "-" ++ cmd.target ++ " " ++ cmd.actionName ++ " --uid " ++ uid ++
      " --nohup=true"

def childLine (cmd : Command) (values : Values) (uid : String) : String :=
  let flags := (cmd.visited values).filter fun f => f.1 ≠ asyncFlag && f.1 ≠ uidFlag
  let args := flags.foldl (fun args f => args ++ " --" ++ f.1 ++ "=" ++ f.2 ++ " ")
    (childCommand cmd uid)
  env.blade ++ " " ++ args ++ " > /dev/null 2>&1 &"

def runAsync (source : Source) (cmd : Command) (values : Values) (uid : String) : Run :=
  let line := childLine env cmd values uid
  let response := env.nohup line
  { source := source
    exit := .returned none
    uid := some uid
    printed :=
      if response.success then [returnSuccess (.str uid)]
      else [env.failWithFlags .osCmdExecFailed ["nohup", response.err]]
    spawned := if response.success then some line else none }

/-! ## The synchronous branch -/

def endpointCallBack (endpoint uid : String) (r : Run) : Run :=
  if endpoint ≠ "" then { r with posted := r.posted ++ [r.source.query uid] } else r

def Run.println (r : Run) (response : Response) : Run :=
  { r with printed := r.printed ++ [response] }

def Run.record (uid : String) (status : Status) (msg : String) (r : Run) : Run :=
  { r with source := env.update r.source uid status msg }

def normalizeJSONResult : Value → Option String
  | .nil => none
  | .int n => some (toString n)
  | .str s => some (if env.isJson s then s else env.quoted s)
  | .other json => json

def createResult (uid : String) (model : ExpModel) (result : Value) : Value :=
  if model.target ≠ "datasource" || model.actionName ≠ "connectionpoolfull" then .str uid
  else .other (some (env.datasourceJson uid (normalizeJSONResult env result)))

def toInt32 (n : Int) : Int := n.bmod (2 ^ 32)

def awaitsProcess (cmd : Command) (model : ExpModel) : Bool :=
  model.actionProcessHang && cmd.scope ≠ "pod" && cmd.scope ≠ "container" && cmd.scope ≠ "node" &&
    model.flag "channel" ≠ "ssh"

def processNotFound : String := "chaos_os process not found, please check chaosblade log"

def finish (uid : String) (model : ExpModel) (response : Response) (r : Run) : Run :=
  let response := { response with result := createResult env uid model response.result }
  { endpointCallBack (model.flag endpointFlag) uid (r.println response) with exit := .returned none
      }

def settle (cmd : Command) (uid : String) (model : ExpModel) (response : Response)
    (r : Run) : Run :=
  if awaitsProcess cmd model then
    match response.result with
    | .nil =>
      finish env uid model { response with err := processNotFound }
        (r.record env uid .error processNotFound)
    | .int n =>
      match env.newProcess (toInt32 n) with
      | some e =>
        let msg := processNotFound ++ ", err: " ++ e
        finish env uid model { response with err := msg } (r.record env uid .error msg)
      | none => finish env uid model response (r.record env uid .success response.err)
    | _ => { r with exit := .panicked .typeAssertion }
  else finish env uid model response (r.record env uid .success response.err)

def conclude (cmd : Command) (uid : String) (model : ExpModel) (response : Response)
    (r : Run) : Run :=
  if !response.success then
    { endpointCallBack (model.flag endpointFlag) uid (r.record env uid .error response.err) with
      exit := .returned (some (.response response)) }
  else settle env cmd uid model response r

/-- What follows the answer of the executor. A response that is to be returned directly is
printed and posted here, and then goes on like any other. -/
def report (cmd : Command) (uid : String) (model : ExpModel) (response : Response)
    (r : Run) : Run :=
  if response.code = .returnOKDirectly then
    let response := { response with code := .ok }
    conclude env cmd uid model response
      (endpointCallBack (model.flag endpointFlag) uid (r.println response))
  else conclude env cmd uid model response r

def runSync (source : Source) (cmd : Command) (model : ExpModel) (uid : String) : Run :=
  report env cmd uid model (env.exec uid model)
    { source := source, exit := .returned none, uid := some uid, executed := some (uid, model) }

/-! ## The command -/

/-- From `model.Uid = resp.Result.(string)` on. On the nohup branch nothing has set
`resp`. -/
def continueWith (source : Source) (cmd : Command) (values : Values) (model : ExpModel)
    (resp : Option Response) : Run :=
  match resp with
  | none => { source := source, exit := .panicked .nilDereference }
  | some resp =>
    if !resp.success then { source := source, exit := .returned (some (.response resp)) }
    else
      match resp.result with
      | .str uid =>
        if model.flag asyncFlag = "true" then runAsync env source cmd values uid
        else runSync env source cmd model uid
      | _ => { source := source, exit := .panicked .typeAssertion }

def actionRunE (source : Source) (cmd : Command) (values : Values) : Run :=
  let model := createExpModel cmd values
  match checkTimeout (model.flag timeoutFlag) with
  | some e => { source := source, exit := .returned (some (.duration e)) }
  | none =>
    if model.flag nohupFlag = "true" then
      if model.flag uidFlag = "" then
        { source := source
          exit := .returned (some (.response (env.failWithFlags .parameterLess [uidFlag]))) }
      else continueWith env source cmd values model none
    else
      let recorded := recordExpModel env source cmd model
      continueWith env recorded.1 cmd values model (some recorded.2)

/-- The destroy command `PostRunE` leaves behind: `sleep delay; blade destroy uid`. -/
structure Destroy where
  delay : Nat
  uid : String
  deriving DecidableEq

def timeoutSeconds (tt : String) : Nat :=
  match parseUint tt with
  | some n => n
  | none =>
    match Time.parseDuration tt with
    | .ok d => Time.toUint64 env.negative (Time.seconds d)
    | .error _ => 0

def actionPostRunE (r : Run) : Option Destroy :=
  match r.exit, r.executed with
  | .returned none, some (uid, model) =>
    let tt := model.flag timeoutFlag
    let timeout := timeoutSeconds env tt
    if tt = "" || model.flag asyncFlag = "true" then none
    else if 0 < timeout && uid ≠ "" then
      if model.scope = "container" || model.scope = "pod" then
        some ⟨(timeout + 60) % 2 ^ 64, uid⟩
      else some ⟨timeout, uid⟩
    else none
  | _, _ => none

end ChaosBlade.Cmd
