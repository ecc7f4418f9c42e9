/-
Persistence.TaskStore: `persistence/task_store.py`: one task
in the two tables of the task store, `tasks` and `task_details`.

`upsert` reads the row of `tasks`, merges the columns it is given, infers
the lifecycle state and writes both tables. A row is what `SELECT *`
returns: every column of the table has a value, NULL is `null`. The JSON
columns are stored as text, which `json.loads` turns back into what
`json.dumps` was given, so a row holds the document itself. A value is of
its column's type: a flag is an integer, and a text column of SQLite
never holds anything but text.
-/
import ChaosBlade.Agent.TaskState

namespace ChaosBlade.Persistence

open Py Agent

/-! ## Columns -/

def jsonColumns : List String :=
  ["target", "params", "verification", "recover_verification", "result", "baseline_data",
   "postmortem", "target_health_report", "feasibility_report"]

def taskColumns : List String :=
  ["id", "task_id", "task_state", "stage", "phase", "operation", "skill_name", "blade_uid",
   "namespace", "target_name", "error", "finished_at", "duration_ms", "gmt_create", "gmt_modified"]

def detailColumns : List String :=
  ["id", "task_id", "target", "params", "input", "safety_status", "safety_reason", "needs_confirm",
   "plan_summary", "kubeconfig", "kube_context", "verification", "recover_verification", "result",
   "failure_reason", "baseline_data", "inject_context", "skill_use_case", "injection_method",
   "kubectl_exec_pod_name", "postmortem", "target_health_report", "feasibility_report",
   "total_token_input", "total_token_output", "total_llm_calls", "total_tool_calls",
   "total_duration_ms", "gmt_create", "gmt_modified"]

def integerColumns : List String :=
  ["id", "duration_ms", "needs_confirm", "total_token_input", "total_token_output",
   "total_llm_calls", "total_tool_calls", "total_duration_ms"]

def notNullColumns : List String :=
  ["task_id", "task_state", "stage", "phase", "operation", "safety_status", "needs_confirm",
   "total_token_input", "total_token_output", "total_llm_calls", "total_tool_calls",
   "total_duration_ms"]

/-- The columns a call sets for itself: it cannot be given the task's id, and the
inferred ones are inferred. -/
def ownColumns : List String := ["task_id", "task_state", "stage", "phase"]

def fits (column : String) (v : Json) : Bool :=
  if jsonColumns.contains column then true
  else match v with
    | .null => !notNullColumns.contains column
    | .int _ => integerColumns.contains column
    | .str _ => !integerColumns.contains column
    | _ => false

structure Fields where
  get : Values
  columns : ∀ c v, get c = some v →
    c ∈ taskColumns ++ detailColumns ∧ c ∉ ownColumns ∧ fits c v = true

def admits (column : String) (v : Json) : Bool :=
  (taskColumns ++ detailColumns).contains column && !ownColumns.contains column && fits column v

def Fields.ofList (ps : List (String × Json)) (h : ∀ p ∈ ps, admits p.1 p.2 = true) : Fields where
  get c := ps.lookup c
  columns c v hv := by
    have hmem : (c, v) ∈ ps := by
      obtain ⟨l₁, l₂, rfl, -⟩ := List.lookup_eq_some_iff.mp hv
      simp
    have := h _ hmem
    simp only [admits, Bool.and_eq_true, Bool.not_eq_true', List.contains_eq_mem,
      decide_eq_true_eq, decide_eq_false_iff_not] at this
    exact ⟨this.1.1, this.1.2, this.2⟩

/-! ## Rows -/

abbrev Row := String → Json

def Row.read (row : Row) (columns : List String) : Values :=
  fun c => if c ∈ columns then some (row c) else none

def taskDefaults : Row
  | "task_state" => .str "injecting"
  | "stage" => .str "injection"
  | "phase" => .str "planning"
  | "operation" => .str "inject"
  | "duration_ms" => .int 0
  | _ => .null

def detailDefaults : Row
  | "safety_status" => .str "pending"
  | "needs_confirm" => .int 0
  | "plan_summary" => .str ""
  | "total_token_input" => .int 0
  | "total_token_output" => .int 0
  | "total_llm_calls" => .int 0
  | "total_tool_calls" => .int 0
  | "total_duration_ms" => .int 0
  | _ => .null

/-- `INSERT … ON CONFLICT(task_id) DO UPDATE`: a column that is not written keeps
its value, in a new row its default. -/
def upsertRow (defaults : Row) (columns : List String) (old : Option Row) (merged : Values) : Row :=
  fun c => (if c ∈ columns ∧ c ≠ "id" then merged c else none).getD ((old.getD defaults) c)

structure TaskRows where
  task : Option Row := none
  details : Option Row := none

def TaskRows.stored (s : TaskRows) : Values := fun c =>
  (s.task.bind fun row => row.read taskColumns c).or
    (s.details.bind fun row => row.read detailColumns c)

/-! ## Inference -/

structure Inferred where
  taskState : TaskState
  stage : Option Stage
  phase : Option Phase
  deriving DecidableEq

def isCompletedIntent (values : Values) : Bool :=
  ["chat", "recover", "query", "explore"].any fun text => isText text (values "confirmed_intent")

def isWaiting (values : Values) (state : TaskState) : Bool :=
  (state == .injecting && isSet (values "needs_confirmation") && !isSet (values "blade_uid")) ||
    (isText "tui" (values "interaction_mode") && !isSet (values "confirmed_intent") &&
      !isSet (values "blade_uid"))

def agentValues (merged : Values) : Values := fun k =>
  if k = "needs_confirmation" then (merged "needs_confirm").or (merged k) else merged k

/-- `_infer_fields`; `none` if the inference raises, and nothing is inferred. -/
def inferFields (merged : Values) : Option Inferred :=
  let values := agentValues merged
  let inferred : Except PyError Inferred := do
    let state ← inferTaskState values
    let stage := inferStage values
    let phase ← inferPhase values
    let completed := isCompletedIntent values
    let state := if completed then .completed else state
    return {
      taskState := if isWaiting values state then .waitingInput else state
      stage := if completed then some (stage.getD .injection) else stage
      phase := if completed then some (phase.getD .completed) else phase }
  inferred.toOption

def Inferred.columns (i : Inferred) : Values
  | "task_state" => some (.str i.taskState.value)
  | "stage" => some (i.stage.elim .null fun s => .str s.value)
  | "phase" => some (i.phase.elim .null fun p => .str p.value)
  | _ => none

/-! ## Upsert -/

def setDefault (k : String) (v : Json) (fields : Values) : Values := fun c =>
  if c = k then some ((fields k).getD v) else fields c

def firstName : Json → Option Json
  | .arr (x :: _) => some x
  | .str s => s.toList.head?.map fun c => .str (String.ofList [c])
  | _ => none

def extractIndexFields (fields : Values) : Option Values :=
  match fields "target" with
  | some (.obj target) =>
    let fields := setDefault "namespace" ((Json.get? target "namespace").getD (.str "")) fields
    let names := (Json.get? target "names").getD (.arr [])
    if names.truthy then (firstName names).map fun name => setDefault "target_name" name fields
    else some fields
  | _ => some fields

def setTimestamps (now : String) (existing : Option Row) (fields : Values) : Values := fun c =>
  if c = "gmt_modified" then some (.str now)
  else if c = "gmt_create" then
    match existing.map (· "gmt_create") with
    | some created => if created.truthy then some created
        else if isSet (fields c) then fields c else some (.str now)
    | none => if isSet (fields c) then fields c else some (.str now)
  else fields c

/-- Can the value be bound to the column of `tasks`? A list or an object cannot,
and NULL only where the column allows it. -/
def binds (column : String) : Json → Bool
  | .null => !notNullColumns.contains column
  | .arr _ | .obj _ => false
  | _ => true

def mergeFields (taskId : String) (row : Option Row) (fields : Fields) : Values := fun c =>
  (fields.get c).or (match row with
    | some row => row.read taskColumns c
    | none => if c = "task_id" then some (.str taskId) else none)

/-- `TaskStore.upsert`; `none` if it raises, and nothing is written. The
details of a call fit their columns, so the second write does not fail. -/
def upsert (taskId now : String) (fields : Fields) (s : TaskRows) : Option TaskRows :=
  if taskId = "" ∨ startsWith taskId "turn-" then some s
  else do
    let merged ← extractIndexFields (mergeFields taskId s.task fields)
    let merged : Values := fun c =>
      if c = "task_id" then some (.str taskId)
      else ((inferFields merged).bind fun i => i.columns c).or (merged c)
    let merged := setTimestamps now s.task merged
    if taskColumns.all fun c => (merged c).all (binds c) then
      return {
        task := some (upsertRow taskDefaults taskColumns s.task merged)
        details := some (upsertRow detailDefaults detailColumns s.details merged) }
    else none

/-- A call of `upsert` on the task, with the clock at the time. -/
structure Call where
  now : String
  fields : Fields

def upserts (taskId : String) (calls : List Call) : TaskRows :=
  calls.foldl (fun s call => (upsert taskId call.now call.fields s).getD s) {}

end ChaosBlade.Persistence
