/-
Cmd.CreateTheorems: what a synchronous `blade create` tells.

`oneStory_iff`: the record, the emitted response and the value of `RunE`
agree exactly when the answer of the executor is one the result handling is
written for.
-/
import ChaosBlade.Cmd.Create

namespace ChaosBlade.Cmd

open List

/-! ## The table -/

theorem query_append_of_none {source : Source} {m : ExperimentModel}
    (h : source.query m.uid = none) : (source ++ [m] : Source).query m.uid = some m := by
  simp only [Source.query] at h ⊢
  simp [h]

theorem query_update (source : Source) (uid : String) (status : Status) (msg : String) :
    (source.update uid status msg).query uid =
      (source.query uid).map fun m => { m with status := status, error := msg } := by
  induction source with
  | nil => rfl
  | cons m ms ih =>
    simp only [Source.query, Source.update] at ih ⊢
    by_cases hm : m.uid = uid
    · simp [hm]
    · simp [hm, ih]

theorem generateUid_mem {source : Source} {e uid : String} {draws : List String}
    (h : generateUid source e draws = .ok uid) : uid ∈ draws := by
  induction draws with
  | nil => cases h
  | cons d draws ih =>
    simp only [generateUid] at h
    split_ifs at h with htaken
    · exact mem_cons_of_mem d (ih h)
    · cases h
      exact mem_cons_self

theorem chosenUid_ne {env : Env} {source : Source} {model : ExpModel} {uid : String}
    (h : chosenUid env source model = .ok uid) : uid ≠ "" := by
  unfold chosenUid at h
  split_ifs at h with hflag
  · exact env.draws_ne uid (generateUid_mem h)
  · cases h
    exact hflag

theorem insert_ok {env : Env} {source source' : Source} {m : ExperimentModel}
    (h : env.insert source m = .ok source') : source.query m.uid = none ∧ source' = source ++
        [m] := by
  unfold Env.insert at h
  rcases hinsert : env.insertError with _ | e
  · rw [hinsert] at h
    by_cases htaken : (source.query m.uid).isSome
    · simp [htaken] at h
    · simp only [htaken, Bool.false_eq_true, ↓reduceIte, Except.ok.injEq] at h
      exact ⟨by simpa using htaken, h.symm⟩
  · simp [hinsert] at h

theorem recordExpModel_cases (env : Env) (source : Source) (cmd : Command) (model : ExpModel) :
    (∃ row : ExperimentModel, row.status = .created ∧ row.uid ≠ "" ∧ source.query row.uid = none ∧
      recordExpModel env source cmd model = (source ++ [row], returnSuccess (.str row.uid))) ∨
    (∃ resp, resp.success = false ∧ recordExpModel env source cmd model = (source, resp)) := by
  unfold recordExpModel
  rcases hchosen : chosenUid env source model with e | uid
  · exact .inr ⟨_, rfl, rfl⟩
  rcases hpath : parseCommandPath cmd.path with e | ⟨command, subCommand⟩
  · exact .inr ⟨_, rfl, rfl⟩
  rcases hinsert : env.insert source
    ⟨uid, command, subCommand, env.flagsInline model, .created, ""⟩ with e | source'
  · exact .inr ⟨env.failWithFlags .databaseError ["insert", e], rfl, by simp only [hinsert]⟩
  · obtain ⟨hfree, rfl⟩ := insert_ok hinsert
    exact .inl ⟨_, rfl, chosenUid_ne hchosen, hfree, by simp only [hinsert]⟩

/-! ## What a run tells -/

def Run.status (r : Run) : Option Status :=
  r.uid.bind fun uid => (r.source.query uid).map (·.status)

def Exit.error : Exit → Option GoError
  | .returned err => err
  | .panicked _ => none

def Run.emitted (r : Run) : List GoError := r.printed.map .response ++ r.exit.error.toList

structure OneStory (r : Run) : Prop where
  noPanic : ¬ r.Panics
  emitsOne : r.emitted.length = 1
  postsOnce : r.posted.length ≤ 1
  agrees : r.status = some .success ↔
    (∃ resp, r.emitted = [.response resp] ∧ resp.success ∧ resp.err = "") ∧
      r.exit = .returned none

section

variable (env : Env) (endpoint uid : String) (r : Run)

@[simp] theorem endpointCallBack_fields : let r' := endpointCallBack endpoint uid r
    r'.exit = r.exit ∧ r'.uid = r.uid ∧ r'.source = r.source ∧ r'.printed = r.printed ∧
      r'.executed = r.executed := by
  unfold endpointCallBack
  split <;> simp

theorem endpointCallBack_posted_le :
    (endpointCallBack endpoint uid r).posted.length ≤ r.posted.length + 1 := by
  unfold endpointCallBack
  split <;> simp

end

theorem status_record {env : Env} {r : Run} {uid : String} {row : ExperimentModel}
    (huid : r.uid = some uid) (hrow : r.source.query uid = some row) (status : Status)
    (msg : String) : (r.record env uid status msg).status =
      some (if env.updateError.isSome then row.status else status) := by
  simp only [Run.status, Run.record, huid, Env.update]
  split_ifs
  · simp [hrow]
  · simp [query_update, hrow]

theorem finish_status (env : Env) (uid : String) (model : ExpModel) (response : Response)
    (r : Run) :
    (finish env uid model response r).status = r.status := by simp [Run.status, finish, Run.println]

theorem finish_emitted (env : Env) (uid : String) (model : ExpModel) (response : Response)
    (r : Run) : (finish env uid model response r).emitted = r.printed.map .response ++
        [.response { response with result := createResult env uid model response.result }] := by
  simp [Run.emitted, finish, Run.println, Exit.error]

theorem oneStory_finish {env : Env} {uid : String} {model : ExpModel} {response : Response}
    {r : Run}
    (hprinted : r.printed = []) (hposted : r.posted = []) :
    OneStory (finish env uid model response r) ↔
      (r.status = some .success ↔ response.success ∧ response.err = "") := by
  have hemitted := finish_emitted env uid model response r
  rw [hprinted, map_nil, nil_append] at hemitted
  have hexit : (finish env uid model response r).exit = .returned none := rfl
  have hagrees : ((∃ resp, (finish env uid model response r).emitted = [.response resp] ∧
      resp.success ∧ resp.err = "") ∧ (finish env uid model response r).exit = .returned none) ↔
      (response.success ∧ response.err = "") := by simp [hemitted, hexit]
  constructor
  · intro h
    rw [← finish_status env uid model response r, h.agrees, hagrees]
  · intro h
    refine ⟨?_, by rw [hemitted]; rfl, ?_, ?_⟩
    · rintro ⟨p, hp⟩
      cases hp
    · have := endpointCallBack_posted_le (model.flag endpointFlag) uid
        (r.println { response with result := createResult env uid model response.result })
      simpa [finish, Run.println, hposted] using this
    · rw [finish_status, h, hagrees]

theorem conclude_emits (env : Env) (cmd : Command) (uid : String) (model : ExpModel)
    (response : Response) (r : Run) : (conclude env cmd uid model response r).Panics ∨
      (conclude env cmd uid model response r).emitted.length = r.printed.length + 1 := by
  unfold conclude settle
  split
  · exact .inr (by simp [Run.emitted, Exit.error, Run.record])
  split
  · split
    · exact .inr (by simp [finish_emitted, Run.record])
    · split <;> exact .inr (by simp [finish_emitted, Run.record])
    · exact .inl ⟨_, rfl⟩
  · exact .inr (by simp [finish_emitted, Run.record])

/-! ## The answers the result handling is written for -/

def Recorded (env : Env) (response : Response) : Prop :=
  response.err = "" ↔ env.updateError = none

def Clean (env : Env) (cmd : Command) (model : ExpModel) (response : Response) : Prop :=
  response.code ≠ .returnOKDirectly ∧
  (response.success → ¬ awaitsProcess cmd model → Recorded env response) ∧
  (response.success → awaitsProcess cmd model → response.result = .nil ∨
    ∃ n, response.result = .int n ∧ (env.newProcess (toInt32 n) = none → Recorded env response))

def started (source : Source) (uid : String) (model : ExpModel) : Run :=
  { source := source, exit := .returned none, uid := some uid, executed := some (uid, model) }

section

variable {env : Env} {cmd : Command} {uid : String} {model : ExpModel} {response : Response}
  {source : Source} {row : ExperimentModel}

section

variable (hrow : source.query uid = some row) (hcreated : row.status = .created)
include hrow hcreated

theorem oneStory_success (hsuccess : response.success = true) :
    OneStory (finish env uid model response
      ((started source uid model).record env uid .success response.err)) ↔
      Recorded env response := by
  rw [oneStory_finish rfl rfl, status_record rfl hrow, hcreated]
  rcases hupdate : env.updateError with _ | e <;> simp [Recorded, hsuccess, hupdate]

variable (env model) in
theorem oneStory_error (hmsg : response.err ≠ "") : OneStory (finish env uid model response
      ((started source uid model).record env uid .error response.err)) := by
  rw [oneStory_finish rfl rfl, status_record rfl hrow, hcreated]
  rcases hupdate : env.updateError with _ | e <;> simp [hmsg]

theorem oneStory_settle (hsuccess : response.success = true)
    (hcode : response.code ≠ .returnOKDirectly) :
    OneStory (settle env cmd uid model response (started source uid model)) ↔
      Clean env cmd model response := by
  unfold settle Clean
  by_cases hawaits : awaitsProcess cmd model = true
  · rcases hresult : response.result with _ | n | s | json
    · have herror : ({ response with err := processNotFound } : Response).err ≠ "" := by
        simp [processNotFound]
      simpa [hawaits, hcode, hresult] using oneStory_error env model hrow hcreated herror
    · rcases hprocess : env.newProcess (toInt32 n) with _ | e
      · simp [hawaits, hcode, hsuccess, hprocess, oneStory_success hrow hcreated hsuccess]
      · have herror :
            ({ response with err := processNotFound ++ ", err: " ++ e } : Response).err ≠ "" := by
          simp
        simpa [hawaits, hcode, hresult,
            hprocess] using oneStory_error env model hrow hcreated herror
    all_goals
      simp only [hawaits, hsuccess]
      simp only [reduceCtorEq, false_and, exists_false, or_self]
      simp only [forall_const, and_false, iff_false]
      exact fun h => h.noPanic ⟨_, rfl⟩
  · simp [hawaits, hcode, hsuccess, oneStory_success hrow hcreated hsuccess]

variable (env cmd model) in
theorem oneStory_failure (hfailure : response.success = false) :
    OneStory (conclude env cmd uid model response (started source uid model)) := by
  have hposted := endpointCallBack_posted_le (model.flag endpointFlag) uid
    ((started source uid model).record env uid .error response.err)
  have hstatus : ((started source uid model).record env uid .error response.err).status = _ :=
    status_record rfl hrow .error response.err
  have hnot : (if env.updateError.isSome then row.status else .error) ≠ .success := by
    rw [hcreated]
    split <;> decide
  simp only [conclude, hfailure]
  refine ⟨?_, ?_, by simpa [Run.record, started] using hposted, ?_⟩
  · rintro ⟨p, hp⟩
    cases hp
  · simp [Run.emitted, Exit.error, Run.record, started]
  · simp only [Run.status] at hstatus ⊢
    simp [hstatus, hnot]

end

theorem not_oneStory_direct {r : Run} (hcode : response.code = .returnOKDirectly) :
    ¬ OneStory (report env cmd uid model response r) := by
  intro h
  rw [report, if_pos hcode] at h
  rcases conclude_emits env cmd uid model { response with code := .ok }
    (endpointCallBack (model.flag endpointFlag) uid (r.println { response with code := .ok }))
    with hpanics | hemitted
  · exact h.noPanic hpanics
  · have hone := hemitted.symm.trans h.emitsOne
    simp [Run.println] at hone

theorem oneStory_runSync (hrow : source.query uid = some row) (hcreated : row.status = .created) :
    OneStory (runSync env source cmd model uid) ↔ Clean env cmd model (env.exec uid model) := by
  show OneStory (report env cmd uid model _ (started source uid model)) ↔ _
  generalize env.exec uid model = response
  by_cases hcode : response.code = .returnOKDirectly
  · exact iff_of_false (not_oneStory_direct hcode) fun h => h.1 hcode
  rw [report, if_neg hcode]
  rcases hsuccess : response.success with _ | _
  · exact iff_of_true (oneStory_failure env cmd model hrow hcreated hsuccess)
      ⟨hcode, by simp [hsuccess], by simp [hsuccess]⟩
  · rw [← oneStory_settle hrow hcreated hsuccess hcode]
    simp [conclude, hsuccess]

end

/-! ## The command -/

def AsyncParent (model : ExpModel) : Prop :=
  model.flag asyncFlag = "true" ∧ model.flag nohupFlag ≠ "true"

/-- The runs that tell one story: the timeout is refused, a nohup run has no uid, or the
run is not a nohup run and its executor, if it is reached, gives a clean answer. -/
def StoryCondition (env : Env) (source : Source) (cmd : Command) (values : Values) : Prop :=
  let model := createExpModel cmd values
  (checkTimeout (model.flag timeoutFlag)).isSome ∨
  (model.flag nohupFlag = "true" ∧ model.flag uidFlag = "") ∨
  (model.flag nohupFlag ≠ "true" ∧
    ∀ uid, (recordExpModel env source cmd model).2 = returnSuccess (.str uid) →
      Clean env cmd model (env.exec uid model))

theorem oneStory_refused (source : Source) (e : GoError) :
    OneStory { source := source, exit := .returned (some e) } := by
  refine ⟨?_, rfl, by simp, by simp [Run.status]⟩
  rintro ⟨p, hp⟩
  cases hp

theorem not_oneStory_panicked {source : Source} {p : Panic} :
    ¬ OneStory { source := source, exit := .panicked p } :=
  fun h => h.noPanic ⟨p, rfl⟩

/-- Apart from the parent of an asynchronous create, record, response and exit code tell one story
exactly under the condition on the flags and the environment. -/
theorem oneStory_iff (env : Env) (source : Source) (cmd : Command) (values : Values)
    (hparent : ¬ AsyncParent (createExpModel cmd values)) :
    OneStory (actionRunE env source cmd values) ↔ StoryCondition env source cmd values := by
  simp only [actionRunE, StoryCondition]
  generalize createExpModel cmd values = model at hparent ⊢
  rcases htimeout : checkTimeout (model.flag timeoutFlag) with _ | e
  · by_cases hnohup : model.flag nohupFlag = "true"
    · by_cases huid : model.flag uidFlag = ""
      · simpa [hnohup, huid] using oneStory_refused source _
      · simpa [hnohup, huid, continueWith] using not_oneStory_panicked
    · have hsync : model.flag asyncFlag ≠ "true" := fun h => hparent ⟨h, hnohup⟩
      rcases recordExpModel_cases env source cmd model with
        ⟨row, hcreated, -, hfree, hrecord⟩ | ⟨resp, hfailure, hrecord⟩
      · have hrow := query_append_of_none hfree
        simpa [hnohup, hrecord, continueWith, returnSuccess, hsync] using
          oneStory_runSync hrow hcreated
      · have hnone : ∀ uid, resp ≠ returnSuccess (.str uid) := by
          rintro uid rfl
          cases hfailure
        simpa [hnohup, hrecord, continueWith, hfailure, hnone] using oneStory_refused source _
  · simpa using oneStory_refused source _

def cpuLoad : Command where
  path := "blade create cpu load"
  scope := "host"
  target := "cpu"
  actionName := "load"
  processHang := true
  flagNames := ["async", "cpu-percent", "endpoint", "nohup", "timeout", "uid"]
  common := by decide

def plainValues : Values := fun name =>
  if name = "async" ∨ name = "nohup" then "false" else if name = "cpu-percent" then "60" else ""

def answering (response : Response) : Env where
  draws := ["cc015e9bd9c68406"]
  draws_ne := by decide
  drawError := "no entropy"
  insertError := none
  updateError := none
  exec := fun _ _ => response
  newProcess := fun _ => none
  nohup := fun _ => returnSuccess .nil
  blade := "/opt/chaosblade/blade"
  sprintf := fun _ flags => Py.join ", " flags
  flagsInline := fun _ => "--cpu-percent=60"
  isJson := fun _ => false
  quoted := fun s => s
  datasourceJson := fun uid _ => uid
  negative := fun _ => 0

/-- A process id is what the result handling waits for. -/
theorem processAnswer_oneStory :
    OneStory (actionRunE (answering (returnSuccess (.int 4711))) [] cpuLoad plainValues) := by
  refine (oneStory_iff _ _ _ _ ?_).mpr ?_
  · rintro ⟨hasync, -⟩
    revert hasync
    decide
  · refine .inr (.inr ⟨by decide, fun uid _ => ⟨nofun, ?_, ?_⟩⟩)
    · intro _ _
      exact iff_of_true rfl rfl
    · intro _ _
      exact .inr ⟨4711, rfl, fun _ => iff_of_true rfl rfl⟩

/-- A direct answer is printed twice, and a process id that comes as a text ends in a
panic. -/
theorem directAnswer_not_oneStory : ¬ AsyncParent (createExpModel cpuLoad plainValues) ∧
    ¬ OneStory (actionRunE (answering ⟨.returnOKDirectly, true, "", .int 4711⟩) [] cpuLoad
        plainValues) ∧
    ¬ OneStory (actionRunE (answering (returnSuccess (.str "4711"))) [] cpuLoad plainValues) := by
  refine ⟨?_, fun h => ?_, fun h => ?_⟩
  · rintro ⟨hasync, -⟩
    revert hasync
    decide
  · have htwice : (actionRunE (answering ⟨.returnOKDirectly, true, "", .int 4711⟩) [] cpuLoad
        plainValues).emitted.length = 2 := by decide
    have hone := h.emitsOne
    rw [htwice] at hone
    cases hone
  · refine h.noPanic ⟨.typeAssertion, ?_⟩
    decide

end ChaosBlade.Cmd
