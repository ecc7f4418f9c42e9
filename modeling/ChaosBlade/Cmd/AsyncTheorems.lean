/-
Cmd.AsyncTheorems: what `blade create` leaves for later: the
child of an asynchronous create, and the destroy that a timeout schedules.

The parent records the experiment and starts a second `blade create` under
`nohup`, with `--nohup=true` and the uid on its command line. `RunE`
accepts a timeout in seconds or as a Go duration; `PostRunE` reads the text
again and turns a duration into whole seconds by truncation.
-/
import ChaosBlade.Cmd.CreateTheorems

namespace ChaosBlade.Cmd

open Go List Option Time

variable {n : String} {cmd : Command} {source : Source}

def withAsync (on : Bool) (values : Values) : Values :=
  Function.update values asyncFlag (if on then "true" else "false")

def ExpModel.ownFlags (m : ExpModel) : List (String × String) :=
  m.actionFlags.filter fun f =>
    f.2 ≠ "" && f.1 ≠ asyncFlag && f.1 ≠ nohupFlag && f.1 ≠ uidFlag && f.1 ≠ endpointFlag

def callView
    (call : String × ExpModel) : String × String × String × String × List (String × String) :=
  (call.1, call.2.target, call.2.scope, call.2.actionName, call.2.ownFlags)

/-- What the shell and cobra make of the line that `nohup` is started with: an action and
its flag values, or nothing. -/
abbrev Reader := String → Option (Command × Values)

/-- The child calls the executor as the synchronous command does, and nobody panics. The
child has its own world; its table is the one the parent left. -/
def AsyncAsSync (env child : Env) (source : Source) (cmd : Command) (values : Values)
    (read : Reader) : Prop :=
  let parent := actionRunE env source cmd (withAsync true values)
  ¬ parent.Panics ∧
  ∀ line, parent.spawned = some line →
    ∃ cmd' values', read line = some (cmd', values') ∧
      ¬ (actionRunE child parent.source cmd' values').Panics ∧
      (actionRunE child parent.source cmd' values').executed.map callView =
        (actionRunE env source cmd (withAsync false values)).executed.map callView

/-! ## Flags -/

variable {values : Values}

theorem lookup_visited {names : List String} (hn : n ∈ names) :
    ((names.filter fun n => values n ≠ "false").map fun n => (n, values n)).lookup n =
      if values n = "false" then none else some (values n) := by
  induction names with
  | nil => cases hn
  | cons m names ih =>
    by_cases hm : n = m
    · subst hm
      by_cases hfalse : values n = "false"
      · simp only [hfalse, ne_eq, not_true_eq_false, decide_false, Bool.false_eq_true,
          not_false_eq_true, filter_cons_of_neg, ↓reduceIte]
        by_cases hlater : n ∈ names
        · simpa [hfalse] using ih hlater
        · refine List.lookup_eq_none_iff.mpr fun p hp => ?_
          obtain ⟨k, hk, rfl⟩ := mem_map.mp hp
          have : n ≠ k := fun h => hlater (h ▸ (mem_filter.mp hk).1)
          simpa using this
      · simp [hfalse]
    · have hlater : n ∈ names := (mem_cons.mp hn).resolve_left hm
      by_cases hfalse : values m = "false"
      · simpa [hfalse] using ih hlater
      · have hbeq : (n == m) = false := by simpa using hm
        simpa [hfalse, lookup_cons, hbeq] using ih hlater

theorem flag_createExpModel (hn : n ∈ cmd.flagNames) :
    (createExpModel cmd values).flag n = if values n = "false" then "" else values n := by
  simp only [ExpModel.flag, createExpModel, Command.visited, lookup_visited hn]
  split <;> rfl

theorem flag_async (cmd : Command) (values : Values) :
    (createExpModel cmd (withAsync true values)).flag asyncFlag = "true" ∧
      (createExpModel cmd (withAsync false values)).flag asyncFlag = "" := by
  have hn : asyncFlag ∈ cmd.flagNames := cmd.common _ (by simp [commonFlags])
  simp [flag_createExpModel hn, withAsync]

theorem flag_withAsync (cmd : Command) (values : Values) (hn : n ∈ commonFlags)
    (hasync : n ≠ asyncFlag) (on : Bool) :
    (createExpModel cmd (withAsync on values)).flag n = (createExpModel cmd values).flag n := by
  simp [flag_createExpModel (cmd.common n hn), withAsync, Function.update_of_ne hasync]

/-! ## The calls of the executor -/

theorem recordExpModel_response (env : Env) (source : Source) (cmd : Command) {m m' : ExpModel}
    (h : m.flag uidFlag = m'.flag uidFlag) :
    (recordExpModel env source cmd m).2 = (recordExpModel env source cmd m').2 := by
  have hchosen : chosenUid env source m = chosenUid env source m' := by simp [chosenUid, h]
  unfold recordExpModel
  rw [hchosen]
  rcases chosenUid env source m' with e | uid
  · rfl
  rcases parseCommandPath cmd.path with e | ⟨command, subCommand⟩
  · rfl
  simp only [Env.insert]
  rcases env.insertError with _ | e
  · by_cases htaken : (source.query uid).isSome <;> simp [htaken]
  · rfl

attribute [local simp] Run.println Run.record

theorem conclude_executed (env : Env) (cmd : Command) (uid : String) (model : ExpModel)
    (response : Response) (r : Run) :
    (conclude env cmd uid model response r).executed = r.executed := by
  unfold conclude settle finish
  split
  · simp
  split
  · split
    · simp
    · split <;> simp
    · rfl
  · simp

theorem runSync_executed (env : Env) (source : Source) (cmd : Command) (model : ExpModel)
    (uid : String) : (runSync env source cmd model uid).executed = some (uid, model) := by
  unfold runSync report
  split <;> simp [conclude_executed]

attribute [local simp] continueWith actionRunE

theorem executed_inv {env : Env} {uid : String} {model : ExpModel}
    (h : (actionRunE env source cmd values).executed = some (uid, model)) :
    createExpModel cmd values = model ∧ model.flag asyncFlag ≠ "true" ∧ uid ≠ "" ∧
      source.query uid = none := by
  simp only [actionRunE] at h
  generalize createExpModel cmd values = model' at h
  rcases htimeout : checkTimeout (model'.flag timeoutFlag) with _ | e
  · rw [htimeout] at h
    by_cases hnohup : model'.flag nohupFlag = "true"
    · by_cases huid : model'.flag uidFlag = "" <;> simp [hnohup, huid] at h
    · rcases recordExpModel_cases env source cmd model' with
        ⟨row, -, hne, hfree, hrecord⟩ | ⟨resp, hfailure, hrecord⟩
      · by_cases hasync : model'.flag asyncFlag = "true"
        · simp [hnohup, hrecord, returnSuccess, hasync, runAsync] at h
        · simp only [hnohup, hrecord, continueWith, returnSuccess, hasync, runSync_executed,
            Bool.not_true, Bool.false_eq_true, ↓reduceIte] at h
          obtain ⟨rfl, rfl⟩ := h
          exact ⟨rfl, hasync, hne, hfree⟩
      · simp [hnohup, hrecord, hfailure] at h
  · simp [htimeout] at h

theorem child_differs {child : Env} {cmd' : Command} {values' : Values}
    {call : String × ExpModel} (htaken : (source.query call.1).isSome) :
    (actionRunE child source cmd' values').executed.map callView ≠ some (callView call) := by
  intro h
  obtain ⟨⟨uid, model⟩, hcall, hview⟩ := Option.map_eq_some_iff.mp h
  obtain ⟨-, -, -, hfree⟩ := executed_inv hcall
  have huid : uid = call.1 := congrArg Prod.fst hview
  rw [huid] at hfree
  simp [hfree] at htaken

/-! ## The parent -/

/-- No child is started: the timeout is refused, a nohup run has no uid, or the
experiment cannot be recorded or `nohup` cannot be started. -/
def StartsNoChild (env : Env) (source : Source) (cmd : Command) (values : Values) : Prop :=
  let model := createExpModel cmd values
  (checkTimeout (model.flag timeoutFlag)).isSome ∨
  (model.flag nohupFlag = "true" ∧ model.flag uidFlag = "") ∨
  (model.flag nohupFlag ≠ "true" ∧
    ∀ uid, (recordExpModel env source cmd model).2 = returnSuccess (.str uid) →
      ¬ (env.nohup (childLine env cmd (withAsync true values) uid)).success)

theorem asyncAsSync_of_refused {env child : Env} {read : Reader} {e : GoError}
    (h : actionRunE env source cmd (withAsync true values) =
      { source := source, exit := .returned (some e) }) :
    AsyncAsSync env child source cmd values read := by
  simp only [AsyncAsSync, h]
  constructor
  · rintro ⟨p, hp⟩
    cases hp
  · intro line hline
    cases hline

theorem asyncAsSync_recorded {env child : Env} {source' : Source}
    {read : Reader} {uid : String} {model : ExpModel}
    (hparent : actionRunE env source cmd (withAsync true values) =
      runAsync env source' cmd (withAsync true values) uid)
    (hsync : (actionRunE env source cmd (withAsync false values)).executed = some (uid, model))
    (htaken : (source'.query uid).isSome) : AsyncAsSync env child source cmd values read ↔
      ¬ (env.nohup (childLine env cmd (withAsync true values) uid)).success := by
  simp only [AsyncAsSync, hparent, hsync]
  constructor
  · rintro ⟨-, hchild⟩ hstarted
    obtain ⟨cmd', values', -, -, hcalls⟩ := hchild _ (by simp [runAsync, hstarted]; rfl)
    exact child_differs htaken hcalls
  · intro hfailed
    constructor
    · rintro ⟨p, hp⟩
      cases hp
    · intro line hline
      simp [runAsync, hfailed] at hline

/-- An asynchronous create comes to what the synchronous one does exactly if no child is started. -/
theorem asyncAsSync_iff (env child : Env) (source : Source) (cmd : Command) (values : Values)
    (read : Reader) :
    AsyncAsSync env child source cmd values read ↔ StartsNoChild env source cmd values := by
  obtain ⟨hon, hoff⟩ := flag_async cmd values
  have htimeoutFlag := flag_withAsync cmd values (n := timeoutFlag) (by decide) (by decide)
  have hnohupFlag := flag_withAsync cmd values (n := nohupFlag) (by decide) (by decide)
  have huidFlag := flag_withAsync cmd values (n := uidFlag) (by decide) (by decide)
  have hresponse := fun on => recordExpModel_response env source cmd (huidFlag on)
  simp only [StartsNoChild]
  rcases htimeout : checkTimeout ((createExpModel cmd values).flag timeoutFlag) with _ | e
  · by_cases hnohup : (createExpModel cmd values).flag nohupFlag = "true"
    · by_cases huid : (createExpModel cmd values).flag uidFlag = ""
      · refine iff_of_true (asyncAsSync_of_refused
          (e := .response (env.failWithFlags .parameterLess [uidFlag])) ?_) (.inr (.inl ⟨hnohup,
              huid⟩))
        simp [htimeoutFlag, hnohupFlag, huidFlag, htimeout, hnohup, huid]
      · refine iff_of_false (fun h => h.1 ⟨.nilDereference, ?_⟩) (by simp [hnohup, huid])
        simp [htimeoutFlag, hnohupFlag, huidFlag, htimeout, hnohup, huid]
    · rcases recordExpModel_cases env source cmd (createExpModel cmd (withAsync true values)) with
        ⟨row, -, -, hfree, hrecord⟩ | ⟨resp, hfailure, hrecord⟩
      · have hsuccess : (recordExpModel env source cmd (createExpModel cmd values)).2 =
            returnSuccess (.str row.uid) := by rw [← hresponse true, hrecord]
        have hparent : actionRunE env source cmd (withAsync true values) =
            runAsync env (source ++ [row]) cmd (withAsync true values) row.uid := by
          simp [htimeoutFlag, hnohupFlag, htimeout, hnohup, hrecord, returnSuccess, hon]
        have hsync : (actionRunE env source cmd (withAsync false values)).executed =
            some (row.uid, createExpModel cmd (withAsync false values)) := by
          simp [htimeoutFlag, hnohupFlag, htimeout, hnohup, hresponse, hsuccess, returnSuccess,
              hoff, runSync_executed]
        rw [asyncAsSync_recorded hparent hsync (by rw [query_append_of_none hfree]; rfl)]
        simp [hnohup, hsuccess, returnSuccess]
      · have hnone : ∀ uid, (recordExpModel env source cmd (createExpModel cmd values)).2 ≠
            returnSuccess (.str uid) := by
          intro uid huid
          rw [← hresponse true, hrecord] at huid
          have hsuccess : resp.success = true := congrArg Response.success huid
          simp [hfailure] at hsuccess
        refine iff_of_true (asyncAsSync_of_refused (e := .response resp) ?_) (by simp [hnohup,
            hnone])
        simp [htimeoutFlag, hnohupFlag, htimeout, hnohup, hrecord, hfailure]
  · refine iff_of_true (asyncAsSync_of_refused (e := .duration e) ?_) (.inl rfl)
    simp [htimeoutFlag, htimeout]

def childValues : Values := fun name =>
  if name = "nohup" then "true" else if name = "uid" then "cc015e9bd9c68406" else plainValues name

/-- That child panics. -/
theorem asyncCpuLoad_not_sync :
    ¬ AsyncAsSync (answering (returnSuccess (.int 4711))) (answering (returnSuccess (.int 4711))) []
        cpuLoad plainValues (fun _ => some (cpuLoad, childValues)) := by
  rintro ⟨-, hchild⟩
  obtain ⟨cmd', values', hread, hpanics, -⟩ := hchild
    (childLine (answering (returnSuccess (.int 4711))) cpuLoad (withAsync true plainValues)
      "cc015e9bd9c68406") (by decide +kernel)
  cases hread
  exact hpanics ⟨.nilDereference, by decide +kernel⟩

def denotes (tt : String) : Option Nat :=
  match parseUint tt with
  | some n => if 0 < n then some (n * Time.second) else none
  | none =>
    match Time.parseDuration tt with
    | .ok d => if 0 < d then some d.toNat else none
    | .error _ => none

def Padded (scope : String) : Prop := scope = "container" ∨ scope = "pod"

instance (scope : String) : Decidable (Padded scope) := inferInstanceAs (Decidable (_ ∨ _))

/-- A number of seconds is not so large that the minute wraps around; a duration is whole
seconds, or a second and more where there is the minute, or is rounded up. -/
def TimeoutCondition (scope tt : String) : Prop :=
  (∀ n, parseUint tt = some n → Padded scope → n + 60 < 2 ^ 64) ∧
  (∀ d, parseUint tt = none → Time.parseDuration tt = .ok d →
    Time.RoundsUp d ∨ if Padded scope then (Time.second : Int) ≤ d else d % Time.second = 0)

def delay (scope : String) (timeout : Nat) : Nat :=
  if Padded scope then (timeout + 60) % 2 ^ 64 else timeout

/-! ## The delay -/

theorem parseUint_lt {s : String} {n : Nat} (h : parseUint s = some n) : n < 2 ^ 64 := by
  simp only [parseUint] at h
  split_ifs at h with hdigits
  cases h
  simp only [Bool.and_eq_true, decide_eq_true_eq] at hdigits
  exact hdigits.2

theorem number_ends {scope : String} {n : Nat} (hlt : n < 2 ^ 64) :
    n * Time.second ≤ delay scope n * Time.second ↔ (Padded scope → n + 60 < 2 ^ 64) := by
  rw [Nat.mul_le_mul_right_iff (by decide)]
  unfold delay
  split_ifs with hpadded
  · simp only [hpadded, true_implies]
    omega
  · simp [hpadded]

theorem duration_ends (scope : String) (negative : ℚ → Nat) {d : Nat} (hlt : d < 2 ^ 63)
    (hpos : 0 < d) : let timeout := Time.toUint64 negative (Time.seconds d)
    (0 < timeout ∧ d ≤ delay scope timeout * Time.second) ↔
      Time.RoundsUp d ∨ if Padded scope then Time.second ≤ d else d % Time.second = 0 := by
  intro timeout
  have htimeout : timeout = if Time.RoundsUp d then d / second + 1 else d / second :=
    toUint64_seconds negative hlt
  rw [htimeout]
  unfold delay
  by_cases hup : Time.RoundsUp d
  · simp only [hup, true_or, iff_true, second]
    split_ifs <;> omega
  · simp only [hup, false_or, ↓reduceIte, second]
    split_ifs <;> omega

/-! ## The scheduled destroy -/

theorem actionPostRunE_eq {env : Env} {r : Run} {uid : String} {model : ExpModel}
    (hexit : r.exit = .returned none) (hexecuted : r.executed = some (uid, model))
    (hasync : model.flag asyncFlag ≠ "true") (huid : uid ≠ "")
    (htimeout : model.flag timeoutFlag ≠ "") : actionPostRunE env r =
      if 0 < timeoutSeconds env (model.flag timeoutFlag) then
        some ⟨delay model.scope (timeoutSeconds env (model.flag timeoutFlag)), uid⟩ else none := by
  simp only [actionPostRunE, delay, Padded]
  split_ifs <;> simp_all

theorem timeoutSeconds_ends (env : Env) (scope : String) {tt : String} {ns : Nat}
    (hdenotes : denotes tt = some ns) :
    (0 < timeoutSeconds env tt ∧ ns ≤ delay scope (timeoutSeconds env tt) * Time.second) ↔
      TimeoutCondition scope tt := by
  simp only [denotes, timeoutSeconds, TimeoutCondition] at hdenotes ⊢
  rcases hnumber : parseUint tt with _ | n
  · simp only [hnumber] at hdenotes
    rcases hduration : parseDuration tt with e | d
    · simp [hduration] at hdenotes
    · simp only [hduration, ite_none_right_eq_some, some.injEq] at hdenotes
      obtain ⟨hpos, rfl⟩ := hdenotes
      obtain ⟨k, rfl⟩ := Int.eq_ofNat_of_zero_le hpos.le
      have hlt : k < 2 ^ 63 := by exact_mod_cast parseDuration_lt hduration
      have hends := duration_ends scope env.negative hlt (by omega)
      have hsecond : (second : Int) ≤ k ↔ second ≤ k := Int.ofNat_le
      have hwhole : (k : Int) % second = 0 ↔ k % second = 0 := by omega
      simpa only [reduceCtorEq, false_implies, true_and, forall_const, Except.ok.injEq, forall_eq',
        hsecond, hwhole, Int.toNat_natCast] using hends
  · simp only [hnumber, ite_none_right_eq_some, some.injEq] at hdenotes
    obtain ⟨hpos, rfl⟩ := hdenotes
    simp [hpos, number_ends (parseUint_lt hnumber)]

/-- After a create that succeeded, the destroy of its uid is scheduled, and not before
the duration of its timeout is over. -/
def EndsExperiment (env : Env) (r : Run) (uid : String) (ns : Nat) : Prop :=
  ∃ destroy, actionPostRunE env r = some destroy ∧ destroy.uid = uid ∧
    ns ≤ destroy.delay * Time.second

/-- An experiment that was created with a timeout is ended by then exactly if the condition on the
scope and the text of the timeout holds. -/
theorem endsExperiment_iff (env : Env) (source : Source) (cmd : Command) (values : Values)
    {uid : String} {model : ExpModel} {ns : Nat}
    (hexecuted : (actionRunE env source cmd values).executed = some (uid, model))
    (hexit : (actionRunE env source cmd values).exit = .returned none)
    (hdenotes : denotes (model.flag timeoutFlag) = some ns) :
    EndsExperiment env (actionRunE env source cmd values) uid ns ↔
      TimeoutCondition cmd.scope (model.flag timeoutFlag) := by
  obtain ⟨hmodel, hasync, huid, -⟩ := executed_inv hexecuted
  have hscope : model.scope = cmd.scope := by rw [← hmodel]; rfl
  have htimeout : model.flag timeoutFlag ≠ "" := by
    intro hempty
    rw [hempty] at hdenotes
    revert hdenotes
    have : denotes "" = none := by decide +kernel
    simp [this]
  rw [← timeoutSeconds_ends env cmd.scope hdenotes, EndsExperiment,
    actionPostRunE_eq hexit hexecuted hasync huid htimeout, hscope]
  split_ifs with hpos <;> simp [hpos]

def timedRun (tt : String) : Run :=
  actionRunE (answering (returnSuccess (.int 4711))) [] cpuLoad
    (Function.update plainValues timeoutFlag tt)

def timedModel (tt : String) : ExpModel :=
  createExpModel cpuLoad (Function.update plainValues timeoutFlag tt)

/-- Ninety seconds are kept. -/
theorem ninetySeconds_ends :
    EndsExperiment (answering (returnSuccess (.int 4711))) (timedRun "90s") "cc015e9bd9c68406"
      90000000000 := by
  have hexecuted : (timedRun "90s").executed = some ("cc015e9bd9c68406", timedModel "90s") := by
    decide +kernel
  have hexit : (timedRun "90s").exit = .returned none := by decide +kernel
  have htext : (timedModel "90s").flag timeoutFlag = "90s" := by decide +kernel
  have hdenotes : denotes "90s" = some 90000000000 := by decide +kernel
  refine (endsExperiment_iff _ _ _ _ hexecuted hexit (htext ▸ hdenotes)).mpr ?_
  rw [htext]
  have hnumber : parseUint "90s" = none := by decide +kernel
  have hduration : parseDuration "90s" = .ok 90000000000 := by decide +kernel
  refine ⟨by simp [hnumber], fun d _ hd => .inr ?_⟩
  rw [hduration, Except.ok.injEq] at hd
  subst hd
  decide +kernel

/-- Half a second schedules nothing, and a second and a half ends after one. -/
theorem fractions_not_ended :
    ((timedRun "500ms").executed = some ("cc015e9bd9c68406", timedModel "500ms") ∧
      (timedRun "500ms").exit = .returned none ∧
      denotes ((timedModel "500ms").flag timeoutFlag) = some 500000000 ∧
      ¬ EndsExperiment (answering (returnSuccess (.int 4711))) (timedRun "500ms")
        "cc015e9bd9c68406" 500000000) ∧
    ((timedRun "1.5s").executed = some ("cc015e9bd9c68406", timedModel "1.5s") ∧
      (timedRun "1.5s").exit = .returned none ∧
      denotes ((timedModel "1.5s").flag timeoutFlag) = some 1500000000 ∧
      ¬ EndsExperiment (answering (returnSuccess (.int 4711))) (timedRun "1.5s")
        "cc015e9bd9c68406" 1500000000) := by
  have hnone : actionPostRunE (answering (returnSuccess (.int 4711))) (timedRun "500ms") =
      none := by
    decide +kernel
  have hearly : actionPostRunE (answering (returnSuccess (.int 4711))) (timedRun "1.5s") =
      some ⟨1, "cc015e9bd9c68406"⟩ := by decide +kernel
  refine ⟨⟨by decide +kernel, by decide +kernel, by decide +kernel, ?_⟩,
    by decide +kernel, by decide +kernel, by decide +kernel, ?_⟩
  · rintro ⟨destroy, hdestroy, -⟩
    rw [hnone] at hdestroy
    cases hdestroy
  · rintro ⟨destroy, hdestroy, -, hlate⟩
    rw [hearly] at hdestroy
    cases hdestroy
    revert hlate
    decide

end ChaosBlade.Cmd
