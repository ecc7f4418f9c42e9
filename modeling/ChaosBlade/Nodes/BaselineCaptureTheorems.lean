/-
Nodes.BaselineCaptureTheorems: when the commands of the model
stay read-only.

A command passes the check by its template, and its mode decides later
how it is run.
-/
import ChaosBlade.Nodes.BaselineFrameTheorems
import ChaosBlade.Nodes.BaselineTextTheorems
import ChaosBlade.TargetGuard.KubectlNames

namespace ChaosBlade.Nodes

open Py Agent Process Except List Option Traced

variable {T : Cli.FlagTable} {pre : List String}

variable {step : CaptureStep} {args : List String} {p : CaptureProcess} {node : String}
  {place : DebugPlace} {pods : DebugPods} {resolved : List Resolved}
      {commands : List BaselineCommand}

/-! ## Observations -/

section

variable {site : CaptureSite} {answers : CaptureAnswers} {i : Nat} {description : Json}

theorem mem_started_runStep {answer : Except PyError Tools.CommandResult}
    (h : p ∈ (runStep site step args answer).started) : p = ⟨step, site.argv args⟩ := by
  obtain ⟨argv, hargv, rfl⟩ := List.mem_map.mp h
  rw [Tools.mem_started_runCommand hargv]

theorem mem_started_runFallbacks : ∀ {fallbacks : List String} {n : Nat},
    p ∈ (runFallbacks site answers i description pre n fallbacks).started →
      ∃ fb ∈ fallbacks, p = ⟨.observe i, site.argv ("exec" :: pre ++ Shlex.splitArgs fb)⟩
  | [], _, h => by simp [runFallbacks] at h
  | fb :: rest, n, h => by
    rw [runFallbacks] at h
    rcases mem_started_bind.mp h with h | ⟨r, -, h⟩
    · exact ⟨fb, mem_cons_self, mem_started_runStep h⟩
    · split at h
      · simp at h
      · obtain ⟨fb', hmem, hp⟩ := mem_started_runFallbacks h
        exact ⟨fb', mem_cons_of_mem _ hmem, hp⟩

theorem mem_started_runObservation {subcommand vArgs : String}
    (h : p ∈ (runObservation site answers i description subcommand pre vArgs).started) :
    p = ⟨.observe i, site.argv (subcommand :: pre ++ Shlex.splitArgs vArgs)⟩ ∨
      subcommand = "exec" ∧ ∃ stderr, ∃ fb ∈ getIostatFallbackChain vArgs stderr,
        p = ⟨.observe i, site.argv ("exec" :: pre ++ Shlex.splitArgs fb)⟩ := by
  rcases mem_started_bind.mp h with h | ⟨r, -, h⟩
  · exact .inl (mem_started_runStep h)
  · rcases mem_started_bind.mp h with h | ⟨found, -, h⟩
    · unfold fallBack at h
      split at h
      · next hexec =>
        exact .inr ⟨hexec.2, r.stderr, mem_started_runFallbacks h⟩
      · simp at h
    · simp at h

/-! ### The condition on a command -/

/-- The text of the `exec` that a command is run as, and the options in front of it. -/
def execCall (place : DebugPlace) (r : Resolved) (vArgs : String) : Option (List String × String) :=
  if isDebugTwoStep r then
    match place with
    | .debugPod pod => some (["-c", "debugger"], podArgs pod vArgs)
    | .toolPod pod => some ([], podArgs pod vArgs)
    | .nowhere => none
  else if r.subcommand = "exec" then some ([], vArgs) else none

/-- A command that is run as an `exec` was checked as one, and the check says what it runs. -/
def Guarded (T : Cli.FlagTable) (c : BaselineCommand) (place : DebugPlace) (r : Resolved) : Prop :=
  ∀ vArgs pre text, r.vArgs = .str vArgs → execCall place r vArgs = some (pre, text) →
    c.subcommand = "exec" ∧
      ∃ template, c.vArgsTemplate = .str template ∧ RunsWhatIsChecked T template pre text

theorem readOnly_exec {template text : String}
    (hw : ∃ w ∈ allowedExecCommands, wordBehind template = some w)
    (hrun : RunsWhatIsChecked T template pre text)
    (h : p ∈ (runObservation site answers i description "exec" pre text).started) :
    ReadOnly T site p.argv := by
  rcases mem_started_runObservation h with rfl | ⟨-, stderr, fb, hfb, rfl⟩
  · obtain ⟨w, hmem, hw⟩ := hw
    obtain ⟨w', hw', htext⟩ := hrun.kept
    obtain rfl : w = w' := some.inj (hw.symm.trans hw')
    exact ⟨"exec", pre ++ Shlex.splitArgs text, rfl,
        .inr ⟨rfl, w, by rw [hrun.run, htext]; rfl, hmem⟩⟩
  · obtain ⟨w, hmem, hw⟩ := wordBehind_fallback hfb
    exact ⟨"exec", pre ++ Shlex.splitArgs fb, rfl,
      .inr ⟨rfl, w, by rw [hrun.fallback stderr fb hfb, hw]; rfl, hmem⟩⟩

/-- How a command is run: as its `exec`, or by its own subcommand. -/
theorem mem_started_observe {r : Resolved} (h : p ∈ (observe site answers place i r).started) :
    ∃ vArgs, r.vArgs = .str vArgs ∧
      ((∃ pre text, execCall place r vArgs = some (pre, text) ∧
        p ∈ (runObservation site answers i r.description "exec" pre text).started) ∨
      r.subcommand ≠ "exec" ∧
        p ∈ (runObservation site answers i r.description r.subcommand [] vArgs).started) := by
  unfold observe at h
  split at h
  · next vArgs hargs =>
    refine ⟨vArgs, hargs, ?_⟩
    split at h
    · next hmode =>
      split at h
      · exact .inl ⟨_, _, by simp [execCall, hmode], h⟩
      · exact .inl ⟨_, _, by simp [execCall, hmode], h⟩
      · simp at h
    · next hmode =>
      by_cases hexec : r.subcommand = "exec"
      · rw [hexec] at h
        exact .inl ⟨[], vArgs, by simp [execCall, hmode, hexec], h⟩
      · exact .inr ⟨hexec, h⟩
  · simp at h

theorem readOnly_observe {c : BaselineCommand} {r : Resolved} (hacc : Accepted c)
    (hsub : r.subcommand = c.subcommand) (hguard : Guarded T c place r)
    (h : p ∈ (observe site answers place i r).started) : ReadOnly T site p.argv := by
  obtain ⟨vArgs, hargs, ⟨pre, text, hcall, h⟩ | ⟨hexec, h⟩⟩ := mem_started_observe h
  · obtain ⟨hexec, template, htemplate, hrun⟩ := hguard vArgs pre text hargs hcall
    obtain ⟨w, hw, -⟩ := hrun.kept
    obtain ⟨⟨front, back⟩, hsplit, rfl⟩ := map_eq_some_iff.mp hw
    exact readOnly_exec ⟨_, hacc.exec hexec template front back htemplate hsplit, hw⟩ hrun h
  · rcases mem_started_runObservation h with rfl | ⟨hsub', -⟩
    · refine ⟨r.subcommand, _, rfl, .inl ?_⟩
      have hall := hacc.subcommand
      rw [← hsub] at hall
      simpa [hexec] using hall
    · exact absurd hsub' hexec

/-! ## Rounds -/

def CaptureStep.isOwn : CaptureStep → Bool
  | .debugPod | .wait | .poll | .delete => true
  | .toolPods | .observe _ => false

theorem mem_started_runPatient {answer : Except PyError (Option Tools.CommandResult)}
    (h : p ∈ (runPatient site step args answer).started) : p.step = step := by
  unfold runPatient at h
  split at h
  · rw [mem_singleton.mp h]
  · simp at h

theorem mem_started_pollReady {pod : String} : ∀ {n : Nat},
    p ∈ (pollReady site answers node pod n).started → p.step = .poll
  | 0, h => by simp [pollReady] at h
  | n + 1, h => by
    rw [pollReady] at h
    rcases mem_started_bind.mp h with h | ⟨r, -, h⟩
    · exact mem_started_runPatient h
    · split at h
      · simp at h
      · exact mem_started_pollReady h

theorem mem_started_create
    (h : p ∈ (createAndWaitDebugPod site answers node).started) : p.step.isOwn = true := by
  rcases mem_started_bind.mp h with h | ⟨r, -, h⟩
  · rw [mem_started_runStep h]
    rfl
  split at h
  · simp at h
  rcases mem_started_bind.mp h with h | ⟨ready, -, h⟩
  · rcases mem_started_bind.mp h with h | ⟨w, -, h⟩
    · rw [mem_started_runPatient h]
      rfl
    · split at h
      · simp at h
      · rw [mem_started_pollReady h]
        rfl
  · simp at h

theorem mem_started_preparePods : ∀ {nodes : List String} {pods : DebugPods},
    p ∈ (preparePods site answers nodes pods).started →
      p.step.isOwn = true ∨ p = ⟨.toolPods, site.argv Tools.listToolPods⟩
  | [], _, h => by simp [preparePods] at h
  | node :: rest, pods, h => by
    rw [preparePods] at h
    rcases mem_started_bind.mp h with h | ⟨made, -, h⟩
    · exact .inl (mem_started_create h)
    cases made with
    | some pod => exact mem_started_preparePods h
    | none =>
      rcases mem_started_bind.mp h with h | ⟨found, -, h⟩
      · rcases mem_started_bind.mp h with h | ⟨r, -, h⟩
        · exact .inr (mem_started_runStep h)
        · simp at h
      · cases found <;> exact mem_started_preparePods h

theorem mem_started_deletePods : ∀ {names : List String},
    p ∈ (deletePods site answers names).started → p.step = .delete
  | [], h => by simp [deletePods] at h
  | pod :: rest, h => by
    rw [deletePods] at h
    rcases mem_started_bind.mp h with h | ⟨done, -, h⟩
    · rcases mem_started_bind.mp h with h | ⟨r, -, h⟩
      · rw [mem_started_runStep h]
      · simp at h
    · exact mem_started_deletePods h

/-! ### The observations of a round -/

theorem mem_started_observeAll :
    ∀ {resolved : List Resolved} {i : Nat}, p ∈ (observeAll site answers pods i resolved).started →
      ∃ j c, resolved[j]? = some c ∧ c.unresolved = false ∧
        p ∈ (observe site answers (pods.place c.nodeName) (i + j) c).started
  | [], i, h => by simp [observeAll] at h
  | c :: rest, i, h => by
    have hshift : p ∈ (observeAll site answers pods (i + 1) rest).started →
        ∃ j c', (c :: rest)[j]? = some c' ∧ c'.unresolved = false ∧
          p ∈ (observe site answers (pods.place c'.nodeName) (i + j) c').started := by
      intro hrest
      obtain ⟨j, c', hj, hres, hp⟩ := mem_started_observeAll hrest
      refine ⟨j + 1, c', by simpa using hj, hres, ?_⟩
      rwa [Nat.add_right_comm] at hp
    rw [observeAll] at h
    split at h
    · exact hshift h
    · next hres =>
      rcases mem_started_bind.mp h with h | ⟨obs, -, h⟩
      · refine ⟨0, c, rfl, by simpa using hres, ?_⟩
        simpa using h
      · rcases mem_started_bind.mp h with h | ⟨more, -, h⟩
        · exact hshift h
        · simp at h

theorem step_of_observe {r : Resolved}
    (h : p ∈ (observe site answers place i r).started) : p.step = .observe i := by
  have hrun : ∀ {subcommand vArgs pre}, p ∈ (runObservation site answers i r.description subcommand
      pre vArgs).started → p.step = .observe i := by
    intro subcommand vArgs pre h
    rcases mem_started_runObservation h with rfl | ⟨-, stderr, fb, -, rfl⟩ <;> rfl
  obtain ⟨vArgs, -, ⟨pre, text, -, h⟩ | ⟨-, h⟩⟩ := mem_started_observe h
  · exact hrun h
  · exact hrun h

theorem mem_started_executeObservations
    (h : p ∈ (executeObservations site answers resolved).started) :
    p.step.isOwn = true ∨ p = ⟨.toolPods, site.argv Tools.listToolPods⟩ ∨
      ∃ pods, (preparePods site answers (debugNodes site resolved) {}).result = .ok pods ∧
        p ∈ (observeAll site answers pods 0 resolved).started := by
  rcases mem_started_bind.mp h with h | ⟨pods, hpods, h⟩
  · exact (mem_started_preparePods h).imp_right .inl
  rcases mem_started_bind.mp h with h | ⟨observations, -, h⟩
  · exact .inr (.inr ⟨pods, hpods, h⟩)
  rcases mem_started_bind.mp h with h | ⟨done, -, h⟩
  · rw [mem_started_deletePods h]
    exact .inl rfl
  · simp at h

/-! ### Templates that are resolved -/

theorem subcommand_resolveTemplate {values : TemplateValues} {c : BaselineCommand} {r : Resolved}
    (h : resolveTemplate values c = .ok r) : r.subcommand = c.subcommand := by
  obtain ⟨r₁, -, h⟩ := bind_eq_ok.mp h
  obtain ⟨r₂, -, h⟩ := bind_eq_ok.mp h
  obtain ⟨r₃, -, h⟩ := bind_eq_ok.mp h
  obtain ⟨r₄, -, h⟩ := bind_eq_ok.mp h
  obtain ⟨inDebugPod, -, h⟩ := bind_eq_ok.mp h
  -- the mode, the namespace of a debug pod, the missing values
  simp only [bind, Except.bind, pure, Except.pure] at h
  repeat' split at h
  all_goals cases h
  all_goals rfl

theorem get_of_resolveTemplates {spec : FaultSpec}
    (h : resolveTemplates (some spec) commands = .ok resolved)
    {j : Nat} {r : Resolved} (hj : resolved[j]? = some r) :
    ∃ c, commands[j]? = some c ∧ resolveTemplate (templateValues spec) c = .ok r := by
  have hall := mapM_eq_ok.mp (show commands.mapM (resolveTemplate (templateValues spec)) = _ from h)
  clear h
  induction hall generalizing j with
  | nil => simp at hj
  | cons hc _ ih =>
    cases j with
    | zero =>
      cases hj
      exact ⟨_, rfl, hc⟩
    | succ j => exact ih hj

def CaptureStep.IsFor (n : Nat) : CaptureStep → Prop
  | .observe i => i < n
  | .toolPods => True
  | .debugPod | .wait | .poll | .delete => False

theorem CaptureStep.IsFor.not_isOwn {n : Nat} (h : step.IsFor n) : step.isOwn = false := by
  cases step with
  | observe i => rfl
  | toolPods => rfl
  | _ => exact h.elim

theorem readOnly_round {spec : Option FaultSpec} {n : Nat}
    (hres : resolveTemplates spec commands = .ok resolved)
    (hacc : ∀ i < n, ∀ c ∈ commands[i]?, Accepted c)
    (hguard : ∀ i < n, p.step = .observe i → ∀ c ∈ commands[i]?, ∀ r ∈ resolved[i]?,
      ∀ pods, (preparePods site answers (debugNodes site resolved) {}).result = .ok pods →
        Guarded T c (pods.place r.nodeName) r)
    (h : p ∈ (executeObservations site answers resolved).started) (hfor : p.step.IsFor n) :
    ReadOnly T site p.argv := by
  rcases mem_started_executeObservations h with hown | rfl | ⟨pods, hpods, h⟩
  · rw [hfor.not_isOwn] at hown
    cases hown
  · exact ⟨"get", Tools.listToolPods.tail, rfl, .inl (by simp)⟩
  obtain ⟨j, r, hj, hr, h⟩ := mem_started_observeAll h
  rw [Nat.zero_add] at h
  have hstep := step_of_observe h
  rw [hstep] at hfor
  have hjn : j < n := hfor
  cases spec with
  | none =>
    cases hres
    rw [List.getElem?_map] at hj
    obtain ⟨c, -, rfl⟩ := map_eq_some_iff.mp hj
    cases hr
  | some spec =>
    obtain ⟨c, hc, hresolve⟩ := get_of_resolveTemplates hres hj
    exact readOnly_observe (hacc j hjn c hc) (subcommand_resolveTemplate hresolve)
      (hguard j hjn hstep c hc r hj pods hpods) h

end

/-! ## Runs -/

theorem mem_of_selectStrategy {t : Tables} {spec : Option FaultSpec} {source : Source}
    {commands : CommandList} : ∀ {options : List (Source × CommandList)},
      selectStrategy t spec options = .ok (source, commands) →
        (source, commands) ∈ options ∨ source = .none
  | [], h => by
    cases h
    exact .inr rfl
  | (source', commands') :: rest, h => by
    rw [selectStrategy] at h
    split at h
    · exact (mem_of_selectStrategy h).imp_left (mem_cons_of_mem _)
    obtain ⟨ok, -, h⟩ := bind_eq_ok.mp h
    split at h
    · cases h
      exact .inl mem_cons_self
    · exact (mem_of_selectStrategy h).imp_left (mem_cons_of_mem _)

theorem supplement_fresh_append (scope : String) (t : Tables) : ∀ (dims : List String)
    (cmds : List BaselineCommand), ∃ more,
      (dims.foldl (supplementDimension scope) (t, .fresh cmds)) = (t, .fresh (cmds ++ more))
  | [], cmds => ⟨[], by simp⟩
  | dim :: dims, cmds => by
    rw [foldl_cons]
    rcases supplementDimension_cases scope dim t (.fresh cmds) with h | ⟨cmd, h⟩ <;> rw [h]
    · exact supplement_fresh_append scope t dims cmds
    · obtain ⟨more, hmore⟩ := supplement_fresh_append scope t dims (cmds ++ [cmd])
      exact ⟨cmd :: more, by simpa [CommandList.append] using hmore⟩

theorem firstCommands_of_llm {t : Tables} {x : CaptureRun}
    (h : firstCommands t x = .ok (.llm, commands)) : ∃ more, commands = x.derived 0 ++ more := by
  unfold firstCommands captureCommands at h
  split at h
  · cases h
  next source list hselect =>
  obtain ⟨rfl, rfl⟩ := h
  have hlist : list = .fresh (x.derived 0) := by
    rcases mem_of_selectStrategy hselect with hmem | hnone
    · simpa [strategies] using hmem
    · cases hnone
  subst hlist
  obtain ⟨more, hmore⟩ := supplement_fresh_append _ t _ (x.derived 0)
  rw [hmore]
  exact ⟨more, rfl⟩

def modelCommands (t : Tables) (x : CaptureRun) (round : Nat) : List BaselineCommand :=
  if round = 0 ∧ (firstCommands t x).toOption.map Prod.fst ≠ some .llm then [] else x.derived round

def DiagnosticsOnly (T : Cli.FlagTable) (t : Tables) (x : CaptureRun) : Prop :=
  ∀ round p, (round, p) ∈ (baselineCapture t x).started →
    p.step.IsFor (modelCommands t x round).length → ReadOnly T x.site p.argv

def roundCommands (t : Tables) (x : CaptureRun) (round : Nat) : List BaselineCommand :=
  if round = 0 then ((firstCommands t x).toOption.map Prod.snd).getD [] else x.derived round

/-- The commands of a round with their variables filled in. -/
def CaptureRun.roundResolved (t : Tables) (x : CaptureRun) (round : Nat) : List Resolved :=
  (resolveTemplates x.spec (roundCommands t x round)).toOption.getD []

/-- Every command of the model that starts a process is guarded, in the pod it is run in. -/
def CaptureRun.Guarded (T : Cli.FlagTable) (t : Tables) (x : CaptureRun) : Prop :=
  ∀ round i argv, (round, ⟨.observe i, argv⟩) ∈ (baselineCapture t x).started →
    ∀ c ∈ (modelCommands t x round)[i]?, ∀ r ∈ (x.roundResolved t round)[i]?, ∀ pods,
      (preparePods x.site (x.answers round) (debugNodes x.site (x.roundResolved t round))
          {}).result =
        .ok pods → Nodes.Guarded T c (pods.place r.nodeName) r

section

variable {T : Cli.FlagTable} {t : Tables} {x : CaptureRun}

theorem accepted_of_derived {round i : Nat} {more : List BaselineCommand}
    (hi : i < (x.derived round).length) {c : BaselineCommand}
    (hc : c ∈ (x.derived round ++ more)[i]?) : Accepted c := by
  rw [List.getElem?_append_left hi] at hc
  have hmem : c ∈ x.derived round := mem_of_getElem? hc
  unfold CaptureRun.derived at hmem
  split at hmem
  · exact accepted_of_mem hmem
  · cases hretry : x.retries round with
    | none => simp [hretry] at hmem
    | some answer => exact accepted_of_mem (by simpa [hretry] using hmem)

/-- A round whose commands begin with those of the model. -/
theorem readOnly_modelRound (hx : x.Guarded T t) {round : Nat} {more : List BaselineCommand}
    (hmodel : modelCommands t x round = x.derived round)
    (hround : roundCommands t x round = x.derived round ++ more)
    (hres : resolveTemplates x.spec (x.derived round ++ more) = .ok resolved)
    (hrun : (round, p) ∈ (baselineCapture t x).started)
    (h : p ∈ (executeObservations x.site (x.answers round) resolved).started)
    (hfor : p.step.IsFor (x.derived round).length) : ReadOnly T x.site p.argv := by
  have hresolved : x.roundResolved t round = resolved := by
    simp [CaptureRun.roundResolved, hround, hres, Except.toOption]
  refine readOnly_round hres (fun i hi c hc => accepted_of_derived hi hc) ?_ h hfor
  intro i hi hstep c hc r hr pods hpods
  obtain ⟨step, argv⟩ := p
  obtain rfl : step = .observe i := hstep
  rw [List.getElem?_append_left hi] at hc
  rw [← hresolved] at hr hpods
  exact hx round i argv hrun c (by rwa [hmodel]) r hr pods hpods

theorem mem_started_executeRound {round r : Nat}
    (h : (r, p) ∈ (executeRound x round resolved).started) :
    r = round ∧ p ∈ (executeObservations x.site (x.answers round) resolved).started := by
  obtain ⟨q, hq, heq⟩ := List.mem_map.mp h
  cases heq
  exact ⟨rfl, hq⟩

theorem mem_started_retryRounds {r : Nat} : ∀ {left round : Nat}
    {observations : List BaselineObservation},
      (r, p) ∈ (retryRounds x left round observations).started → round ≤ r ∧
        ∃ resolved, resolveTemplates x.spec (x.derived r) = .ok resolved ∧
          p ∈ (executeObservations x.site (x.answers r) resolved).started
  | 0, round, observations, h => by simp [retryRounds] at h
  | left + 1, round, observations, h => by
    rw [retryRounds] at h
    split at h
    · simp at h
    split at h
    · simp at h
    rcases mem_started_bind.mp h with h | ⟨resolved, hres, h⟩
    · simp at h
    split at h
    · simp at h
    rcases mem_started_bind.mp h with h | ⟨more, -, h⟩
    · obtain ⟨rfl, h⟩ := mem_started_executeRound h
      exact ⟨le_refl _, resolved, hres, h⟩
    · obtain ⟨hle, hrest⟩ := mem_started_retryRounds h
      exact ⟨by omega, hrest⟩

end

def diskRun : CaptureRun where
  spec := some { ns := "prod", scope := "pod", names := ["web"] }
  llm := [.obj [("subcommand", .str "exec"),
    ("v_args_template", .str "'\x7bpod_name\x7d' -n \x7bnamespace\x7d -- df -h")]]

theorem diskRun_started : (baselineCapture moduleTables diskRun).started =
    [(0, ⟨.observe 0, ["kubectl", "exec", "web", "-n", "prod", "--", "df", "-h"]⟩)] := by
  decide +kernel

theorem diskRun_guarded : diskRun.Guarded TargetGuard.kubectlFlags moduleTables := by
  intro round i argv hrun c hc r hr pods _ vArgs pre text hargs hcall
  rw [diskRun_started] at hrun
  obtain ⟨rfl, hp⟩ := Prod.mk.inj (mem_singleton.mp hrun)
  obtain ⟨hi, -⟩ := CaptureProcess.mk.inj hp
  obtain rfl := CaptureStep.observe.inj hi
  have hmodel : (modelCommands moduleTables diskRun 0)[0]? = some (tableCommand "" "exec"
      "'\x7bpod_name\x7d' -n \x7bnamespace\x7d -- df -h") := by rfl
  have hresolved : (diskRun.roundResolved moduleTables 0)[0]? = some
      { description := .str "", subcommand := "exec", vArgs := .str "'web' -n prod -- df -h"
        mode := .str "simple", unresolved := false, nodeName := "web" } := by rfl
  obtain rfl := some.inj (hmodel.symm.trans hc)
  obtain rfl := some.inj (hresolved.symm.trans hr)
  obtain rfl := Json.str.inj hargs
  obtain ⟨rfl, rfl⟩ := Prod.mk.inj (some.inj hcall)
  refine ⟨rfl, _, rfl, ⟨"df", by decide +kernel, by decide +kernel⟩, by decide +kernel, ?_⟩
  intro stderr fb hfb
  have hnone : iostatFallbackChain.lookup (strip " df -h") = none := by decide +kernel
  have hsplit : splitOnce "--" "'web' -n prod -- df -h" = some ("'web' -n prod ", " df -h") := by
    decide +kernel
  simp [getIostatFallbackChain, hsplit, hnone] at hfb

def removalRun : CaptureRun where
  spec := some { scope := "node", names := ["n1"] }
  llm := [.obj [("subcommand", .str "get"),
    ("v_args_template", .str "\x7bdebug_pod\x7d -n chaosblade -- rm -rf /data")]]
  answers _ :=
    { debugPod := fun _ => .ok { stdout :=
        "Creating debugging pod node-debugger-n1-x with container debugger on node n1." }
      wait := fun _ => .ok (some {}) }

end ChaosBlade.Nodes
