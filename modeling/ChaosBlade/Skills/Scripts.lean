/-
Skills.Scripts: `execute_script` of `skills/registry.py`:
which script it runs, and with which arguments.

A skill brings scripts in its `scripts/` directory. `executeScript` checks
the name and the parameters it was given, puts the command together and
starts it without the guard that other commands pass. `prepareScript` is
everything up to the start; what the process answers is an input. The
containment check compares texts, so it also lets through what is in a
sibling directory whose name starts with `scripts`
(`Location.of_startsWith_text`), the directory itself, and a directory
instead of a script.
-/
import ChaosBlade.Fs.Tree
import ChaosBlade.Py.Shlex
import ChaosBlade.Tools.GuardTheorems

namespace ChaosBlade.Skills

open Py Fs Tools

inductive ScriptErrorClass where
  | keyError
  | scriptExecutionError
  | scriptTimeoutError
  | valueError
  | runtimeError
  /-- Whatever else `run_command` raises. -/
  | exception

structure ScriptError where
  cls : ScriptErrorClass
  msg : String

/-- The class `ScriptInfo`, without the texts for the model. -/
structure ScriptInfo where
  name : String
  interpreter : Option String := none
  timeout : Option Int := none
  deriving DecidableEq

/-- A registered skill: its directory, and what is read of its metadata. -/
structure SkillEntry where
  dir : PurePath
  scripts : List ScriptInfo := []
  requiredTools : List String := []
  deriving DecidableEq

/-- The registry with the settings and the machine it works on. -/
structure SkillRegistry where
  host : Host
  skills : List (String × SkillEntry)
  /-- `sys.executable` -/
  executable : String
  which : String → Option String
  kubeconfigPath : String
  timeoutSkillScript : Int
  skillScriptMaxOutput : Nat

/-- What is handed to `run_command`: the command is the interpreter, the text of the
script's location, and the arguments. -/
structure Launch where
  interpreter : String
  script : Location
  args : List String
  envOverride : Option (List (String × String))
  timeout : Int
  deriving DecidableEq

def Launch.cmd (launch : Launch) : List String :=
  launch.interpreter :: launch.script.text :: launch.args

def allowedScriptExtensions : List String := [".py", ".sh"]

def resolveScript (h : Host) (p : PurePath) : Except ScriptError Location :=
  match h.resolve p with
  | some loc => .ok loc
  | none => .error ⟨.runtimeError, h.osError p⟩

def isBlacklisted (text : String) : Bool :=
  paramBlacklistPatterns.any fun pattern => (pattern.search text).isSome

def checkScript (h : Host) (skillName : String) (skillDir : PurePath) (scriptName params : String) :
    Except ScriptError Location := do
  let scriptsDir ← resolveScript h (skillDir.div "scripts")
  let scriptPath ← resolveScript h ((skillDir.div "scripts").div scriptName)
  if !startsWith scriptPath.text scriptsDir.text then
    .error ⟨.scriptExecutionError, "Path traversal blocked: '" ++ scriptName ++
      "' resolves outside scripts/ directory"⟩
  else if scriptPath.suffix ∉ allowedScriptExtensions then
    .error ⟨.scriptExecutionError, "Script type not allowed: '" ++ scriptName ++
      "' (allowed: .py, .sh)"⟩
  else if !h.pathExists (Location.path scriptPath) then
    .error ⟨.scriptExecutionError, "Script not found: '" ++ scriptName ++ "' in skill '" ++
      skillName ++ "'"⟩
  else if params ≠ "" ∧ isBlacklisted params then
    .error ⟨.scriptExecutionError, "Dangerous pattern detected in script parameters"⟩
  else .ok scriptPath

def getScriptMetadata (skill : SkillEntry) (scriptName : String) : Option ScriptInfo :=
  skill.scripts.find? fun s => s.name = scriptName

def selectInterpreter (reg : SkillRegistry) (info : Option ScriptInfo)
    (script : Location) : String :=
  match (info.bind ScriptInfo.interpreter).filter (· ≠ "") with
  | some interpreter => interpreter
  | none =>
    if script.suffix = ".py" then reg.executable
    else ((reg.which "bash").or (reg.which "sh")).getD "/bin/sh"

/-- The arguments of step 7; an open quote raises, and so does an open escape, whose
own error text is left out. -/
def scriptArgs (params : String) : Except ScriptError (List String) :=
  if params = "" then .ok []
  else match Shlex.split params with
    | some args => .ok args
    | none => .error ⟨.valueError, "No closing quotation"⟩

def scriptEnv (reg : SkillRegistry) (skill : SkillEntry) :
    Except ScriptError (Option (List (String × String))) :=
  if "kubectl" ∈ skill.requiredTools ∧ reg.kubeconfigPath ≠ "" then
    match reg.host.expanduser (.ofText reg.kubeconfigPath) with
    | some p => .ok (some [("KUBECONFIG", p.text)])
    | none => .error ⟨.runtimeError, "Could not determine home directory."⟩
  else .ok none

def scriptTimeout (reg : SkillRegistry) (info : Option ScriptInfo) (timeout : Option Int) : Int :=
  let chosen := timeout.or (info.bind ScriptInfo.timeout)
  match chosen.filter (· ≠ 0) with
  | some t => t
  | none => reg.timeoutSkillScript

def prepareScript (reg : SkillRegistry) (skillName scriptName params : String)
    (timeout : Option Int) : Except ScriptError Launch :=
  match reg.skills.lookup skillName with
  | none => .error ⟨.keyError, "Skill not found: " ++ skillName⟩
  | some skill => do
    let script ← checkScript reg.host skillName skill.dir scriptName params
    let info := getScriptMetadata skill scriptName
    let args ← scriptArgs params
    let envOverride ← scriptEnv reg skill
    pure
      { interpreter := selectInterpreter reg info script
        script, args, envOverride
        timeout := scriptTimeout reg info timeout }

/-! ## The process and its output -/

inductive ProcessEnd where
  /-- The result, with the text of its duration. -/
  | result (r : CommandResult) (duration : String)
  | timedOut (msg : String)
  | raised (msg : String)

def formatScriptOutput (maxStdout : Nat) (scriptName : String) (r : CommandResult)
    (duration : String) : String :=
  let header := "[Script: " ++ scriptName ++ "] Exit code: " ++ toString r.exitCode ++
    " | Duration: " ++ duration ++ "ms"
  let total := r.stdout.toList.length
  let failed := if r.exitCode ≠ 0 then
    ["[ERROR] Script failed with exit code " ++ toString r.exitCode ++ "."] else []
  let truncated := if total > maxStdout then
    ["... (truncated, " ++ toString total ++ " characters total)"] else []
  let stderr := if strip r.stderr ≠ "" then
    ["--- STDERR ---", String.ofList (r.stderr.toList.take 1000)] else []
  join "\n" (failed ++
    [header, "--- STDOUT ---", String.ofList (r.stdout.toList.take maxStdout)] ++ truncated ++
        stderr)

/-- `execute_script`: the processes it starts, and what it returns or raises. -/
def executeScript (reg : SkillRegistry) (skillName scriptName params : String)
    (timeout : Option Int) (answer : Launch → ProcessEnd) :
    List Launch × Except ScriptError String :=
  match prepareScript reg skillName scriptName params timeout with
  | .error e => ([], .error e)
  | .ok launch =>
    ([launch], match answer launch with
      | .result r duration =>
        .ok (formatScriptOutput reg.skillScriptMaxOutput scriptName r duration)
      | .timedOut msg => .error ⟨.scriptTimeoutError, msg⟩
      | .raised msg => .error ⟨.exception, msg⟩)

variable {dir loc : Location} {launch : Launch} {args : List String}

/-- The script is a file strictly inside the skill's `scripts/` directory, and no
argument has a blacklisted pattern in it. -/
def InBox (reg : SkillRegistry) (skillName : String) (launch : Launch) : Prop :=
  (∃ skill dir loc, reg.skills.lookup skillName = some skill ∧
    reg.host.resolve (skill.dir.div "scripts") = some dir ∧
    reg.host.stat launch.script.path = some loc ∧ reg.host.tree.isDir loc = false ∧
    dir.Below loc) ∧
  ∀ arg ∈ launch.args, isBlacklisted arg = false

def StaysInBox (reg : SkillRegistry) (skillName scriptName params : String)
    (timeout : Option Int) (answer : Launch → ProcessEnd) : Prop :=
  ∀ launch ∈ (executeScript reg skillName scriptName params timeout answer).1,
    InBox reg skillName launch

/-! ## Inversion -/

section

variable {reg : SkillRegistry} {skillName scriptName params : String} {timeout : Option Int}

structure Passes (h : Host) (dir loc : Location) (params : String) : Prop where
  startsWith : startsWith loc.text dir.text = true
  suffix : loc.suffix ∈ allowedScriptExtensions
  found : h.pathExists loc.path = true
  params : params = "" ∨ isBlacklisted params = false

theorem resolveScript_ok {h : Host} {p : PurePath} :
    resolveScript h p = .ok loc ↔ h.resolve p = some loc := by
  unfold resolveScript
  cases h.resolve p <;> simp

theorem checkScript_ok {h : Host} {skillDir : PurePath} :
    checkScript h skillName skillDir scriptName params = .ok loc ↔
      ∃ dir, h.resolve (skillDir.div "scripts") = some dir ∧
        h.resolve ((skillDir.div "scripts").div scriptName) = some loc ∧
        Passes h dir loc params := by
  unfold checkScript
  simp only [bind_eq_ok, resolveScript_ok]
  refine exists_congr fun dir => and_congr_right fun _ => ?_
  constructor
  · rintro ⟨loc', hloc, hrest⟩
    split at hrest
    · exact absurd hrest nofun
    rename_i hstarts
    split at hrest
    · exact absurd hrest nofun
    rename_i hsuffix
    split at hrest
    · exact absurd hrest nofun
    rename_i hfound
    split at hrest
    · exact absurd hrest nofun
    rename_i hparams
    cases hrest
    refine ⟨hloc, by simpa using hstarts, by simpa using hsuffix, by simpa using hfound, ?_⟩
    rw [not_and_or, not_not, Bool.not_eq_true] at hparams
    exact hparams
  · rintro ⟨hloc, hstarts, hsuffix, hfound, hparams⟩
    have hclean : ¬ (params ≠ "" ∧ isBlacklisted params = true) := by
      rw [not_and_or, not_not, Bool.not_eq_true]
      exact hparams
    exact ⟨loc, hloc, by simp [hstarts, hsuffix, hfound, hclean]⟩

def Starts (reg : SkillRegistry) (skillName scriptName params : String) (dir loc : Location)
    (args : List String) : Prop :=
  ∃ skill env, reg.skills.lookup skillName = some skill ∧
    reg.host.resolve (skill.dir.div "scripts") = some dir ∧
    reg.host.resolve ((skill.dir.div "scripts").div scriptName) = some loc ∧
    Passes reg.host dir loc params ∧ scriptArgs params = .ok args ∧ scriptEnv reg skill = .ok env

theorem prepareScript_ok (h : prepareScript reg skillName scriptName params timeout = .ok launch) :
    ∃ dir, Starts reg skillName scriptName params dir launch.script launch.args := by
  unfold prepareScript at h
  cases hskill : reg.skills.lookup skillName with
  | none => simp [hskill] at h
  | some skill =>
    simp only [hskill, bind_eq_ok] at h
    obtain ⟨script, hscript, args, hargs, env, henv, hlaunch⟩ := h
    cases hlaunch
    obtain ⟨dir, hdir, hloc, hpasses⟩ := checkScript_ok.mp hscript
    exact ⟨dir, skill, env, hskill, hdir, hloc, hpasses, hargs, henv⟩

theorem prepareScript_of_starts (timeout : Option Int)
    (h : Starts reg skillName scriptName params dir loc args) :
    ∃ launch, prepareScript reg skillName scriptName params timeout = .ok launch ∧
      launch.script = loc ∧ launch.args = args := by
  obtain ⟨skill, env, hskill, hdir, hloc, hpasses, hargs, henv⟩ := h
  have hscript : checkScript reg.host skillName skill.dir scriptName params = .ok loc :=
    checkScript_ok.mpr ⟨dir, hdir, hloc, hpasses⟩
  simp [prepareScript, hskill, hscript, hargs, henv, bind, Except.bind, pure, Except.pure]

theorem mem_started {answer : Launch → ProcessEnd} :
    launch ∈ (executeScript reg skillName scriptName params timeout answer).1 ↔
      prepareScript reg skillName scriptName params timeout = .ok launch := by
  unfold executeScript
  cases prepareScript reg skillName scriptName params timeout <;> simp [eq_comm]

/-! ## Arguments -/

theorem isBlacklisted_of_piece {piece text : String} (hpiece : piece.toList <:+: text.toList)
    (h : isBlacklisted piece = true) : isBlacklisted text = true := by
  obtain ⟨pattern, hmem, hfound⟩ := List.any_eq_true.mp h
  exact List.any_eq_true.mpr
    ⟨pattern, hmem, Regex.search_of_infix (free_of_mem_patterns hmem) hpiece hfound⟩

section

variable (h : Starts reg skillName scriptName params dir loc args)
include h

theorem Starts.args_clean :
    ∀ arg ∈ args, arg.toList <:+: params.toList → isBlacklisted arg = false := by
  obtain ⟨skill, env, -, -, -, hpasses, hargs, -⟩ := h
  intro arg hmem hpiece
  rcases hpasses.params with hempty | hclean
  · simp only [scriptArgs, hempty, ↓reduceIte, Except.ok.injEq] at hargs
    simp [← hargs] at hmem
  · by_contra hbad
    rw [isBlacklisted_of_piece hpiece (by simpa using hbad)] at hclean
    exact absurd hclean nofun

/-! ## The script -/

theorem Starts.stat : reg.host.stat loc.path = some loc := by
  obtain ⟨skill, env, -, -, hloc, hpasses, -, -⟩ := h
  obtain ⟨loc', hstat⟩ := Option.isSome_iff_exists.mp hpasses.found
  rw [hstat, Host.stat_resolved hloc hstat]

theorem Starts.below_iff : dir.Below loc ↔ ¬ dir.Beside loc ∧ loc ≠ dir := by
  obtain ⟨skill, env, -, -, -, hpasses, -, -⟩ := h
  constructor
  · rintro ⟨rest, hrest, rfl⟩
    exact ⟨fun hbeside => hbeside.not_prefix ⟨rest, rfl⟩, by simpa using hrest⟩
  · rintro ⟨hbeside, hne⟩
    rcases Location.of_startsWith_text hpasses.startsWith with ⟨rest, rfl⟩ | hb
    · exact ⟨rest, by simpa using hne, rfl⟩
    · exact absurd hb hbeside

end

theorem Starts.box_iff (h : Starts reg skillName scriptName params dir launch.script launch.args) :
    (∃ skill dir loc, reg.skills.lookup skillName = some skill ∧
      reg.host.resolve (skill.dir.div "scripts") = some dir ∧
      reg.host.stat launch.script.path = some loc ∧ reg.host.tree.isDir loc = false ∧
      dir.Below loc) ↔ reg.host.tree.isDir launch.script = false ∧ dir.Below launch.script := by
  have hstat := h.stat
  obtain ⟨skill, env, hskill, hdir, -⟩ := h
  constructor
  · rintro ⟨skill', dir', loc, hskill', hdir', hstat', hfile, hbelow⟩
    obtain rfl : skill = skill' := by simpa [hskill] using hskill'
    obtain rfl : dir = dir' := by simpa [hdir] using hdir'
    obtain rfl : launch.script = loc := by simpa [hstat] using hstat'
    exact ⟨hfile, hbelow⟩
  · rintro ⟨hfile, hbelow⟩
    exact ⟨skill, dir, launch.script, hskill, hdir, hstat, hfile, hbelow⟩

end

/-- What a call starts is not beside the `scripts/` directory under a longer name, is
not that directory and no directory at all, and the tokens that quoting has put
together are clean. -/
def NoDetour (reg : SkillRegistry) (skillName scriptName params : String) : Prop :=
  ∀ dir loc args, Starts reg skillName scriptName params dir loc args →
    (¬ dir.Beside loc ∧ loc ≠ dir ∧ reg.host.tree.isDir loc = false) ∧
      ∀ arg ∈ args, ¬ arg.toList <:+: params.toList → isBlacklisted arg = false

/-- A call stays in its box exactly if what it starts makes no detour around the two checks. -/
theorem staysInBox_iff (reg : SkillRegistry) (skillName scriptName params : String)
    (timeout : Option Int) (answer : Launch → ProcessEnd) :
    StaysInBox reg skillName scriptName params timeout answer ↔
      NoDetour reg skillName scriptName params := by
  constructor
  · intro hbox dir loc args hstarts
    obtain ⟨launch, hlaunch, rfl, rfl⟩ := prepareScript_of_starts timeout hstarts
    obtain ⟨hscript, hargs⟩ := hbox launch (mem_started.mpr hlaunch)
    obtain ⟨hfile, hbelow⟩ := hstarts.box_iff.mp hscript
    obtain ⟨hbeside, hne⟩ := hstarts.below_iff.mp hbelow
    exact ⟨⟨hbeside, hne, hfile⟩, fun arg hmem _ => hargs arg hmem⟩
  · intro hcond launch hlaunch
    obtain ⟨dir, hstarts⟩ := prepareScript_ok (mem_started.mp hlaunch)
    obtain ⟨⟨hbeside, hne, hfile⟩, hargs⟩ := hcond dir _ _ hstarts
    refine ⟨hstarts.box_iff.mpr ⟨hfile, hstarts.below_iff.mpr ⟨hbeside, hne⟩⟩, fun arg hmem => ?_⟩
    by_cases hpiece : arg.toList <:+: params.toList
    · exact hstarts.args_clean arg hmem hpiece
    · exact hargs arg hmem hpiece

def podTree : Fs.Tree :=
  ⟨[(.ofText "/skills", .dir), (.ofText "/skills/pod", .dir), (.ofText "/skills/pod/scripts", .dir),
    (.ofText "/skills/pod/scripts/check.sh", .file ⟨0, some "", ""⟩),
    (.ofText "/skills/pod/scripts-old", .dir),
    (.ofText "/skills/pod/scripts-old/wipe.sh", .file ⟨0, some "", ""⟩)]⟩

theorem podTree_linkFree : podTree.LinkFree [] := by decide +kernel

theorem podLinks_kernel_le_python : (40 : Nat) ≤ 40 := Nat.le_refl 40

def podRegistry : SkillRegistry where
  host :=
    { tree := podTree
      cwd := []
      homeOf _ := none
      osError _ := ""
      kernelLinks := 40
      pythonLinks := 40
      kernel_le_python := podLinks_kernel_le_python
      cwd_linkFree := podTree_linkFree }
  skills := [("pod", { dir := .ofText "/skills/pod" })]
  executable := "/usr/bin/python3"
  which _ := some "/bin/bash"
  kubeconfigPath := ""
  timeoutSkillScript := 60
  skillScriptMaxOutput := 4000

/-- A script of the sibling directory runs, and a quoted command substitution is passed
to a script of the skill. -/
theorem podRegistry_leaves_box :
    ¬ StaysInBox podRegistry "pod" "../scripts-old/wipe.sh" "" none (fun _ => .timedOut "") ∧
    ¬ StaysInBox podRegistry "pod" "check.sh" "'$'(id)" none (fun _ => .timedOut "") := by
  constructor
  · intro hbox
    have hrun : (executeScript podRegistry "pod" "../scripts-old/wipe.sh" "" none
        fun _ => .timedOut "").1 = [⟨"/bin/bash", .ofText "/skills/pod/scripts-old/wipe.sh", [],
            none,
          60⟩] := by decide +kernel
    obtain ⟨⟨skill, dir, loc, hskill, hdir, hstat, -, rest, -, hrest⟩, -⟩ := hbox _ (by
      rw [hrun]
      exact List.mem_singleton_self _)
    have hskill' : podRegistry.skills.lookup "pod" = some { dir := .ofText "/skills/pod" } := by
      decide +kernel
    obtain rfl : skill = { dir := .ofText "/skills/pod" } := by simpa [hskill'] using hskill.symm
    have hdir' : podRegistry.host.resolve ((PurePath.ofText "/skills/pod").div "scripts") =
        some (.ofText "/skills/pod/scripts") := by decide +kernel
    have hstat' : podRegistry.host.stat
        (Location.path (.ofText "/skills/pod/scripts-old/wipe.sh")) =
        some (.ofText "/skills/pod/scripts-old/wipe.sh") := by decide +kernel
    rw [hdir'] at hdir
    rw [hstat'] at hstat
    cases hdir
    have hpre : Location.ofText "/skills/pod/scripts" <+:
        Location.ofText "/skills/pod/scripts-old/wipe.sh" :=
      ⟨rest, by rw [Option.some.inj hstat, hrest]⟩
    revert hpre
    decide +kernel
  · intro hbox
    have hrun : (executeScript podRegistry "pod" "check.sh" "'$'(id)" none
        fun _ => .timedOut "").1 = [⟨"/bin/bash", .ofText "/skills/pod/scripts/check.sh", ["$(id)"],
          none, 60⟩] := by decide +kernel
    have hargs := (hbox _ (by
      rw [hrun]
      exact List.mem_singleton_self _)).2 "$(id)" (by simp)
    revert hargs
    decide +kernel

end ChaosBlade.Skills
