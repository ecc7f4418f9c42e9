/-
Tools.FileAccessTheorems: which files the file tools reach.

For each tool one lemma says when it returns or writes a file, in terms of
the path and the tree.
-/
import ChaosBlade.Tools.FileAccess

namespace ChaosBlade.Tools

open Py Fs Option FileCall Host

/-! ## What must not be reached -/

def Sensitive (loc : Location) : Prop :=
  (∃ denied ∈ deniedPaths, hasSub denied loc.text = true) ∨ loc.suffix ∈ deniedSuffixes

def SystemFile (loc : Location) : Prop :=
  (∃ root ∈ writeDeniedRoots, isUnder loc.text root = true) ∧
    ∀ temp ∈ writeDeniedExceptions, isUnder loc.text temp = false

def StaysOut (env : AgentFiles) (call : FileCall) : Prop :=
  (∀ loc ∈ (call.run env).returned, ¬ Sensitive loc) ∧
    ∀ loc ∈ (call.run env).written, ¬ Sensitive loc ∧ ¬ SystemFile loc

/-! ## The checks -/

theorem denyReason_eq_none {loc : Location} {p : PurePath} :
    denyReason loc p = none ↔ deniedPath loc.text p.text = none ∧ p.suffix ∉ deniedSuffixes := by
  unfold denyReason
  cases deniedPath loc.text p.text <;> simp

theorem sensitive_of_passed {loc : Location} {p : PurePath} (h : denyReason loc p = none) :
    Sensitive loc ↔ loc.suffix ∈ deniedSuffixes := by
  have hfrag : ∀ denied ∈ deniedPaths, hasSub denied loc.text ≠ true := by
    intro denied hmem hsub
    have hnone := List.find?_eq_none.mp (denyReason_eq_none.mp h).1 denied hmem
    simp [hsub] at hnone
  simp only [Sensitive, or_iff_right_iff_imp]
  rintro ⟨denied, hmem, hsub⟩
  exact absurd hsub (hfrag denied hmem)

theorem deniedRoot_eq_none {loc : Location} : deniedRoot loc = none ↔ ¬ SystemFile loc := by
  unfold deniedRoot SystemFile
  split
  · rename_i htemp
    obtain ⟨temp, hmem, hunder⟩ := List.any_eq_true.mp htemp
    simp only [true_iff, not_and]
    intro _ hall
    simp [hall temp hmem] at hunder
  · rename_i htemp
    have hall : ∀ temp ∈ writeDeniedExceptions, isUnder loc.text temp = false := by
      simpa using htemp
    rw [List.find?_eq_none]
    constructor
    · rintro hroots ⟨⟨root, hmem, hunder⟩, -⟩
      exact hroots root hmem hunder
    · intro h root hmem hunder
      exact h ⟨⟨root, hmem, hunder⟩, hall⟩

section

variable {h : Host} {p : PurePath} {loc : Location}

theorem isDenylisted_of_resolve (hr : h.resolve p = some loc) :
    isDenylisted h p = .ok (denyReason loc p) := by simp [isDenylisted, resolvePath, hr, Except.map]

theorem isWriteDenied_of_resolve (hr : h.resolve p = some loc) :
    isWriteDenied h p = .ok none ↔ deniedRoot loc = none ∧ denyReason loc p = none := by
  have hres : resolvePath h p = .ok loc := by simp [resolvePath, hr]
  unfold isWriteDenied
  rw [hres, isDenylisted_of_resolve hr]
  simp only [bind, Except.bind]
  cases deniedRoot loc <;> simp

def Readable (data : FileData) : Prop := data.size > maxFileBytes ∨ data.text.isSome

theorem readCapped_ok {data : FileData} :
    (∃ text, readCapped h p data = .ok text) ↔ Readable data := by
  unfold readCapped Readable
  split
  · simp_all
  · cases data.text <;> simp_all

theorem not_isDir_of_fileAt {data : FileData} (hf : h.fileAt p = some (loc, data)) :
    h.pathExists p = true ∧ h.isDir p = false := by
  unfold fileAt at hf
  unfold pathExists isDir
  split at hf
  · exact absurd hf nofun
  · rename_i loc' hs
    split at hf
    · rename_i hn
      simp [hs, Tree.isDir, hn]
    · exact absurd hf nofun

/-! ## When a tool reaches a file -/

theorem readPath_source : (∃ reading, readPath h p = .ok reading ∧ reading.source = some loc) ↔
      ∃ data, h.fileAt p = some (loc, data) ∧ Readable data := by
  constructor
  · rintro ⟨reading, hread, hsource⟩
    unfold readPath at hread
    split at hread
    · exact absurd hread nofun
    split at hread
    · cases hread
      exact absurd hsource nofun
    split at hread
    · rename_i loc' data hf
      obtain ⟨text, hc, rfl⟩ := map_eq_ok.mp hread
      cases hsource
      exact ⟨data, hf, readCapped_ok.mp ⟨text, hc⟩⟩
    · exact absurd hread nofun
  · rintro ⟨data, hf, hdata⟩
    obtain ⟨text, hc⟩ := (readCapped_ok (h := h) (p := p)).mpr hdata
    obtain ⟨hex, hdir⟩ := not_isDir_of_fileAt hf
    exact ⟨⟨text, some loc⟩, by simp [readPath, hex, hdir, hf, hc, Except.map], rfl⟩

variable {filePath : String}

theorem safeReadFile_ok {reading : Reading} :
    safeReadFile h filePath = .ok reading ↔
      ∃ p, absolutePath h filePath = .ok p ∧ isDenylisted h p = .ok none ∧
        readPath h p = .ok reading := by
  unfold safeReadFile
  rw [bind_eq_ok]
  refine exists_congr fun p => and_congr_right fun _ => ?_
  rw [bind_eq_ok]
  constructor
  · rintro ⟨reason, hd, hread⟩
    cases reason with
    | some reason => exact absurd hread nofun
    | none => exact ⟨hd, hread⟩
  · rintro ⟨hd, hread⟩
    exact ⟨none, hd, hread⟩

variable {env : AgentFiles}

theorem returned_readFile : (readFile env filePath).returned = some loc ↔
      ∃ p data, absolutePath env.host filePath = .ok p ∧ env.host.fileAt p = some (loc, data) ∧
        Readable data ∧ denyReason loc p = none := by
  have hrun : (readFile env filePath).returned = some loc ↔
      ∃ reading, safeReadFile env.host filePath = .ok reading ∧ reading.source = some loc := by
    unfold readFile
    cases safeReadFile env.host filePath <;> simp
  rw [hrun]
  constructor
  · rintro ⟨reading, hread, hsource⟩
    obtain ⟨p, hp, hd, hpath⟩ := safeReadFile_ok.mp hread
    obtain ⟨data, hf, hdata⟩ := readPath_source.mp ⟨reading, hpath, hsource⟩
    have hres := isDenylisted_of_resolve (resolve_of_fileAt hf)
    exact ⟨p, data, hp, hf, hdata, by simpa [hres] using hd⟩
  · rintro ⟨p, data, hp, hf, hdata, hdeny⟩
    obtain ⟨reading, hpath, hsource⟩ := readPath_source.mpr ⟨data, hf, hdata⟩
    have hd : isDenylisted env.host p = .ok none := by
      rw [isDenylisted_of_resolve (resolve_of_fileAt hf), hdeny]
    exact ⟨reading, safeReadFile_ok.mpr ⟨p, hp, hd, hpath⟩, hsource⟩

theorem loadSkillResource_source {skillDir : PurePath} {resourcePath text : String} :
    loadSkillResource h skillDir resourcePath = .ok ⟨text, some loc⟩ ↔
      ∃ data, h.fileAt (skillDir.div resourcePath) = some (loc, data) ∧ data.text = some text := by
  constructor
  · intro hload
    unfold loadSkillResource at hload
    simp only at hload
    split at hload
    · exact absurd hload nofun
    split at hload
    · split at hload <;> exact absurd hload (by simp)
    split at hload
    · rename_i loc' size text' head hf
      obtain ⟨rfl, rfl⟩ : text' = text ∧ loc' = loc := by simpa using hload
      exact ⟨_, hf, rfl⟩
    · exact absurd hload nofun
  · rintro ⟨data, hf, hdata⟩
    obtain ⟨hex, hdir⟩ := not_isDir_of_fileAt hf
    obtain ⟨size, contents, head⟩ := data
    cases hdata
    simp [loadSkillResource, hex, hdir, hf]

theorem returned_readSkillResource {skillName resourcePath : String} :
    (readSkillResource env skillName resourcePath).returned = some loc ↔
      ∃ skillDir data text, env.skillDirs.lookup skillName = some skillDir ∧
        env.host.fileAt (skillDir.div resourcePath) = some (loc, data) ∧ data.text = some text ∧
        strip text ≠ "" := by
  constructor
  · intro hrun
    unfold readSkillResource readResource at hrun
    cases hdir : env.skillDirs.lookup skillName with
    | none => simp [hdir] at hrun
    | some skillDir =>
      cases hload : loadSkillResource env.host skillDir resourcePath with
      | error e => simp [hdir, hload] at hrun
      | ok reading =>
        simp only [hdir, hload] at hrun
        split at hrun
        · exact absurd hrun nofun
        · rename_i hblank
          obtain ⟨text, source⟩ := reading
          have hsource : source = some loc := hrun
          obtain ⟨data, hf, htext⟩ := loadSkillResource_source.mp (hsource ▸ hload)
          exact ⟨skillDir, data, text, rfl, hf, htext, hblank⟩
  · rintro ⟨skillDir, data, text, hdir, hf, htext, hblank⟩
    have hload := loadSkillResource_source.mpr ⟨data, hf, htext⟩
    simp [readSkillResource, readResource, hdir, hload, hblank]

theorem writeText_ok {dir : PurePath} {content reply r : String} :
    (writeText h dir p content reply).result = .ok (r, loc) ↔
      r = reply ∧ ∃ made, h.mkdirs dir = some made ∧ made.openForWriting p = some loc := by
  unfold writeText
  cases h.mkdirs dir with
  | none => simp
  | some made => cases ho : made.openForWriting p <;> simp [ho, eq_comm]

theorem written_runWriting {errorText : FileError → String} {w : Writing} :
    (runWriting errorText w).written = some loc ↔ ∃ reply, w.result = .ok (reply, loc) := by
  unfold runWriting
  rcases w.result with e | ⟨reply, loc'⟩ <;> simp

theorem pathExists_and_isDir (h : Host) (p : PurePath) :
    (h.pathExists p && h.isDir p) = h.isDir p := by
  unfold pathExists isDir
  cases h.stat p <;> simp

theorem writablePath_ok (hr : h.resolve p = some loc) :
    writablePath h filePath = .ok p ↔
      absolutePath h filePath = .ok p ∧ h.isDir p = false ∧ deniedRoot loc = none ∧
        denyReason loc p = none := by
  rw [← isWriteDenied_of_resolve hr]
  unfold writablePath
  rw [bind_eq_ok]
  constructor
  · rintro ⟨q, hq, hrest⟩
    split at hrest
    · exact absurd hrest nofun
    · rename_i hdir
      obtain ⟨reason, hd, hok⟩ := bind_eq_ok.mp hrest
      cases reason with
      | some reason => exact absurd hok nofun
      | none =>
        cases hok
        exact ⟨hq, by simpa [pathExists_and_isDir] using hdir, hd⟩
  · rintro ⟨hq, hdir, hd⟩
    exact ⟨p, hq, by simp [hdir, hd, bind, Except.bind]⟩

theorem written_writeFile {content : String} :
    (writeFile env filePath content).written = some loc ↔
      ∃ p made, absolutePath env.host filePath = .ok p ∧ env.host.isDir p = false ∧
        env.host.mkdirs p.parent = some made ∧ made.openForWriting p = some loc ∧
        deniedRoot loc = none ∧ denyReason loc p = none := by
  unfold writeFile safeWriteFile
  rw [written_runWriting]
  constructor
  · rintro ⟨reply, hw⟩
    split at hw
    · exact absurd hw nofun
    · rename_i p hp
      obtain ⟨-, made, hm, ho⟩ := writeText_ok.mp hw
      -- the directories were made after the check, which still names the file
      have hr : env.host.resolve p = some loc := by
        rw [← resolve_mkdirs hm]
        exact resolve_of_openForWriting ho
      obtain ⟨habs, hdir, hroot, hdeny⟩ := (writablePath_ok hr).mp hp
      exact ⟨p, made, habs, hdir, hm, ho, hroot, hdeny⟩
  · rintro ⟨p, made, habs, hdir, hm, ho, hroot, hdeny⟩
    have hr : env.host.resolve p = some loc := by
      rw [← resolve_mkdirs hm]
      exact resolve_of_openForWriting ho
    have hp := (writablePath_ok hr).mpr ⟨habs, hdir, hroot, hdeny⟩
    simp only [hp]
    exact ⟨_, writeText_ok.mpr ⟨rfl, made, hm, ho⟩⟩

theorem written_saveFaultPlan {planContent taskId : String} :
    (saveFaultPlan env planContent taskId).written = some loc ↔
      ∃ dir made, env.host.expanduser env.memoryDir = some dir ∧
        env.host.mkdirs (dir.div "plan") = some made ∧
        made.openForWriting ((dir.div "plan").div (taskId ++ ".md")) = some loc := by
  unfold saveFaultPlan savePlan
  rw [written_runWriting]
  cases env.host.expanduser env.memoryDir with
  | none => simp
  | some dir => simp [writeText_ok]

end

/-! ## The condition -/

/-- The tools that check: a file with a denied suffix is reached under a path that is
refused as it stands. The tools that do not check: the path leads to no sensitive
file, and for a plan to no system file. -/
def LeadsNowhereDenied (env : AgentFiles) : FileCall → Prop
  | .readFile filePath => ∀ p loc data, absolutePath env.host filePath = .ok p →
      env.host.fileAt p = some (loc, data) → Readable data → loc.suffix ∈ deniedSuffixes →
        (denyReason loc p).isSome
  | .writeFile filePath _ => ∀ p made loc, absolutePath env.host filePath = .ok p →
      env.host.isDir p = false → env.host.mkdirs p.parent = some made →
      made.openForWriting p = some loc → loc.suffix ∈ deniedSuffixes →
        (deniedRoot loc).isSome ∨ (denyReason loc p).isSome
  | .readSkillResource skillName resourcePath => ∀ skillDir loc data text,
      env.skillDirs.lookup skillName = some skillDir →
      env.host.fileAt (skillDir.div resourcePath) = some (loc, data) → data.text = some text →
      strip text ≠ "" → ¬ Sensitive loc
  | .saveFaultPlan _ taskId => ∀ dir made loc,
      env.host.expanduser env.memoryDir = some dir →
      env.host.mkdirs (dir.div "plan") = some made →
      made.openForWriting ((dir.div "plan").div (taskId ++ ".md")) = some loc →
        ¬ Sensitive loc ∧ ¬ SystemFile loc

variable (env : AgentFiles)

theorem written_readFile (filePath : String) : (readFile env filePath).written = none := by
  unfold readFile
  cases safeReadFile env.host filePath <;> rfl

theorem written_readSkillResource (skillName resourcePath : String) :
    (readSkillResource env skillName resourcePath).written = none := by
  unfold readSkillResource
  cases readResource env skillName resourcePath with
  | error e => rfl
  | ok reading =>
    simp only
    split <;> rfl

theorem returned_runWriting (errorText : FileError → String) (w : Writing) :
    (runWriting errorText w).returned = none := by
  unfold runWriting
  rcases w.result with e | ⟨reply, loc⟩ <;> rfl

theorem staysOut_readFile (filePath : String) :
    StaysOut env (.readFile filePath) ↔ LeadsNowhereDenied env (.readFile filePath) := by
  simp only [StaysOut, run, written_readFile, mem_def, returned_readFile]
  constructor
  · rintro ⟨hout, -⟩ p loc data hp hf hdata hsuffix
    by_contra hnone
    have hdeny : denyReason loc p = none := by simpa using hnone
    exact hout loc ⟨p, data, hp, hf, hdata, hdeny⟩ (.inr hsuffix)
  · refine fun hcond => ⟨?_, by simp⟩
    rintro loc ⟨p, data, hp, hf, hdata, hdeny⟩ hsens
    have hrefused := hcond p loc data hp hf hdata ((sensitive_of_passed hdeny).mp hsens)
    simp [hdeny] at hrefused

theorem staysOut_writeFile (filePath content : String) :
    StaysOut env (.writeFile filePath content) ↔
      LeadsNowhereDenied env (.writeFile filePath content) := by
  have hr : (writeFile env filePath content).returned = none := returned_runWriting _ _
  simp only [StaysOut, run, hr, mem_def, written_writeFile]
  constructor
  · rintro ⟨-, hout⟩ p made loc hp hdir hm ho hsuffix
    by_contra hnone
    obtain ⟨hroot, hdeny⟩ : deniedRoot loc = none ∧ denyReason loc p = none := by simpa using hnone
    exact (hout loc ⟨p, made, hp, hdir, hm, ho, hroot, hdeny⟩).1 (.inr hsuffix)
  · refine fun hcond => ⟨by simp, ?_⟩
    rintro loc ⟨p, made, hp, hdir, hm, ho, hroot, hdeny⟩
    refine ⟨fun hsens => ?_, deniedRoot_eq_none.mp hroot⟩
    have hrefused := hcond p made loc hp hdir hm ho ((sensitive_of_passed hdeny).mp hsens)
    simp [hroot, hdeny] at hrefused

theorem staysOut_readSkillResource (skillName resourcePath : String) :
    StaysOut env (.readSkillResource skillName resourcePath) ↔
      LeadsNowhereDenied env (.readSkillResource skillName resourcePath) := by
  simp only [StaysOut, run, written_readSkillResource, mem_def, returned_readSkillResource]
  constructor
  · rintro ⟨hout, -⟩ skillDir loc data text hdir hf htext hblank
    exact hout loc ⟨skillDir, data, text, hdir, hf, htext, hblank⟩
  · refine fun hcond => ⟨?_, by simp⟩
    rintro loc ⟨skillDir, data, text, hdir, hf, htext, hblank⟩
    exact hcond skillDir loc data text hdir hf htext hblank

theorem staysOut_saveFaultPlan (planContent taskId : String) :
    StaysOut env (.saveFaultPlan planContent taskId) ↔
      LeadsNowhereDenied env (.saveFaultPlan planContent taskId) := by
  have hr : (saveFaultPlan env planContent taskId).returned = none := returned_runWriting _ _
  simp only [StaysOut, run, hr, mem_def, written_saveFaultPlan]
  constructor
  · rintro ⟨-, hout⟩ dir made loc hdir hm ho
    exact hout loc ⟨dir, made, hdir, hm, ho⟩
  · refine fun hcond => ⟨by simp, ?_⟩
    rintro loc ⟨dir, made, hdir, hm, ho⟩
    exact hcond dir made loc hdir hm ho

/-- The file tools stay out of the denied files exactly if the path of the call leads
to none that the checks do not see. -/
theorem staysOut_iff (env : AgentFiles) (call : FileCall) :
    StaysOut env call ↔ LeadsNowhereDenied env call := by
  cases call with
  | readFile filePath => exact staysOut_readFile env filePath
  | writeFile filePath content => exact staysOut_writeFile env filePath content
  | readSkillResource skillName resourcePath =>
    exact staysOut_readSkillResource env skillName resourcePath
  | saveFaultPlan planContent taskId => exact staysOut_saveFaultPlan env planContent taskId

def agentHost : Host where
  tree := ⟨[(.ofText "/etc", .dir), (.ofText "/etc/cron.d", .dir),
    (.ofText "/etc/shadow", .file (contentsOf "root:x")),
    (.ofText "/home", .dir), (.ofText "/home/ops", .dir),
    (.ofText "/home/ops/server.pem", .file (contentsOf "BEGIN PRIVATE KEY")),
    (.ofText "/home/ops/notes.txt", .link (.ofText "server.pem")),
    (.ofText "/skills", .dir), (.ofText "/skills/pod", .dir)]⟩
  cwd := .ofText "/home/ops"
  homeOf _ := some "/home/ops"
  osError _ := ""
  kernelLinks := 40
  pythonLinks := 40
  kernel_le_python := Nat.le_refl _
  cwd_linkFree := by decide +kernel

def agentFiles : AgentFiles where
  host := agentHost
  skillDirs := [("pod", .ofText "/skills/pod")]
  resources _ := []
  memoryDir := .ofText "~/.blade-ai"

/-- A key is read and overwritten through a link with a harmless name, the password
file is read as a skill resource, and a plan is saved among the system's jobs. -/
theorem deniedFiles_reached : ¬ StaysOut agentFiles (.readFile "notes.txt") ∧
    ¬ StaysOut agentFiles (.writeFile "~/notes.txt" "") ∧
    ¬ StaysOut agentFiles (.readSkillResource "pod" "/etc/shadow") ∧
    ¬ StaysOut agentFiles (.saveFaultPlan "* * * * * root id" "/etc/cron.d/plan") := by
  have hkey : Sensitive (.ofText "/home/ops/server.pem") := .inr (by decide +kernel)
  have hread : (run agentFiles (.readFile "notes.txt")).returned =
      some (.ofText "/home/ops/server.pem") := by decide +kernel
  have hwrite : (run agentFiles (.writeFile "~/notes.txt" "")).written =
      some (.ofText "/home/ops/server.pem") := by decide +kernel
  have hskill : (run agentFiles (.readSkillResource "pod" "/etc/shadow")).returned =
      some (.ofText "/etc/shadow") := by decide +kernel
  have hplan : (run agentFiles (.saveFaultPlan "* * * * * root id" "/etc/cron.d/plan")).written =
      some (.ofText "/etc/cron.d/plan.md") := by decide +kernel
  refine ⟨fun h => h.1 _ hread hkey, fun h => (h.2 _ hwrite).1 hkey, fun h => ?_, fun h => ?_⟩
  · exact h.1 _ hskill (.inl ⟨"/etc/shadow", by decide, by decide +kernel⟩)
  · refine (h.2 _ hplan).2 ⟨⟨"/etc", by decide, by decide +kernel⟩, ?_⟩
    decide +kernel

end ChaosBlade.Tools
