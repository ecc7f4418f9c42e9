/-
Tools.FileAccess: the file tools of the agent:
`tools/file_reader.py`, `tools/file_writer.py`, `load_skill_resource` of
`skills/loader.py`, and the tools `read_file`, `write_file`,
`read_skill_resource` and `save_fault_plan` of `agent/factory.py`.

A tool answers with a text in every case; an exception inside becomes an
error text. What a tool did beside that is in its `ToolRun`: the file
whose contents stand in the answer, and the file that was written, each by
the location the kernel arrived at.
-/
import ChaosBlade.Fs.Tree
import ChaosBlade.Py.Json

namespace ChaosBlade.Tools

open Py Fs

inductive FileErrorClass where
  | permissionError
  | fileNotFoundError
  | isADirectoryError
  | keyError
  /-- Any other exception; the tools do not tell them apart. -/
  | exception

structure FileError where
  cls : FileErrorClass
  msg : String

/-! ## `file_reader.py` -/

def deniedPaths : List String :=
  ["/etc/shadow", "/etc/ssh", "/etc/kubernetes", ".ssh", ".gnupg", ".aws", ".kube/config"]

def deniedSuffixes : List String := [".pem", ".key", ".p12", ".pfx", ".jks"]

def maxFileBytes : Nat := 256 * 1024

def resolvePath (h : Host) (p : PurePath) : Except FileError Location :=
  match h.resolve p with
  | some loc => .ok loc
  | none => .error ⟨.exception, h.osError p⟩

def deniedPath (resolved pathStr : String) : Option String :=
  deniedPaths.find? fun denied => hasSub denied resolved || hasSub denied pathStr

/-- The reason `_is_denylisted` gives for a path that resolves to this location.
The suffix is that of the path as it was given. -/
def denyReason (resolved : Location) (p : PurePath) : Option String :=
  match deniedPath resolved.text p.text with
  | some denied => some ("Access denied: path matches restricted pattern '" ++ denied ++ "'")
  | none =>
    if p.suffix ∈ deniedSuffixes then
      some ("Access denied: " ++ p.suffix ++ " files may contain private keys")
    else none

def isDenylisted (h : Host) (p : PurePath) : Except FileError (Option String) :=
  (resolvePath h p).map fun resolved => denyReason resolved p

/-- The first lines of both tools: the home directory is filled in and a relative
path is one under the working directory. -/
def absolutePath (h : Host) (filePath : String) : Except FileError PurePath :=
  match h.expanduser (.ofText filePath) with
  | none => .error ⟨.exception, "Could not determine home directory."⟩
  | some p => .ok (if p.absolute then p else (Location.path h.cwd).join p)

/-- A text for the agent, with the file it is the contents of. -/
structure Reading where
  text : String
  source : Option Location := none

def bullets (items : List String) : String := join "\n" (items.map ("  - " ++ ·))

def listDirectory (h : Host) (p : PurePath) : String :=
  let items := (h.children p).map fun child =>
    if h.isDir child then child.name ++ "/" else child.name
  let header := "Directory: " ++ p.text ++ "\nContents:"
  if items.isEmpty then header ++ " (empty)" else header ++ "\n" ++ bullets items

/-- The contents of a file, cut behind `maxFileBytes`. A text that is not in UTF-8
raises. -/
def readCapped (h : Host) (p : PurePath) (data : FileData) : Except FileError String :=
  if data.size > maxFileBytes then
    .ok (data.head ++ "\n\n[truncated: showing first " ++ toString maxFileBytes ++ " of " ++
      toString data.size ++ " bytes]")
  else match data.text with
    | some text => .ok text
    | none => .error ⟨.exception, h.osError p⟩

def readPath (h : Host) (p : PurePath) : Except FileError Reading :=
  if !h.pathExists p then .error ⟨.fileNotFoundError, "Path not found: " ++ p.text⟩
  else if h.isDir p then .ok { text := listDirectory h p }
  else match h.fileAt p with
    | some (loc, data) => (readCapped h p data).map fun text => ⟨text, some loc⟩
    | none => .error ⟨.exception, h.osError p⟩

def safeReadFile (h : Host) (filePath : String) : Except FileError Reading := do
  let p ← absolutePath h filePath
  match ← isDenylisted h p with
  | some reason => .error ⟨.permissionError, reason⟩
  | none => readPath h p

/-! ## `file_writer.py` -/

def writeDeniedRoots : List String :=
  ["/etc", "/private/etc", "/usr", "/bin", "/private/bin", "/sbin", "/private/sbin", "/boot",
   "/sys", "/proc", "/dev", "/root", "/var/log", "/var/db", "/var/run", "/private/var/log",
   "/private/var/db", "/private/var/run"]

def writeDeniedExceptions : List String :=
  ["/var/folders", "/var/tmp", "/private/var/folders", "/private/var/tmp"]

def isUnder (resolved root : String) : Bool := startsWith resolved (root ++ "/") || resolved == root

def deniedRoot (resolved : Location) : Option String :=
  if writeDeniedExceptions.any (isUnder resolved.text) then none
  else writeDeniedRoots.find? (isUnder resolved.text)

def isWriteDenied (h : Host) (p : PurePath) : Except FileError (Option String) := do
  let resolved ← resolvePath h p
  match deniedRoot resolved with
  | some denied => .ok (some ("Writing to system directory is not allowed: " ++ denied))
  | none => isDenylisted h p

def takeBytes : Nat → List Char → List Char
  | _, [] => []
  | limit, c :: cs => if c.utf8Size ≤ limit then c :: takeBytes (limit - c.utf8Size) cs else []

def contentsOf (content : String) : FileData where
  size := content.utf8ByteSize
  text := some content
  head := String.ofList (takeBytes maxFileBytes content.toList)

structure Writing where
  result : Except FileError (String × Location)
  host : Host

/-- The calls `dir.mkdir(parents=True, exist_ok=True)` and `p.write_text(content)`. The
directories stay when the file cannot be written. -/
def writeText (h : Host) (dir p : PurePath) (content reply : String) : Writing :=
  match h.mkdirs dir with
  | none => ⟨.error ⟨.exception, h.osError dir⟩, h⟩
  | some made => match made.openForWriting p with
    | none => ⟨.error ⟨.exception, h.osError p⟩, made⟩
    | some loc => ⟨.ok (reply, loc), made.write loc (contentsOf content)⟩

def writablePath (h : Host) (filePath : String) : Except FileError PurePath := do
  let p ← absolutePath h filePath
  if h.pathExists p && h.isDir p then
    .error ⟨.isADirectoryError, "Cannot write: path is a directory: " ++ p.text⟩
  else match ← isWriteDenied h p with
    | some reason => .error ⟨.permissionError, reason⟩
    | none => .ok p

def safeWriteFile (h : Host) (filePath content : String) : Writing :=
  match writablePath h filePath with
  | .error e => ⟨.error e, h⟩
  | .ok p => writeText h p.parent p content
      ("Successfully wrote " ++ toString content.utf8ByteSize ++ " bytes to " ++ p.text)

/-! ## `load_skill_resource` -/

/-- The call `p.relative_to(dir)` as a text; it raises if `p` is not behind `dir`. -/
def relativeTo (p dir : PurePath) : Option String :=
  if p.absolute = dir.absolute ∧ dir.parts <+: p.parts then
    some (PurePath.text ⟨false, p.parts.drop dir.parts.length⟩)
  else none

def isFile (h : Host) (p : PurePath) : Bool := (h.fileAt p).isSome

def resourceItems (h : Host) (skillDir child : PurePath) : Option (List String) :=
  if startsWith child.name "." then some []
  else do
    let rel ← relativeTo child skillDir
    if isFile h child then pure [rel]
    else if h.isDir child then
      let subFiles := (h.children child).filter fun f => isFile h f && !startsWith f.name "."
      let subs ← subFiles.mapM (relativeTo · skillDir)
      pure ((rel ++ "/") :: subs)
    else pure []

def listResourceDirectory (h : Host) (skillDir : PurePath) (resourcePath : String)
    (dir : PurePath) : Option String := do
  let items ← (h.children dir).mapM (resourceItems h skillDir)
  if items.flatten.isEmpty then pure ("Directory: " ++ resourcePath ++ "/ (empty)")
  else pure ("Directory: " ++ resourcePath ++ "/\nContents:\n" ++ bullets items.flatten)

def loadSkillResource (h : Host) (skillDir : PurePath) (resourcePath : String) :
    Except FileError Reading :=
  let fullPath := skillDir.div resourcePath
  if !h.pathExists fullPath then
    .error ⟨.fileNotFoundError, "Resource not found: " ++ fullPath.text⟩
  else if h.isDir fullPath then
    match listResourceDirectory h skillDir resourcePath fullPath with
    | some text => .ok { text }
    | none => .error ⟨.exception, h.osError fullPath⟩
  else match h.fileAt fullPath with
    | some (loc, { text := some text, .. }) => .ok ⟨text, some loc⟩
    | _ => .error ⟨.exception, h.osError fullPath⟩

/-! ## The tools -/

/-- What the tools are built over: the host, the directories of the registered
skills, what `list_resources` gives for a skill, and `settings.memory_dir`. -/
structure AgentFiles where
  host : Host
  skillDirs : List (String × PurePath)
  resources : String → List String
  memoryDir : PurePath

structure ToolRun where
  reply : String
  /-- The file whose contents stand in the reply. -/
  returned : Option Location := none
  written : Option Location := none
  host : Host

variable (env : AgentFiles) (skillName resourcePath : String)

def readResource : Except FileError Reading :=
  match env.skillDirs.lookup skillName with
  | none => .error ⟨.keyError, "Skill not found: " ++ skillName⟩
  | some skillDir => loadSkillResource env.host skillDir resourcePath

def readFileError (filePath : String) (e : FileError) : String :=
  match e.cls with
  | .fileNotFoundError => "Error: " ++ e.msg
  | .permissionError => "Error: Access denied - " ++ e.msg
  | _ => "Error reading file '" ++ filePath ++ "': " ++ e.msg

def readFile (filePath : String) : ToolRun :=
  match safeReadFile env.host filePath with
  | .ok reading => { reply := reading.text, returned := reading.source, host := env.host }
  | .error e => { reply := readFileError filePath e, host := env.host }

def writeFileError (filePath : String) (e : FileError) : String :=
  match e.cls with
  | .permissionError => "Error: Access denied - " ++ e.msg
  | .isADirectoryError => "Error: " ++ e.msg
  | _ => "Error writing file '" ++ filePath ++ "': " ++ e.msg

def runWriting (errorText : FileError → String) (w : Writing) : ToolRun :=
  match w.result with
  | .ok (reply, loc) => { reply, written := some loc, host := w.host }
  | .error e => { reply := errorText e, host := w.host }

def writeFile (filePath content : String) : ToolRun :=
  runWriting (writeFileError filePath) (safeWriteFile env.host filePath content)

def resourceHeader : String :=
  "[Skill resource — REFERENCE for planning]\n" ++
  "The injection / verification commands shown below are\n" ++
  "EXECUTION TEMPLATES that Phase 2 will run automatically\n" ++
  "once your plan is approved. In Phase 1 (current), use them\n" ++
  "to understand WHAT will happen and decide IF the plan is\n" ++
  "safe. DO NOT execute them yourself in this phase.\n" ++
  "─────────────────────────────────────────────────────\n\n"

def readSkillResourceError (e : FileError) : String :=
  match e.cls with
  | .fileNotFoundError =>
    let available := env.resources skillName
    "Error: Resource '" ++ resourcePath ++ "' not found in skill '" ++ skillName ++
      "'.\nAvailable resources:\n" ++
      (if available.isEmpty then "  (none found)" else bullets available)
  | .keyError =>
    "Error: Skill '" ++ skillName ++ "' not found. Activate it first with activate_skill."
  | _ => "Error reading resource '" ++ resourcePath ++ "' from skill '" ++ skillName ++ "': " ++
      e.msg

def readSkillResource : ToolRun :=
  match readResource env skillName resourcePath with
  | .ok reading =>
    if strip reading.text = "" then
      { reply := "Resource '" ++ resourcePath ++ "' in skill '" ++ skillName ++
          "' is empty or contains no content."
        host := env.host }
    else
      { reply := resourceHeader ++ reading.text, returned := reading.source, host := env.host }
  | .error e => { reply := readSkillResourceError env skillName resourcePath e, host := env.host }

def savePlan (planContent taskId : String) : Writing :=
  match env.host.expanduser env.memoryDir with
  | none => ⟨.error ⟨.exception, "Could not determine home directory."⟩, env.host⟩
  | some memoryDir =>
    let planDir := memoryDir.div "plan"
    let planFile := planDir.div (taskId ++ ".md")
    writeText env.host planDir planFile planContent
      ("Plan saved to " ++ planFile.text ++ "\n\n" ++ planContent)

def saveFaultPlan (planContent taskId : String) : ToolRun :=
  runWriting (fun e => "Error saving plan: " ++ e.msg) (savePlan env planContent taskId)

/-- A call of one of the file tools with what the model passed to it. -/
inductive FileCall where
  | readFile (filePath : String)
  | writeFile (filePath content : String)
  | readSkillResource (skillName resourcePath : String)
  | saveFaultPlan (planContent taskId : String)

def FileCall.run : FileCall → ToolRun
  | .readFile filePath => Tools.readFile env filePath
  | .writeFile filePath content => Tools.writeFile env filePath content
  | .readSkillResource skillName resourcePath => Tools.readSkillResource env skillName resourcePath
  | .saveFaultPlan planContent taskId => Tools.saveFaultPlan env planContent taskId

end ChaosBlade.Tools
