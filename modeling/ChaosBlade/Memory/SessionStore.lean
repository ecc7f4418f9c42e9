/-
Memory.SessionStore: `memory/session_store.py`: the messages of
one task, in a snapshot `.json` and a log `.jsonl` that is rotated through
`.jsonl.compacted` when it gets long.

A call works on the memory of its process and performs file operations,
one after the other. A crash loses the memory and cuts the operations off
at any point; each of them is atomic, a line is written whole. What the
files hold besides the messages (status, timestamps, the owning session)
is left out, and so is what a message carries besides the fields that
`_message_dedup_key` reads.
-/
import ChaosBlade.Py.Str

namespace ChaosBlade.Memory

/-! ## Messages -/

structure Entry where
  id : String
  type : String := "human"
  content : String := ""
  toolCallId : String := ""
  deriving DecidableEq

def messageDedupKey (e : Entry) : String :=
  if e.id ≠ "" then "id:" ++ e.id
  else e.type ++ "|" ++ String.ofList (e.content.toList.take 200) ++ "|" ++ e.toolCallId

inductive MessageClass where
  | remove
  | system
  | other

structure Msg where
  entry : Entry
  cls : MessageClass := .other
  /-- Marked `_no_session`. -/
  noSession : Bool := false

def Msg.isRecorded (saveSystem : Bool) (m : Msg) : Bool :=
  match m.cls with
  | .remove => false
  | .system => saveSystem && !m.noSession
  | .other => !m.noSession

def entriesOf (saveSystem : Bool) (msgs : List Msg) : List Entry :=
  (msgs.filter (Msg.isRecorded saveSystem)).map Msg.entry

def freshEntries : List String → List Entry → List Entry
  | _, [] => []
  | seen, e :: es =>
    if messageDedupKey e ∈ seen then freshEntries seen es
    else e :: freshEntries (messageDedupKey e :: seen) es

/-! ## Files -/

/-- The files of the task; `none` if the file does not exist. -/
structure Disk where
  json : Option (List Entry) := none
  log : Option (List Entry) := none
  compacted : Option (List Entry) := none

inductive FileOp where
  /-- `os.replace` of the snapshot's temporary file. -/
  | replaceJson (messages : List Entry)
  /-- `open(jsonl, "a")` -/
  | openLog
  | appendLine (e : Entry)
  /-- The orphan put before the log, if there is one. -/
  | mergeOrphan
  | unlinkOrphan
  /-- `os.replace` of the log by the name of the orphan, if there is a log. -/
  | rotate
  deriving DecidableEq

def FileOp.apply (d : Disk) : FileOp → Disk
  | .replaceJson messages => { d with json := some messages }
  | .openLog => { d with log := some (d.log.getD []) }
  | .appendLine e => { d with log := some (d.log.getD [] ++ [e]) }
  | .mergeOrphan => match d.compacted with
    | some orphan => { d with log := some (orphan ++ d.log.getD []) }
    | none => d
  | .unlinkOrphan => { d with compacted := none }
  | .rotate => match d.log with
    | some log => { d with log := none, compacted := some log }
    | none => d

def applyOps (d : Disk) (ops : List FileOp) : Disk := ops.foldl FileOp.apply d

/-! ## The store -/

structure Config where
  compactionThreshold : Int := 50
  saveSystemMessage : Bool := true

structure Session where
  messages : List Entry := []
  baselineKeys : List String := []

/-- The memory of the process: the active session and the lines of the log. -/
structure Mem where
  session : Option Session := none
  jsonlCount : Nat := 0

def compactOps (messages : List Entry) : List FileOp :=
  [.mergeOrphan, .unlinkOrphan, .rotate, .replaceJson messages, .unlinkOrphan]

variable (cfg : Config)

def appendEntries (mem : Mem) (session : Session) (entries : List Entry) : Mem × List FileOp :=
  let messages := session.messages ++ entries
  let count := mem.jsonlCount + entries.length
  let lines := .openLog :: entries.map .appendLine
  if cfg.compactionThreshold ≤ count then
    ({ session := some { session with messages }, jsonlCount := 0 }, lines ++ compactOps messages)
  else ({ session := some { session with messages }, jsonlCount := count }, lines)

def appendMessages (mem : Mem) (msgs : List Msg) : Mem × List FileOp :=
  match mem.session with
  | none => (mem, [])
  | some session =>
    let existing := session.messages.map messageDedupKey ++ session.baselineKeys
    match freshEntries existing (entriesOf cfg.saveSystemMessage msgs) with
    | [] => (mem, [])
    | entries => appendEntries cfg mem session entries

def appendRawMessage (mem : Mem) (e : Entry) : Mem × List FileOp :=
  match mem.session with
  | none => (mem, [])
  | some session => appendEntries cfg mem session [e]

/-- `create_session`: the empty snapshot first, the initial messages through
the log. -/
def createSession (mem : Mem) (baseline initial : List Msg) : Mem × List FileOp :=
  let keys := (entriesOf cfg.saveSystemMessage baseline).map messageDedupKey
  let mem : Mem := { mem with session := some { messages := [], baselineKeys := keys } }
  let (mem, ops) := appendMessages cfg mem initial
  (mem, .replaceJson [] :: ops)

inductive Call where
  | create (baseline initial : List Msg)
  | append (msgs : List Msg)
  | appendRaw (e : Entry)

def Call.perform (mem : Mem) : Call → Mem × List FileOp
  | .create baseline initial => createSession cfg mem baseline initial
  | .append msgs => appendMessages cfg mem msgs
  | .appendRaw e => appendRawMessage cfg mem e

def performAll (cfg : Config) : Mem → List Call → Mem × List FileOp
  | mem, [] => (mem, [])
  | mem, call :: calls =>
    let (mem, ops) := call.perform cfg mem
    let (mem, more) := performAll cfg mem calls
    (mem, ops ++ more)

/-! ## Reading -/

/-- `read_session` of a fresh store: the messages, and the files after it. The
orphan is replayed and then deleted. -/
def readSession (d : Disk) : Option (List Entry) × Disk :=
  match d.json with
  | none => (none, d)
  | some snapshot =>
    (some (freshEntries [] (snapshot ++ d.compacted.getD [] ++ d.log.getD [])),
      { d with compacted := none })

def reads : Nat → Disk → List (List Entry)
  | 0, _ => []
  | n + 1, d =>
    let (messages, d) := readSession d
    messages.getD [] :: reads n d

end ChaosBlade.Memory
