/-
Memory.ContextManager: `memory/context_manager.py`: how many
tokens the conversation takes, and which messages are compacted when these
are too many.

A message is an object, with an identity (`ref`), because the split is made
by `id(msg)`. How tokens are counted is a parameter. Python's floats are
the binary64 of `Go.Float64`. Logging is left out, and so are the output
stripping and the cleanup after a compaction, which do not take part in
the split.
-/
import ChaosBlade.Agent.State
import ChaosBlade.Go.Float64
import Mathlib.Data.List.Sort

namespace ChaosBlade.Memory

open Py Agent Go

/-! ## Token warnings -/

inductive CompactLevel where
  | normal
  | warning
  | error
  | autoCompact
  | blocking

structure TokenWarningState where
  percentLeft : Int
  level : CompactLevel
  isAboveWarning : Bool
  isAboveError : Bool
  isAboveAutoCompact : Bool
  isAtBlocking : Bool

def autocompactBufferTokens : Int := 13000
def warningBufferTokens : Int := 20000
def errorBufferTokens : Int := 20000
def blockingBufferTokens : Int := 3000

def maxConsecutiveCompactFailures : Nat := 3

structure CompactTrackingState where
  compacted : Bool := false
  turnCount : Nat := 0
  consecutiveFailures : Nat := 0

def scaled (n : Int) (ratio : ℚ) : Int :=
  let product := Float64.mul (Float64.round n) ratio
  if product < 0 then ⌈product⌉ else ⌊product⌋

/-- The tokens from which on the context is compacted: the earlier of the two triggers, but
no less than half the window. -/
def autoCompactThreshold (maxTokens : Int) (compactRatio : ℚ) : Int :=
  max (min (maxTokens - autocompactBufferTokens) (scaled maxTokens compactRatio))
    (scaled maxTokens (1 / 2))

def calculateTokenWarningState (tokenUsage maxTokens : Int) (autoCompactEnabled : Bool)
    (compactRatio : ℚ) : Except PyError TokenWarningState := do
  let threshold := if autoCompactEnabled then autoCompactThreshold maxTokens compactRatio
      else maxTokens
  if threshold = 0 then throw ⟨.zeroDivisionError, "division by zero"⟩
  let left := Float64.mul (Float64.div (threshold - tokenUsage) threshold) 100
  let warningThreshold := max (threshold - warningBufferTokens) 0
  let errorThreshold := max (threshold - errorBufferTokens) 0
  let blockingLimit := max (maxTokens - blockingBufferTokens)
    (scaled maxTokens (Float64.round (95 / 100)))
  return {
    percentLeft := max 0 (Float64.nearestEven left)
    level :=
      if blockingLimit ≤ tokenUsage then .blocking
      else if autoCompactEnabled ∧ threshold ≤ tokenUsage then .autoCompact
      else if errorThreshold ≤ tokenUsage then .error
      else if warningThreshold ≤ tokenUsage then .warning
      else .normal
    isAboveWarning := warningThreshold ≤ tokenUsage
    isAboveError := errorThreshold ≤ tokenUsage
    isAboveAutoCompact := autoCompactEnabled ∧ threshold ≤ tokenUsage
    isAtBlocking := blockingLimit ≤ tokenUsage }

/-! ## Messages -/

structure Obj where
  ref : Nat
  msg : Message

def compressedHistoryText : String := "[Compressed History]"

def isCompressedHistory : Message → Bool
  | .ai m => match m.content with
    | .str content => startsWith content compressedHistoryText
    | _ => false
  | .tool m => startsWith m.content compressedHistoryText
  | .human content => startsWith content compressedHistoryText
  | .system content => startsWith content compressedHistoryText

def isSummary (m : Obj) : Bool := isCompressedHistory m.msg

def isTool : Message → Bool
  | .tool _ => true
  | _ => false

def hasToolCalls : Message → Bool
  | .ai m => !m.toolCalls.isEmpty
  | _ => false

/-- What `count_tokens_messages` returns: the count, and the count with its margin. -/
structure TokenCount where
  count : Nat
  safeCount : Nat

structure Split where
  compact : List Obj
  keep : List Obj

/-! ## The split -/

section

variable (tokens : List Message → TokenCount)

def messageTokens (m : Obj) : Nat := (tokens [m.msg]).count

def totalTokens : List Obj → Nat
  | [] => 0
  | m :: ms => messageTokens tokens m + totalTokens ms

/-- The second pass: `rest` is what is still to be looked at, the newest first. -/
def reserveRecent (reserve : Nat) : Nat → List Obj → List Obj → List Obj
  | _, recent, [] => recent
  | kept, recent, m :: rest =>
    if isSummary m then reserveRecent reserve kept recent rest
    else if reserve < kept + messageTokens tokens m then recent
    else reserveRecent reserve (kept + messageTokens tokens m) (m :: recent) rest

/-- The position in the list, as the dictionary from identities to positions has it: of two
equal keys the later wins. -/
def position (messages : List Obj) (m : Obj) : Nat :=
  messages.zipIdx.foldl (fun i e => if e.1.ref = m.ref then e.2 else i) 0

def budgetSplit (reserve : Nat) (messages : List Obj) : Split :=
  let summaries := messages.filter isSummary
  let recent := reserveRecent tokens reserve (totalTokens tokens summaries) [] messages.reverse
  let keep := (summaries ++ recent).insertionSort fun a b => position messages a ≤
      position messages b
  { compact := messages.filter fun m => m.ref ∉ keep.map Obj.ref, keep }

def moveBack (s : Split) : Split :=
  match s.compact, s.keep with
  | [], _ => s
  | _, [] => s
  | compact, f :: keep => if isTool f.msg then { compact := compact ++ [f], keep } else s

def ensurePairIntegrity (s : Split) : Split :=
  match s.compact.getLast? with
  | none => s
  | some last =>
    if hasToolCalls last.msg then { compact := s.compact.dropLast, keep := last :: s.keep } else s

structure ContextManager where
  maxTokens : Int := 128000
  compactRatio : ℚ := Float64.round (8 / 10)
  reserveTokens : Nat := 20000

/-- `ContextManager.check_context`; the flag says that the context is not blocked. -/
def checkContext (cm : ContextManager) (messages : List Obj)
    (tracking : Option CompactTrackingState)
    (force : Bool) : Except PyError (Split × Bool) := do
  let total := (tokens (messages.map Obj.msg)).safeCount
  let state ← calculateTokenWarningState total cm.maxTokens true cm.compactRatio
  let tripped := tracking.any fun t => decide (maxConsecutiveCompactFailures ≤
      t.consecutiveFailures)
  if !force && tripped then return (⟨[], messages⟩, false)
  if !force && !state.isAboveAutoCompact then return (⟨[], messages⟩, true)
  return (ensurePairIntegrity (moveBack (budgetSplit tokens cm.reserveTokens messages)),
    !state.isAtBlocking)

end

end ChaosBlade.Memory
