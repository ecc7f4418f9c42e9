/-
Tui.Transcript: the tools and the confirm prompts in the transcript of
`tui/src/state/reducer.ts`.

Every item that is neither is a `card`, but for the text and the thinking
that `flushLeadingStable` looks at. Whether a thinking session is open,
whether a text is split and how many cards end a turn is up to the action.
-/
import ChaosBlade.Process.Events
import Mathlib.Data.List.TakeWhile
import Mathlib.Tactic.Common

namespace ChaosBlade.Tui.Transcript

open Process List

inductive ToolStatus where
  | running | success | error | canceled
  deriving DecidableEq

structure ToolItem where
  callId : String
  name : String
  status : ToolStatus := .running
  raw : String := ""
  deriving DecidableEq

inductive Item where
  | toolGroup (tools : List ToolItem)
  | confirmPrompt (taskId : String) (resolved : Bool)
  | agent | thinking | card
  deriving DecidableEq

structure State where
  history : List Item := []
  pending : List Item := []
  seenToolCallIds : List String := []

structure ToolEnded where
  callId : String
  name : String
  status : ToolStatus
  content : String

inductive Action where
  | turnStarted
  | tokenAppended (thought split : Bool)
  | thinkingAppended (first : Bool)
  | toolStarted (callId name : String) (thought : Bool)
  | toolEnded (e : ToolEnded)
  | confirmReceived (taskId : String) (thought : Bool)
  | confirmResolved (taskId : String)
  | resultReceived (thought : Bool)
  /-- `ERROR_RECEIVED`, `MEMORY_COMPACTION_COMPLETED` and `MEMORY_COMPACTION_FAILED`. -/
  | cardPending
  /-- `TURN_DONE`, `TURN_TRANSITION`, `REPLAY_ENDED`, and `REPLAY_STARTED` with items pending. -/
  | turnDone (thought : Bool) (cards : Nat)
  | turnAborted (thought : Bool) (cards : Nat)
  /-- `LOG_APPENDED`, and `HISTORY_APPENDED` with the cards of the boot and of slash commands. -/
  | cardCommitted
  | historyCleared
  | other

def ToolItem.isRunning (t : ToolItem) : Bool := t.status = .running

def finishTool (status : ToolStatus) (raw : String) (t : ToolItem) : ToolItem :=
  { t with status, raw }

def Item.tools : Item → List ToolItem
  | .toolGroup tools => tools
  | _ => []

def Item.isUnresolved : Item → Bool
  | .confirmPrompt _ resolved => !resolved
  | _ => false

def Item.isFinal (item : Item) : Bool := item.tools.all (!·.isRunning) && !item.isUnresolved

def sanitizeStuckTools (pending : List Item) : List Item :=
  pending.map fun
    | .toolGroup tools => .toolGroup (tools.map fun t =>
      if t.isRunning then finishTool .success "" t else t)
    | item => item

def Item.isStable (isTail : Bool) : Item → Bool
  | .agent => !isTail
  | .card => false
  | item => item.isFinal

/-- The tools of a group before the first one that runs, and what stays. -/
def Item.harvest : Item → List Item × Item
  | .toolGroup tools =>
    ([.toolGroup (tools.takeWhile (!·.isRunning))].filter (·.tools ≠ []),
      .toolGroup (tools.dropWhile (!·.isRunning)))
  | item => ([], item)

/-- The items that go to the history, and those that stay. -/
def splitStable : List Item → List Item × List Item
  | [] => ([], [])
  | item :: rest =>
    if item.isStable rest.isEmpty then (item :: (splitStable rest).1, (splitStable rest).2)
    else (item.harvest.1, item.harvest.2 :: rest)

def flushLeadingStable (s : State) : State :=
  { s with history := s.history ++ (splitStable s.pending).1, pending := (splitStable s.pending).2 }

def commitThinking (thought : Bool) (s : State) : State :=
  if thought then { s with pending := s.pending ++ [.thinking] } else s

def commitPending (thought : Bool) (cards : Nat) (s : State) : State :=
  let s := commitThinking thought s
  { s with history := s.history ++ s.pending ++ replicate cards .card, pending := [] }

def addTool (tool : ToolItem) (pending : List Item) : List Item :=
  match pending.getLast? with
  | some (.toolGroup tools) => pending.dropLast ++ [.toolGroup (tools ++ [tool])]
  | _ => pending ++ [.toolGroup [tool]]

def finishFirst (p : ToolItem → Bool) (f : ToolItem → ToolItem) : List Item → List Item :=
  replaceF fun
    | .toolGroup tools => if tools.any p then
        some (.toolGroup (tools.replaceF fun t => if p t then some (f t) else none)) else none
    | _ => none

def ToolEnded.matchByCallId (e : ToolEnded) (t : ToolItem) : Bool :=
  t.isRunning && e.callId ≠ "" && t.callId = e.callId

def ToolEnded.matchByName (e : ToolEnded) (t : ToolItem) : Bool :=
  t.isRunning && e.name ≠ "" && t.name = e.name

def toolsOf (items : List Item) : List ToolItem := items.flatMap Item.tools

def toolEnded (e : ToolEnded) (s : State) : State :=
  let predicate := if (toolsOf s.pending).any e.matchByCallId then e.matchByCallId
      else e.matchByName
  flushLeadingStable
    { s with pending := finishFirst predicate (finishTool e.status e.content) s.pending }

def reducer (s : State) : Action → State
  | .turnStarted => { history := s.history ++ [.card] }
  | .tokenAppended thought split =>
    let s := flushLeadingStable (commitThinking thought s)
    if s.pending.getLast? = some .agent then
      if s.pending.length = 1 ∧ split then { s with history := s.history ++ [.agent] } else s
    else { s with pending := s.pending ++ [.agent] }
  | .thinkingAppended first => if first then flushLeadingStable s else s
  | .toolStarted callId name thought =>
    if callId ≠ "" ∧ callId ∈ s.seenToolCallIds then s
    else
      let s := flushLeadingStable (commitThinking thought s)
      { s with
        pending := addTool { callId, name } s.pending
        seenToolCallIds := s.seenToolCallIds ++ if callId = "" then [] else [callId] }
  | .toolEnded e => toolEnded e s
  | .confirmReceived taskId thought =>
    let s := flushLeadingStable
      (commitThinking thought { s with pending := sanitizeStuckTools s.pending })
    { s with
      history := s.history ++ s.pending.filter (!·.isUnresolved) ++ [.card]
      pending := s.pending.filter (·.isUnresolved) ++ [.confirmPrompt taskId false] }
  | .confirmResolved taskId =>
    flushLeadingStable { s with
      pending := s.pending.map fun
        | .confirmPrompt id resolved => .confirmPrompt id (resolved || id = taskId)
        | item => item }
  | .resultReceived thought => commitPending thought 1 s
  | .cardPending => { s with pending := s.pending ++ [.card] }
  | .turnDone thought cards => commitPending thought cards s
  | .turnAborted thought cards => commitPending thought cards { s with pending := s.pending ++
      [.card] }
  | .cardCommitted => { s with history := s.history ++ [.card] }
  | .historyCleared => { s with history := [] }
  | .other => s

/-! ## Flushing -/

abbrev AllFinal (items : List Item) : Prop := ∀ item ∈ items, item.isFinal = true

attribute [local simp] AllFinal toolsOf Item.tools Item.isUnresolved Item.isFinal

theorem harvest_spec (item : Item) : AllFinal item.harvest.1 ∧
    toolsOf item.harvest.1 ++ item.harvest.2.tools = item.tools := by
  cases item with
  | toolGroup tools =>
    have hparts := takeWhile_append_dropWhile (p := (!·.isRunning)) (l := tools)
    by_cases hnil : tools.takeWhile (!·.isRunning) = []
    · rw [hnil] at hparts
      simpa [Item.harvest, hnil] using hparts
    · have hdone : ∀ t ∈ tools.takeWhile (!·.isRunning), t.isRunning = false := fun t ht => by
        simpa using mem_takeWhile_imp ht
      simpa [Item.harvest, hnil, hparts] using hdone
  | _ => simp [Item.harvest]

theorem isFinal_of_isStable {item : Item} {isTail : Bool} (h : item.isStable isTail = true) :
    item.isFinal = true := by
  cases item with
  | toolGroup tools | confirmPrompt id resolved => exact h
  | _ => rfl

/-- What is flushed is final, and no tool is lost. -/
theorem splitStable_spec : ∀ items : List Item, AllFinal (splitStable items).1 ∧
    toolsOf (splitStable items).1 ++ toolsOf (splitStable items).2 = toolsOf items
  | [] => by simp [splitStable]
  | item :: rest => by
    obtain ⟨hfinal, htools⟩ := splitStable_spec rest
    obtain ⟨hfinal', htools'⟩ := harvest_spec item
    rw [splitStable]
    simp only [toolsOf] at htools htools'
    split
    · next h =>
      exact ⟨forall_mem_cons.mpr ⟨isFinal_of_isStable h, hfinal⟩, by simp [htools]⟩
    · exact ⟨hfinal', by simp only [toolsOf, flatMap_cons, ← append_assoc, htools']⟩

theorem flush_final {s : State}
    (h : AllFinal s.history) : AllFinal (flushLeadingStable s).history :=
  forall_mem_append.mpr ⟨h, (splitStable_spec s.pending).1⟩

/-! ## Final items -/

def Action.commits : Action → Bool
  | .resultReceived _ | .turnDone _ _ | .turnAborted _ _ => true
  | _ => false

theorem commitPending_final {s : State} {thought : Bool} {cards : Nat} (h : AllFinal s.history)
    (hp : AllFinal s.pending) : AllFinal (commitPending thought cards s).history := by
  have hthought : AllFinal (commitThinking thought s).pending := by
    cases thought
    · exact hp
    · exact forall_mem_append.mpr ⟨hp, by simp⟩
  refine forall_mem_append.mpr ⟨forall_mem_append.mpr ⟨?_, hthought⟩, ?_⟩
  · cases thought <;> exact h
  · intro item hitem
    obtain rfl := eq_of_mem_replicate hitem
    rfl

theorem not_running_sanitized (items : List Item) :
    ∀ t ∈ toolsOf (sanitizeStuckTools items), t.isRunning = false := by
  intro t ht
  obtain ⟨item, hitem, ht⟩ := mem_flatMap.mp ht
  obtain ⟨item, -, rfl⟩ := mem_map.mp hitem
  cases item with
  | toolGroup tools =>
    obtain ⟨u, -, rfl⟩ := mem_map.mp ht
    split
    · rfl
    · next hu => simpa using hu
  | _ => cases ht

theorem reducer_final {s : State} {a : Action} (hc : a.commits = true → AllFinal s.pending)
    (h : AllFinal s.history) : AllFinal (reducer s a).history := by
  have hflush : ∀ thought, AllFinal (flushLeadingStable (commitThinking thought s)).history := by
    rintro (_ | _) <;> exact flush_final h
  cases a with
  | turnStarted | cardCommitted => exact forall_mem_append.mpr ⟨h, by simp⟩
  | tokenAppended thought split =>
    simp only [reducer]
    split_ifs
    · exact forall_mem_append.mpr ⟨hflush thought, by simp⟩
    · exact hflush thought
    · exact hflush thought
  | thinkingAppended first =>
    cases first
    · exact h
    · exact flush_final h
  | toolStarted callId name thought =>
    simp only [reducer]
    split_ifs
    · exact h
    all_goals exact hflush thought
  | confirmReceived taskId thought =>
    refine forall_mem_append.mpr ⟨forall_mem_append.mpr ⟨?_, fun item hitem => ?_⟩, by simp⟩
    · cases thought <;> exact flush_final h
    · obtain ⟨hmem, hresolved⟩ := mem_filter.mp hitem
      have htools := (splitStable_spec (commitThinking thought
        { s with pending := sanitizeStuckTools s.pending }).pending).2
      rw [Item.isFinal, hresolved, Bool.and_true, all_eq_true]
      intro t ht
      have hold := htools ▸ mem_append_right _ (mem_flatMap.mpr ⟨item, hmem, ht⟩)
      simp [not_running_sanitized s.pending t (by
        cases thought <;> simpa [commitThinking, or_and_right, exists_or] using hold)]
  | toolEnded e | confirmResolved taskId => exact flush_final h
  | resultReceived thought | turnDone thought cards => exact commitPending_final h (hc rfl)
  | turnAborted thought cards =>
    exact commitPending_final h (forall_mem_append.mpr ⟨hc rfl, by simp⟩)
  | cardPending | other => exact h
  | historyCleared => simp [reducer]

/-- If nothing that runs or waits for an answer is pending when a result arrives or a turn
ends, the history holds only items that are final. -/
theorem history_final (actions : List Action)
    (h : AllSteps reducer (fun s a => a.commits = true → AllFinal s.pending) {} actions) :
    AllFinal (after reducer {} actions).history :=
  after_of_allSteps (P := fun s => AllFinal s.history) (fun _ _ => reducer_final) h (by simp)

theorem history_final_finished_tool :
    let actions : List Action := [.toolStarted "1" "kubectl" false,
      .toolEnded ⟨"1", "kubectl", .success, "ok"⟩, .turnDone false 1]
    (after reducer {} actions).history =
        [.toolGroup [⟨"1", "kubectl", .success, "ok"⟩], .card] ∧
      AllFinal (after reducer {} actions).history :=
  ⟨by decide, history_final _ (by decide)⟩

/-- A turn that is aborted while a tool runs. -/
theorem history_not_final : ¬ AllFinal
    (after reducer {} [.toolStarted "1" "kubectl" false, .turnAborted false 0]).history := by
  decide

end ChaosBlade.Tui.Transcript
