/-
Nodes.IntentConfirm: the handoff of `nodes/intent_confirm.py`:
when the user approves, the dialogue is trimmed to its last messages and a
summary is added. The graph's model has the node itself
(`Nodes.Conversation`) over messages without ids.

The messages are those of LangGraph's state, each with its id. The update
is applied by the `add_messages` reducer, of which two things are taken:
a `RemoveMessage` deletes by id, and a message without an id is added at
the end, so a message is dropped if it is not among the last four and has
an id. Registering the task with the session store is left out.
-/
import ChaosBlade.Graph.Messages
import ChaosBlade.Log.Entries
import ChaosBlade.Nodes.Conversation

namespace ChaosBlade.Nodes

open Py Agent
open ChaosBlade.Graph

structure Stored where
  id : Option String := none
  msg : Message

def Stored.key (m : Stored) : Option String := m.id.filter (· ≠ "")

abbrev StoredUpdate := MessageUpdate Stored String

def buildHandoffSummary (faultIntent : Dict Json) (dialogueRound : Int) : Message :=
  let field (name default : String) := ((faultIntent.get? name).map Json.toStr).getD default
  .system ("[Intent Clarification Summary]\n" ++
    "Dialogue rounds: " ++ toString dialogueRound ++ "\n" ++
    "Confirmed intent: inject\n" ++
    "Fault: " ++ field "fault_type" "unknown" ++ " → " ++ field "scope" "" ++ "/" ++
    field "target" "" ++ "/" ++ field "action" "" ++ " @ " ++ field "namespace" "")

def buildTrimRemoveList (messages : List Stored) : List StoredUpdate :=
  if messages.length ≤ trimTailKeep then []
  else (messages.take (messages.length - trimTailKeep)).filterMap fun m => m.key.map .remove

def commitInjectHandoff (messages : List Stored) (dialogueRound : Int) (faultIntent : Dict Json) :
    List StoredUpdate :=
  buildTrimRemoveList messages ++ [.add { msg := buildHandoffSummary faultIntent dialogueRound }]

open List Option

def WholeRounds (messages : List Stored) : Prop :=
  Log.Paired (fun m => m.msg.callIds) (fun m => m.msg.answeredId) messages

def DistinctIds (messages : List Stored) : Prop := (messages.filterMap Stored.key).Nodup

instance (messages : List Stored) : Decidable (DistinctIds messages) :=
  inferInstanceAs (Decidable (List.Nodup _))

/-! ## The update -/

def olderPart (messages : List Stored) : List Stored :=
  messages.take (messages.length - trimTailKeep)

def recentPart (messages : List Stored) : List Stored :=
  messages.drop (messages.length - trimTailKeep)

def loosePart (messages : List Stored) : List Stored :=
  (olderPart messages).filter fun m => m.key.isNone

section

variable (messages : List Stored)

theorem olderPart_append_recentPart : olderPart messages ++ recentPart messages = messages :=
  take_append_drop _ _

theorem buildTrimRemoveList_eq :
    buildTrimRemoveList messages = ((olderPart messages).filterMap Stored.key).map .remove := by
  unfold buildTrimRemoveList olderPart
  split
  · next h => simp [Nat.sub_eq_zero_of_le h]
  · rw [map_filterMap]

end

theorem key_eq_some {m : Stored} {i : String} : m.key = some i ↔ m.id = some i ∧ i ≠ "" := by
  simp [Stored.key]

variable {messages : List Stored}

theorem addMessages_handoff (h : DistinctIds messages) (dialogueRound : Int)
    (faultIntent : Dict Json) :
    addMessages Stored.id messages (commitInjectHandoff messages dialogueRound faultIntent) =
      loosePart messages ++ recentPart messages ++
          [{ msg := buildHandoffSummary faultIntent dialogueRound }] := by
  have holder : (olderPart messages).filter (fun m => decide (∀ i ∈
      (olderPart messages).filterMap Stored.key,
      m.id ≠ some i)) = loosePart messages := by
    refine filter_congr fun m hm => ?_
    rw [Bool.eq_iff_iff, decide_eq_true_iff, isNone_iff_eq_none, eq_none_iff_forall_ne_some]
    constructor
    · intro hkeep i hi
      exact hkeep i (List.mem_filterMap.mpr ⟨m, hm, hi⟩) (key_eq_some.mp hi).1
    · intro hnone i hi hid
      obtain ⟨m', -, hkey⟩ := List.mem_filterMap.mp hi
      exact hnone i (key_eq_some.mpr ⟨hid, (key_eq_some.mp hkey).2⟩)
  have hrecent : (recentPart messages).filter (fun m => decide (∀ i ∈
      (olderPart messages).filterMap Stored.key,
      m.id ≠ some i)) = recentPart messages := by
    refine filter_eq_self.mpr fun m hm => decide_eq_true_iff.mpr fun i hi hid => ?_
    -- an id of an older message is not the id of a recent one
    rw [DistinctIds, ← olderPart_append_recentPart messages, filterMap_append, nodup_append] at h
    obtain ⟨m', -, hkey⟩ := List.mem_filterMap.mp hi
    have hmine : i ∈ (recentPart messages).filterMap Stored.key :=
      List.mem_filterMap.mpr ⟨m, hm, key_eq_some.mpr ⟨hid, (key_eq_some.mp hkey).2⟩⟩
    exact h.2.2 i hi i hmine rfl
  have hfilter := congrArg (List.filter fun m => decide (∀ i ∈
      (olderPart messages).filterMap Stored.key,
    m.id ≠ some i)) (olderPart_append_recentPart messages)
  rw [filter_append, holder, hrecent] at hfilter
  rw [commitInjectHandoff, addMessages_append, buildTrimRemoveList_eq, addMessages_remove,
      ← hfilter]
  exact addMessages_unnamed Stored.id _ rfl

theorem loosePart_eq_nil (h : ∀ m ∈ messages, m.key.isSome = true) : loosePart messages = [] := by
  refine filter_eq_nil_iff.mpr fun m hm => ?_
  rw [isNone_iff_eq_none, ← not_isSome_iff_eq_none, not_not]
  exact h m (mem_of_mem_take hm)

/-! ## The cut -/

structure CutsNoRound (messages : List Stored) : Prop where
  /-- A tool result among the last four has its call before it among the last four, or in a
  message that cannot be removed. -/
  recent : Log.CalledAfter (fun m => m.msg.callIds) (fun m => m.msg.answeredId)
    ((loosePart messages).flatMap fun m => m.msg.callIds) (recentPart messages)
  /-- A tool result that cannot be removed has its call in such a message. -/
  called : Log.CalledAfter (fun m => m.msg.callIds) (fun m => m.msg.answeredId) []
      (loosePart messages)
  /-- A tool call that cannot be removed is answered by such a message, or by one of the
  last four. -/
  answered : Log.AnsweredBefore (fun m => m.msg.callIds) (fun m => m.msg.answeredId)
    ((recentPart messages).filterMap fun m => m.msg.answeredId) (loosePart messages)

theorem cutsNoRound_iff (h : ∀ m ∈ messages, m.key.isSome = true) :
    CutsNoRound messages ↔ Log.CalledAfter (fun m => m.msg.callIds) (fun m => m.msg.answeredId) []
      (recentPart messages) := by
  constructor
  · intro hcut
    have hrecent := hcut.recent
    rwa [loosePart_eq_nil h] at hrecent
  · intro hrecent
    constructor <;> rw [loosePart_eq_nil h]
    · exact hrecent
    · trivial
    · trivial

/-- The handoff keeps the rounds whole exactly if it cuts none. -/
theorem wholeRounds_handoff_iff (messages : List Stored) (dialogueRound : Int)
    (faultIntent : Dict Json)
    (hids : DistinctIds messages) (hwhole : WholeRounds messages) :
    WholeRounds (addMessages Stored.id messages (commitInjectHandoff messages dialogueRound
        faultIntent)) ↔
      CutsNoRound messages := by
  rw [← olderPart_append_recentPart messages] at hwhole
  rw [addMessages_handoff hids, WholeRounds, Log.paired_concat rfl rfl, hwhole.append_iff]
  exact ⟨fun h => ⟨h.1, h.2.1, h.2.2⟩, fun h => ⟨h.recent, h.called, h.answered⟩⟩

def submitDialogue : List Stored :=
  [{ id := some "1", msg := .human "stress a pod" },
   { id := some "2", msg := .ai { toolCalls := [⟨"kubectl", .null, "a"⟩] } },
   { id := some "3", msg := .tool ⟨"web-1", "kubectl", "a", .success⟩ },
   { id := some "4", msg := .ai { content := .str "which one?" } },
   { id := some "5", msg := .human "web-1" },
   { id := some "6", msg := .ai { toolCalls := [⟨"submit_fault_intent", .null, "b"⟩] } },
   { id := some "7", msg := .tool ⟨"ok", "submit_fault_intent", "b", .success⟩ }]

def promptDialogue : List Stored :=
  [{ id := some "1", msg := .human "stress web-1" },
   { id := some "2", msg := .ai { toolCalls := [⟨"kubectl", .null, "a"⟩,
       ⟨"kubectl", .null, "b"⟩] } },
   { id := some "3", msg := .tool ⟨"web-1", "kubectl", "a", .success⟩ },
   { id := some "4", msg := .tool ⟨"node-1", "kubectl", "b", .success⟩ },
   { id := some "5", msg := .ai { toolCalls := [⟨"submit_fault_intent", .null, "c"⟩] } },
   { id := some "6", msg := .tool ⟨"ok", "submit_fault_intent", "c", .success⟩ }]

theorem submitDialogue_whole : DistinctIds submitDialogue ∧ WholeRounds submitDialogue ∧
    WholeRounds (addMessages Stored.id submitDialogue
        (commitInjectHandoff submitDialogue 2 {})) := by
  have hids : DistinctIds submitDialogue := by decide
  have hwhole : WholeRounds submitDialogue := ⟨by decide, by decide⟩
  exact ⟨hids, hwhole, (wholeRounds_handoff_iff _ _ _ hids hwhole).mpr
    ((cutsNoRound_iff (by decide)).mpr (by decide))⟩

/-- The results of the queries stay without the turn that made them. -/
theorem promptDialogue_split : DistinctIds promptDialogue ∧ WholeRounds promptDialogue ∧
    ¬ WholeRounds (addMessages Stored.id promptDialogue
        (commitInjectHandoff promptDialogue 1 {})) := by
  refine ⟨by decide, ⟨by decide, by decide⟩, fun h => ?_⟩
  have hcalled := h.called
  rw [addMessages_handoff (by decide)] at hcalled
  exact absurd (Log.calledAfter_append.mp hcalled).1 (by decide)

end ChaosBlade.Nodes
