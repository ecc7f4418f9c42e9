/-
Memory.MetricTimeline: the metric timeline of `memory/hook.py`:
what the tools report is kept in the state, where compaction does not
reach it.

The metric parsers are a parameter, and the messages of a call are
arbitrary, since compaction and the tools rewrite them between calls. The
ids seen are those of the earlier calls only, and the iteration is the sum
of two counters, one of which a replan sets back.
-/
import ChaosBlade.Nodes.Planning

namespace ChaosBlade.Memory

open Py Agent Nodes List

abbrev Metrics := List (String × String)

/-- A tool message; `extracted` is its `additional_kwargs["extracted_metrics"]`. -/
structure ToolNote where
  toolCallId : String
  name : String := ""
  content : String := ""
  extracted : Option Metrics := none

structure Observation where
  iteration : Nat
  timestamp : String
  toolCallId : String
  toolName : String
  metrics : Metrics

structure HookCall where
  messages : List ToolNote
  agentLoopCount : Nat
  verifierLoopCount : Nat := 0
  now : String := ""

def HookCall.iteration (call : HookCall) : Nat := call.agentLoopCount + call.verifierLoopCount

def autoExtractedMarker : String := "[Auto-extracted:"

section

variable (extract : ToolNote → Metrics)

/-- The metrics of a message after `_extract_tool_metrics`. -/
def ToolNote.metrics (m : ToolNote) : Metrics :=
  m.extracted.getD
    (if strip m.content = "" ∨ startsWith (strip m.content) autoExtractedMarker then []
        else extract m)

def HookCall.observe (call : HookCall) (m : ToolNote) : Observation :=
  { iteration := call.iteration, timestamp := call.now, toolCallId := m.toolCallId
    toolName := m.name, metrics := m.metrics extract }

def newObservations (current : List Observation) (call : HookCall) : List Observation :=
  let seen := current.map Observation.toolCallId
  (call.messages.filter fun m =>
      m.metrics extract ≠ [] ∧ m.toolCallId ≠ "" ∧ m.toolCallId ∉ seen).map (call.observe extract)

def buildObservationUpdate (current : List Observation) (call : HookCall) : List Observation :=
  current ++ newObservations extract current call

def timeline (calls : List HookCall) : List Observation :=
  calls.foldl (buildObservationUpdate extract) []

theorem timeline_concat (calls : List HookCall) (call : HookCall) :
    timeline extract (calls ++ [call]) =
        buildObservationUpdate extract (timeline extract calls) call :=
  foldl_append

/-! ## Calls that keep the timeline in order -/

/-- In each call the messages with metrics have ids, each its own, and the
counters do not go back from call to call. -/
structure Steady (calls : List HookCall) : Prop where
  named : ∀ call ∈ calls, ∀ m ∈ call.messages, m.metrics extract ≠ [] → m.toolCallId ≠ ""
  distinct : ∀ call ∈ calls,
    ((call.messages.filter fun m => m.metrics extract ≠ []).map ToolNote.toolCallId).Nodup
  forward : calls.Pairwise fun a b => a.iteration ≤ b.iteration

variable {extract} {calls : List HookCall} {call : HookCall}

theorem Steady.front (h : Steady extract (calls ++ [call])) : Steady extract calls where
  named := fun c hc => h.named c (mem_append_left _ hc)
  distinct := fun c hc => h.distinct c (mem_append_left _ hc)
  forward := (List.pairwise_append.mp h.forward).1

/-- Every entry is what one call saw of one of its messages. -/
theorem timeline_observed {o : Observation} (ho : o ∈ timeline extract calls) :
    ∃ c ∈ calls, ∃ m ∈ c.messages, o = c.observe extract m := by
  induction calls using List.reverseRecOn with
  | nil => cases ho
  | append_singleton calls call ih =>
    rw [timeline_concat] at ho
    rcases mem_append.mp ho with ho | ho
    · obtain ⟨c, hc, hm⟩ := ih ho
      exact ⟨c, mem_append_left _ hc, hm⟩
    · obtain ⟨m, hm, rfl⟩ := mem_map.mp ho
      exact ⟨call, by simp, m, (mem_filter.mp hm).1, rfl⟩

theorem newObservations_ids (current : List Observation) (call : HookCall) :
    ((newObservations extract current call).map Observation.toolCallId).Sublist
      ((call.messages.filter fun m => m.metrics extract ≠ []).map ToolNote.toolCallId) := by
  unfold newObservations
  dsimp only
  rw [map_map]
  refine List.Sublist.map _ (monotone_filter_right _ fun m hm => ?_)
  simp only [decide_eq_true_eq] at hm ⊢
  exact hm.1

theorem mem_buildObservationUpdate {current : List Observation} {m : ToolNote}
    (hm : m ∈ call.messages) (hmetrics : m.metrics extract ≠ []) (hid : m.toolCallId ≠ "") :
    m.toolCallId ∈ current.map Observation.toolCallId ∨
      call.observe extract m ∈ buildObservationUpdate extract current call := by
  by_cases hseen : m.toolCallId ∈ current.map Observation.toolCallId
  · exact Or.inl hseen
  · refine Or.inr (mem_append_right _ (mem_map.mpr ⟨m, mem_filter.mpr ⟨hm, ?_⟩, rfl⟩))
    simp only [decide_eq_true_eq]
    exact ⟨hmetrics, hid, hseen⟩

theorem timeline_nodup (h : Steady extract calls) :
    ((timeline extract calls).map Observation.toolCallId).Nodup := by
  induction calls using List.reverseRecOn with
  | nil => exact nodup_nil
  | append_singleton calls call ih =>
    rw [timeline_concat, buildObservationUpdate, map_append]
    refine (ih h.front).append ((h.distinct call (by simp)).sublist (newObservations_ids _ _)) ?_
    intro id hold hnew
    -- a new entry has an id that is not among the old ones
    obtain ⟨o, ho, rfl⟩ := mem_map.mp hnew
    obtain ⟨m, hm, rfl⟩ := mem_map.mp ho
    simp only [mem_filter, decide_eq_true_eq] at hm
    exact hm.2.2.2 hold

theorem timeline_forward (h : Steady extract calls) :
    (timeline extract calls).Pairwise fun a b => a.iteration ≤ b.iteration := by
  induction calls using List.reverseRecOn with
  | nil => exact List.Pairwise.nil
  | append_singleton calls call ih =>
    rw [timeline_concat, buildObservationUpdate]
    refine List.pairwise_append.mpr ⟨ih h.front, ?_, ?_⟩
    · exact List.pairwise_map.mpr (pairwise_of_forall fun _ _ => Nat.le_refl _)
    · intro a ha b hb
      obtain ⟨c, hc, n, -, rfl⟩ := timeline_observed ha
      obtain ⟨m, -, rfl⟩ := mem_map.mp hb
      exact (List.pairwise_append.mp h.forward).2.2 c hc call (by simp)

end

/-- Over every sequence of calls the timeline only grows, and each entry is what
one call saw of one message. If the calls are steady, it has one entry per id,
and its iterations do not decrease; every message with metrics is recorded by
the call it comes with, unless an earlier call has recorded its id. -/
theorem timeline_in_order (extract : ToolNote → Metrics) (calls : List HookCall) :
    (∀ front back, calls = front ++ back → timeline extract front <+: timeline extract calls) ∧
    (∀ o ∈ timeline extract calls, ∃ c ∈ calls, ∃ m ∈ c.messages, o = c.observe extract m) ∧
    (Steady extract calls → ((timeline extract calls).map Observation.toolCallId).Nodup ∧
      (∀ front call back, calls = front ++ call :: back → ∀ m ∈ call.messages,
        m.metrics extract ≠ [] →
          m.toolCallId ∈ (timeline extract front).map Observation.toolCallId ∨
            call.observe extract m ∈ timeline extract calls) ∧
      (∀ call ∈ calls, ∀ m ∈ call.messages, m.metrics extract ≠ [] →
        m.toolCallId ∈ (timeline extract calls).map Observation.toolCallId) ∧
      (timeline extract calls).Pairwise fun a b => a.iteration ≤ b.iteration) := by
  have hgrows : ∀ front back, timeline extract front <+: timeline extract (front ++ back) := by
    intro front back
    induction back using List.reverseRecOn with
    | nil => simp
    | append_singleton back call ih =>
      rw [← append_assoc, timeline_concat]
      exact ih.trans (prefix_append _ _)
  refine ⟨fun front back h => h ▸ hgrows front back, fun o ho => timeline_observed ho, fun h => ?_⟩
  have hrecorded : ∀ front call back, calls = front ++ call :: back → ∀ m ∈ call.messages,
      m.metrics extract ≠ [] →
        m.toolCallId ∈ (timeline extract front).map Observation.toolCallId ∨
          call.observe extract m ∈ timeline extract calls := by
    rintro front call back rfl m hm hmetrics
    have hid := h.named call (by simp) m hm hmetrics
    refine (mem_buildObservationUpdate hm hmetrics hid).imp_right fun hnew => ?_
    rw [← timeline_concat] at hnew
    rw [show front ++ call :: back = (front ++ [call]) ++ back by simp]
    exact (hgrows _ back).subset hnew
  refine ⟨timeline_nodup h, hrecorded, ?_, timeline_forward h⟩
  intro call hcall m hm hmetrics
  obtain ⟨front, back, heq⟩ := append_of_mem hcall
  rcases hrecorded front call back heq m hm hmetrics with hold | hnew
  · rw [heq]
    exact ((hgrows front _).map _).subset hold
  · exact mem_map_of_mem hnew

def restarts (id : String) : ToolNote :=
  { toolCallId := id, extracted := some [("RestartCount", "8")] }

def replanned : AgentState :=
  { agentLoopCount := 15, replanCount := 1, replanContext := some ⟨"", [], [], 15⟩ }

/-- Two calls, the second of which shows the first one's message again. -/
theorem timeline_steady : ((timeline (fun _ => []) [⟨[restarts "c1"], 1, 0, ""⟩,
      ⟨[restarts "c1", restarts "c2"], 2, 0, ""⟩]).map Observation.toolCallId).Nodup := by
  have hsteady : Steady (fun _ => []) [⟨[restarts "c1"], 1, 0, ""⟩,
      ⟨[restarts "c1", restarts "c2"], 2, 0, ""⟩] :=
    ⟨by decide, by decide, by decide⟩
  exact ((timeline_in_order _ _).2.2 hsteady).1

/-- An id twice in one call, a message without an id, and a replan between two calls. -/
theorem timeline_out_of_order :
    ((timeline (fun _ => []) [⟨[restarts "c1", restarts "c1"], 1, 0, ""⟩]).map
      Observation.toolCallId) = ["c1", "c1"] ∧
    timeline (fun _ => []) [⟨[restarts ""], 1, 0, ""⟩] = [] ∧
    ((timeline (fun _ => []) [⟨[restarts "c1"], replanned.agentLoopCount, 0, ""⟩,
      ⟨[restarts "c2"], planningPass replanned, 0, ""⟩]).map Observation.iteration) = [15, 1] := by
  decide

end ChaosBlade.Memory
