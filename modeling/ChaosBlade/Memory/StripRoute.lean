/-
Memory.StripRoute: the cheap route of `memory/hook.py`: large
tool outputs are cut, and if that is enough nothing is summarised.

The trigger compares with the threshold of `check_context`, the exit with
`compact_threshold`, the plain product of window and ratio. The reducer
puts the cut messages in the places of the originals, so the new
conversation is a permutation of what the exit has counted.
-/
import ChaosBlade.Graph.Messages
import ChaosBlade.Memory.ContextManagerTheorems

namespace ChaosBlade.Memory

open Agent Go List
open ChaosBlade.Graph (MessageUpdate addMessages addMessages_replace)

variable {cm : ContextManager}

/-! ## The route -/

def stripHeadChars : Nat := 500
def stripTailChars : Nat := 500
def stripMarker : String := "\n... [output truncated] ...\n"

def stripLargeOutput (threshold : Nat) : Message → Message
  | .tool m =>
    let content := m.content.toList
    let head := String.ofList (content.take stripHeadChars)
    let tail := String.ofList (content.drop (content.length - stripTailChars))
    if content.length ≤ threshold then .tool m
    else .tool { m with content := head ++ stripMarker ++ tail }
  | m => m

def Obj.strip (m : Obj) : Obj := { m with msg := stripLargeOutput 1000 m.msg }

def ContextManager.compactThreshold (cm : ContextManager) : Int :=
  scaled cm.maxTokens cm.compactRatio

/-- The route of `PreReasoningHook.__call__` without `force`, behind `check_context`. -/
def stripRoute (tokens : List Message → TokenCount) (cm : ContextManager) (r : Split) :
    Option (List Obj) :=
  if r.compact.isEmpty then none
  else
    let stripped := r.compact.map Obj.strip
    if (tokens ((stripped ++ r.keep).map Obj.msg)).safeCount < cm.compactThreshold
        then some stripped
    else none

def Obj.key (m : Obj) : Option Nat := some m.ref

def Obj.updates (stripped : List Obj) : List (MessageUpdate Obj Nat) := stripped.map .add

/-! ## Below the trigger -/

def Unordered (tokens : List Message → TokenCount) : Prop :=
  ∀ ms ms' : List Message, ms.Perm ms' → tokens ms = tokens ms'

/-- The route gets the conversation below the trigger, whatever is counted and said. -/
def StripSuffices (cm : ContextManager) : Prop :=
  ∀ tokens, Unordered tokens → ∀ (c : Conversation) tracking r valid stripped,
    checkContext tokens cm c.messages tracking false = .ok (r, valid) →
    stripRoute tokens cm r = some stripped →
    (tokens ((addMessages Obj.key c.messages (Obj.updates stripped)).map Obj.msg)).safeCount <
      cm.threshold

theorem checkContext_perm {tokens : List Message → TokenCount}
    {c : Conversation} {tracking : Option CompactTrackingState} {force valid : Bool} {r : Split}
    (h : checkContext tokens cm c.messages tracking force = .ok (r, valid)) :
    (r.compact ++ r.keep).Perm c.messages := by
  have hne : cm.threshold ≠ 0 := by
    intro h0
    cases (checkContext_error tokens cm c tracking force h0).symm.trans h
  obtain ⟨valid', hok⟩ := checkContext_ok tokens cm c tracking force hne
  cases h.symm.trans hok
  split
  · obtain ⟨old, hcut⟩ := exists_budgetCut tokens cm.reserveTokens c.messages
    refine (repairs_repair _).perm.trans ?_
    rw [budgetSplit_eq c hcut]
    exact others_perm ((sublist_append_left _ _).trans hcut.sublist)
  · rfl

theorem find_strip {ms : List Obj} (hinj : ∀ a ∈ ms, ∀ b ∈ ms, a.ref = b.ref → a = b) {m : Obj}
    (hm : m ∈ ms) : (ms.map Obj.strip).find? (fun u => u.ref = m.ref) = some m.strip := by
  induction ms with
  | nil => cases hm
  | cons a ms ih =>
    rw [map_cons, List.find?_cons]
    by_cases heq : a.ref = m.ref
    · simp [Obj.strip, hinj a mem_cons_self m hm heq]
    · have hne : (decide (a.strip.ref = m.ref)) = false := decide_eq_false heq
      rw [hne]
      have htail : m ∈ ms := (mem_cons.mp hm).resolve_left fun h => heq (h ▸ rfl)
      exact ih (fun a ha b hb => hinj a (mem_cons_of_mem _ ha) b (mem_cons_of_mem _ hb)) htail

theorem addMessages_perm {c : Conversation} {r : Split}
    (h : (r.compact ++ r.keep).Perm c.messages) :
    (addMessages Obj.key c.messages (Obj.updates (r.compact.map Obj.strip))).Perm
      (r.compact.map Obj.strip ++ r.keep) := by
  have hmem : ∀ m ∈ r.compact ++ r.keep, m ∈ c.messages := fun m hm => h.subset hm
  have hnodup : (r.compact ++ r.keep).Nodup := h.nodup_iff.mpr c.nodup
  have hreplace : addMessages Obj.key c.messages (Obj.updates (r.compact.map Obj.strip)) =
      c.messages.map fun m =>
        ((r.compact.map Obj.strip).find? fun u => u.key = m.key).getD m := by
    refine addMessages_replace Obj.key (fun _ _ => nofun) ?_ ?_
    · intro u hu
      obtain ⟨m, hm, rfl⟩ := mem_map.mp hu
      exact ⟨m, hmem m (mem_append_left _ hm), rfl⟩
    · refine List.pairwise_map.mpr ((nodup_append.mp hnodup).1.imp_of_mem ?_)
      intro a b ha hb hne hkey
      exact hne (c.ref_inj (hmem a (mem_append_left _ ha)) (hmem b (mem_append_left _ hb))
        (Option.some.inj hkey))
  rw [hreplace]
  simp only [Obj.key, Option.some.injEq]
  refine (h.symm.map _).trans (List.Perm.of_eq ?_)
  rw [map_append]
  congr 1
  · refine map_congr_left fun m hm => ?_
    rw [find_strip (fun a ha b hb => c.ref_inj (hmem a (mem_append_left _ ha))
      (hmem b (mem_append_left _ hb))) hm, Option.getD_some]
  · -- nothing that is kept has the identity of a cut message
    conv_rhs => rw [← map_id r.keep]
    refine map_congr_left fun m hm => ?_
    have hnone : (r.compact.map Obj.strip).find? (fun u => u.ref = m.ref) = none := by
      simp only [List.find?_eq_none, mem_map, decide_eq_true_eq]
      rintro u ⟨a, ha, rfl⟩ heq
      have hsame := c.ref_inj (hmem a (mem_append_left _ ha))
        (hmem m (mem_append_right _ hm)) heq
      exact disjoint_of_nodup_append hnodup ha (hsame ▸ hm)
    rw [hnone]
    rfl

theorem stripSuffices_of_le (h : cm.compactThreshold ≤ max cm.threshold 0) : StripSuffices cm := by
  intro tokens hcount c tracking r valid stripped hcheck hroute
  unfold stripRoute at hroute
  dsimp only at hroute
  split at hroute
  · cases hroute
  split at hroute
  · next hlt =>
    cases hroute
    rw [hcount _ _ ((addMessages_perm (checkContext_perm hcheck)).map Obj.msg)]
    omega
  · cases hroute

def oneMessage : Conversation where
  messages := [⟨0, .human "status?"⟩]
  distinct := nodup_singleton _

def constTokens (count safe : Nat) (_ : List Message) : TokenCount := ⟨count, safe⟩

theorem checkContext_const {n : Nat} (hne : cm.threshold ≠ 0) (hn : cm.threshold ≤ n) : ∃ valid,
    checkContext (constTokens (cm.reserveTokens + 1) n) cm oneMessage.messages none false =
      .ok (⟨oneMessage.messages, []⟩, valid) := by
  obtain ⟨valid, hok⟩ := checkContext_ok (constTokens (cm.reserveTokens + 1) n) cm oneMessage none
    false hne
  refine ⟨valid, ?_⟩
  have hdue : Compacts (constTokens (cm.reserveTokens + 1) n) cm oneMessage none false :=
    Or.inr ⟨by simp, hn⟩
  rw [hok, if_pos hdue]
  -- the one message is more than what is kept
  have hsum : isSummary ⟨0, .human "status?"⟩ = false := by decide
  simp [repair, budgetSplit, oneMessage, hsum, reserveRecent, totalTokens, messageTokens,
      constTokens,
    moveBack, ensurePairIntegrity, hasToolCalls]

/-- The two thresholds agree: the product is not above the buffer, or not above
half the window. -/
def RatioInForce (cm : ContextManager) : Prop :=
  cm.compactThreshold ≤ cm.maxTokens - autocompactBufferTokens ∨
    cm.compactThreshold ≤ scaled cm.maxTokens (1 / 2)

theorem ratioInForce_iff : RatioInForce cm ↔ cm.compactThreshold ≤ cm.threshold := by
  unfold RatioInForce ContextManager.threshold autoCompactThreshold
  change _ ↔ cm.compactThreshold ≤ max (min _ cm.compactThreshold) _
  omega

/-- For every window and ratio, the cheap route gets below the trigger exactly if
the ratio is the one in force; else the product must be no number of tokens to
get below, or the half window 0, which ends the check in a division by zero. -/
theorem stripSuffices_iff (cm : ContextManager) :
    StripSuffices cm ↔ RatioInForce cm ∨ cm.compactThreshold ≤ 0 ∨ cm.threshold = 0 := by
  rw [ratioInForce_iff]
  constructor
  · intro h
    by_contra hcond
    obtain ⟨hlt, hpos, hne⟩ : cm.threshold < cm.compactThreshold ∧ 0 < cm.compactThreshold ∧
        cm.threshold ≠ 0 := by omega
    obtain ⟨valid, hcheck⟩ := checkContext_const (n := cm.threshold.toNat) hne (by omega)
    have hroute : stripRoute (constTokens (cm.reserveTokens + 1) cm.threshold.toNat) cm
        ⟨oneMessage.messages, []⟩ = some (oneMessage.messages.map Obj.strip) := by
      unfold stripRoute
      rw [if_neg (by simp [oneMessage])]
      exact if_pos (by simp only [constTokens]; omega)
    have hbelow := h _ (fun _ _ _ => rfl) oneMessage none _ valid _ hcheck hroute
    simp only [constTokens] at hbelow
    omega
  · rintro (hle | hle | hzero)
    · exact stripSuffices_of_le (by omega)
    · exact stripSuffices_of_le (by omega)
    · intro tokens _ c tracking r valid stripped hcheck
      cases (checkContext_error tokens cm c tracking false hzero).symm.trans hcheck

/-- With a ratio of 0.95 the exit stands at 121600 tokens, the trigger at 115000. -/
theorem strip_stays_above : let cm : ContextManager := { compactRatio := Float64.round (95 / 100) }
    cm.threshold = 115000 ∧ cm.compactThreshold = 121600 ∧
      (stripRoute (constTokens 20001 120000) cm ⟨oneMessage.messages, []⟩).isSome ∧
      (checkContext (constTokens 20001 120000) cm oneMessage.messages none false).toOption.any
        fun r => !r.1.compact.isEmpty := by decide +kernel

end ChaosBlade.Memory
