/-
Memory.ContextManagerTheorems: what the compaction of a
conversation does to its messages.

The budget cuts the messages that are not summaries at one place
(`BudgetCut`), and the cut is unique.
-/
import ChaosBlade.Log.Entries
import ChaosBlade.Memory.ContextManager

namespace ChaosBlade.Memory

open Py Agent List Option

variable {m : Obj} {ms : List Obj}

structure Conversation where
  messages : List Obj
  distinct : (messages.map Obj.ref).Nodup

section

variable (c : Conversation)

theorem Conversation.nodup : c.messages.Nodup := .of_map _ c.distinct

theorem Conversation.ref_inj {a b : Obj} (ha : a ∈ c.messages)
    (hb : b ∈ c.messages) (h : a.ref = b.ref) : a = b :=
  inj_on_of_nodup_map c.distinct ha hb h

/-! ## Budget -/

section

variable (tokens : List Message → TokenCount) (reserve : Nat)

theorem totalTokens_append (ms ms' : List Obj) :
    totalTokens tokens (ms ++ ms') = totalTokens tokens ms + totalTokens tokens ms' := by
  induction ms with
  | nil => simp [totalTokens]
  | cons m ms ih => rw [cons_append, totalTokens, totalTokens, ih, Nat.add_assoc]

theorem totalTokens_reverse (ms : List Obj) :
    totalTokens tokens ms.reverse = totalTokens tokens ms := by
  induction ms with
  | nil => rfl
  | cons m ms ih =>
    rw [reverse_cons, totalTokens_append, ih, totalTokens, totalTokens, totalTokens]
    omega

/-- The messages that are not summaries are cut into those that are too old and the longest
tail whose tokens, with those of the summaries, are within the reserve. -/
structure BudgetCut (messages old recent : List Obj) : Prop where
  parts : messages.filter (fun m => !isSummary m) = old ++ recent
  fits : recent = [] ∨
    totalTokens tokens (messages.filter isSummary) + totalTokens tokens recent ≤ reserve
  full : ∀ m ∈ old.getLast?, reserve <
    totalTokens tokens (messages.filter isSummary) +
        (messageTokens tokens m + totalTokens tokens recent)

theorem reserveRecent_spec (kept : Nat) (recent rest : List Obj) : ∃ taken left,
    rest.filter (fun m => !isSummary m) = taken ++ left ∧
    reserveRecent tokens reserve kept recent rest = taken.reverse ++ recent ∧
    (taken = [] ∨ kept + totalTokens tokens taken ≤ reserve) ∧
    ∀ m ∈ left.head?, reserve < kept + (totalTokens tokens taken + messageTokens tokens m) := by
  induction rest generalizing kept recent with
  | nil => exact ⟨[], [], rfl, rfl, .inl rfl, by simp⟩
  | cons m rest ih =>
    unfold reserveRecent
    by_cases hsum : isSummary m = true
    · obtain ⟨taken, left, hparts, hrun, hfits, hfull⟩ := ih kept recent
      refine ⟨taken, left, ?_, ?_, hfits, hfull⟩
      · rw [filter_cons_of_neg (by simp [hsum]), hparts]
      · rw [if_pos hsum, hrun]
    · rw [if_neg hsum, filter_cons_of_pos (by simp [hsum])]
      by_cases hover : reserve < kept + messageTokens tokens m
      · refine ⟨[], m :: rest.filter (fun m => !isSummary m), rfl, by rw [if_pos hover]; rfl,
          .inl rfl, ?_⟩
        intro m' hm'
        obtain rfl := some.inj hm'
        simpa [totalTokens] using hover
      · obtain ⟨taken, left, hparts, hrun, hfits, hfull⟩ :=
          ih (kept + messageTokens tokens m) (m :: recent)
        refine ⟨m :: taken, left, by rw [hparts]; rfl, ?_, .inr ?_, ?_⟩
        · rw [if_neg hover, hrun]
          simp
        · rw [totalTokens]
          rcases hfits with rfl | hfits
          · simpa [totalTokens] using Nat.not_lt.mp hover
          · omega
        · intro m' hm'
          have := hfull m' hm'
          rw [totalTokens]
          omega

theorem exists_budgetCut (messages : List Obj) : ∃ old, BudgetCut tokens reserve messages old
    (reserveRecent tokens reserve (totalTokens tokens (messages.filter isSummary)) []
        messages.reverse) := by
  obtain ⟨taken, left, hparts, hrun, hfits, hfull⟩ := reserveRecent_spec tokens reserve
    (totalTokens tokens (messages.filter isSummary)) [] messages.reverse
  refine ⟨left.reverse, ?_⟩
  rw [hrun, append_nil]
  refine ⟨?_, ?_, fun m hm => ?_⟩
  · rw [← reverse_append, ← hparts, ← filter_reverse, reverse_reverse]
  · rw [totalTokens_reverse]
    exact hfits.imp (fun h => by rw [h]; rfl) id
  · rw [List.getLast?_reverse] at hm
    have := hfull m hm
    rw [totalTokens_reverse]
    omega

variable {tokens reserve}

section

variable {messages old recent old' recent' : List Obj}
  (h : BudgetCut tokens reserve messages old recent)
  (h' : BudgetCut tokens reserve messages old' recent')
include h h'

theorem BudgetCut.length_le : old.length ≤ old'.length := by
  by_contra hlt
  obtain ⟨more, hold⟩ : ∃ more, old = old' ++ more := by
    have happ := h.parts.symm.trans h'.parts
    obtain ⟨more, hmore, -⟩ | ⟨more, hmore, -⟩ := List.append_eq_append_iff.mp happ
    · rw [hmore, length_append] at hlt
      omega
    · exact ⟨more, hmore⟩
  have hrecent : recent' = more ++ recent := by
    have happ := h.parts.symm.trans h'.parts
    rw [hold, append_assoc] at happ
    exact (append_cancel_left happ).symm
  rcases eq_nil_or_concat' more with rfl | ⟨more, m, rfl⟩
  · simp [hold] at hlt
  · have hfull := h.full m (by simp [hold])
    have hfits := h'.fits
    rw [hrecent, totalTokens_append, totalTokens_append, totalTokens, totalTokens] at hfits
    rcases hfits with hnil | hfits
    · simp at hnil
    · omega

theorem BudgetCut.unique : old = old' ∧ recent = recent' :=
  append_inj (h.parts.symm.trans h'.parts) (Nat.le_antisymm (h.length_le h') (h'.length_le h))

end

end

/-! ## Order -/

theorem foldl_position_skip : ∀ {ms : List Obj} {k i : Nat}, (∀ e ∈ ms, e.ref ≠ m.ref) →
    (ms.zipIdx k).foldl (fun i e => if e.1.ref = m.ref then e.2 else i) i = i
  | [], _, _, _ => rfl
  | e :: ms, k, i, h => by
    rw [zipIdx_cons, foldl_cons, if_neg (h e (by simp))]
    exact foldl_position_skip fun e' he' => h e' (by simp [he'])

theorem Conversation.position_eq {front back : List Obj}
    (h : c.messages = front ++ m :: back) : position c.messages m = front.length := by
  have hdistinct := c.distinct
  rw [h, map_append, map_cons, nodup_append] at hdistinct
  have hback : ∀ e ∈ back, e.ref ≠ m.ref := by
    intro e he href
    exact (nodup_cons.mp hdistinct.2.1).1 (href ▸ List.mem_map_of_mem he)
  rw [position, h, zipIdx_append, zipIdx_cons, foldl_append, foldl_cons, if_pos rfl,
    foldl_position_skip hback]
  simp

theorem Conversation.position_lt {a b : Obj} (h : [a, b].Sublist c.messages) :
    position c.messages a < position c.messages b := by
  obtain ⟨front, mid, back, hsplit⟩ := Log.pair_sublist_iff.mp h
  have hb : c.messages = (front ++ a :: mid) ++ b :: back := by
    rw [hsplit]
    simp
  rw [c.position_eq hsplit, c.position_eq hb, length_append, length_cons]
  omega

theorem Conversation.position_inj {a b : Obj} (ha : a ∈ c.messages)
    (hb : b ∈ c.messages) (h : position c.messages a = position c.messages b) : a = b := by
  obtain ⟨front, back, hfront⟩ := append_of_mem ha
  obtain ⟨front', back', hfront'⟩ := append_of_mem hb
  rw [c.position_eq hfront, c.position_eq hfront'] at h
  exact (cons.inj (append_inj (hfront.symm.trans hfront') h).2).1

theorem Conversation.sort_eq (hnodup : ms.Nodup) (hsub : ∀ m ∈ ms, m ∈ c.messages) :
    ms.insertionSort (fun a b => position c.messages a ≤ position c.messages b) =
      c.messages.filter fun m => m.ref ∈ ms.map Obj.ref := by
  have hmem : ∀ m, m ∈ c.messages.filter (fun m => m.ref ∈ ms.map Obj.ref) ↔ m ∈ ms := by
    intro m
    rw [mem_filter, decide_eq_true_iff, List.mem_map]
    constructor
    · rintro ⟨hm, m', hm', href⟩
      rwa [← c.ref_inj (hsub m' hm') hm href]
    · exact fun hm => ⟨hsub m hm, m, hm, rfl⟩
  have hperm : (ms.insertionSort fun a b => position c.messages a ≤ position c.messages b).Perm
      (c.messages.filter fun m => m.ref ∈ ms.map Obj.ref) :=
    (perm_insertionSort _ ms).trans
      ((perm_ext_iff_of_nodup hnodup (c.nodup.filter _)).mpr fun m => (hmem m).symm)
  have hsorted : (c.messages.filter fun m => m.ref ∈ ms.map Obj.ref).Pairwise
      (fun a b => position c.messages a ≤ position c.messages b) := by
    rw [pairwise_iff_forall_sublist]
    exact fun h => (c.position_lt (h.trans filter_sublist)).le
  refine hperm.eq_of_pairwise ?_ (pairwise_insertionSort _ ms) hsorted
  intro a b ha hb hab hba
  have ha' : a ∈ c.messages := hsub a ((perm_insertionSort _ ms).subset ha)
  exact c.position_inj ha' (mem_of_mem_filter hb) (Nat.le_antisymm hab hba)

theorem Conversation.mem_refs (hsub : ∀ m ∈ ms, m ∈ c.messages)
    (hm : m ∈ c.messages) : m.ref ∈ ms.map Obj.ref ↔ m ∈ ms := by
  rw [List.mem_map]
  constructor
  · rintro ⟨m', hm', href⟩
    rwa [← c.ref_inj (hsub m' hm') hm href]
  · exact fun hm => ⟨m, hm, rfl⟩

theorem Conversation.filter_refs (h : ms.Sublist c.messages) :
    c.messages.filter (fun m => m.ref ∈ ms.map Obj.ref) = ms := by
  have hsorted : ms.Pairwise fun a b => position c.messages a ≤ position c.messages b := by
    rw [pairwise_iff_forall_sublist]
    exact fun hab => (c.position_lt (hab.trans h)).le
  rw [← c.sort_eq (c.nodup.sublist h) fun m hm => h.subset hm]
  exact hsorted.insertionSort_eq

/-! ## Partition -/

def Conversation.others (c : Conversation) (old : List Obj) : List Obj :=
  c.messages.filter fun m => m.ref ∉ old.map Obj.ref

variable {tokens : List Message → TokenCount} {reserve : Nat}

theorem BudgetCut.sublist
    {messages old recent : List Obj} (h : BudgetCut tokens reserve messages old recent) :
    (old ++ recent).Sublist messages := h.parts ▸ filter_sublist

variable {old recent : List Obj}

theorem BudgetCut.mem_old_iff (h : BudgetCut tokens reserve c.messages old recent)
    (hm : m ∈ c.messages) : m ∈ old ↔ m ∉ c.messages.filter isSummary ++ recent := by
  have hnodup := c.nodup.sublist h.sublist
  have hparts : m ∈ old ++ recent ↔ isSummary m = false := by
    rw [← h.parts, mem_filter, Bool.not_eq_true']
    exact ⟨fun h => h.2, fun h => ⟨hm, h⟩⟩
  rw [mem_append] at hparts
  rw [mem_append, mem_filter, not_or, not_and]
  constructor
  · intro hold
    have hno := hparts.mp (.inl hold)
    refine ⟨fun _ => by simp [hno], fun hrecent => ?_⟩
    exact (nodup_append.mp hnodup).2.2 m hold m hrecent rfl
  · rintro ⟨hno, hrecent⟩
    exact (hparts.mpr (by simpa using hno hm)).resolve_right hrecent

open Conversation in
theorem budgetSplit_eq (h : BudgetCut tokens reserve c.messages old recent) :
    budgetSplit tokens reserve c.messages = ⟨old, c.others old⟩ := by
  have hold : old.Sublist c.messages := (sublist_append_left _ _).trans h.sublist
  have hrecent : recent.Sublist c.messages := (sublist_append_right _ _).trans h.sublist
  obtain ⟨old', h'⟩ := exists_budgetCut tokens reserve c.messages
  obtain ⟨-, hrun⟩ := h.unique h'
  have hsub : ∀ m ∈ c.messages.filter isSummary ++ recent, m ∈ c.messages := by
    intro m hm
    rcases mem_append.mp hm with hm | hm
    · exact mem_of_mem_filter hm
    · exact hrecent.subset hm
  have hnodup : (c.messages.filter isSummary ++ recent).Nodup := by
    refine nodup_append.mpr ⟨c.nodup.filter _, c.nodup.sublist hrecent, ?_⟩
    rintro a ha b hb rfl
    have hmem : a ∈ c.messages.filter (fun m => !isSummary m) := h.parts ▸ mem_append_right _ hb
    simp_all [mem_filter]
  have hkeep : (c.messages.filter isSummary ++ recent).insertionSort
      (fun a b => position c.messages a ≤ position c.messages b) = c.others old := by
    rw [c.sort_eq hnodup hsub]
    refine filter_congr fun m hm => decide_eq_decide.mpr ?_
    rw [c.mem_refs hsub hm, c.mem_refs (fun m hm => hold.subset hm) hm, h.mem_old_iff c hm, not_not]
  have hcompact : c.messages.filter (fun m => m.ref ∉ (c.others old).map Obj.ref) = old := by
    rw [← c.filter_refs hold]
    have hothers : ∀ m ∈ c.others old, m ∈ c.messages := fun m hm => mem_of_mem_filter hm
    refine filter_congr fun m hm => decide_eq_decide.mpr ?_
    rw [c.filter_refs hold, c.mem_refs hothers hm, others, mem_filter,
      decide_eq_true_iff]
    tauto
  unfold budgetSplit
  simp only [← hrun, hkeep, hcompact]

end

open Conversation

def repair (s : Split) : Split := ensurePairIntegrity (moveBack s)

inductive Repairs (s : Split) : Split → Prop
  | back {f : Obj} {keep : List Obj} : s.compact ≠ [] → s.keep = f :: keep → isTool f.msg = true →
      Repairs s ⟨s.compact ++ [f], keep⟩
  | forward {last : Obj} {compact : List Obj} : s.compact = compact ++ [last] →
      hasToolCalls last.msg = true → (∀ f ∈ s.keep.head?, isTool f.msg = false) →
      Repairs s ⟨compact, last :: s.keep⟩
  | none : (∀ last ∈ s.compact.getLast?, hasToolCalls last.msg = false ∧
      ∀ f ∈ s.keep.head?, isTool f.msg = false) → Repairs s s

theorem repairs_ensure {s : Split} (h : s.compact ≠ [] → ∀ f ∈ s.keep.head?, isTool f.msg = false) :
    Repairs s (ensurePairIntegrity s) := by
  unfold ensurePairIntegrity
  rcases eq_nil_or_concat' s.compact with hnil | ⟨compact, last, hlast⟩
  · rw [hnil]
    exact .none (by simp [hnil])
  · have hhead := h (by simp [hlast])
    rw [hlast, List.getLast?_concat, dropLast_concat]
    dsimp only
    split
    · next hcalls => exact .forward hlast hcalls hhead
    · next hcalls => exact .none (by simp [hlast, hcalls]; exact hhead)

theorem repairs_repair (s : Split) : Repairs s (repair s) := by
  unfold repair moveBack
  split
  · next hnil => exact repairs_ensure fun h => absurd hnil h
  · next hnil _ => exact repairs_ensure fun _ f hf => by simp [hnil] at hf
  · next f keep hkeep hcompact =>
    split
    · next htool =>
      have hcalls : hasToolCalls f.msg = false := by
        revert htool
        cases f.msg <;> simp [isTool, hasToolCalls]
      unfold ensurePairIntegrity
      simp only [List.getLast?_concat, hcalls]
      exact .back hcompact hkeep htool
    · next htool => exact repairs_ensure fun _ f' hf' => by simp_all

theorem Repairs.perm {s s' : Split} (h : Repairs s s') :
    (s'.compact ++ s'.keep).Perm (s.compact ++ s.keep) := by
  cases h with
  | back _ hkeep _ =>
    rw [hkeep]
    simp
  | forward hlast _ _ =>
    rw [hlast]
    simp
  | none _ => rfl

section

variable (tokens : List Message → TokenCount) (cm : ContextManager) (c : Conversation)
  (tracking : Option CompactTrackingState) (force : Bool)

def ContextManager.threshold : Int := autoCompactThreshold cm.maxTokens cm.compactRatio

def Compacts : Prop :=
  force = true ∨ (∀ t ∈ tracking, t.consecutiveFailures < maxConsecutiveCompactFailures) ∧
    cm.threshold ≤ (tokens (c.messages.map Obj.msg)).safeCount

instance : Decidable (Compacts tokens cm c tracking force) :=
  inferInstanceAs (Decidable (_ ∨ _ ∧ _))

theorem checkContext_error (h : cm.threshold = 0) :
    checkContext tokens cm c.messages tracking force =
      .error ⟨.zeroDivisionError, "division by zero"⟩ := by
  have hthreshold : autoCompactThreshold cm.maxTokens cm.compactRatio = 0 := h
  unfold checkContext calculateTokenWarningState
  simp [hthreshold, bind, Except.bind, throw, throwThe, MonadExceptOf.throw]

theorem calculateTokenWarningState_ok (h : cm.threshold ≠ 0) (usage : Int) : ∃ state,
    calculateTokenWarningState usage cm.maxTokens true cm.compactRatio = .ok state ∧
      (state.isAboveAutoCompact = true ↔ cm.threshold ≤ usage) := by
  have hthreshold : autoCompactThreshold cm.maxTokens cm.compactRatio ≠ 0 := h
  unfold calculateTokenWarningState
  simp only [if_true, if_neg hthreshold]
  exact ⟨_, rfl, by simp [ContextManager.threshold]⟩

theorem checkContext_ok (h : cm.threshold ≠ 0) : ∃ valid,
    checkContext tokens cm c.messages tracking force =
      .ok (if Compacts tokens cm c tracking force then
        repair (budgetSplit tokens cm.reserveTokens c.messages) else ⟨[], c.messages⟩, valid) := by
  obtain ⟨state, hstate, habove⟩ := calculateTokenWarningState_ok cm h
    (tokens (c.messages.map Obj.msg)).safeCount
  have htripped : tracking.any (fun t => decide (maxConsecutiveCompactFailures ≤
      t.consecutiveFailures)) =
      true ↔ ¬ ∀ t ∈ tracking, t.consecutiveFailures < maxConsecutiveCompactFailures := by
    cases tracking <;> simp
  unfold checkContext
  simp only [hstate]
  cases force with
  | true => exact ⟨_, by rw [if_pos (.inl rfl)]; rfl⟩
  | false =>
    by_cases hbreaker : ∀ t ∈ tracking, t.consecutiveFailures < maxConsecutiveCompactFailures
    · have hclosed := Bool.eq_false_iff.mpr fun ht => htripped.mp ht hbreaker
      by_cases hdue : cm.threshold ≤ (tokens (c.messages.map Obj.msg)).safeCount
      · refine ⟨!state.isAtBlocking, ?_⟩
        rw [if_pos (.inr ⟨hbreaker, hdue⟩)]
        simp [bind, Except.bind, pure, Except.pure, hclosed, habove.mpr hdue, repair]
      · have hbelow := Bool.eq_false_iff.mpr (mt habove.mp hdue)
        refine ⟨true, ?_⟩
        rw [if_neg (by simp [Compacts, hdue])]
        simp [bind, Except.bind, pure, Except.pure, hclosed, hbelow]
    · refine ⟨false, ?_⟩
      rw [if_neg (by simp only [Compacts, hbreaker]; simp)]
      simp [bind, Except.bind, pure, Except.pure, htripped.mpr hbreaker]

structure Partitioned (r : Split) : Prop where
  once : (r.compact ++ r.keep).Perm c.messages
  /-- A summary stays, if it is not in a tool result. -/
  summaries : ∀ m ∈ c.messages, isSummary m = true → isTool m.msg = false → m ∈ r.keep
  /-- What is compacted is in order, up to a message that a repair moves. -/
  order : ∃ stay moved, r.compact = stay ++ moved ∧ stay.Sublist c.messages ∧ moved.length ≤ 1 ∧
    ∀ m ∈ moved, m ∈ (budgetSplit tokens cm.reserveTokens c.messages).keep
  untouched : ¬ Compacts tokens cm c tracking force → r = ⟨[], c.messages⟩
  repaired : Compacts tokens cm c tracking force →
    r = repair (budgetSplit tokens cm.reserveTokens c.messages)
  /-- Before the repairs, what stays besides the summaries is a tail that fits. -/
  tail : let kept :=
      (budgetSplit tokens cm.reserveTokens c.messages).keep.filter fun m => !isSummary m
    kept <:+ c.messages.filter (fun m => !isSummary m) ∧
      (kept = [] ∨ totalTokens tokens (c.messages.filter isSummary) + totalTokens tokens kept ≤
        cm.reserveTokens)

variable {tokens cm c tracking force}

theorem others_perm (h : old.Sublist c.messages) : (old ++ c.others old).Perm c.messages := by
  have hfilter := filter_append_perm (fun m : Obj => decide (m.ref ∈ old.map Obj.ref)) c.messages
  rw [c.filter_refs h] at hfilter
  simpa only [others, decide_not] using hfilter

theorem BudgetCut.filter_others {reserve : Nat}
    (h : BudgetCut tokens reserve c.messages old recent) :
    (c.others old).filter (fun m => !isSummary m) = recent := by
  have hold : old.Sublist c.messages := (sublist_append_left _ _).trans h.sublist
  have hnodup := c.nodup.sublist h.sublist
  rw [others, filter_comm, h.parts, filter_append]
  have hgone : old.filter (fun m => decide (m.ref ∉ old.map Obj.ref)) = [] := by
    refine filter_eq_nil_iff.mpr fun m hm => ?_
    simpa using ⟨m, hm, rfl⟩
  have hstay : recent.filter (fun m => decide (m.ref ∉ old.map Obj.ref)) = recent := by
    refine filter_eq_self.mpr fun m hm => decide_eq_true_iff.mpr fun href => ?_
    have hmem : m ∈ c.messages := h.sublist.subset (mem_append_right _ hm)
    have hm' := (c.mem_refs (fun m hm => hold.subset hm) hmem).mp href
    exact (nodup_append.mp hnodup).2.2 m hm' m hm rfl
  rw [hgone, hstay, nil_append]

theorem Repairs.summary_mem {s s' : Split} (h : Repairs s s') (hm : m ∈ s.keep)
    (htool : isTool m.msg = false) : m ∈ s'.keep := by
  cases h with
  | back _ hkeep hf =>
    rw [hkeep] at hm
    rcases mem_cons.mp hm with rfl | hm
    · simp [htool] at hf
    · exact hm
  | forward _ _ _ => exact mem_cons_of_mem _ hm
  | none _ => exact hm

theorem Repairs.order {s s' : Split} (h : Repairs s s') : ∃ stay moved,
    s'.compact = stay ++ moved ∧ stay.Sublist s.compact ∧ moved.length ≤ 1 ∧ ∀ m ∈ moved,
        m ∈ s.keep := by
  cases h with
  | @back f _ _ hkeep _ => exact ⟨s.compact, [f], rfl, .refl _, by simp, by simp [hkeep]⟩
  | @forward _ compact hlast _ _ =>
    exact ⟨compact, [], by simp, hlast ▸ sublist_append_left _ _, by simp, by simp⟩
  | none _ => exact ⟨s.compact, [], by simp, .refl _, by simp, by simp⟩

theorem tail_fits {reserve : Nat} (h : BudgetCut tokens reserve c.messages old recent) :
    let kept := (budgetSplit tokens reserve c.messages).keep.filter fun m => !isSummary m
    kept <:+ c.messages.filter (fun m => !isSummary m) ∧
      (kept = [] ∨ totalTokens tokens (c.messages.filter isSummary) + totalTokens tokens kept ≤
          reserve) := by
  rw [budgetSplit_eq c h, h.filter_others]
  exact ⟨⟨old, h.parts.symm⟩, h.fits⟩

/-- A compaction partitions the conversation. -/
theorem checkContext_partitions (tokens : List Message → TokenCount) (cm : ContextManager)
    (c : Conversation) (tracking : Option CompactTrackingState) (force : Bool) (h : cm.threshold ≠
        0) :
    ∃ r valid, checkContext tokens cm c.messages tracking force = .ok (r, valid) ∧
      Partitioned tokens cm c tracking force r := by
  obtain ⟨valid, hok⟩ := checkContext_ok tokens cm c tracking force h
  obtain ⟨old, hcut⟩ := exists_budgetCut tokens cm.reserveTokens c.messages
  have hsplit := budgetSplit_eq c hcut
  have hold : old.Sublist c.messages := (sublist_append_left _ _).trans hcut.sublist
  have hfits := tail_fits hcut
  refine ⟨_, valid, hok, ?_⟩
  by_cases hc : Compacts tokens cm c tracking force
  · rw [if_pos hc]
    have hrepairs := repairs_repair (budgetSplit tokens cm.reserveTokens c.messages)
    refine ⟨?_, fun m hm hsum htool => hrepairs.summary_mem ?_ htool, ?_, absurd hc, fun _ => rfl,
        hfits⟩
    · refine hrepairs.perm.trans ?_
      rw [hsplit]
      exact others_perm hold
    · -- a summary is not among those that are too old
      have hnot := mt (hcut.mem_old_iff c hm).mp
        (not_not.mpr (mem_append_left _ (mem_filter.mpr ⟨hm, hsum⟩)))
      rw [hsplit, others, mem_filter, decide_eq_true_iff,
        c.mem_refs (fun m hm => hold.subset hm) hm]
      exact ⟨hm, hnot⟩
    · obtain ⟨stay, moved, hcompact, hstay, hmoved⟩ := hrepairs.order
      refine ⟨stay, moved, hcompact, hstay.trans ?_, hmoved⟩
      rw [hsplit]
      exact hold
  · rw [if_neg hc]
    refine ⟨by simp, fun m hm _ _ => hm, ⟨[], [], rfl, nil_sublist _, by simp, by simp⟩,
      fun _ => rfl, fun h => absurd h hc, hfits⟩

def evenTokens (n : Nat) (ms : List Message) : TokenCount := ⟨n * ms.length, n * ms.length⟩

def sides (r : Except PyError (Split × Bool)) : Option (List Nat × List Nat) :=
  r.toOption.map fun r => (r.1.compact.map Obj.ref, r.1.keep.map Obj.ref)

def quotedSummary : Conversation where
  messages := [⟨0, .human "show the log"⟩, ⟨1,
      .tool ⟨"[Compressed History] 3 rounds", "kubectl", "a", .success⟩⟩]
  distinct := by decide

theorem quotedSummary_partitions : ({ } : ContextManager).threshold ≠ 0 ∧
    ∃ r valid, checkContext (evenTokens 60000) {} quotedSummary.messages none false =
        .ok (r, valid) ∧
      Partitioned (evenTokens 60000) {} quotedSummary none false r := by
  have h : ({ } : ContextManager).threshold ≠ 0 := by decide +kernel
  exact ⟨h, checkContext_partitions _ _ _ _ _ h⟩

/-- A context that is not compacted stays whole, beyond the reserve. The tool result goes
back although it reads like a summary. -/
theorem quotedSummary_sides :
    sides (checkContext (evenTokens 15000) {} quotedSummary.messages none false) =
        some ([], [0, 1]) ∧
    20000 < totalTokens (evenTokens 15000) quotedSummary.messages ∧
    sides (checkContext (evenTokens 15000) {} quotedSummary.messages none true) =
        some ([0, 1], []) ∧
    quotedSummary.messages.map isSummary = [false, true] := by decide +kernel

/-! ## Rounds -/

variable (c) in
def SameSide (r : Split) : Prop :=
  ∀ a t, Log.Answers (fun m : Obj => m.msg.callIds) (fun m => m.msg.answeredId) c.messages a t →
    (a ∈ r.compact ∧ t ∈ r.compact) ∨ (a ∈ r.keep ∧ t ∈ r.keep)

variable (c) in
/-- Of a tool call and a result of it that the cut separates, the result is kept first, or
the call is compacted last and what is kept first is no tool result. -/
def Mended (old : List Obj) : Prop :=
  ∀ a t, Log.Answers (fun m : Obj => m.msg.callIds) (fun m => m.msg.answeredId) c.messages a t →
    ¬ (a ∈ old ↔ t ∈ old) →
      (c.others old).head? = some t ∨
        old.getLast? = some a ∧ ∀ f ∈ (c.others old).head?, isTool f.msg = false

theorem sameSide_iff_compact {r : Split} (h : (r.compact ++ r.keep).Perm c.messages) :
    SameSide c r ↔ ∀ a t, Log.Answers (fun m : Obj => m.msg.callIds) (fun m => m.msg.answeredId)
      c.messages a t → (a ∈ r.compact ↔ t ∈ r.compact) := by
  have hnodup := nodup_append.mp (h.nodup_iff.mpr c.nodup)
  have hkeep : ∀ m ∈ c.messages, (m ∈ r.keep ↔ m ∉ r.compact) := by
    intro m hm
    have hside := mem_append.mp (h.mem_iff.mpr hm)
    exact ⟨fun hk hc => hnodup.2.2 m hc m hk rfl, hside.resolve_left⟩
  refine forall_congr' fun a => forall_congr' fun t => forall_congr' fun hanswers => ?_
  rw [hkeep a hanswers.left_mem, hkeep t hanswers.right_mem]
  tauto

section

variable {a t : Obj}
  (h : Log.Answers (fun m : Obj => m.msg.callIds) (fun m => m.msg.answeredId) c.messages a t)
include h

theorem not_mem_of_last {compact : List Obj} (hold : old.Sublist c.messages)
    (hlast : old = compact ++ [a]) : t ∉ old := by
  intro ht
  rw [hlast] at ht hold
  rcases mem_append.mp ht with ht | ht
  · have hswap : [t, a].Sublist (compact ++ [a]) :=
      (List.singleton_sublist.mpr ht).append (.refl [a])
    exact Log.not_pair_sublist_swap c.nodup h.before (hswap.trans hold)
  · obtain rfl := mem_singleton.mp ht
    exact Log.not_pair_sublist_swap c.nodup h.before h.before

theorem mem_of_first {keep : List Obj} (hfirst : c.others old = t :: keep) : a ∉ c.others old := by
  intro ha
  have hsub : (c.others old).Sublist c.messages := filter_sublist
  rw [hfirst] at ha hsub
  rcases mem_cons.mp ha with rfl | ha
  · exact Log.not_pair_sublist_swap c.nodup h.before h.before
  · have hswap : [t, a].Sublist (t :: keep) := (List.singleton_sublist.mpr ha).cons_cons t
    exact Log.not_pair_sublist_swap c.nodup h.before (hswap.trans hsub)

theorem isTool_of_answers : isTool t.msg = true := by
  obtain ⟨i, -, hi⟩ := h.call
  cases hmsg : t.msg <;> simp_all [Message.answeredId, isTool]

theorem hasToolCalls_of_answers : hasToolCalls a.msg = true := by
  obtain ⟨i, hi, -⟩ := h.call
  cases hmsg : a.msg with
  | ai m =>
    have hcalls : m.toolCalls ≠ [] := by
      rintro hnil
      simp [hmsg, Message.callIds, hnil] at hi
    simpa [hasToolCalls] using hcalls
  | _ => simp [hmsg, Message.callIds] at hi

end

theorem mem_others (hold : old.Sublist c.messages) :
    m ∈ c.others old ↔ m ∈ c.messages ∧ m ∉ old := by
  rw [others, mem_filter, decide_eq_true_iff]
  exact and_congr_right fun hm => not_congr (c.mem_refs (fun m hm => hold.subset hm) hm)

theorem ne_of_isTool {a f : Obj} (ha : hasToolCalls a.msg = true)
    (hf : isTool f.msg = true) : a ≠ f := by
  rintro rfl
  revert ha hf
  cases a.msg <;> simp [hasToolCalls, isTool]

theorem sameSide_repair_iff (hold : old.Sublist c.messages) :
    SameSide c (repair ⟨old, c.others old⟩) ↔ Mended c old := by
  have hrepairs := repairs_repair ⟨old, c.others old⟩
  rw [sameSide_iff_compact (hrepairs.perm.trans (others_perm hold))]
  refine forall_congr' fun a => forall_congr' fun t => forall_congr' fun hanswers => ?_
  have ha := hasToolCalls_of_answers hanswers
  have ht := isTool_of_answers hanswers
  generalize repair ⟨old, c.others old⟩ = r at hrepairs
  cases hrepairs with
  | @back f keep _ hkeep hf =>
    dsimp only at hkeep
    -- the call is not the result that goes back
    have haf : a ≠ f := ne_of_isTool ha hf
    rw [hkeep, mem_append, mem_append, mem_singleton, mem_singleton]
    by_cases htf : t = f
    · subst htf
      have hbefore : a ∈ old := by
        by_contra hnot
        exact mem_of_first hanswers hkeep ((mem_others hold).mpr ⟨hanswers.left_mem, hnot⟩)
      simp [hbefore]
    · simp [haf, htf, Ne.symm htf, hf]
  | @forward last compact hlast hcalls hhead =>
    dsimp only at hlast hhead
    have htl : t ≠ last := (ne_of_isTool hcalls ht).symm
    have hfirst : (c.others old).head? ≠ some t := fun h => by simp [hhead t h] at ht
    by_cases hal : a = last
    · subst hal
      have hnot := not_mem_of_last hanswers hold hlast
      have hnodup := c.nodup.sublist hold
      have hacompact : a ∉ compact := by
        rw [hlast, nodup_append] at hnodup
        exact fun h => hnodup.2.2 a h a (mem_singleton_self a) rfl
      have htcompact : t ∉ compact := fun h => hnot (by simp [hlast, h])
      refine iff_of_true (iff_of_false hacompact htcompact) fun _ => .inr ⟨by simp [hlast], hhead⟩
    · have hmem : ∀ m, m ≠ last → (m ∈ old ↔ m ∈ compact) := fun m hm => by simp [hlast, hm]
      have hgetLast : old.getLast? ≠ some a := fun h => hal (by simpa [hlast, eq_comm] using h)
      rw [hmem a hal, hmem t htl]
      simp [hfirst, hgetLast]
  | none hnone =>
    constructor
    · exact fun hsame hcut => absurd hsame hcut
    · intro hmended
      by_contra hcut
      rcases hmended hcut with hfirst | ⟨hlast, -⟩
      · -- there is something to compact, so what is kept first is no tool result
        have hne : old ≠ [] := fun hnil => hcut (by simp [hnil])
        have hhead := (hnone _ (List.getLast?_eq_getLast_of_ne_nil hne)).2 t hfirst
        simp [ht] at hhead
      · have hcalls := (hnone a hlast).1
        simp [ha] at hcalls

/-- The calls and results of a conversation stay together exactly if the context can be
checked and, if it is compacted, the repairs mend the cut of the budget. -/
theorem checkContext_sameSide_iff (tokens : List Message → TokenCount) (cm : ContextManager)
    (c : Conversation) (tracking : Option CompactTrackingState) (force : Bool) :
    (∃ r valid, checkContext tokens cm c.messages tracking force = .ok (r, valid) ∧ SameSide c r) ↔
      cm.threshold ≠ 0 ∧ (Compacts tokens cm c tracking force →
        ∀ old recent, BudgetCut tokens cm.reserveTokens c.messages old recent → Mended c old) := by
  by_cases h : cm.threshold = 0
  · rw [checkContext_error tokens cm c tracking force h]
    simp [h]
  obtain ⟨valid, hok⟩ := checkContext_ok tokens cm c tracking force h
  have hres : (∃ r valid, checkContext tokens cm c.messages tracking force = .ok (r, valid) ∧
      SameSide c r) ↔ SameSide c (if Compacts tokens cm c tracking force then
        repair (budgetSplit tokens cm.reserveTokens c.messages) else ⟨[], c.messages⟩) := by
    rw [hok]
    simp
  rw [hres, and_iff_right h]
  by_cases hc : Compacts tokens cm c tracking force
  · obtain ⟨old, hcut⟩ := exists_budgetCut tokens cm.reserveTokens c.messages
    have hold : old.Sublist c.messages := (sublist_append_left _ _).trans hcut.sublist
    rw [if_pos hc, budgetSplit_eq c hcut, sameSide_repair_iff hold]
    constructor
    · rintro hmended - old' recent' hcut'
      rwa [← (hcut.unique hcut').1]
    · exact fun hall => hall hc old _ hcut
  · rw [if_neg hc]
    refine iff_of_true (fun a t hanswers => .inr ⟨hanswers.left_mem,
        hanswers.right_mem⟩) (absurd · hc)

end

def twoCalls : Conversation where
  messages := [⟨0, .ai { toolCalls := [⟨"kubectl", .null, "a"⟩, ⟨"kubectl", .null, "b"⟩] }⟩,
    ⟨1, .tool ⟨"web-1", "kubectl", "a", .success⟩⟩, ⟨2, .tool ⟨"node-1", "kubectl", "b", .success⟩⟩]
  distinct := by decide

/-- The cut is behind the turn; only the first of its results goes back to it. -/
theorem twoCalls_split :
    Log.CalledAfter (fun m : Obj => m.msg.callIds) (fun m => m.msg.answeredId) []
        twoCalls.messages ∧
    ¬ ∃ r valid, checkContext (evenTokens 10000) {} twoCalls.messages none true = .ok (r, valid) ∧
      SameSide twoCalls r := by
  refine ⟨by decide, ?_⟩
  rintro ⟨r, valid, hok, hsame⟩
  have hsides : sides (checkContext (evenTokens 10000) {} twoCalls.messages none true) =
      some ([0, 1], [2]) := by decide +kernel
  rw [hok] at hsides
  obtain ⟨hcompact, hkeep⟩ := Prod.mk.inj (some.inj hsides)
  have hanswers : Log.Answers (fun m : Obj => m.msg.callIds) (fun m => m.msg.answeredId)
      twoCalls.messages
      (twoCalls.messages.get ⟨0, by decide⟩) (twoCalls.messages.get ⟨2, by decide⟩) :=
    ⟨by simp [twoCalls], "b", by decide, rfl⟩
  rcases hsame _ _ hanswers with ⟨-, ht⟩ | ⟨ha, -⟩
  · have href := List.mem_map_of_mem (f := Obj.ref) ht
    rw [hcompact] at href
    revert href
    decide
  · have href := List.mem_map_of_mem (f := Obj.ref) ha
    rw [hkeep] at href
    revert href
    decide

end ChaosBlade.Memory
