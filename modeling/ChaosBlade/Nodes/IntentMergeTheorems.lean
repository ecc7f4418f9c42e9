/-
Nodes.IntentMergeTheorems: when the latest correction of a
dialogue wins.

Each slot of the intent is a register (`Merge.Register`) that the messages
make offers to, the newest first.
-/
import ChaosBlade.Merge.Register
import ChaosBlade.Nodes.IntentMerge

namespace ChaosBlade.Nodes

open Py Agent Except List Merge

variable {turns : List Said} {slot : Slot}

/-! ## Turns -/

structure Said where
  speaker : Speaker
  text : String

def Said.message (m : Said) : Message :=
  match m.speaker with
  | .human => .human m.text
  | .ai => .ai { content := .str m.text }

def Said.isOverride (m : Said) : Bool := overrideSignals.any fun s => hasSub s (strip m.text)

def Said.names (db : CharDb) (m : Said) : List String :=
  if strip m.text = "" then [] else extractNames db (strip m.text) m.speaker

inductive Slot where
  | scope
  | target
  | ns
  | percent
  | timeout

def ofText (s : String) : Option Json := if s = "" then none else some (.str s)

def Slot.read (intent : FaultIntent) : Slot → Option Json
  | .scope => ofText intent.scope
  | .target => ofText intent.target
  | .ns => ofText intent.ns
  | .percent => intent.params.get? "percent"
  | .timeout => intent.params.get? "timeout"

def Slot.find (db : CharDb) (text : String) : Slot → Option Json
  | .scope => ofText (extractScope text)
  | .target => ofText (extractTargetKeyword text)
  | .ns => ofText (extractNamespace text)
  | .percent => (numberIn (percentPattern db) text).map .str
  | .timeout => (numberIn (timeoutPattern db) text).map .str

def Said.has (db : CharDb) (m : Said) (slot : Slot) : Option Json :=
  if strip m.text = "" then none else slot.find db (strip m.text)

def Said.offer (db : CharDb) (slot : Slot) (m : Said) : Merge.Offer Json where
  value := m.has db slot
  overrides := m.isOverride

open Said

section

variable (db : CharDb)

theorem Said.offer_value (slot : Slot) (m : Said) :
    (m.offer db slot).value = m.has db slot := by rw [offer]

theorem Said.offer_overrides (slot : Slot) (m : Said) :
    (m.offer db slot).overrides = m.isOverride := by rw [offer]

theorem ofText_mergeSlot (old value : String) (isOverride : Bool) :
    ofText (mergeSlot old value isOverride) =
        Merge.step (ofText old) ⟨ofText value, isOverride⟩ := by
  unfold mergeSlot step ofText
  by_cases hv : value = "" <;> by_cases ho : old = "" <;> cases isOverride <;> simp [hv, ho]

theorem get?_mergeParam (isOverride : Bool) (params : Dict Json) (p : String × String)
    (k : String) :
    (mergeParam isOverride params p).get? k = Merge.step (params.get? k)
      ⟨if p.1 = k then some (.str p.2) else none, isOverride⟩ := by
  by_cases hk : p.1 = k
  · subst hk
    unfold mergeParam step
    cases hget : params.get? p.1 <;> cases isOverride <;> simp [hget]
  · have hsame : (mergeParam isOverride params p).get? k = params.get? k := by
      unfold mergeParam
      split
      · rw [Dict.get?_set, if_neg fun h => hk h.symm]
      · rfl
    rw [hsame, step_of_none (if_neg hk)]

theorem get?_foldl_mergeParam (isOverride : Bool) (params : Dict Json)
    (percent timeout : Option String) :
    let merged := ((percent.map fun v => ("percent", v)).toList ++
      (timeout.map fun v => ("timeout", v)).toList).foldl (mergeParam isOverride) params
    merged.get? "percent" = Merge.step (params.get? "percent") ⟨percent.map .str, isOverride⟩ ∧
      merged.get? "timeout" = Merge.step (params.get? "timeout") ⟨timeout.map .str,
          isOverride⟩ := by
  have hnone : ∀ cur : Option Json, step cur ⟨none, isOverride⟩ = cur :=
    fun cur => step_of_none rfl
  cases percent <;> cases timeout <;> simp [get?_mergeParam, hnone]

variable (intent : FaultIntent)

theorem read_mergeSaid (m : Said) (slot : Slot) :
    slot.read (mergeSaid db intent m.speaker m.text) =
      Merge.step (slot.read intent) (m.offer db slot) := by
  unfold mergeSaid
  by_cases hempty : strip m.text = ""
  · rw [if_pos hempty, step_of_none (by simp [offer, has, hempty])]
  have hoffer : m.offer db slot = ⟨slot.find db (strip m.text), m.isOverride⟩ := by
    simp [offer, has, hempty]
  rw [if_neg hempty, hoffer]
  have hparams := get?_foldl_mergeParam m.isOverride intent.params
    (numberIn (percentPattern db) (strip m.text)) (numberIn (timeoutPattern db) (strip m.text))
  cases slot with
  | scope | target | ns => simp [Slot.read, Slot.find, mergeText, ofText_mergeSlot, isOverride]
  | percent =>
    simpa only [Slot.read, Slot.find, mergeText, extractParamsFromText, isOverride] using hparams.1
  | timeout =>
    simpa only [Slot.read, Slot.find, mergeText, extractParamsFromText, isOverride] using hparams.2

theorem mem_addNew {names : List String} {n a : String} :
    a ∈ addNew names n ↔ a ∈ names ∨ a = n := by
  unfold addNew
  split
  · next h => exact ⟨.inl, fun ha => ha.elim id fun heq => heq ▸ h⟩
  · simp

theorem mem_mergeName {ns n a : String} {names : List String} :
    a ∈ mergeName ns names n ↔ a ∈ names ∨ a = n ∧ a ≠ ns := by
  unfold mergeName
  split
  · next h =>
    subst h
    exact ⟨.inl, fun ha => ha.elim id fun hboth => absurd hboth.1 hboth.2⟩
  · next h =>
    rw [mem_addNew]
    exact or_congr_right ⟨fun heq => ⟨heq, heq ▸ h⟩, fun hboth => hboth.1⟩

theorem mem_foldl_mergeName {ns a : String} : ∀ {found names : List String},
    a ∈ found.foldl (mergeName ns) names ↔ a ∈ names ∨ a ∈ found ∧ a ≠ ns
  | [], names => by simp
  | n :: found, names => by
    rw [foldl_cons, mem_foldl_mergeName, mem_mergeName, mem_cons, or_and_right, or_assoc]

/-! ## Runs -/

def mergeAll (db : CharDb) (intent : FaultIntent) (turns : List Said) : FaultIntent :=
  turns.foldl (fun i m => mergeSaid db i m.speaker m.text) intent

theorem mergeKnownParams_eq (dialogue : List Said) (intent : FaultIntent) :
    mergeKnownParamsIntoFaultIntent db (dialogue.map Said.message) intent =
      .ok (mergeAll db intent dialogue.reverse) := by
  unfold mergeKnownParamsIntoFaultIntent
  rw [← map_reverse]
  generalize dialogue.reverse = turns
  induction turns generalizing intent with
  | nil => rfl
  | cons m turns ih =>
    have hm : mergeMessage db intent m.message = .ok (mergeSaid db intent m.speaker m.text) := by
      obtain ⟨speaker, text⟩ := m
      cases speaker <;> rfl
    rw [map_cons, foldlM_cons, hm, mergeAll, foldl_cons]
    exact ih _

theorem read_mergeAll (turns : List Said) (slot : Slot) :
    slot.read (mergeAll db intent turns) =
      Merge.run (slot.read intent) (turns.map (Said.offer db slot)) := by
  induction turns generalizing intent with
  | nil => rfl
  | cons m turns ih =>
    rw [map_cons, run_cons, ← read_mergeSaid, ← ih, mergeAll, foldl_cons, mergeAll]

theorem ns_of_read : ((Slot.read intent .ns).map Json.toStr).getD "" = intent.ns := by
  unfold Slot.read ofText
  by_cases h : intent.ns = "" <;> simp [h]

def nsInForce (db : CharDb) (intent : FaultIntent) (turns : List Said) : String :=
  ((Merge.inForce (Slot.read intent .ns) (turns.map (Said.offer db .ns))).map Json.toStr).getD ""

theorem ns_mergeAll (turns : List Said) :
    (mergeAll db intent turns).ns = nsInForce db intent turns := by
  rw [← ns_of_read, read_mergeAll, run_eq_inForce, nsInForce]

theorem names_mergeSaid (m : Said) (a : String) :
    a ∈ (mergeSaid db intent m.speaker m.text).names ↔
      a ∈ intent.names ∨ a ∈ m.names db ∧ a ≠ (mergeSaid db intent m.speaker m.text).ns := by
  unfold mergeSaid names
  by_cases hempty : strip m.text = ""
  · simp [hempty]
  · rw [if_neg hempty, if_neg hempty]
    simp only [mergeText]
    exact mem_foldl_mergeName

theorem mem_names_mergeAll (turns : List Said) (a : String) :
    a ∈ (mergeAll db intent turns).names ↔ a ∈ intent.names ∨
      ∃ newer m older, turns = newer ++ m :: older ∧ a ∈ m.names db ∧
        a ≠ nsInForce db intent (newer ++ [m]) := by
  induction turns using List.reverseRecOn with
  | nil => simp [mergeAll]
  | append_singleton turns m ih =>
    have hlast : mergeAll db intent (turns ++ [m]) =
        mergeSaid db (mergeAll db intent turns) m.speaker m.text := by
      rw [mergeAll, foldl_append, foldl_cons, foldl_nil, mergeAll]
    have hns : (mergeSaid db (mergeAll db intent turns) m.speaker m.text).ns =
        nsInForce db intent (turns ++ [m]) := by rw [← hlast, ns_mergeAll]
    rw [hlast, names_mergeSaid, ih, hns]
    constructor
    · rintro ((hstart | ⟨newer, m', older, rfl, hnamed, hne⟩) | ⟨hnamed, hne⟩)
      · exact .inl hstart
      · exact .inr ⟨newer, m', older ++ [m], by simp, hnamed, hne⟩
      · exact .inr ⟨turns, m, [], rfl, hnamed, hne⟩
    · rintro (hstart | ⟨newer, m', older, hsplit, hnamed, hne⟩)
      · exact .inl (.inl hstart)
      · rcases eq_nil_or_concat' older with rfl | ⟨older', x, rfl⟩
        · obtain ⟨rfl, hm⟩ := append_inj' hsplit rfl
          obtain rfl := List.singleton_inj.mp hm
          exact .inr ⟨hnamed, hne⟩
        · have hturns : turns = newer ++ m' :: older' := by
            rw [← cons_append, ← append_assoc] at hsplit
            exact (append_inj' hsplit rfl).1
          exact .inl (.inr ⟨newer, m', older', hturns, hnamed, hne⟩)

/-- The next pass reads the whole dialogue again: a slot that the new messages do not
mention keeps its value. -/
theorem reread_keeps_slot (dialogue : List Said) (slot : Slot) :
    ∃ first, mergeKnownParamsIntoFaultIntent db (dialogue.map message) intent = .ok first ∧
      ∀ new : List Said, (∀ m ∈ new, m.has db slot = none) →
        ∃ again, mergeKnownParamsIntoFaultIntent db ((dialogue ++ new).map message) first =
            .ok again ∧
          slot.read again = slot.read first := by
  refine ⟨_, mergeKnownParams_eq db _ _, fun new hnew => ⟨_, mergeKnownParams_eq db _ _, ?_⟩⟩
  have hsilent : ∀ o ∈ new.reverse.map (offer db slot), o.value = none :=
      by simpa [offer] using hnew
  rw [read_mergeAll, reverse_append, map_append, run_append, run_silent hsilent, read_mergeAll,
      run_run]

end

/-! ## The latest correction -/

section

variable (db : CharDb) (intent : FaultIntent)

/-- A message whose value is taken keeps its slot, and so does the newest of several
corrections that has a value. The messages are the newest first. -/
structure SlotWins (turns : List Said) (result : FaultIntent) (slot : Slot) : Prop where
  kept : ∀ newer m older v, turns = newer ++ m :: older → m.has db slot = some v →
    (slot.read (mergeAll db intent newer) = none ∨ m.isOverride = true) →
      slot.read result = some v
  newest : ∀ newer m older v, turns = newer ++ m :: older → m.isOverride = true →
    m.has db slot = some v → (∀ p ∈ newer, p.isOverride = true → p.has db slot = none) →
      2 ≤ (turns.filter Said.isOverride).length → slot.read result = some v

/-- Nothing stays that only messages before a correction of the user name. -/
def NamesWin (turns : List Said) (result : FaultIntent) : Prop :=
  ∀ newer m older, turns = newer ++ m :: older → m.speaker = .human → m.isOverride = true →
    m.names db ≠ [] → ∀ a ∈ result.names, (∃ m' ∈ older, a ∈ m'.names db) →
      ∃ m' ∈ newer ++ [m], a ∈ m'.names db

def LatestWins (dialogue : List Said) : Prop :=
  ∃ result, mergeKnownParamsIntoFaultIntent db (dialogue.map Said.message) intent = .ok result ∧
    (∀ slot, SlotWins db intent dialogue.reverse result slot) ∧
    NamesWin db dialogue.reverse result

def SlotAgrees (turns : List Said) (slot : Slot) : Prop :=
  ∀ newer m between m' older v w, turns = newer ++ m :: (between ++ m' :: older) →
    m.has db slot = some v → m'.has db slot = some w → m'.isOverride = true →
    (m.isOverride = true ∨ slot.read intent = none ∧ ∀ p ∈ newer, p.has db slot = none) → v = w

/-- What a message older than a correction of the user names is named by the correction or
by a newer message, or it is the namespace in force there and not in the intent. -/
def NamesAgree (turns : List Said) : Prop :=
  ∀ newer m between m' older, turns = newer ++ m :: (between ++ m' :: older) →
    m.speaker = .human → m.isOverride = true → m.names db ≠ [] → ∀ a ∈ m'.names db,
      (a = nsInForce db intent (newer ++ m :: (between ++ [m'])) ∧ a ∉ intent.names) ∨
        ∃ p ∈ newer ++ [m], a ∈ p.names db

variable {db intent}

theorem agree_iff : Merge.Agree (slot.read intent) (turns.map (Said.offer db slot)) ↔
      SlotAgrees db intent turns slot := by
  have hempty : ∀ newer : List Said, (∀ o ∈ newer.map (offer db slot), o.value = none) ↔
      ∀ p ∈ newer, p.has db slot = none := by
    intro newer
    simp [offer_value]
  constructor
  · intro h newer m between m' older v w hturns hv hw hover htaken
    have hmap : turns.map (offer db slot) = newer.map (offer db slot) ++ m.offer db slot ::
        (between.map (offer db slot) ++ m'.offer db slot :: older.map (offer db slot)) := by
      rw [hturns]
      simp
    have hagree := h _ _ _ _ _ v w hmap
    simp only [offer_value, offer_overrides, hempty] at hagree
    exact hagree hv hw hover htaken
  · intro h earlier o between o' later v w hos
    obtain ⟨newer, rest, rfl, rfl, hrest⟩ := List.map_eq_append_iff.mp hos
    obtain ⟨m, behind, rfl, rfl, hbehind⟩ := List.map_eq_cons_iff.mp hrest
    obtain ⟨between, last, rfl, rfl, hlast⟩ := List.map_eq_append_iff.mp hbehind
    obtain ⟨m', older, rfl, rfl, rfl⟩ := List.map_eq_cons_iff.mp hlast
    simp only [offer_value, offer_overrides, hempty]
    exact h newer m between m' older v w rfl

theorem kept_iff : Merge.Kept (slot.read intent) (turns.map (Said.offer db slot)) ↔
      ∀ newer m older v, turns = newer ++ m :: older → m.has db slot = some v →
        (slot.read (mergeAll db intent newer) = none ∨ m.isOverride = true) →
          slot.read (mergeAll db intent turns) = some v := by
  constructor
  · intro h newer m older v hturns
    have hmap : turns.map (offer db slot) = newer.map (offer db slot) ++
        m.offer db slot :: older.map (offer db slot) := by
      rw [hturns]
      simp
    have hkept := h _ _ _ v hmap
    simp only [offer_value, offer_overrides, ← read_mergeAll] at hkept
    exact hkept
  · intro h earlier o later v hos
    obtain ⟨newer, rest, rfl, rfl, hrest⟩ := List.map_eq_append_iff.mp hos
    obtain ⟨m, older, rfl, rfl, rfl⟩ := List.map_eq_cons_iff.mp hrest
    simp only [offer_value, offer_overrides, ← read_mergeAll]
    exact h newer m older v rfl

theorem slotWins_iff :
    SlotWins db intent turns (mergeAll db intent turns) slot ↔ SlotAgrees db intent turns slot := by
  rw [← agree_iff, ← kept_iff_agree, kept_iff]
  -- a correction with a value is always taken
  exact ⟨fun h => h.kept, fun hkept => ⟨hkept, fun newer m older v hturns hover hv _ _ =>
    hkept newer m older v hturns hv (.inr hover)⟩⟩

theorem mem_split {α : Type} {l a b a' b' : List α} {x y : α} (h : l = a ++ x :: b)
    (h' : l = a' ++ y :: b') :
    y ∈ a ++ [x] ∨ ∃ between, b = between ++ y :: b' ∧ a' = a ++ x :: between := by
  rw [h] at h'
  rcases List.append_eq_append_iff.mp h' with ⟨c, rfl, hc⟩ | ⟨c, rfl, hc⟩
  · cases c with
    | nil => exact .inl (by simp [(cons.inj hc).1])
    | cons z c =>
      obtain ⟨rfl, hb⟩ := cons.inj hc
      exact .inr ⟨c, hb, rfl⟩
  · cases c with
    | nil => exact .inl (by simp [(cons.inj hc).1])
    | cons z c =>
      obtain ⟨rfl, -⟩ := cons.inj hc
      exact .inl (by simp)

theorem namesWin_iff :
    NamesWin db turns (mergeAll db intent turns) ↔ NamesAgree db intent turns := by
  constructor
  · intro h newer m between m' older hturns hhuman hover hnames a ha
    by_cases hns : a = nsInForce db intent (newer ++ m :: (between ++ [m'])) ∧ a ∉ intent.names
    · exact .inl hns
    · refine .inr (h newer m (between ++ m' :: older) hturns hhuman hover hnames a ?_ ⟨m', by simp,
        ha⟩)
      rw [mem_names_mergeAll]
      by_cases hstart : a ∈ intent.names
      · exact .inl hstart
      · refine .inr ⟨newer ++ m :: between, m', older, by rw [hturns]; simp, ha,
          fun heq => hns ⟨?_, hstart⟩⟩
        simpa using heq
  · intro h newer m older hturns hhuman hover hnames a ha hnamed
    rcases (mem_names_mergeAll db intent turns a).mp ha with hstart | ⟨newer', m', older', hsplit,
        hm', hne⟩
    · -- a name of the intent that an older message repeats
      obtain ⟨m', hm', hnamed⟩ := hnamed
      obtain ⟨between, rest, rfl⟩ := append_of_mem hm'
      have hagree := h newer m between m' rest hturns hhuman hover hnames a hnamed
      exact hagree.resolve_left fun hno => hno.2 hstart
    · -- the message that put the name in is the correction, a newer or an older one
      rcases mem_split hturns hsplit with hnewer | ⟨between, rfl, rfl⟩
      · exact ⟨m', hnewer, hm'⟩
      · have hagree := h newer m between m' older' hturns hhuman hover hnames a hm'
        exact hagree.resolve_left fun hno => hne (by simpa using hno.1)

/-- The latest correction wins exactly if no older correction says anything else. -/
theorem latestWins_iff (dialogue : List Said) : LatestWins db intent dialogue ↔
      (∀ slot, SlotAgrees db intent dialogue.reverse slot) ∧
        NamesAgree db intent dialogue.reverse := by
  unfold LatestWins
  rw [mergeKnownParams_eq]
  simp [slotWins_iff, namesWin_iff]

end

def nsDialogue : List Said := [⟨.human, "改成 -n test"⟩, ⟨.human, "改成 -n prod"⟩]

def nodeDialogue : List Said :=
  [⟨.human, "cn-hongkong.10.0.1.101"⟩, ⟨.human, "改成 cn-hongkong.10.0.1.102"⟩]

/-- The first of the two namespaces replaces the second, and both nodes stay. -/
theorem older_replaces_newer :
    ¬ LatestWins asciiDb {} nsDialogue ∧ ¬ LatestWins asciiDb {} nodeDialogue := by
  constructor
  · rintro ⟨result, hresult, hslots, -⟩
    obtain rfl := ok.inj ((mergeKnownParams_eq _ _ _).symm.trans hresult)
    have hsame := slotWins_iff.mp (hslots .ns) [] ⟨.human, "改成 -n prod"⟩ [] ⟨.human,
        "改成 -n test"⟩ []
      (.str "prod") (.str "test") rfl (by decide) (by decide) (by decide)
      (.inl (by decide))
    exact absurd hsame (by decide)
  · rintro ⟨result, hresult, -, hnames⟩
    obtain rfl := ok.inj ((mergeKnownParams_eq _ _ _).symm.trans hresult)
    rcases namesWin_iff.mp hnames [] ⟨.human, "改成 cn-hongkong.10.0.1.102"⟩ []
      ⟨.human, "cn-hongkong.10.0.1.101"⟩ [] rfl rfl (by decide) (by decide)
      "cn-hongkong.10.0.1.101" (by decide) with ⟨hns, -⟩ | ⟨m, hm, hnamed⟩
    · revert hns
      decide
    · obtain rfl := mem_singleton.mp hm
      revert hnamed
      decide

end ChaosBlade.Nodes
