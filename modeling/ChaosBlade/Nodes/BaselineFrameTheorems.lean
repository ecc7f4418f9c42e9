/-
Nodes.BaselineFrameTheorems: which runs of `baseline_capture`
leave the tables of the module as they are.

The supplement of a disk burn appends to the list the strategy chain has
chosen.
-/
import ChaosBlade.Nodes.BaselineCommands

namespace ChaosBlade.Nodes

open Py Agent Utils List

/-! ## Size -/

def tableSize {κ : Type} (table : List (κ × List BaselineCommand)) : Nat :=
  (table.flatMap Prod.snd).length

def Tables.size (t : Tables) : Nat := tableSize t.baselineCommands + tableSize t.scopeFallback

theorem tableSize_appendUnder_le {κ : Type} [DecidableEq κ] (key : κ) (cmd : BaselineCommand)
    (table : List (κ × List BaselineCommand)) :
    tableSize table ≤ tableSize (appendUnder key cmd table) := by
  induction table with
  | nil => exact Nat.le_refl _
  | cons e table ih =>
    simp only [tableSize, appendUnder, map_cons, flatMap_cons, length_append] at ih ⊢
    have hentry : e.2.length ≤ (if e.1 = key then (e.1, e.2 ++ [cmd]) else e).2.length := by
      split <;> simp
    omega

theorem tableSize_appendUnder_lt {κ : Type} [DecidableEq κ] {key : κ} (cmd : BaselineCommand)
    {table : List (κ × List BaselineCommand)} (hkey : key ∈ table.map Prod.fst) :
    tableSize table < tableSize (appendUnder key cmd table) := by
  induction table with
  | nil => cases hkey
  | cons e table ih =>
    obtain ⟨k, cmds⟩ := e
    by_cases hk : k = key
    · have hrest := tableSize_appendUnder_le key cmd table
      simp only [tableSize, appendUnder, map_cons, flatMap_cons, hk, if_true,
        length_append, length_singleton] at hrest ⊢
      omega
    · have hrest := ih ((mem_cons.mp hkey).resolve_left fun h => hk h.symm)
      simp only [tableSize, appendUnder, map_cons, flatMap_cons, length_append, hk,
        if_false] at hrest ⊢
      omega

def CommandList.Shared (t : Tables) : CommandList → Prop
  | .baselineCommands key => key ∈ t.baselineCommands.map Prod.fst
  | .scopeFallback scope => scope ∈ t.scopeFallback.map Prod.fst
  | .fresh _ => False

theorem append_size_le (t : Tables) (cmd : BaselineCommand) (commands : CommandList) :
    t.size ≤ (commands.append t cmd).1.size := by
  cases commands with
  | baselineCommands key =>
    exact Nat.add_le_add_right (tableSize_appendUnder_le key cmd t.baselineCommands) _
  | scopeFallback scope =>
    exact Nat.add_le_add_left (tableSize_appendUnder_le scope cmd t.scopeFallback) _
  | fresh cmds => exact Nat.le_refl _

variable {commands : CommandList} {t : Tables}

theorem append_size_lt (cmd : BaselineCommand)
    (h : commands.Shared t) : t.size < (commands.append t cmd).1.size := by
  cases commands with
  | baselineCommands key =>
    have hkey : key ∈ t.baselineCommands.map Prod.fst := h
    exact Nat.add_lt_add_right (tableSize_appendUnder_lt cmd hkey) _
  | scopeFallback scope =>
    have hkey : scope ∈ t.scopeFallback.map Prod.fst := h
    exact Nat.add_lt_add_left (tableSize_appendUnder_lt cmd hkey) _
  | fresh cmds => exact h.elim

theorem supplementDimension_cases (scope dim : String) (t : Tables) (commands : CommandList) :
    supplementDimension scope (t, commands) dim = (t, commands) ∨
      ∃ cmd, supplementDimension scope (t, commands) dim = commands.append t cmd := by
  unfold supplementDimension
  dsimp only
  split
  · exact .inl rfl
  · next cmd _ =>
    split
    · exact .inl rfl
    · exact .inr ⟨cmd, rfl⟩

variable (scope : String)

theorem supplement_size_le (dims : List String) (state : Tables × CommandList) :
    state.1.size ≤ (dims.foldl (supplementDimension scope) state).1.size := by
  induction dims generalizing state with
  | nil => exact Nat.le_refl _
  | cons dim dims ih =>
    refine Nat.le_trans ?_ (ih _)
    obtain ⟨t, commands⟩ := state
    rcases supplementDimension_cases scope dim t commands with h | ⟨cmd, h⟩ <;> rw [h]
    exact append_size_le t cmd commands

theorem supplement_fresh (dims : List String) (t : Tables) (cmds : List BaselineCommand) :
    (dims.foldl (supplementDimension scope) (t, .fresh cmds)).1 = t := by
  induction dims generalizing cmds with
  | nil => rfl
  | cons dim dims ih =>
    rw [foldl_cons]
    rcases supplementDimension_cases scope dim t (.fresh cmds) with h | ⟨cmd, h⟩ <;> rw [h]
    · exact ih cmds
    · exact ih (cmds ++ [cmd])

/-! ## Selection -/

def CaptureInput.isDiskBurn (r : CaptureInput) : Prop := r.target = "disk" ∧ r.action = "burn"

instance (r : CaptureInput) : Decidable r.isDiskBurn := inferInstanceAs (Decidable (_ ∧ _))

theorem lookup_supplement (scope target action : String) (m : TargetMetadata) :
    (lookupAdaptations scope target action m .baselineSupplement).flatMap
        (fun rule => rule.action.dimensions) =
      if target = "disk" ∧ action = "burn" then ["io_utilization", "io_iowait"] else [] := by
  by_cases h : target = "disk" ∧ action = "burn"
  · obtain ⟨rfl, rfl⟩ := h
    rfl
  · have hfilter : (faultContextAdaptations.filter fun rule =>
        rule.ruleType = .baselineSupplement && rule.condition scope target action m) = [] := by
      simpa [faultContextAdaptations] using h
    rw [lookupAdaptations, hfilter, if_neg h]
    rfl

theorem supplementDimensions_eq (r : CaptureInput) : supplementDimensions r =
    if (!r.metadata.isEmpty || (r.scope ≠ "" && r.target ≠ "" && r.action ≠ "")) ∧ r.isDiskBurn
      then ["io_utilization", "io_iowait"] else [] := by
  unfold supplementDimensions
  rw [lookup_supplement]
  by_cases hgate : (!r.metadata.isEmpty || (r.scope ≠ "" && r.target ≠ "" && r.action ≠ ""))
  · simp only [hgate, true_and]
    rfl
  · rw [if_neg hgate, if_neg fun h => hgate h.1]

variable {r : CaptureInput}

theorem captureCommands_of_not_diskBurn (h : ¬ r.isDiskBurn) : (captureCommands t r).1 = t := by
  unfold captureCommands
  split
  · rfl
  · rw [supplementDimensions_eq, if_neg fun hb => h hb.2]
    rfl

theorem viable_nil (spec : Option FaultSpec) : viable spec [] = .ok false := by cases spec <;> rfl

variable {spec : Option FaultSpec} (source : Source)

theorem selectStrategy_skip (commands : CommandList) (h : viable spec (commands.read t) = .ok false)
    (rest : List (Source × CommandList)) :
    selectStrategy t spec ((source, commands) :: rest) = selectStrategy t spec rest := by
  rw [selectStrategy, h]
  split <;> rfl

theorem isEmpty_of_viable {cmds : List BaselineCommand} (h : viable spec cmds ≠ .ok false) :
    cmds.isEmpty = false := by
  cases cmds with
  | nil => exact absurd (viable_nil spec) h
  | cons _ _ => rfl

theorem selectStrategy_take (commands : CommandList) (h : viable spec (commands.read t) = .ok true)
    (rest : List (Source × CommandList)) :
    selectStrategy t spec ((source, commands) :: rest) = .ok (source, commands) := by
  rw [selectStrategy, h, isEmpty_of_viable (h.trans_ne (by simp))]
  rfl

theorem selectStrategy_raise
    (commands : CommandList) {e : PyError} (h : viable spec (commands.read t) = .error e)
    (rest : List (Source × CommandList)) :
    selectStrategy t spec ((source, commands) :: rest) = .error e := by
  rw [selectStrategy, h, isEmpty_of_viable (h.trans_ne (by simp))]
  rfl

theorem captureCommands_of_fresh {source : Source} {cmds : List BaselineCommand}
    (h : selectStrategy t r.spec (strategies t r) = .ok (source, .fresh cmds)) :
    (captureCommands t r).1 = t := by
  rw [captureCommands, h]
  exact supplement_fresh r.scope _ t cmds

theorem captureCommands_of_shared {source : Source} {cmd : BaselineCommand} {dim : String}
    {dims : List String} (h : selectStrategy t r.spec (strategies t r) = .ok (source, commands))
    (hdims : supplementDimensions r = dim :: dims)
    (hfirst : supplementDimension r.scope (t, commands) dim = commands.append t cmd)
    (hshared : commands.Shared t) : t.size < (captureCommands t r).1.size := by
  rw [captureCommands, h]
  dsimp only
  rw [hdims, foldl_cons, hfirst]
  exact Nat.lt_of_lt_of_le (append_size_lt cmd hshared) (supplement_size_le r.scope dims _)

/-! ### The tables of the module -/

def BaselineCommand.hasText (cmd : BaselineCommand) : Bool :=
  match cmd.vArgsTemplate with
  | .str _ => true
  | _ => false

theorem viable_of_text {commands : List BaselineCommand}
    (h : commands.all BaselineCommand.hasText = true) (spec : Option FaultSpec) :
    ∃ b, viable spec commands = .ok b := by
  have hresolve : ∃ cs, resolveTemplates spec commands = .ok cs := by
    cases spec with
    | none => exact ⟨_, rfl⟩
    | some spec =>
      induction commands with
      | nil => exact ⟨[], rfl⟩
      | cons cmd commands ih =>
        obtain ⟨hcmd, hrest⟩ := all_cons .. ▸ h |> fun h => Bool.and_eq_true_iff.mp h
        obtain ⟨cs, hcs⟩ := ih hrest
        have htext : ∃ s, cmd.vArgsTemplate = .str s := by
          unfold BaselineCommand.hasText at hcmd
          split at hcmd
          · next s hs => exact ⟨s, hs⟩
          · cases hcmd
        obtain ⟨s, hs⟩ := htext
        refine ⟨resolveText (templateValues spec) cmd s :: cs, ?_⟩
        simp only [resolveTemplates] at hcs ⊢
        rw [mapM_cons, resolveTemplate_str hs, hcs]
        rfl
  obtain ⟨cs, hcs⟩ := hresolve
  exact ⟨_, by rw [viable, hcs]; rfl⟩

theorem mem_keys_of_lookup {κ α : Type} [BEq κ] [LawfulBEq κ] {key : κ} {table : List (κ × α)}
    (h : (table.lookup key).isSome = true) : key ∈ table.map Prod.fst := by
  induction table with
  | nil => cases h
  | cons e table ih =>
    rw [lookup_cons] at h
    split at h
    · next hk => simp [eq_of_beq hk]
    · exact mem_cons_of_mem _ (ih h)

theorem moduleTables_scopes : ∀ key ∈ moduleTables.baselineCommands.map Prod.fst,
      key.head? = some "node" ∨ key.head? = some "pod" := by decide

theorem lookupBaselineCommands_module :
    lookupBaselineCommands moduleTables scope "disk" "burn" =
      if scope = "node" then .baselineCommands ["node", "disk", "burn"]
      else if scope = "pod" then .baselineCommands ["pod", "disk"] else .fresh [] := by
  by_cases hnode : scope = "node"
  · subst hnode; rfl
  · by_cases hpod : scope = "pod"
    · subst hpod; rfl
    · rw [if_neg hnode, if_neg hpod, lookupBaselineCommands]
      have hnone : ([[scope, "disk", "burn"], [scope, "disk"], [scope]].find? fun key =>
          (moduleTables.baselineCommands.lookup key).isSome) = none := by
        rw [List.find?_eq_none]
        intro key hkey hfound
        have hhead : key.head? = some scope := by
          rcases mem_cons.mp hkey with rfl | hkey
          · rfl
          · rcases mem_cons.mp hkey with rfl | hkey
            · rfl
            · rw [mem_singleton.mp hkey]
              rfl
        rcases moduleTables_scopes key (mem_keys_of_lookup hfound) with h | h <;>
          rw [hhead] at h <;> simp_all
      rw [hnone]

theorem lookupScopeFallback_cases (t : Tables) (scope : String) :
    (lookupScopeFallback t scope = .scopeFallback scope ∧
        (CommandList.scopeFallback scope).Shared t) ∨ lookupScopeFallback t scope = .fresh [] := by
  unfold lookupScopeFallback
  split
  · next hfound => exact .inl ⟨rfl, mem_keys_of_lookup hfound⟩
  · exact .inr rfl

theorem CommandList.Shared.read_mem (h : commands.Shared t)
    {c : BaselineCommand} (hc : c ∈ commands.read t) :
    c ∈ t.baselineCommands.flatMap Prod.snd ++ t.scopeFallback.flatMap Prod.snd := by
  have hmem : ∀ {κ : Type} [BEq κ] [LawfulBEq κ] (table : List (κ × List BaselineCommand))
      (key : κ), c ∈ (table.lookup key).getD [] → c ∈ table.flatMap Prod.snd := by
    intro κ _ _ table key hc
    induction table with
    | nil => cases hc
    | cons e table ih =>
      rw [flatMap_cons, mem_append]
      rw [lookup_cons] at hc
      split at hc
      · exact .inl hc
      · exact .inr (ih hc)
  cases commands with
  | baselineCommands key => exact mem_append_left _ (hmem _ key hc)
  | scopeFallback scope => exact mem_append_right _ (hmem _ scope hc)
  | fresh cmds => exact h.elim

def ioDescriptions : List String := ["Container disk IO utilization", "Node disk IO utilization"]

theorem moduleTables_undescribed : ∀ c ∈ moduleTables.baselineCommands.flatMap Prod.snd ++
        moduleTables.scopeFallback.flatMap Prod.snd,
      (ioDescriptions.any fun d => Json.isStr c.description d) = false := by decide

theorem supplementDimension_shared (h : commands.Shared moduleTables)
    (scope : String) : ∃ cmd, supplementDimension scope (moduleTables, commands) "io_utilization" =
      commands.append moduleTables cmd := by
  have hcmd : ∃ cmd d, (((fcatDimensionCommands.lookup "io_utilization").getD []).lookup scope).or
      (((fcatDimensionCommands.lookup "io_utilization").getD []).lookup "pod") = some cmd ∧
      cmd.description = .str d ∧ d ∈ ioDescriptions := by
    by_cases hnode : scope = "node"
    · subst hnode
      exact ⟨_, _, rfl, rfl, by decide⟩
    · by_cases hpod : scope = "pod"
      · subst hpod
        exact ⟨_, _, rfl, rfl, by decide⟩
      · refine ⟨tableCommand "Container disk IO utilization" "exec"
          "\x7bpod_name\x7d -n \x7bnamespace\x7d -- iostat -xd 1 3", _, ?_, rfl, by decide⟩
        have hpod' : (scope == "pod") = false := beq_false_of_ne hpod
        have hnode' : (scope == "node") = false := beq_false_of_ne hnode
        simp [fcatDimensionCommands, lookup_cons, hnode', hpod']
  obtain ⟨cmd, d, hlookup, hdesc, hd⟩ := hcmd
  refine ⟨cmd, ?_⟩
  have hnew : describes (commands.read moduleTables) cmd = false := by
    simp only [describes, hdesc]
    rw [any_eq_false]
    intro c hc htext
    have hnone := moduleTables_undescribed c (h.read_mem hc)
    rw [any_eq_false] at hnone
    exact hnone d hd htext
  have hdims : moduleTables.dimensionCommands = fcatDimensionCommands := rfl
  simp only [supplementDimension, hdims, hlookup, hnew, Bool.false_eq_true, if_false]

theorem moduleTables_text : ∀ c ∈ moduleTables.baselineCommands.flatMap Prod.snd ++
      moduleTables.scopeFallback.flatMap Prod.snd, c.hasText = true := by decide

theorem viable_shared (h : commands.Shared moduleTables)
    (spec : Option FaultSpec) : ∃ b, viable spec (commands.read moduleTables) = .ok b :=
  viable_of_text (all_eq_true.mpr fun c hc => moduleTables_text c (h.read_mem hc)) spec

/-! ### One run -/

def CaptureInput.registryList (r : CaptureInput) : List BaselineCommand :=
  (lookupBaselineCommands moduleTables r.scope r.target r.action).read moduleTables

def CaptureInput.scopeList (r : CaptureInput) : List BaselineCommand :=
  (lookupScopeFallback moduleTables r.scope).read moduleTables

/-- The fault is no disk burn, or the model's answer decides the list (it has a
viable command, or raises), or no list of the tables is viable for the spec. -/
def CaptureInput.KeepsTables (r : CaptureInput) : Prop :=
  ¬ r.isDiskBurn ∨ viable r.spec r.llmCommands ≠ .ok false ∨
    (viable r.spec r.registryList = .ok false ∧ viable r.spec r.scopeList = .ok false)

theorem registry_cases (h : r.isDiskBurn) :
    ((lookupBaselineCommands moduleTables r.scope r.target r.action).Shared moduleTables ∧
        r.scope ≠ "") ∨
      lookupBaselineCommands moduleTables r.scope r.target r.action = .fresh [] := by
  rw [h.1, h.2, lookupBaselineCommands_module]
  by_cases hnode : r.scope = "node"
  · rw [if_pos hnode, hnode]
    have hkey : ["node", "disk", "burn"] ∈ moduleTables.baselineCommands.map Prod.fst := by decide
    exact .inl ⟨hkey, by decide⟩
  · by_cases hpod : r.scope = "pod"
    · rw [if_neg hnode, if_pos hpod, hpod]
      have hkey : ["pod", "disk"] ∈ moduleTables.baselineCommands.map Prod.fst := by decide
      exact .inl ⟨hkey, by decide⟩
    · rw [if_neg hnode, if_neg hpod]
      exact .inr rfl

theorem captureCommands_llm (t : Tables)
    (h : viable r.spec r.llmCommands ≠ .ok false) : (captureCommands t r).1 = t := by
  cases hllm : viable r.spec r.llmCommands with
  | error e =>
    rw [captureCommands, strategies, selectStrategy_raise .llm (.fresh r.llmCommands) hllm]
  | ok b =>
    cases b with
    | false => exact absurd hllm h
    | true =>
      exact captureCommands_of_fresh (selectStrategy_take .llm (.fresh r.llmCommands) hllm _)

theorem captureCommands_keeps (h : r.KeepsTables) :
    (captureCommands moduleTables r).1 = moduleTables := by
  rcases h with h | h | ⟨hreg, hscope⟩
  · exact captureCommands_of_not_diskBurn h
  · exact captureCommands_llm moduleTables h
  · by_cases hllm : viable r.spec r.llmCommands = .ok false
    · -- nothing is viable: the list is a new one
      have hnew : selectStrategy moduleTables r.spec (strategies moduleTables r) =
          .ok (.none, .fresh []) := by
        rw [strategies, selectStrategy_skip .llm (.fresh r.llmCommands) hllm,
          selectStrategy_skip .registry _ hreg, selectStrategy_skip .scopeFallback _ hscope]
        rfl
      exact captureCommands_of_fresh hnew
    · exact captureCommands_llm moduleTables hllm

theorem captureCommands_grows (h : ¬ r.KeepsTables) :
    moduleTables.size < (captureCommands moduleTables r).1.size := by
  simp only [CaptureInput.KeepsTables, not_or, not_not] at h
  obtain ⟨hburn, hllm, htables⟩ := h
  -- the run takes a list of the tables, for a scope that has one
  have hchosen : ∃ source commands,
      selectStrategy moduleTables r.spec (strategies moduleTables r) = .ok (source, commands) ∧
        commands.Shared moduleTables ∧ r.scope ≠ "" := by
    rw [strategies, selectStrategy_skip .llm (.fresh r.llmCommands) hllm]
    have htake : viable r.spec r.registryList = .ok false ∨
        (viable r.spec r.registryList = .ok true ∧
          (lookupBaselineCommands moduleTables r.scope r.target r.action).Shared moduleTables ∧
          r.scope ≠ "") := by
      rcases registry_cases hburn with ⟨hshared, hne⟩ | hfresh
      · obtain ⟨b, hb⟩ := viable_shared hshared r.spec
        cases b with
        | false => exact .inl hb
        | true => exact .inr ⟨hb, hshared, hne⟩
      · rw [CaptureInput.registryList, hfresh]
        exact .inl (viable_nil r.spec)
    rcases htake with hreg | ⟨hreg, hshared, hne⟩
    · rw [selectStrategy_skip .registry _ hreg]
      have hscope : viable r.spec r.scopeList ≠ .ok false := fun hfalse => htables ⟨hreg, hfalse⟩
      rcases lookupScopeFallback_cases moduleTables r.scope with ⟨hlookup, hshared⟩ | hfresh
      · obtain ⟨b, hb⟩ := viable_shared hshared r.spec
        rw [CaptureInput.scopeList, hlookup] at hscope
        rw [hlookup]
        cases b with
        | false => exact absurd hb hscope
        | true =>
          refine ⟨_, _, selectStrategy_take .scopeFallback _ hb _, hshared, ?_⟩
          intro hempty
          rw [hempty] at hshared
          have habsent : "" ∉ moduleTables.scopeFallback.map Prod.fst := by decide
          exact habsent hshared
      · rw [CaptureInput.scopeList, hfresh] at hscope
        exact absurd (viable_nil r.spec) hscope
    · exact ⟨_, _, selectStrategy_take .registry _ hreg _, hshared, hne⟩
  obtain ⟨source, commands, hselect, hshared, hne⟩ := hchosen
  have hdims : supplementDimensions r = ["io_utilization", "io_iowait"] := by
    rw [supplementDimensions_eq, if_pos]
    refine ⟨?_, hburn⟩
    rw [hburn.1, hburn.2]
    simp [hne]
  obtain ⟨cmd, hfirst⟩ := supplementDimension_shared hshared r.scope
  exact captureCommands_of_shared hselect hdims hfirst hshared

/-! ## Sequences -/

def Independent (runs : List CaptureInput) : Prop :=
  ∀ before r after, runs = before ++ r :: after →
    captureAll moduleTables (before ++ [r]) = captureAll moduleTables before ∧
      (captureCommands (captureAll moduleTables before) r).2 = (captureCommands moduleTables r).2

theorem captureAll_append (t : Tables) (runs runs' : List CaptureInput) :
    captureAll t (runs ++ runs') = captureAll (captureAll t runs) runs' := foldl_append

theorem captureAll_keeps {runs : List CaptureInput} (h : ∀ r ∈ runs, r.KeepsTables) :
    captureAll moduleTables runs = moduleTables := by
  induction runs with
  | nil => rfl
  | cons r runs ih =>
    have hfirst : captureAll moduleTables (r :: runs) =
        captureAll (captureCommands moduleTables r).1 runs := rfl
    rw [hfirst, captureCommands_keeps (h r (by simp))]
    exact ih fun r' hr' => h r' (by simp [hr'])

/-- One task's baseline changes no other's exactly if every run is one of those
that append to no table. -/
theorem independent_iff (runs : List CaptureInput) :
    Independent runs ↔ ∀ r ∈ runs, r.KeepsTables := by
  constructor
  · intro h
    -- by induction over the runs before: the tables are still those of the module
    have hprefix : ∀ before after, runs = before ++ after → ∀ r ∈ before, r.KeepsTables := by
      intro before
      induction before using List.reverseRecOn with
      | nil => simp
      | append_singleton before r ih =>
        intro after hruns r' hr'
        rw [append_assoc, singleton_append] at hruns
        have hbefore := ih (r :: after) hruns
        rcases mem_append.mp hr' with hr' | hr'
        · exact hbefore r' hr'
        · rw [mem_singleton.mp hr']
          by_contra hgrows
          have hsame := (h before r after hruns).1
          rw [captureAll_append, captureAll_keeps hbefore] at hsame
          exact Nat.ne_of_gt (captureCommands_grows hgrows) (congrArg Tables.size hsame)
    exact hprefix runs [] (by simp)
  · intro h before r after hruns
    subst hruns
    have hbefore : captureAll moduleTables before = moduleTables :=
      captureAll_keeps fun r' hr' => h r' (by simp [hr'])
    rw [captureAll_append, hbefore]
    exact ⟨captureCommands_keeps (h r (by simp)), rfl⟩

def burnThenFill : List CaptureInput :=
  [{ spec := some { ns := "shop", scope := "pod", names := ["web-1"], bladeTarget := "disk",
                    bladeAction := "burn" } },
   { spec := some { ns := "shop", scope := "pod", names := ["web-1"], bladeTarget := "disk",
                    bladeAction := "fill" } }]

def selectedCount (result : Except PyError (Source × List BaselineCommand)) : Nat :=
  match result with
  | .ok (_, commands) => commands.length
  | .error _ => 0

/-- The disk fill gets the commands of the disk burn. -/
theorem not_independent_burnThenFill : ¬ Independent burnThenFill := by
  intro h
  obtain ⟨-, hsame⟩ := h [burnThenFill.head (by decide)] (burnThenFill.getLast (by decide)) [] rfl
  have hcount := congrArg selectedCount hsame
  revert hcount
  decide +kernel

end ChaosBlade.Nodes
