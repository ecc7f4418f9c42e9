/-
Tools.BladeTheorems: the selection of a `blade_create` call
that is screened against the selection of the command that is run.

The classifier reads the fields of the call and never the free-form
`flags`; on the command line the flags come last and win.
-/
import ChaosBlade.TargetGuard.ClassifierTheorems
import ChaosBlade.Tools.Blade

namespace ChaosBlade.Tools

open Py TargetGuard Except List Option Cli

def ownOptionNames : List String :=
  ["--namespace", "--names", "--labels", "--kubeconfig", "--evict-count", "--evict-percent"]

def ReadsOptions (T : Cli.FlagTable) : Prop := ∀ f ∈ ownOptionNames, T.long f = true

structure KeepsSelector (r : BladeArgs) (chunks : List Cli.Chunk) : Prop where
  ns : ∀ v ∈ Cli.lastValue ["--namespace"] chunks,
    bladeNamespace r.scope v = bladeNamespace r.scope r.ns
  names : ∀ v ∈ Cli.lastValue ["--names"] chunks, ∀ n, n ∈ csv v ↔ n ∈ csv r.names
  labels : ∀ v ∈ Cli.lastValue ["--labels"] chunks,
    (parseLabelString v).Same (parseLabelString r.labels)
  nodeNs : r.scope = "node" → Cli.lastValue ["--namespace"] chunks = none → strip r.ns = ""
  nodeLabels : r.scope = "node" → Cli.lastValue ["--labels"] chunks = none →
    (parseLabelString r.labels).Same ∅

def callSelector (r : BladeArgs) : Selector where
  scope := if r.scope = "node" then "node" else "pod"
  ns := bladeNamespace r.scope r.ns
  names := csv r.names
  labels := parseLabelString r.labels

def runSelector (r : BladeArgs) (chunks : List Cli.Chunk) : Selector where
  scope := if r.scope = "node" then "node" else "pod"
  ns := bladeNamespace r.scope
    ((Cli.lastValue ["--namespace"] chunks).getD (if r.scope = "node" then "" else r.ns))
  names := csv ((Cli.lastValue ["--names"] chunks).getD r.names)
  labels := parseLabelString
    ((Cli.lastValue ["--labels"] chunks).getD (if r.scope = "node" then "" else r.labels))

theorem runSelector_same_iff {r : BladeArgs} {chunks : List Cli.Chunk} :
    (runSelector r chunks).Same (callSelector r) ↔ KeepsSelector r chunks := by
  have hblank : strip "" = "" := by decide
  constructor
  · intro h
    have hns := h.ns
    have hlabels := h.labels
    simp only [runSelector, callSelector] at hns hlabels
    refine ⟨fun v hv => ?_, fun v hv => ?_, fun v hv => ?_, fun hnode hnone => ?_,
      fun hnode hnone => ?_⟩
    · rwa [hv, getD_some] at hns
    · have hnames := h.names
      simp only [runSelector, callSelector] at hnames
      rwa [hv, getD_some] at hnames
    · rwa [hv, getD_some] at hlabels
    · rw [hnone, getD_none, if_pos hnode] at hns
      simpa [bladeNamespace, hnode, hblank] using hns.symm
    · rw [hnone, getD_none, if_pos hnode, parseLabelString_empty] at hlabels
      exact hlabels.symm
  · intro h
    refine ⟨rfl, ?_, ?_, ?_⟩
    · simp only [runSelector, callSelector]
      cases hv : lastValue ["--namespace"] chunks with
      | some v => exact h.ns v hv
      | none =>
        by_cases hnode : r.scope = "node"
        · simp [bladeNamespace, hnode, hblank, h.nodeNs hnode hv]
        · rw [getD_none, if_neg hnode]
    · simp only [runSelector, callSelector]
      cases hv : lastValue ["--names"] chunks with
      | some v => exact h.names v hv
      | none => exact fun n => Iff.rfl
    · simp only [runSelector, callSelector]
      cases hv : lastValue ["--labels"] chunks with
      | some v => exact h.labels v hv
      | none =>
        by_cases hnode : r.scope = "node"
        · rw [getD_none, if_pos hnode, parseLabelString_empty]
          exact (h.nodeLabels hnode hv).symm
        · rw [getD_none, if_neg hnode]
          exact fun k => rfl

/-! ## The screened side -/

theorem screened_eq {r : BladeArgs} (hscope : r.scope ∈ bladeScopes) {raw : String}
    {effective : EffectiveTarget} (h : classifyBladeCreate r.toCall raw = .ok effective) :
    screenedSelector effective = callSelector r := by
  have hget : ∀ k v, r.toCall.lookup k = v → Json.get? r.toCall k = v := fun _ _ h => h
  unfold classifyBladeCreate at h
  dsimp only at h
  rw [hget "target" (some (.str r.target)) rfl, hget "blade_target" none rfl,
    hget "action" (some (.str r.action)) rfl, hget "blade_action" none rfl,
    hget "scope" (some (.str r.scope)) rfl, hget "blade_scope" none rfl,
    hget "namespace" (some (.str r.ns)) rfl, hget "names" (some (.str r.names)) rfl,
    hget "labels" (some (.str r.labels)) rfl] at h
  simp only [firstTruthy_str, bladeScope_of_mem hscope, bladeNames_str, bladeLabels_str, bind,
    Except.bind, pure, Except.pure, ok.injEq] at h
  subst h
  unfold screenedSelector callSelector bladeNamespace
  by_cases hn : r.scope = "node" <;> simp

/-! ## The command -/

section

variable {db : CharDb} {bladePath kubeconfigPath : String} {r : BladeArgs}

theorem experiment_word (hscope : r.scope ∈ bladeScopes) :
    Cli.isWord (r.scope ++ "-" ++ r.target) = true ∧
      beforeChar '-' (r.scope ++ "-" ++ r.target) = r.scope := by
  have hall : ∀ s ∈ bladeScopes, s.toList ≠ [] ∧ s.toList.all (· ≠ '-') = true := by decide
  obtain ⟨hne, hall'⟩ := hall r.scope hscope
  have hnodash : ∀ c ∈ r.scope.toList, c ≠ '-' := by simpa using hall'
  constructor
  · have hstart : startsWith (r.scope ++ "-" ++ r.target) "-" = false := by
      rw [Bool.eq_false_iff, Ne, startsWith_iff, String.toList_append, String.toList_append,
        append_assoc]
      obtain ⟨c, cs, hcs⟩ := exists_cons_of_ne_nil hne
      rw [hcs]
      intro hp
      exact hnodash c (by simp [hcs]) (cons_prefix_cons.mp hp).1.symm
    simp [isWord, hstart]
  · unfold beforeChar
    rw [String.toList_append, String.toList_append, append_assoc,
      takeWhile_append_of_pos (by simpa using hnodash)]
    simp

theorem ownOptions_name {o : String × String} (ho : o ∈ ownOptions kubeconfigPath r) :
    o.1 ∈ ownOptionNames := by
  unfold ownOptions buildKubeconfigArg at ho
  simp only [mem_append, mem_ite_nil_left, mem_ite_nil_right, mem_singleton] at ho
  rcases ho with ((((⟨-, rfl⟩ | ⟨-, rfl⟩) | ⟨-, rfl⟩) | ⟨-, rfl⟩) | ⟨-, rfl⟩) | ⟨-, rfl⟩ <;>
    simp [ownOptionNames]

theorem pyInt_none_of_head {s : String} (c : Char) (cs : List Char)
    (hcs : (splitSign (strip s).toList).2 = c :: cs) (hascii : c.toNat < 128)
    (hdigit : c.isDigit = false) : pyInt db s = none := by
  have hdec : db.decimal c = none := by
    rw [db.decimal_ascii c hascii, hdigit]
    rfl
  unfold pyInt
  generalize splitSign (strip s).toList = signed at hcs
  obtain ⟨sign, digits⟩ := signed
  subst hcs
  simp [digitRun, hdec]

theorem pyInt_optionName {f : String} (hf : f ∈ ownOptionNames) : pyInt db f = none := by
  have hall : ∀ f ∈ ownOptionNames,
      (splitSign (strip f).toList).2 = '-' :: (splitSign (strip f).toList).2.drop 1 := by
    decide
  exact pyInt_none_of_head _ _ (hall f hf) (by decide) (by decide)

theorem pyInt_create : pyInt db "create" = none :=
  pyInt_none_of_head 'c' "reate".toList (by decide) (by decide) (by decide)

def NoTimeoutValue (db : CharDb) (front : List String) : Prop :=
  front.IsChain fun a b => a = "--timeout" → pyInt db b = none

theorem noTimeoutValue_options (a : String) {opts : List (String × String)}
    (h : ∀ o ∈ opts, o.1 ∈ ownOptionNames) :
    NoTimeoutValue db (a :: opts.flatMap fun o => [o.1, o.2]) := by
  induction opts generalizing a with
  | nil => exact List.IsChain.singleton a
  | cons o opts ih =>
    obtain ⟨ho, hopts⟩ := forall_mem_cons.mp h
    have hname : o.1 ≠ "--timeout" := by
      intro heq
      rw [heq] at ho
      revert ho
      decide
    exact .cons_cons (fun _ => pyInt_optionName ho)
      (.cons_cons (fun heq => absurd heq hname) (ih o.2 hopts))

theorem raiseTimeout_skip {scope target action a : String} (h : a ≠ "--timeout")
    (rest : List String) : raiseTimeout db scope target action (a :: rest) =
      (raiseTimeout db scope target action rest).map (a :: ·) := by
  rw [raiseTimeout.eq_def]
  simp [h]

/-- Nothing is raised in front of the last of these tokens. -/
theorem raiseTimeout_front {scope target action last : String} :
    ∀ {front rest argv : List String}, NoTimeoutValue db (front ++ [last]) →
      raiseTimeout db scope target action (front ++ last :: rest) = .ok argv →
      "--timeout" ∉ front ∧ ∃ raised, raiseTimeout db scope target action (last :: rest) =
          .ok raised ∧
        argv = front ++ raised
  | [], _, argv, _, h => ⟨not_mem_nil, argv, h, rfl⟩
  | a :: front, rest, argv, hc, h => by
    have hne : a ≠ "--timeout" := by
      rintro rfl
      -- the token behind would have to be a number
      obtain ⟨b, tail, hb⟩ : ∃ b tail, front ++ [last] = b :: tail :=
        exists_cons_of_ne_nil (by simp)
      obtain ⟨tail', htail'⟩ : ∃ tail', front ++ last :: rest = b :: tail' := by
        cases front with
        | nil => exact ⟨rest, by simpa using (cons.inj hb).1⟩
        | cons c front => exact ⟨front ++ last :: rest, by simpa using (cons.inj hb).1⟩
      have hnone : pyInt db b = none := by
        rw [cons_append, hb] at hc
        exact (List.isChain_cons_cons.mp hc).1 rfl
      rw [cons_append, htail'] at h
      simp only [raiseTimeout, hnone] at h
      cases h
    rw [cons_append, raiseTimeout_skip hne] at h
    obtain ⟨argv', h', rfl⟩ := map_eq_ok.mp h
    obtain ⟨hfront, raised, hraised, rfl⟩ := raiseTimeout_front (List.isChain_of_isChain_cons hc) h'
    exact ⟨not_mem_cons_of_ne_of_not_mem hne.symm hfront, raised, hraised, rfl⟩

theorem raiseTimeout_head {scope target action a : String} {rest argv : List String}
    (h : raiseTimeout db scope target action (a :: rest) = .ok argv) : ∃ more,
        argv = a :: more := by
  by_cases ha : a = "--timeout"
  · subst ha
    cases rest with
    | nil => exact ⟨[], (ok.inj h).symm⟩
    | cons current more =>
      simp only [raiseTimeout, if_true] at h
      split at h
      · cases h
      split at h
      · exact ⟨_, (ok.inj h).symm⟩
      · exact ⟨_, (ok.inj h).symm⟩
  · rw [raiseTimeout_skip ha] at h
    obtain ⟨more, -, hmore⟩ := map_eq_ok.mp h
    exact ⟨more, hmore.symm⟩

/-- The last token in front of the flags: the value of an own option, or the action. -/
def lastOwn (kubeconfigPath : String) (r : BladeArgs) : String :=
  (((ownOptions kubeconfigPath r).getLast?).map Prod.snd).getD r.action

/-- The tokens of the flags, with the timeout that the tool adds or raises. A last own token that
is `--timeout` itself has the first of the flags for its value. -/
def timedFlags (db : CharDb) (kubeconfigPath : String) (r : BladeArgs) :
    Except PyError (List String) :=
  let tokens := lastOwn kubeconfigPath r :: Shlex.splitArgs r.flags
  if "--timeout" ∈ tokens then
    (raiseTimeout db r.scope r.target r.action tokens).map List.tail
  else .ok (Shlex.splitArgs r.flags ++
    ["--timeout", toString (ensureMinDuration db none r.scope r.target r.action)])

theorem ownTokens_eq (kubeconfigPath : String) (r : BladeArgs) :
    ∃ front, ownTokens kubeconfigPath r = front ++ [lastOwn kubeconfigPath r] := by
  unfold ownTokens lastOwn
  rcases List.eq_nil_or_concat (ownOptions kubeconfigPath r) with hnil | ⟨opts, o, hopts⟩
  · rw [hnil]
    exact ⟨["create", "k8s", r.scope ++ "-" ++ r.target], rfl⟩
  · rw [hopts]
    refine ⟨["create", "k8s", r.scope ++ "-" ++ r.target, r.action] ++
      (opts.flatMap fun o => [o.1, o.2]) ++ [o.1], ?_⟩
    simp [concat_eq_append]

theorem noTimeoutValue_own (hscope : r.scope ∈ bladeScopes) :
    NoTimeoutValue db (bladePath :: ownTokens kubeconfigPath r) := by
  have hexp : r.scope ++ "-" ++ r.target ≠ "--timeout" := by
    intro heq
    have hword := (experiment_word (r := r) hscope).1
    rw [heq] at hword
    revert hword
    decide
  exact .cons_cons (fun _ => pyInt_create) (.cons_cons (fun h => absurd h (by decide))
    (.cons_cons (fun h => absurd h (by decide)) (.cons_cons (fun h => absurd h hexp)
      (noTimeoutValue_options r.action fun o ho => ownOptions_name ho))))

theorem bladeCreate_front (hscope : r.scope ∈ bladeScopes) {argv : List String}
    (h : bladeCreate db bladePath kubeconfigPath r = .ok argv) :
    ∃ more, timedFlags db kubeconfigPath r = .ok more ∧
      argv = bladePath :: (ownTokens kubeconfigPath r ++ more) := by
  obtain ⟨front, hown⟩ := ownTokens_eq kubeconfigPath r
  have hchain : NoTimeoutValue db (bladePath :: ownTokens kubeconfigPath r) :=
    noTimeoutValue_own hscope
  have hcmd : bladePath :: (ownTokens kubeconfigPath r ++ Shlex.splitArgs r.flags) =
      (bladePath :: front) ++ lastOwn kubeconfigPath r :: Shlex.splitArgs r.flags := by
    rw [hown, append_assoc]
    rfl
  rw [hown] at hchain
  unfold bladeCreate at h
  dsimp only at h
  rw [hcmd] at h
  unfold timedFlags
  dsimp only
  split at h
  · next hnot =>
    have hnone : "--timeout" ∉ lastOwn kubeconfigPath r :: Shlex.splitArgs r.flags :=
      fun hmem => hnot (mem_append_right _ hmem)
    rw [if_neg hnone]
    refine ⟨_, rfl, ?_⟩
    rw [← ok.inj h, hown]
    simp
  · next hmem =>
    obtain ⟨hfront, raised, hraised, rfl⟩ := raiseTimeout_front hchain h
    have hlast : "--timeout" ∈ lastOwn kubeconfigPath r :: Shlex.splitArgs r.flags :=
      (mem_append.mp (not_not.mp hmem)).resolve_left hfront
    obtain ⟨more, rfl⟩ := raiseTimeout_head hraised
    rw [if_pos hlast, hraised]
    refine ⟨more, rfl, ?_⟩
    rw [hown]
    simp

end

/-! ## The run side -/

section

variable {T : Cli.FlagTable} {kubeconfigPath : String} {r : BladeArgs}

theorem longOption_of_mem (hT : ReadsOptions T) {f : String} (hf : f ∈ ownOptionNames) :
    Cli.LongOption T f := by
  have hall : ∀ f ∈ ownOptionNames, startsWith f "--" = true ∧ f ≠ "--" ∧
      hasChar '=' f = false := by
    decide +kernel
  obtain ⟨hd, hne, he⟩ := hall f hf
  exact ⟨hd, hne, he, hT f hf⟩

def ownChunks (kubeconfigPath : String) (r : BladeArgs) : List Cli.Chunk :=
  [.word "create", .word "k8s", .word (r.scope ++ "-" ++ r.target), .word r.action] ++
    (ownOptions kubeconfigPath r).map Cli.optionChunk

theorem read_own (hT : ReadsOptions T) (hscope : r.scope ∈ bladeScopes)
    (haction : Cli.isWord r.action = true) (more : List String) :
    Cli.read T (ownTokens kubeconfigPath r ++ more) =
      (Cli.read T more).map (ownChunks kubeconfigPath r ++ ·) := by
  unfold ownTokens ownChunks
  simp only [cons_append, nil_append]
  rw [read_word (by decide +kernel), read_word (by decide),
    read_word (experiment_word hscope).1, read_word haction,
    read_options fun o ho => longOption_of_mem hT (ownOptions_name ho)]
  simp only [Option.map_map, Function.comp_def]

theorem optionValue_own (option : String) (chunks : List Cli.Chunk) :
    optionValue option (ownChunks kubeconfigPath r ++ chunks) = (Cli.lastValue [option] chunks).getD
        (optionValue option ((ownOptions kubeconfigPath r).map Cli.optionChunk)) := by
  unfold optionValue ownChunks
  rw [lastValue_append, lastValue_append [option] [_, _, _, _]]
  have hwords : lastValue [option] [.word "create", .word "k8s",
      .word (r.scope ++ "-" ++ r.target), .word r.action] = none := by
    simp [lastValue, settings, Cli.Chunk.settings]
  rw [hwords, or_none]
  cases lastValue [option] chunks <;> simp

theorem filterMap_optional (option name v : String) (c : Prop) [Decidable c] :
    (if c then [(name, v)] else []).filterMap
        (fun s => if [option].contains s.1 then some s.2 else none) =
      if c ∧ name = option then [v] else [] := by
  by_cases hc : c <;> by_cases hn : name = option <;> simp [hc, hn]

theorem own_values :
    optionValue "--namespace" ((ownOptions kubeconfigPath r).map Cli.optionChunk) =
      (if r.scope = "node" then "" else r.ns) ∧
    optionValue "--names" ((ownOptions kubeconfigPath r).map Cli.optionChunk) = r.names ∧
    optionValue "--labels" ((ownOptions kubeconfigPath r).map Cli.optionChunk) =
      (if r.scope = "node" then "" else r.labels) := by
  have hkube : buildKubeconfigArg kubeconfigPath r.kubeconfig =
      if ¬ (if r.kubeconfig = "" then kubeconfigPath else r.kubeconfig) = "" then
        [("--kubeconfig", if r.kubeconfig = "" then kubeconfigPath else r.kubeconfig)] else [] := by
    unfold buildKubeconfigArg
    by_cases hkc : (if r.kubeconfig = "" then kubeconfigPath else r.kubeconfig) = "" <;> simp
  unfold optionValue lastValue
  rw [settings_options]
  unfold ownOptions
  rw [hkube]
  simp only [filterMap_append, filterMap_optional]
  refine ⟨?_, ?_, ?_⟩
  · by_cases hn : r.scope = "node" <;> by_cases h : r.ns = "" <;> simp [hn, h]
  · by_cases h : r.names = "" <;> simp [h]
  · by_cases hn : r.scope = "node" <;> by_cases h : r.labels = "" <;> simp [hn, h]

theorem runKind (hscope : r.scope ∈ bladeScopes) :
    (if r.scope = "container" then "pod" else r.scope) =
      if r.scope = "node" then "node" else "pod" := by
  have hall : ∀ s ∈ bladeScopes, (if s = "container" then "pod" else s) =
      if s = "node" then "node" else "pod" := by decide
  exact hall r.scope hscope

theorem readBlade_own (hT : ReadsOptions T) (hscope : r.scope ∈ bladeScopes)
    (haction : Cli.isWord r.action = true) (more : List String) :
    readBlade T (ownTokens kubeconfigPath r ++ more) = (Cli.read T more).map (runSelector r) := by
  have hkind := runKind hscope
  unfold readBlade
  rw [read_own hT hscope haction]
  cases hread : read T more with
  | none => simp
  | some chunks =>
    have hwords : words (ownChunks kubeconfigPath r ++ chunks) =
        "create" :: "k8s" :: (r.scope ++ "-" ++ r.target) :: r.action :: words chunks := by
      unfold ownChunks
      rw [words_append, words_append, words_options]
      simp [words, Cli.Chunk.words]
    simp only [map_some, bind_some, hwords, optionValue_own, own_values.1,
      own_values.2.1, own_values.2.2, (experiment_word hscope).2, hkind, runSelector]

end

/-! ## Screened and run -/

def lineSelector (r : BladeArgs) (chunks : List Cli.Chunk) : Selector where
  scope := if r.scope = "node" then "node" else "pod"
  ns := bladeNamespace r.scope (optionValue "--namespace" chunks)
  names := csv (optionValue "--names" chunks)
  labels := parseLabelString (optionValue "--labels" chunks)

/-- What the tokens behind the experiment select reads like the fields. -/
structure SelectsFields (r : BladeArgs) (chunks : List Cli.Chunk) : Prop where
  ns : bladeNamespace r.scope (optionValue "--namespace" chunks) = bladeNamespace r.scope r.ns
  names : ∀ n, n ∈ csv (optionValue "--names" chunks) ↔ n ∈ csv r.names
  labels : (parseLabelString (optionValue "--labels" chunks)).Same (parseLabelString r.labels)

theorem lineSelector_same_iff {r : BladeArgs} {chunks : List Cli.Chunk} :
    (lineSelector r chunks).Same (callSelector r) ↔ SelectsFields r chunks := by
  constructor
  · intro h
    have hns := h.ns
    have hnames := h.names
    have hlabels := h.labels
    simp only [lineSelector, callSelector] at hns hnames hlabels
    exact ⟨hns, hnames, hlabels⟩
  · intro h
    refine ⟨?_, ?_, ?_, ?_⟩
    · simp only [lineSelector, callSelector]
    · simpa only [lineSelector, callSelector] using h.ns
    · simpa only [lineSelector, callSelector] using h.names
    · simpa only [lineSelector, callSelector] using h.labels

/-- A word for an action leaves the tool's own options to themselves, and the flags must keep what
they say. An action that is itself a flag is read with the options and the flags behind it. -/
def KeepsFields (T : Cli.FlagTable) (kubeconfigPath : String) (r : BladeArgs)
    (flags : List String) : Prop :=
  if Cli.isWord r.action then ∀ chunks, Cli.read T flags = some chunks → KeepsSelector r chunks
  else ∀ chunks, Cli.read T (r.action ::
      ((ownOptions kubeconfigPath r).flatMap fun o => [o.1, o.2]) ++ flags) = some chunks →
    SelectsFields r chunks

section

variable {T : Cli.FlagTable} {kubeconfigPath : String} {r : BladeArgs} {more : List String}

theorem readBlade_action (hscope : r.scope ∈ bladeScopes) :
    readBlade T (ownTokens kubeconfigPath r ++ more) =
      (Cli.read T (r.action :: ((ownOptions kubeconfigPath r).flatMap fun o => [o.1, o.2]) ++
        more)).map (lineSelector r) := by
  have hkind := runKind hscope
  unfold readBlade ownTokens
  simp only [cons_append, nil_append]
  rw [read_word (by decide +kernel), read_word (by decide +kernel),
    read_word (experiment_word hscope).1]
  generalize Cli.read T (r.action :: _) = rest
  cases rest with
  | none => rfl
  | some chunks =>
    have hvalue : ∀ option, optionValue option (.word "create" :: .word "k8s" ::
        .word (r.scope ++ "-" ++ r.target) :: chunks) = optionValue option chunks := by
      intro option
      simp [optionValue, lastValue, settings, Cli.Chunk.settings]
    simp only [map_some, bind_some, words, flatMap_cons, Cli.Chunk.words, cons_append, nil_append,
      hvalue, (experiment_word hscope).2, hkind, lineSelector]

theorem keepsFields_iff (hT : ReadsOptions T) (hscope : r.scope ∈ bladeScopes) :
    (∀ selector, readBlade T (ownTokens kubeconfigPath r ++ more) = some selector →
        selector.Same (callSelector r)) ↔ KeepsFields T kubeconfigPath r more := by
  unfold KeepsFields
  split
  · next haction =>
    rw [readBlade_own hT hscope haction]
    constructor
    · intro h chunks hchunks
      exact runSelector_same_iff.mp (h _ (by rw [hchunks]; rfl))
    · intro h selector hsel
      obtain ⟨chunks, hchunks, rfl⟩ := map_eq_some_iff.mp hsel
      exact runSelector_same_iff.mpr (h chunks hchunks)
  · rw [readBlade_action hscope]
    constructor
    · intro h chunks hchunks
      exact lineSelector_same_iff.mp (h _ (by rw [hchunks]; rfl))
    · intro h selector hsel
      obtain ⟨chunks, hchunks, rfl⟩ := map_eq_some_iff.mp hsel
      exact lineSelector_same_iff.mpr (h chunks hchunks)

end

def overriddenCall : BladeArgs :=
  { scope := "pod", target := "cpu", action := "fullload", ns := "prod", names := "web"
    flags := "--cpu-percent 80 --names other" }

def plainCall : BladeArgs :=
  { scope := "pod", target := "cpu", action := "fullload", ns := "prod", names := "web"
    flags := "--cpu-percent 80" }

end ChaosBlade.Tools
