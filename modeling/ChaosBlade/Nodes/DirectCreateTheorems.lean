/-
Nodes.DirectCreateTheorems: every `blade create` of
`direct_execute` against the first one.

The first command, its retry and the command inside a pod share the free
flags with their timeout (`bladeCreate_settled`) and differ in the options
the tool writes itself: the retry has no namespace, the pod's command no
kubeconfig (`execParts_eq`).
-/
import Mathlib.Data.List.Chain
import ChaosBlade.Nodes.DirectReads
import ChaosBlade.Py.Words
import ChaosBlade.Tools.BladeTheorems

namespace ChaosBlade.Nodes.Direct

open Py Process Agent Tools Except List Traced
open TargetGuard (bladeScopes)

variable {r : BladeArgs} {cs : List Char} {parts : List String}

/-! ## The free flags -/

section

variable {db : CharDb} {scope target action : String}

def settledFlags (db : CharDb) (r : BladeArgs) : Except PyError (List String) :=
  let words := Shlex.splitArgs r.flags
  if "--timeout" ∉ words then
    .ok (words ++ ["--timeout", toString (ensureMinDuration db none r.scope r.target r.action)])
  else raiseTimeout db r.scope r.target r.action words

theorem pyInt_none_of_dashes {s : String} (h : startsWith s "--" = true) : pyInt db s = none := by
  obtain ⟨cs, hcs⟩ := startsWith_iff.mp h
  have hdash : ∀ c ∈ "--".toList, isSpace c = false := by decide +kernel
  have hstrip : (strip s).toList = "--".toList ++ cs.rdropWhile isSpace := by
    unfold strip
    rw [String.toList_ofList, ← hcs, dropWhile_eq_self_iff.mpr (by simp; decide),
      rdropWhile_append hdash]
  refine pyInt_none_of_head '-' (cs.rdropWhile isSpace) ?_ (by decide) (by decide)
  rw [hstrip]
  rfl

theorem raiseTimeout_append {t : String} {rest : List String} :
    ∀ {front argv : List String}, NoTimeoutValue db (front ++ [t]) →
      raiseTimeout db scope target action (front ++ t :: rest) = .ok argv →
        "--timeout" ∉ front ∧ ∃ more,
          raiseTimeout db scope target action (t :: rest) = .ok more ∧ argv = front ++ more
  | [], argv, _, h => ⟨by simp, argv, h, rfl⟩
  | a :: front, argv, hchain, h => by
    have hne : a ≠ "--timeout" := by
      rintro rfl
      cases front with
      | nil =>
        have ht := (List.isChain_cons_cons.mp hchain).1 rfl
        simp [raiseTimeout, ht] at h
      | cons b front =>
        have hb := (List.isChain_cons_cons.mp hchain).1 rfl
        simp [raiseTimeout, hb] at h
    rw [cons_append, raiseTimeout_skip hne] at h
    obtain ⟨argv', h', rfl⟩ := map_eq_ok.mp h
    obtain ⟨hfront, more, hmore, rfl⟩ := raiseTimeout_append (isChain_of_isChain_cons hchain) h'
    exact ⟨by simp [hne.symm, hfront], more, hmore, rfl⟩

theorem bladeCreate_settled {bladePath kubeconfigPath : String}
    (hscope : r.scope ∈ bladeScopes) (hflags : r.flags.toList = '-' :: '-' :: cs)
    {argv : List String} (h : bladeCreate db bladePath kubeconfigPath r = .ok argv) :
    ∃ more, settledFlags db r = .ok more ∧
      argv = bladePath :: (ownTokens kubeconfigPath r ++ more) := by
  obtain ⟨t, rest, hwords, hdashes⟩ := splitArgs_dashes hflags
  unfold bladeCreate at h
  unfold settledFlags
  rw [hwords] at h ⊢
  by_cases hin : "--timeout" ∉ bladePath :: (ownTokens kubeconfigPath r ++ t :: rest)
  · have hwords' : "--timeout" ∉ t :: rest := fun hm =>
      hin (mem_cons_of_mem _ (mem_append_right _ hm))
    rw [if_pos hin] at h
    rw [if_pos hwords']
    exact ⟨_, rfl, by rw [← ok.inj h, cons_append, append_assoc]⟩
  · rw [if_neg hin, ← cons_append] at h
    have hchain : NoTimeoutValue db (bladePath :: ownTokens kubeconfigPath r ++ [t]) :=
      (noTimeoutValue_own hscope).append (List.IsChain.singleton t) fun _ _ y hy _ => by
        rw [List.head?_cons, Option.mem_some_iff] at hy
        rw [← hy]
        exact pyInt_none_of_dashes hdashes
    obtain ⟨hfront, more, hmore, rfl⟩ := raiseTimeout_append hchain h
    have hin' : ¬ "--timeout" ∉ t :: rest := by
      rw [not_not] at hin ⊢
      exact (mem_append.mp hin).resolve_left hfront
    rw [if_neg hin']
    exact ⟨more, hmore, rfl⟩

theorem mem_raiseTimeout : ∀ {cmd argv : List String},
    raiseTimeout db scope target action cmd = .ok argv → ∀ w ∈ argv, w ∈ cmd ∨ ∃ n : Int,
        w = toString n
  | [], argv, h => by
    rw [← ok.inj h]
    simp
  | a :: rest, argv, h => by
    by_cases ha : a = "--timeout"
    · subst ha
      cases rest with
      | nil =>
        rw [← ok.inj h]
        exact fun w hw => .inl hw
      | cons current more =>
        simp only [raiseTimeout, if_true] at h
        split at h
        · cases h
        split at h
        · rw [← ok.inj h]
          intro w hw
          simp only [mem_cons] at hw ⊢
          rcases hw with rfl | rfl | hw
          · exact .inl (.inl rfl)
          · exact .inr ⟨_, rfl⟩
          · exact .inl (.inr (.inr hw))
        · rw [← ok.inj h]
          exact fun w hw => .inl hw
    · rw [raiseTimeout_skip ha] at h
      obtain ⟨argv', h', rfl⟩ := map_eq_ok.mp h
      intro w hw
      rcases mem_cons.mp hw with rfl | hw
      · exact .inl mem_cons_self
      · exact (mem_raiseTimeout h' w hw).imp_left (mem_cons_of_mem _)

end

/-! ## Reading the commands -/

/-- A `blade create` with the experiment of the spec, and with the values of the
first command for every flag but the exempt ones. -/
structure Carries (T : Cli.FlagTable) (x : DirectInput) (exempt first argv : List String) :
    Prop where
  experiment : argv.take 4 =
    ["create", "k8s", x.spec.scope ++ "-" ++ x.spec.bladeTarget, x.spec.bladeAction]
  values : ∀ f ∉ exempt, (Cli.read T argv).map (Cli.lastValue [f]) =
    (Cli.read T first).map (Cli.lastValue [f])

section

variable {T : Cli.FlagTable} {x : DirectInput}

theorem lastValue_ownChunks (f kubeconfigPath : String) (r : BladeArgs) :
    Cli.lastValue [f] (ownChunks kubeconfigPath r) =
      ((ownOptions kubeconfigPath r).filterMap fun s =>
        if [f].contains s.1 then some s.2 else none).getLast? := by
  unfold ownChunks
  rw [Cli.lastValue_append]
  have hwords : Cli.lastValue [f] [.word "create", .word "k8s",
      .word (r.scope ++ "-" ++ r.target), .word r.action] = none := by
    simp [Cli.lastValue, Cli.settings, Cli.Chunk.settings]
  rw [hwords, Option.or_none, Cli.lastValue, Cli.settings_options]

structure OfSpec (x : DirectInput) (r : BladeArgs) : Prop where
  scope : r.scope = x.spec.scope
  target : r.target = x.spec.bladeTarget
  action : r.action = x.spec.bladeAction

theorem carries_of_own (hT : ReadsOptions T) {r' : BladeArgs} {kc kc' : String}
    (hscope : x.spec.scope ∈ bladeScopes) (haction : Cli.isWord x.spec.bladeAction = true)
    (hr : OfSpec x r) (hr' : OfSpec x r') {exempt : List String}
    (hown : ∀ f ∉ exempt, Cli.lastValue [f] (ownChunks kc' r') =
      Cli.lastValue [f] (ownChunks kc r)) (more : List String) :
    Carries T x exempt (ownTokens kc r ++ more) (ownTokens kc' r' ++ more) where
  experiment := by simp [ownTokens, hr'.scope, hr'.target, hr'.action]
  values := by
    intro f hf
    rw [read_own hT (hr'.scope ▸ hscope) (hr'.action ▸ haction),
      read_own hT (hr.scope ▸ hscope) (hr.action ▸ haction), Option.map_map, Option.map_map]
    congr 1
    funext chunks
    simp [Cli.lastValue_append, hown f hf]

theorem lastValue_own_namespace {f : String} (hf : f ≠ "--namespace") (kc : String)
    (r : BladeArgs) :
    Cli.lastValue [f] (ownChunks kc { r with ns := "" }) = Cli.lastValue [f] (ownChunks kc r) := by
  have hns : ∀ c : Prop, [Decidable c] → (if c then [("--namespace", r.ns)] else []).filterMap
      (fun s => if [f].contains s.1 then some s.2 else none) = [] := by
    intro c _
    by_cases hc : c <;> simp [hf.symm]
  rw [lastValue_ownChunks, lastValue_ownChunks]
  unfold ownOptions
  simp only [ne_eq, not_true_eq_false, false_and, if_false, nil_append, filterMap_append, hns]

theorem lastValue_own_kubeconfig {f : String} (hf : f ≠ "--kubeconfig") (kc : String)
    (r : BladeArgs) : Cli.lastValue [f] (ownChunks "" { r with kubeconfig := "" }) =
      Cli.lastValue [f] (ownChunks kc r) := by
  have hkc : (buildKubeconfigArg kc r.kubeconfig).filterMap
      (fun s => if [f].contains s.1 then some s.2 else none) = [] := by
    unfold buildKubeconfigArg
    split <;> simp [hf.symm]
  have hnone : buildKubeconfigArg "" "" = [] := rfl
  rw [lastValue_ownChunks, lastValue_ownChunks]
  unfold ownOptions
  simp only [filterMap_append, hkc, hnone, append_nil]

end

/-! ## The command inside a pod -/

section

variable {x : DirectInput} {args : BladeArgs}

theorem execParts_eq (db : CharDb) (hcount : args.evictCount = "")
    (hpercent : args.evictPercent = "") :
    execParts db args = bladeCreate db "blade" "" { args with kubeconfig := "" } := by
  have hfront : execFront args = "blade" :: ownTokens "" { args with kubeconfig := "" } := by
    have hpair : ∀ (c : Prop) [Decidable c] (o : String × String),
        (if c then [o] else []).flatMap (fun o => [o.1, o.2]) = if c then [o.1, o.2] else [] := by
      intro c _ o
      split <;> rfl
    have hnone : buildKubeconfigArg "" "" = [] := rfl
    unfold execFront ownTokens ownOptions
    simp only [flatMap_append, hpair, hcount, hpercent, hnone, ne_eq, not_true_eq_false,
      if_false, append_nil, cons_append, nil_append]
  unfold execParts bladeCreate
  rw [hfront]
  rfl

theorem plainWord_toString (n : Int) : PlainWord (toString n).toList := by
  have hne : (toString n).toList ≠ [] := by
    cases n with
    | ofNat n =>
      rw [Int.ofNat_eq_natCast, toList_toString_ofNat]
      exact Nat.toDigits_ne_nil
    | negSucc n =>
      rw [toList_toString_negSucc]
      exact cons_ne_nil _ _
  have hchar : ∀ c ∈ (toString n).toList, isSpace c = false ∧ c ≠ '\'' ∧ c ≠ '"' ∧ c ≠ '\\' := by
    intro c hc
    rcases isDigit_of_mem_toString hc with hd | rfl
    · refine ⟨?_, ?_, ?_, ?_⟩
      · rw [Bool.eq_false_iff]
        intro hs
        have hcode := isSpace_iff.mp hs
        have hall : ∀ n ∈ spaceCodes, n < 48 ∨ 57 < n := by decide
        have hrange := hall _ hcode
        simp only [Char.isDigit, Bool.and_eq_true, decide_eq_true_eq] at hd
        have h1 : (48 : UInt32) ≤ c.val := hd.1
        have h2 : c.val ≤ (57 : UInt32) := hd.2
        rw [UInt32.le_iff_toNat_le] at h1 h2
        have hnat : c.toNat = c.val.toNat := rfl
        simp at h1 h2
        omega
      all_goals
        rintro rfl
        revert hd
        decide
    · decide
  exact ⟨hne, fun c hc => (hchar c hc).1, fun c hc => (hchar c hc).2⟩

variable {db : CharDb}

theorem execParts_plain (h : execParts db args = .ok parts)
    (hplain : ∀ w ∈ execWords args, PlainWord w.toList) : ∀ w ∈ parts, PlainWord w.toList := by
  have htimeout : PlainWord "--timeout".toList := by decide +kernel
  unfold execParts at h
  dsimp only at h
  split at h
  · rw [← ok.inj h]
    intro w hw
    rcases mem_append.mp hw with hw | hw
    · exact hplain w hw
    · rcases mem_cons.mp hw with rfl | hw
      · exact htimeout
      · rw [mem_singleton.mp hw]
        exact plainWord_toString _
  · intro w hw
    rcases mem_raiseTimeout h w hw with hw | ⟨n, rfl⟩
    · exact hplain w hw
    · exact plainWord_toString n

theorem timeout_mem_raiseTimeout : ∀ {cmd argv : List String} {db : CharDb}
    {scope target action : String}, raiseTimeout db scope target action cmd = .ok argv →
      "--timeout" ∈ cmd → "--timeout" ∈ argv
  | a :: rest, argv, db, scope, target, action, h, hin => by
    by_cases ha : a = "--timeout"
    · subst ha
      obtain ⟨more, rfl⟩ := raiseTimeout_head h
      exact mem_cons_self
    · rw [raiseTimeout_skip ha] at h
      obtain ⟨argv', h', rfl⟩ := map_eq_ok.mp h
      have hin' : "--timeout" ∈ rest := (mem_cons.mp hin).resolve_left fun h => ha h.symm
      exact mem_cons_of_mem _ (timeout_mem_raiseTimeout h' hin')

theorem execParts_timeout (h : execParts db args = .ok parts) : "--timeout" ∈ parts := by
  unfold execParts at h
  dsimp only at h
  split at h
  · rw [← ok.inj h]
    simp
  · next hin => exact timeout_mem_raiseTimeout h (not_not.mp hin)

theorem execTokens_plain {pod : String}
    (h : execParts db args = .ok parts) (hpod : PlainWord pod.toList)
    (hplain : ∀ w ∈ execWords args, PlainWord w.toList) :
    execTokens db args pod (join " " parts) = pod :: "-n" :: "chaosblade" :: "--" :: parts := by
  have htimeout := execParts_timeout h
  obtain ⟨w, ws, rfl⟩ : ∃ w ws, parts = w :: ws :=
    exists_cons_of_ne_nil (ne_nil_of_mem htimeout)
  have htext : pod ++ " -n chaosblade -- " ++ join " " (w :: ws) =
      join " " (pod :: "-n" :: "chaosblade" :: "--" :: w :: ws) := by
    rw [← String.toList_inj]
    simp [toList_join_cons]
  have hall : ∀ v ∈ pod :: "-n" :: "chaosblade" :: "--" :: w :: ws, PlainWord v.toList := by
    have hfixed : ∀ v ∈ ["-n", "chaosblade", "--"], PlainWord v.toList := by decide +kernel
    intro v hv
    rcases mem_cons.mp hv with rfl | hv
    · exact hpod
    · rcases mem_append.mp (show v ∈ ["-n", "chaosblade", "--"] ++ w :: ws from hv) with hv | hv
      · exact hfixed v hv
      · exact execParts_plain h hplain v hv
  have hsub : hasSub "--timeout" (join " " (pod :: "-n" :: "chaosblade" :: "--" :: w :: ws)) =
      true :=
    hasSub_join_of_mem (by
      simp only [mem_cons] at htimeout ⊢
      exact .inr (.inr (.inr (.inr htimeout))))
  unfold execTokens
  dsimp only
  rw [htext, hsub, splitArgs_join hall]
  simp

end

/-! ## The processes of a run -/

section

variable {x : DirectInput} {tools : DirectTools} {args : BladeArgs} {l : Launch}

theorem mem_launch {purpose : Purpose} {cmd : List String} {answer : Except PyError CommandResult}
    (h : l ∈ (launch purpose cmd answer).started) : l = ⟨purpose, cmd⟩ := by
  obtain ⟨c, hc, rfl⟩ := mem_map.mp h
  rw [mem_started_runCommand hc]

def Inspects {α : Type} (t : Traced Launch α) : Prop := ∀ l ∈ t.started, l.purpose = .inspect

theorem inspects_pure {α : Type} (a : α) : Inspects (pure a) := by simp [Inspects]

theorem inspects_ofExcept {α : Type} (e : Except PyError α) : Inspects (.ofExcept e) := by
  simp [Inspects]

theorem Inspects.bind {α β : Type} {t : Traced Launch α} {f : α → Traced Launch β}
    (ht : Inspects t) (hf : ∀ a, Inspects (f a)) : Inspects (t >>= f) := by
  intro l hl
  rcases mem_started_bind.mp hl with hl | ⟨a, -, hl⟩
  · exact ht l hl
  · exact hf a l hl

theorem inspects_launch (cmd : List String) (answer : Except PyError CommandResult) :
    Inspects (launch .inspect cmd answer) := by
  intro l hl
  rw [mem_launch hl]

theorem toolPodPlace_inspects (node : String) : Inspects (toolPodPlace x tools node) :=
  (inspects_launch _ _).bind fun _ => inspects_pure _

theorem podPlace_inspects (pod ns : String) : Inspects (podPlace x tools pod ns) := by
  refine (inspects_launch _ _).bind fun probe => ?_
  split
  · exact inspects_pure _
  · refine (inspects_launch _ _).bind fun found => ?_
    split
    · exact inspects_pure _
    · exact toolPodPlace_inspects _

theorem checkBurnAt_inspects (bladeUid : String) (place : String × String × String) :
    Inspects (checkBurnAt x tools bladeUid place) := by
  refine Inspects.bind ?_ fun samples => ?_
  · refine (inspects_launch _ _).bind fun before => ?_
    cases before with
    | none => exact inspects_pure _
    | some before => exact (inspects_launch _ _).bind fun _ => inspects_pure _
  · cases samples with
    | none => exact inspects_pure _
    | some s => exact inspects_ofExcept _

theorem verifyDiskBurnEffect_inspects (bladeUid : String) :
    Inspects (verifyDiskBurnEffect x tools bladeUid) := by
  unfold verifyDiskBurnEffect
  split
  · refine Inspects.bind ?_ fun place => ?_
    · unfold burnPlace
      split
      · exact toolPodPlace_inspects _
      split
      · exact podPlace_inspects _ _
      · exact inspects_pure _
    · cases place with
      | none => exact inspects_pure _
      | some place => exact checkBurnAt_inspects bladeUid place
  · exact inspects_pure _

theorem verifyDiskFillEffect_inspects (params : Dict String) (bladeUid : String) :
    Inspects (verifyDiskFillEffect x tools params bladeUid) := by
  unfold verifyDiskFillEffect
  dsimp only
  split
  · refine (inspects_launch _ _).bind fun listed => ?_
    cases listed.bind fun r => toolPodOn [namesText x.spec] r.stdout with
    | none => exact inspects_pure _
    | some pod =>
      refine (inspects_launch _ _).bind fun ls => ?_
      cases ls with
      | none => exact inspects_pure _
      | some ls => exact (inspects_launch _ _).bind fun _ => inspects_pure _
  · exact inspects_pure _

theorem checkDisk_inspects (params : Dict String) (bladeUid : String) :
    Inspects (checkDisk x tools params bladeUid) :=
  (verifyDiskFillEffect_inspects params bladeUid).bind fun _ =>
    (verifyDiskBurnEffect_inspects bladeUid).bind fun _ => inspects_pure _

theorem preflightCheck_inspects (answer : Except PyError CommandResult) :
    Inspects (preflightCheck x answer) := by
  unfold preflightCheck
  split
  · exact (inspects_launch _ _).bind fun _ => inspects_pure _
  · exact inspects_pure _

theorem mem_bladeCreateCall {text : String} (h : l ∈ (bladeCreateCall x args text).started) :
    ∃ argv, bladeCreate x.db x.paths.bladePath x.paths.kubeconfigPath args = .ok argv ∧
      l = ⟨.create, argv⟩ := by
  unfold bladeCreateCall at h
  split at h
  · rcases mem_started_bind.mp h with h | ⟨argv, hargv, h⟩
    · simp at h
    · refine ⟨argv, hargv, ?_⟩
      rcases mem_started_bind.mp h with h | ⟨_, -, h⟩
      · exact mem_launch h
      · simp at h
  · simp at h

theorem mem_createOnHost (h : l ∈ (createOnHost x tools args).started) :
    ∃ first, bladeCreate x.db x.paths.bladePath x.paths.kubeconfigPath args = .ok first ∧
      (l = ⟨.create, first⟩ ∨ NoUid x.db tools.created ∧ namespaceUnknown tools.created = true ∧
        ∃ argv, bladeCreate x.db x.paths.bladePath x.paths.kubeconfigPath { args with ns := "" } =
          .ok argv ∧ l = ⟨.create, argv⟩) := by
  rcases mem_started_bind.mp h with h | ⟨output, houtput, h⟩
  · obtain ⟨first, hfirst, rfl⟩ := mem_bladeCreateCall h
    exact ⟨first, hfirst, .inl rfl⟩
  · obtain ⟨-, htimeout, rfl⟩ := bladeCreateCall_eq_ok_iff.mp houtput
    obtain ⟨first, hfirst⟩ := (bladeCreate_returns_iff x args).mpr htimeout
    refine ⟨first, hfirst, .inr ?_⟩
    rcases mem_started_bind.mp h with h | ⟨uid, huid, h⟩
    · simp at h
    split at h
    · next hretry =>
      obtain ⟨rfl, hns⟩ : uid = "" ∧ namespaceUnknown tools.created = true := by simpa using hretry
      refine ⟨huid, hns, ?_⟩
      rcases mem_started_bind.mp h with h | ⟨_, -, h⟩
      · exact mem_bladeCreateCall h
      · rcases mem_started_bind.mp h with h | ⟨_, -, h⟩ <;> simp at h
    · simp at h

theorem mem_tryKubectlExecFallback (h : l ∈ (tryKubectlExecFallback x tools args).started) :
    l.purpose = .inspect ∨ ∃ pod parts, chosenPod x tools args = some pod ∧
      execParts x.db args = .ok parts ∧
      l = ⟨.createInPod, fallbackCommand x args pod (join " " parts)⟩ := by
  rcases mem_started_bind.mp h with h | ⟨listed, hlisted, h⟩
  · exact .inl (inspects_launch _ _ l h)
  · have hpod : ((listed.filter fun r => r.exitCode = 0).bind fun r => fallbackPod args r.stdout) =
        chosenPod x tools args := by
      rw [← ok.inj hlisted]
      rfl
    rw [hpod] at h
    cases hchosen : chosenPod x tools args with
    | none =>
      rw [hchosen] at h
      simp at h
    | some pod =>
      rw [hchosen, Option.elim_some] at h
      rcases mem_started_bind.mp h with h | ⟨bladeCmd, hcmd, h⟩
      · simp at h
      obtain ⟨parts, hparts, rfl⟩ := map_eq_ok.mp hcmd
      rcases mem_started_bind.mp h with h | ⟨_, -, h⟩
      · exact .inr ⟨pod, parts, rfl, hparts, mem_launch h⟩
      · simp at h

end

/-! ## Every attempt -/

def podArgs (x : DirectInput) (argv : List String) : List String :=
  ((argv.drop (kubectlCommand x.paths x.kubeconfig ["exec"]).length).dropWhile (· ≠ "--")).drop 2

structure PlainFallback (x : DirectInput) (pod : String) : Prop where
  name : PlainWord pod.toList
  ne_dashes : pod ≠ "--"
  words : ∀ w ∈ execWords (approvedArgs x), PlainWord w.toList

inductive Attempt (T : Cli.FlagTable) (x : DirectInput) (tools : DirectTools)
    (first : List String) : Launch → Prop
  | first (h : Carries T x [] first.tail first.tail) : Attempt T x tools first ⟨.create, first⟩
  /-- The host's `blade` does not know the namespace flag and is called without. -/
  | retry {argv : List String} (hnone : NoUid x.db tools.created)
      (hns : namespaceUnknown tools.created = true)
      (h : Carries T x ["--namespace"] first.tail argv.tail) :
      Attempt T x tools first ⟨.create, argv⟩
  /-- A pod has its own access to the cluster. -/
  | inPod {argv : List String} {pod : String}
      (hpod : chosenPod x tools (approvedArgs x) = some pod)
      (h : PlainFallback x pod → Carries T x ["--kubeconfig"] first.tail (podArgs x argv)) :
      Attempt T x tools first ⟨.createInPod, argv⟩

section

variable {T : Cli.FlagTable} {x : DirectInput} {tools : DirectTools} {l : Launch}

theorem flagsParts_dashes (params : Dict String) (paramsFlags : List String) (duration : Int) :
    ∃ cs, (join " " (flagsParts params paramsFlags duration)).toList = '-' :: '-' :: cs := by
  obtain ⟨k, rest, hparts⟩ : ∃ k rest, flagsParts params paramsFlags duration =
      ("--" ++ k) :: rest := by
    unfold flagsParts
    by_cases htimeout : (params.get? "timeout").isSome = true
    · obtain ⟨e, es, hentries⟩ : ∃ e es,
          (params.set "timeout" (toString duration)).entries = e :: es := by
        refine exists_cons_of_ne_nil fun hnil => ?_
        have hget : (params.set "timeout" (toString duration)).get? "timeout" = none := by
          rw [Dict.get?, hnil]
          rfl
        rw [Dict.get?_set, if_pos rfl] at hget
        cases hget
      simp only [htimeout, if_true, hentries]
      exact ⟨e.1, _, rfl⟩
    · cases hentries : params.entries with
      | cons e es =>
        simp only [htimeout, Bool.false_eq_true, if_false, hentries]
        exact ⟨e.1, _, rfl⟩
      | nil =>
        cases paramsFlags with
        | cons f fs =>
          simp only [htimeout, Bool.false_eq_true, if_false, hentries]
          exact ⟨f, _, rfl⟩
        | nil =>
          simp only [htimeout, Bool.false_eq_true, if_false, hentries]
          exact ⟨"timeout", _, rfl⟩
  rw [hparts]
  cases rest with
  | nil => exact ⟨k.toList, by simp [join]⟩
  | cons w ws => exact ⟨_, by rw [toList_join_cons, String.toList_append]; rfl⟩

theorem approvedArgs_ofSpec (x : DirectInput) : OfSpec x (approvedArgs x) := ⟨rfl, rfl, rfl⟩

theorem first_carries (hscope : x.spec.scope ∈ bladeScopes) {first : List String}
    (hfirst : bladeCreate x.db x.paths.bladePath x.paths.kubeconfigPath (approvedArgs x) =
        .ok first) :
    Carries T x [] first.tail first.tail := by
  obtain ⟨more, -, rfl⟩ := bladeCreate_front hscope hfirst
  exact ⟨rfl, fun _ _ => rfl⟩

section

variable (hT : ReadsOptions T) (hscope : x.spec.scope ∈ bladeScopes)
  (haction : Cli.isWord x.spec.bladeAction = true)
include hT hscope haction

theorem retry_carries (hr : OfSpec x r) (hcs : r.flags.toList = '-' :: '-' :: cs) {db : CharDb}
    {path kc : String} {first argv : List String} (hfirst : bladeCreate db path kc r = .ok first)
    (hargv : bladeCreate db path kc { r with ns := "" } = .ok argv) :
    Carries T x ["--namespace"] first.tail argv.tail := by
  have hscope' : r.scope ∈ bladeScopes := hr.scope ▸ hscope
  have hretry : OfSpec x { r with ns := "" } := ⟨hr.scope, hr.target, hr.action⟩
  obtain ⟨more, hmore, rfl⟩ := bladeCreate_settled hscope' hcs hfirst
  obtain ⟨more', hmore', rfl⟩ := bladeCreate_settled (r := { r with ns := "" }) hscope' hcs hargv
  -- the timeout does not depend on the namespace
  have hsame : settledFlags db { r with ns := "" } = settledFlags db r := rfl
  cases ok.inj ((hsame.symm.trans hmore').symm.trans hmore)
  exact carries_of_own hT hscope haction hr hretry
    (fun f hf => lastValue_own_namespace (by simpa using hf) _ _) more

theorem inPod_carries (hr : OfSpec x r)
    (hcount : r.evictCount = "") (hpercent : r.evictPercent = "")
    (hcs : r.flags.toList = '-' :: '-' :: cs) {path kc pod : String} {first : List String}
    (hfirst : bladeCreate x.db path kc r = .ok first) (hparts : execParts x.db r = .ok parts)
    (hpod : PlainWord pod.toList) (hne : pod ≠ "--")
    (hplain : ∀ w ∈ execWords r, PlainWord w.toList) :
    Carries T x ["--kubeconfig"] first.tail (podArgs x (fallbackCommand x r pod (join " "
        parts))) := by
  have hargs : podArgs x (fallbackCommand x r pod (join " " parts)) = parts.tail := by
    have hsplit : kubectlCommand x.paths x.kubeconfig
        ("exec" :: pod :: "-n" :: "chaosblade" :: "--" :: parts) =
          kubectlCommand x.paths x.kubeconfig ["exec"] ++
            (pod :: "-n" :: "chaosblade" :: "--" :: parts) := by
      simp [kubectlCommand]
    unfold podArgs fallbackCommand
    rw [execTokens_plain hparts hpod hplain, hsplit, drop_left]
    simp [hne]
  have hscope' : r.scope ∈ bladeScopes := hr.scope ▸ hscope
  have hinPod : OfSpec x { r with kubeconfig := "" } := ⟨hr.scope, hr.target, hr.action⟩
  rw [hargs]
  rw [execParts_eq x.db hcount hpercent] at hparts
  obtain ⟨more, hmore, rfl⟩ := bladeCreate_settled hscope' hcs hfirst
  obtain ⟨more', hmore', rfl⟩ :=
    bladeCreate_settled (r := { r with kubeconfig := "" }) hscope' hcs hparts
  have hsame : settledFlags x.db { r with kubeconfig := "" } = settledFlags x.db r := rfl
  cases ok.inj ((hsame.symm.trans hmore').symm.trans hmore)
  exact carries_of_own hT hscope haction hr hinPod
    (fun f hf => lastValue_own_kubeconfig (by simpa using hf) _ _) more

theorem inject_attempts {params : Dict String}
    (hl : l ∈ (inject x tools params (approvedArgs x)).started) (hp : l.purpose ≠ .inspect) :
    ∃ first, bladeCreate x.db x.paths.bladePath x.paths.kubeconfigPath (approvedArgs x) =
      .ok first ∧ Attempt T x tools first l := by
  have hr := approvedArgs_ofSpec x
  obtain ⟨cs, hcs⟩ : ∃ cs, (approvedArgs x).flags.toList = '-' :: '-' :: cs :=
    flagsParts_dashes _ _ _
  rcases mem_started_bind.mp hl with hl | ⟨⟨uid, output⟩, hhost, hl⟩
  · obtain ⟨first, hfirst, rfl | ⟨hnone, hns, argv, hargv, rfl⟩⟩ := mem_createOnHost hl
    · exact ⟨first, hfirst, .first (first_carries hscope hfirst)⟩
    · exact ⟨first, hfirst, .retry hnone hns (retry_carries hT hscope haction hr hcs hfirst hargv)⟩
  · obtain ⟨first, hfirst⟩ := (bladeCreate_returns_iff x _).mpr
      (createOnHost_eq_ok_iff.mp hhost).1.timeout
    refine ⟨first, hfirst, ?_⟩
    dsimp only at hl
    split at hl
    · rcases mem_started_bind.mp hl with hl | ⟨_, -, hl⟩
      · exact absurd (checkDisk_inspects _ _ l hl) hp
      · simp at hl
    · rcases mem_started_bind.mp hl with hl | ⟨found, -, hl⟩
      · rcases mem_tryKubectlExecFallback hl with hlook | ⟨pod, parts, hpod, hparts, rfl⟩
        · exact absurd hlook hp
        · exact .inPod hpod fun hplain => inPod_carries hT hscope haction hr rfl rfl hcs hfirst
            hparts hplain.name hplain.ne_dashes hplain.words
      · cases found with
        | none => simp at hl
        | some f =>
          rcases mem_started_bind.mp hl with hl | ⟨_, -, hl⟩
          · exact absurd (checkDisk_inspects _ _ l hl) hp
          · simp at hl

end

/-- Every `blade create` of a run has the experiment of the spec. It has the values
of the first command for all flags, but that the retry on the host is made
without the namespace, that a pod needs no kubeconfig, and that only plain
words are known to pass through the text of the fallback. -/
theorem directExecute_attempts (hT : ReadsOptions T) (hscope : x.spec.scope ∈ bladeScopes)
    (haction : Cli.isWord x.spec.bladeAction = true)
    (hl : l ∈ (directExecute x tools).started) (hp : l.purpose ≠ .inspect) :
    ∃ first, bladeCreate x.db x.paths.bladePath x.paths.kubeconfigPath (approvedArgs x) =
      .ok first ∧ Attempt T x tools first l := by
  rcases mem_started_bind.mp hl with hl | ⟨⟨params, paramsFlags⟩, hadapt, hl⟩
  · simp at hl
  rcases mem_started_bind.mp hl with hl | ⟨missing, -, hl⟩
  · exact absurd (preflightCheck_inspects _ l hl) hp
  split at hl
  · simp at hl
  · have hargs : buildBladeCreateArgs x params paramsFlags = approvedArgs x := by
      rw [approvedArgs, ← (adaptParams_eq_ok_iff.mp hadapt).2]
    rw [hargs] at hl
    exact inject_attempts hT hscope haction hl hp

end

def fillFault (path : String) : DirectInput :=
  { spec := { ns := "prod", scope := "pod", names := ["web"], bladeTarget := "disk"
              bladeAction := "fill", params := .ofPairs [("path", path), ("size", "10")] } }

def oldHost : DirectTools where
  created := "Error: unknown flag: --namespace"
  recreated := "no such resource"
  toolPods := .ok { stdout := "NAME READY STATUS\ntool 1/1 Running" }

def fillInPod : Launch where
  purpose := .createInPod
  argv := ["kubectl", "exec", "tool", "-n", "chaosblade", "--", "blade", "create", "k8s",
    "pod-disk", "fill", "--namespace", "prod", "--names", "web", "--path", "/data", "--size", "10",
    "--timeout", "600"]

theorem fillFault_attempts : fillInPod ∈ (directExecute (fillFault "/data") oldHost).started ∧
      PlainFallback (fillFault "/data") "tool" ∧
      ∃ first, bladeCreate asciiDb "blade" "" (approvedArgs (fillFault "/data")) = .ok first ∧
        Attempt bladeFlags (fillFault "/data") oldHost first fillInPod := by
  have hT : ReadsOptions bladeFlags := by
    unfold ReadsOptions
    decide +kernel
  have hmem : fillInPod ∈ (directExecute (fillFault "/data") oldHost).started := by decide +kernel
  exact ⟨hmem, ⟨by decide, by decide, by decide +kernel⟩,
    directExecute_attempts hT (by decide) (by decide) hmem (by decide)⟩

def attemptValue (x : DirectInput) (f : String) (l : Launch) : Option String :=
  (Cli.read bladeFlags (if l.purpose = .createInPod then podArgs x l.argv else l.argv.tail)).bind
    (Cli.lastValue [f])

/-- The retry loses the namespace, and the fallback a part of a directory with a
blank in its name. -/
theorem attempts_differ :
    ((directExecute (fillFault "'/data/a b'") oldHost).started.filter (·.purpose ≠ .inspect)).map
        (fun l => (attemptValue (fillFault "'/data/a b'") "--namespace" l,
          attemptValue (fillFault "'/data/a b'") "--path" l)) =
      [(some "prod", some "/data/a b"), (none, some "/data/a b"),
          (some "prod", some "/data/a")] := by
  decide +kernel

end ChaosBlade.Nodes.Direct
