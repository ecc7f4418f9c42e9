/-
Nodes.DirectReads: when `direct_execute` and its pieces return.

Each piece has one lemma that says when it returns, in terms of the
command lines it builds and of the texts it is given:
`adaptParams_eq_ok_iff`, `createOnHost_eq_ok_iff`,
`tryKubectlExecFallback_returns_iff` and `checkDisk_returns_iff`.
`directExecute_reports_iff` puts them together: the node reports an
outcome exactly if it can read what it needs.
-/
import ChaosBlade.Nodes.DirectExecute

namespace ChaosBlade.Nodes.Direct

open Py Process Tools Except List Traced
open TargetGuard (bladeScopes)
open Utils

/-! ## Timeouts -/

def TimeoutReads (db : CharDb) (cmd : List String) : Prop :=
  ∀ before value after, cmd = before ++ "--timeout" :: value :: after → "--timeout" ∉ before →
    (pyInt db value).isSome

section

variable {db : CharDb} {scope target action : String}

theorem TimeoutReads.of_notMem {cmd : List String} (h : "--timeout" ∉ cmd) :
    TimeoutReads db cmd := by
  rintro before value after rfl
  simp at h

theorem timeoutReads_cons {a : String} (ha : a ≠ "--timeout") {rest : List String} :
    TimeoutReads db (a :: rest) ↔ TimeoutReads db rest := by
  constructor
  · rintro h before value after rfl hb
    exact h (a :: before) value after rfl (by simp [ha.symm, hb])
  · rintro h before value after heq hb
    cases before with
    | nil => exact absurd (cons.inj heq).1 ha
    | cons b before =>
      exact h before value after (cons.inj heq).2 fun hm => hb (mem_cons_of_mem _ hm)

theorem timeoutReads_timeout {value : String} {rest : List String} :
    TimeoutReads db ("--timeout" :: value :: rest) ↔ (pyInt db value).isSome := by
  constructor
  · exact fun h => h [] value rest rfl (by simp)
  · rintro h before v after heq hb
    cases before with
    | nil =>
      obtain ⟨-, heq⟩ := cons.inj heq
      exact (cons.inj heq).1 ▸ h
    | cons b before => exact absurd (by simp [(cons.inj heq).1]) hb

theorem raiseTimeout_returns_iff (cmd : List String) :
    Returns (raiseTimeout db scope target action cmd) ↔ TimeoutReads db cmd := by
  induction cmd with
  | nil => exact ⟨fun _ => .of_notMem (by simp), fun _ => returns_ok _⟩
  | cons a rest ih =>
    by_cases ha : a = "--timeout"
    · subst ha
      cases rest with
      | nil => exact ⟨fun _ _ _ _ heq _ => by simp [cons_eq_append_iff] at heq,
          fun _ => returns_ok _⟩
      | cons value more =>
        rw [timeoutReads_timeout, raiseTimeout]
        cases hv : pyInt db value with
        | none => simp
        | some n =>
          simp only [if_true, Option.isSome_some, iff_true]
          split <;> exact returns_ok _
    · rw [timeoutReads_cons ha, ← ih, raiseTimeout.eq_def]
      simp [ha]

theorem settleTimeout_returns_iff (cmd added : List String) :
    Returns (if "--timeout" ∉ cmd then .ok (cmd ++ added)
      else raiseTimeout db scope target action cmd) ↔ TimeoutReads db cmd := by
  by_cases h : "--timeout" ∉ cmd
  · simp only [if_pos h, returns_ok, true_iff]
    exact .of_notMem h
  · rw [if_neg h]
    exact raiseTimeout_returns_iff cmd

end

def hostWords (x : DirectInput) (args : BladeArgs) : List String :=
  x.paths.bladePath :: (ownTokens x.paths.kubeconfigPath args ++ Shlex.splitArgs args.flags)

def execWords (args : BladeArgs) : List String := execFront args ++ Shlex.splitArgs args.flags

theorem bladeCreate_returns_iff (x : DirectInput) (args : BladeArgs) :
    Returns (bladeCreate x.db x.paths.bladePath x.paths.kubeconfigPath args) ↔
      TimeoutReads x.db (hostWords x args) :=
  settleTimeout_returns_iff _ _

theorem buildBladeCommandForExec_returns_iff (db : CharDb) (args : BladeArgs) :
    Returns (buildBladeCommandForExec db args) ↔ TimeoutReads db (execWords args) := by
  unfold buildBladeCommandForExec execParts
  rw [returns_map]
  exact settleTimeout_returns_iff _ _

/-! ## Parameters -/

section

variable {x : DirectInput}

def onLowMemory (x : DirectInput) : Bool :=
  burnOnLowMemory x.spec.scope x.spec.bladeTarget x.spec.bladeAction x.metadata

theorem asksSafeSize_eq (scope target action : String) (m : TargetMetadata) :
    asksSafeSize scope target action m = burnOnLowMemory scope target action m := by
  unfold asksSafeSize lookupAdaptations faultContextAdaptations
  cases h : burnOnLowMemory scope target action m <;> simp [h]

theorem isDiskBurn_of_onLowMemory (h : onLowMemory x = true) : isDiskBurn x.spec = true := by
  unfold onLowMemory burnOnLowMemory at h
  unfold isDiskBurn
  simp only [Bool.and_eq_true] at h ⊢
  exact ⟨h.1.1.2, h.1.2⟩

def knownCeiling (x : DirectInput) : Option Int :=
  if onLowMemory x then
    some (computeSafeBurnSize x.metadata.podMemoryLimitMb x.metadata.podMemoryUsageMb)
  else none

theorem burnSizeCeiling_eq_ok_iff {ceiling : Option Int} :
    burnSizeCeiling x.spec.scope x.spec.bladeTarget x.spec.bladeAction x.metadata = .ok ceiling ↔
      (onLowMemory x = true → x.metadata.podMemoryUsageMb.isSome) ∧ ceiling = knownCeiling x := by
  unfold burnSizeCeiling knownCeiling
  rw [asksSafeSize_eq]
  show (if onLowMemory x = true then _ else _) = _ ↔ _
  cases onLowMemory x with
  | false => exact ⟨fun h => ⟨nofun, (ok.inj h).symm⟩, fun h => congrArg Except.ok h.2.symm⟩
  | true =>
    cases x.metadata.podMemoryUsageMb with
    | none => simp
    | some usage =>
      exact ⟨fun h => ⟨fun _ => rfl, (ok.inj h).symm⟩, fun h => congrArg Except.ok h.2.symm⟩

def adaptedParams (x : DirectInput) : Dict String × List String :=
  let completed := autoCompleteParams x.spec.scope x.spec.bladeTarget x.spec.bladeAction
    x.spec.params x.spec.paramsFlags
  if isDiskBurn x.spec then (autoBoostBurnParams completed.1 (knownCeiling x), completed.2)
  else completed

theorem adaptParams_eq_ok_iff {p : Dict String × List String} : adaptParams x = .ok p ↔
      (onLowMemory x = true → x.metadata.podMemoryUsageMb.isSome) ∧ p = adaptedParams x := by
  unfold adaptParams adaptedParams
  by_cases hburn : isDiskBurn x.spec = true
  · simp only [hburn, if_true]
    rw [bind_eq_ok]
    constructor
    · rintro ⟨ceiling, hceiling, hp⟩
      obtain ⟨husage, rfl⟩ := burnSizeCeiling_eq_ok_iff.mp hceiling
      exact ⟨husage, (ok.inj hp).symm⟩
    · rintro ⟨husage, rfl⟩
      exact ⟨_, burnSizeCeiling_eq_ok_iff.mpr ⟨husage, rfl⟩, rfl⟩
  · have hlow : ¬ onLowMemory x = true := fun h => hburn (isDiskBurn_of_onLowMemory h)
    rw [if_neg hburn, if_neg hburn]
    exact ⟨fun h => ⟨fun hl => absurd hl hlow, (ok.inj h).symm⟩,
      fun h => congrArg Except.ok h.2.symm⟩

/-! ### The size of a burn -/

theorem get?_fillIn {k : String} {required : List (String × String)}
    (h : ∀ e ∈ required, e.1 ≠ k) (params : Dict String) :
    (required.foldl (fun ps e => if (ps.get? e.1).isSome then ps
        else ps.set e.1 e.2) params).get? k =
      params.get? k := by
  induction required generalizing params with
  | nil => rfl
  | cons e required ih =>
    obtain ⟨he, hrest⟩ := forall_mem_cons.mp h
    rw [foldl_cons, ih hrest]
    split
    · rfl
    · rw [Dict.get?_set, if_neg he.symm]

theorem autoCompleteParams_size (scope target action : String) (params : Dict String)
    (paramsFlags : List String) :
    (autoCompleteParams scope target action params paramsFlags).1.get? "size" =
      params.get? "size" := by
  unfold autoCompleteParams
  split
  · rfl
  · next required bare hlookup =>
    obtain ⟨l₁, l₂, htable, -⟩ := List.lookup_eq_some_iff.mp hlookup
    have hmem : ((scope, target, action), (required, bare)) ∈ requiredParams := by
      rw [htable]
      simp
    have hkeys : ∀ row ∈ requiredParams, ∀ e ∈ row.2.1, e.1 ≠ "size" := by decide
    exact get?_fillIn (hkeys _ hmem) params

def ChosenSizeSafe (x : DirectInput) : Prop :=
  isDiskBurn x.spec = true → x.spec.params.get? "size" = none →
    ∀ p, adaptParams x = .ok p → ∃ n : Int, p.1.get? "size" = some (toString n) ∧
      n ≤ computeSafeBurnSize x.metadata.podMemoryLimitMb x.metadata.podMemoryUsageMb

theorem adaptedParams_size (hburn : isDiskBurn x.spec = true)
    (hsize : x.spec.params.get? "size" = none) :
    (adaptedParams x).1.get? "size" = some (toString (boostedSize (knownCeiling x))) := by
  unfold adaptedParams
  simp only [hburn]
  unfold autoBoostBurnParams
  rw [autoCompleteParams_size, hsize]
  simp

theorem boostedSize_le_iff (safe : Int) (low : Bool) :
    boostedSize (if low then some safe else none) ≤ safe ↔ low = true ∨ burnDefaultSize ≤ safe := by
  cases low <;> simp [boostedSize]

theorem chosenSizeSafe_iff (husage : onLowMemory x = true → x.metadata.podMemoryUsageMb.isSome) :
    ChosenSizeSafe x ↔ (isDiskBurn x.spec = true → x.spec.params.get? "size" = none →
      onLowMemory x = true ∨ burnDefaultSize ≤
        computeSafeBurnSize x.metadata.podMemoryLimitMb x.metadata.podMemoryUsageMb) := by
  have hadapt : ∀ p, adaptParams x = .ok p ↔ p = adaptedParams x := fun p =>
    ⟨fun h => (adaptParams_eq_ok_iff.mp h).2, fun h => adaptParams_eq_ok_iff.mpr ⟨husage, h⟩⟩
  unfold ChosenSizeSafe
  simp only [hadapt, forall_eq]
  refine forall_congr' fun hburn => forall_congr' fun hsize => ?_
  rw [adaptedParams_size hburn hsize, ← boostedSize_le_iff]
  constructor
  · rintro ⟨n, hn, hle⟩
    show boostedSize (knownCeiling x) ≤ _
    rw [toString_int_injective (Option.some.inj hn)]
    exact hle
  · exact fun h => ⟨_, rfl, h⟩

end

/-! ## The host -/

section

variable {x : DirectInput} {tools : DirectTools} {args : BladeArgs}

/-- The uid can be looked for in a text: nothing in it makes the reader raise. -/
def UidReads (db : CharDb) (text : String) : Prop := Returns (extractBladeUid db text)

def NoUid (db : CharDb) (text : String) : Prop := parseBladeUidFromContent db text = .ok ""

instance (db : CharDb) (text : String) : Decidable (NoUid db text) :=
  inferInstanceAs (Decidable (_ = _))

theorem parseBladeUid_returns_iff (db : CharDb) (text : String) :
    Returns (parseBladeUidFromContent db text) ↔ UidReads db text :=
  returns_map

theorem bladeCreateCall_eq_ok_iff {text output : String} :
    (bladeCreateCall x args text).result = .ok output ↔
      args.scope ∈ bladeScopes ∧ TimeoutReads x.db (hostWords x args) ∧ output = text := by
  unfold bladeCreateCall
  by_cases hscope : args.scope ∈ bladeScopes
  · rw [if_pos hscope, ← bladeCreate_returns_iff]
    simp only [result_bind, launch]
    cases bladeCreate x.db x.paths.bladePath x.paths.kubeconfigPath args with
    | error e => simp [bind, Except.bind]
    | ok cmd => simp [bind, Except.bind, hscope, eq_comm]
  · simp [hscope]

def hostText (x : DirectInput) (tools : DirectTools) : String :=
  if NoUid x.db tools.created ∧ namespaceUnknown tools.created then
    tools.recreated
  else tools.created

structure HostReads (x : DirectInput) (tools : DirectTools) (args : BladeArgs) : Prop where
  scope : args.scope ∈ bladeScopes
  timeout : TimeoutReads x.db (hostWords x args)
  created : UidReads x.db tools.created
  retryTimeout : NoUid x.db tools.created → namespaceUnknown tools.created = true →
    TimeoutReads x.db (hostWords x { args with ns := "" })
  recreated : NoUid x.db tools.created → namespaceUnknown tools.created = true →
    UidReads x.db tools.recreated

theorem createOnHost_eq_ok_iff {uid output : String} :
    (createOnHost x tools args).result = .ok (uid, output) ↔
      HostReads x tools args ∧ output = hostText x tools ∧
        parseBladeUidFromContent x.db output = .ok uid := by
  unfold createOnHost
  rw [result_bind, bind_eq_ok]
  constructor
  · rintro ⟨first, hfirst, h⟩
    obtain ⟨hscope, htimeout, rfl⟩ := bladeCreateCall_eq_ok_iff.mp hfirst
    rw [result_bind, bind_eq_ok] at h
    obtain ⟨firstUid, hfirstUid, h⟩ := h
    have hcreated : UidReads x.db tools.created := (parseBladeUid_returns_iff _ _).mp ⟨_, hfirstUid⟩
    split at h
    · next hretry =>
      obtain ⟨rfl, hns⟩ : firstUid = "" ∧ namespaceUnknown tools.created = true := by
        simpa using hretry
      rw [result_bind, bind_eq_ok] at h
      obtain ⟨second, hsecond, h⟩ := h
      obtain ⟨-, htimeout', rfl⟩ := bladeCreateCall_eq_ok_iff.mp hsecond
      rw [result_bind, bind_eq_ok] at h
      obtain ⟨secondUid, hsecondUid, h⟩ := h
      cases h
      refine ⟨⟨hscope, htimeout, hcreated, fun _ _ => htimeout',
        fun _ _ => (parseBladeUid_returns_iff _ _).mp ⟨_, hsecondUid⟩⟩, ?_, hsecondUid⟩
      rw [hostText, if_pos ⟨hfirstUid, hns⟩]
    · next hretry =>
      cases h
      have hno : ¬ (NoUid x.db tools.created ∧ namespaceUnknown tools.created = true) := by
        rintro ⟨hnone, hns⟩
        have huid : uid = "" := ok.inj (hfirstUid.symm.trans hnone)
        exact hretry (by simp [huid, hns])
      refine ⟨⟨hscope, htimeout, hcreated, fun h₁ h₂ => absurd ⟨h₁, h₂⟩ hno,
        fun h₁ h₂ => absurd ⟨h₁, h₂⟩ hno⟩, ?_, hfirstUid⟩
      rw [hostText, if_neg hno]
  · rintro ⟨hreads, houtput, huid⟩
    refine ⟨tools.created, bladeCreateCall_eq_ok_iff.mpr ⟨hreads.scope, hreads.timeout, rfl⟩, ?_⟩
    rw [result_bind, bind_eq_ok]
    by_cases hretry : NoUid x.db tools.created ∧ namespaceUnknown tools.created = true
    · obtain ⟨hnone, hns⟩ := hretry
      rw [hostText, if_pos ⟨hnone, hns⟩] at houtput
      refine ⟨"", hnone, ?_⟩
      rw [if_pos (by simp [hns]), result_bind, bind_eq_ok]
      refine ⟨tools.recreated, bladeCreateCall_eq_ok_iff.mpr
        ⟨hreads.scope, hreads.retryTimeout hnone hns, rfl⟩, ?_⟩
      rw [houtput] at huid ⊢
      rw [result_bind, bind_eq_ok]
      exact ⟨uid, huid, rfl⟩
    · rw [hostText, if_neg hretry] at houtput
      rw [houtput] at huid ⊢
      refine ⟨uid, huid, ?_⟩
      rw [if_neg]
      · rfl
      · intro h
        obtain ⟨rfl, hns⟩ : uid = "" ∧ namespaceUnknown tools.created = true := by simpa using h
        exact hretry ⟨huid, hns⟩

theorem createOnHost_returns_iff :
    Returns (createOnHost x tools args).result ↔ HostReads x tools args := by
  constructor
  · rintro ⟨⟨uid, output⟩, h⟩
    exact (createOnHost_eq_ok_iff.mp h).1
  · intro h
    have htext : Returns (parseBladeUidFromContent x.db (hostText x tools)) := by
      rw [parseBladeUid_returns_iff, hostText]
      split
      · next hretry => exact h.recreated hretry.1 hretry.2
      · exact h.created
    obtain ⟨uid, huid⟩ := htext
    exact ⟨_, createOnHost_eq_ok_iff.mpr ⟨h, rfl, huid⟩⟩

end

/-! ## The fallback -/

section

variable {x : DirectInput} {tools : DirectTools} {args : BladeArgs}

/-- What `run_command` answers: nothing if it raises, or if the guard refuses. -/
def answered (cmd : List String) (answer : Except PyError CommandResult) : Option CommandResult :=
  (runCommand cmd answer).result.toOption

def chosenPod (x : DirectInput) (tools : DirectTools) (args : BladeArgs) : Option String :=
  ((answered (kubectlCommand x.paths x.kubeconfig listToolPods) tools.toolPods).filter
    fun r => r.exitCode = 0).bind fun r => fallbackPod args r.stdout

def fallbackCommand (x : DirectInput) (args : BladeArgs) (pod bladeCmd : String) : List String :=
  kubectlCommand x.paths x.kubeconfig ("exec" :: execTokens x.db args pod bladeCmd)

/-- The streams of an `exec` can be searched, the second one if it is needed. -/
def StreamsRead (db : CharDb) (r : CommandResult) : Prop :=
  UidReads db r.stdout ∧ (NoUid db r.stdout → UidReads db r.stderr)

def StreamsHaveUid (db : CharDb) (r : CommandResult) : Prop :=
  ¬ NoUid db r.stdout ∨ ¬ NoUid db r.stderr

theorem readFallback_returns_iff (db : CharDb) (pod : String) (r : CommandResult) :
    Returns (readFallback db pod r) ↔ StreamsRead db r := by
  unfold readFallback StreamsRead
  rw [← parseBladeUid_returns_iff, ← parseBladeUid_returns_iff, NoUid]
  cases hout : parseBladeUidFromContent db r.stdout with
  | error e => simp [bind, Except.bind]
  | ok uid =>
    by_cases hu : uid = ""
    · subst hu
      cases parseBladeUidFromContent db r.stderr with
      | error e => simp [bind, Except.bind]
      | ok uid' =>
        simp only [bind, Except.bind, ne_eq, not_true_eq_false, if_false, returns_ok, true_implies,
          and_self, iff_true]
        split <;> exact returns_ok _
    · simp [bind, Except.bind, hu, pure, Except.pure]

variable {pod : String}

theorem readFallback_some {db : CharDb} {r : CommandResult} {f : Fallback}
    (h : readFallback db pod r = .ok (some f)) : f.uid ≠ "" := by
  obtain ⟨uid, -, h⟩ := bind_eq_ok.mp h
  split at h
  · next hu => cases h; exact hu
  · obtain ⟨uid', -, h⟩ := bind_eq_ok.mp h
    split at h
    · next hu => cases h; exact hu
    · cases h

theorem readFallback_isSome_iff {db : CharDb} {r : CommandResult} (hreads : StreamsRead db r) :
    (∃ f, readFallback db pod r = .ok (some f)) ↔ StreamsHaveUid db r := by
  obtain ⟨hstdout, hstderr⟩ := hreads
  obtain ⟨uid, huid⟩ := (parseBladeUid_returns_iff _ _).mpr hstdout
  unfold StreamsHaveUid NoUid readFallback
  by_cases hu : uid = ""
  · obtain ⟨uid', huid'⟩ :=
      (parseBladeUid_returns_iff _ _).mpr (hstderr (huid.trans (congrArg Except.ok hu)))
    by_cases hu' : uid' = ""
    · simp [huid, huid', hu, hu', bind, Except.bind, pure, Except.pure]
    · simp [huid, huid', hu, hu', bind, Except.bind, pure, Except.pure]
  · simp [huid, hu, bind, Except.bind, pure, Except.pure]

structure FallbackReads (x : DirectInput) (tools : DirectTools) (args : BladeArgs) : Prop where
  timeout : ∀ pod, chosenPod x tools args = some pod → TimeoutReads x.db (execWords args)
  streams : ∀ pod, chosenPod x tools args = some pod →
    ∀ bladeCmd, buildBladeCommandForExec x.db args = .ok bladeCmd →
      ∀ r, answered (fallbackCommand x args pod bladeCmd) tools.exec = some r → StreamsRead x.db r

def InjectedInPod (x : DirectInput) (tools : DirectTools) (args : BladeArgs) : Prop :=
  ∃ pod bladeCmd r, chosenPod x tools args = some pod ∧
    buildBladeCommandForExec x.db args = .ok bladeCmd ∧
    answered (fallbackCommand x args pod bladeCmd) tools.exec = some r ∧ StreamsHaveUid x.db r

theorem execFallback_eq_ok_iff {found : Option Fallback} :
    (execFallback x args pod tools.exec).result = .ok found ↔
      ∃ bladeCmd, buildBladeCommandForExec x.db args = .ok bladeCmd ∧
        readAnswer x.db pod (answered (fallbackCommand x args pod bladeCmd) tools.exec) =
          .ok found := by
  unfold execFallback
  rw [result_bind, bind_eq_ok]
  exact exists_congr fun bladeCmd => and_congr_right fun _ => Iff.rfl

theorem tryKubectlExecFallback_result : (tryKubectlExecFallback x tools args).result =
      (chosenPod x tools args).elim (.ok none) fun pod =>
        (execFallback x args pod tools.exec).result := by
  show ((chosenPod x tools args).elim (return none) fun pod =>
    execFallback x args pod tools.exec).result = _
  cases chosenPod x tools args <;> rfl

theorem tryKubectlExecFallback_returns_iff :
    Returns (tryKubectlExecFallback x tools args).result ↔ FallbackReads x tools args := by
  rw [tryKubectlExecFallback_result]
  cases hpod : chosenPod x tools args with
  | none =>
    refine ⟨fun _ => ⟨fun pod h => ?_, fun pod h => ?_⟩, fun _ => returns_ok _⟩
    · rw [hpod] at h
      cases h
    · rw [hpod] at h
      cases h
  | some pod =>
    constructor
    · rintro ⟨found, h⟩
      obtain ⟨bladeCmd, hcmd, h⟩ := execFallback_eq_ok_iff.mp h
      refine ⟨fun _ _ => (buildBladeCommandForExec_returns_iff _ _).mp ⟨_, hcmd⟩, ?_⟩
      intro pod' hpod' bladeCmd' hcmd' r hr
      cases hpod.symm.trans hpod'
      cases hcmd.symm.trans hcmd'
      rw [hr] at h
      exact (readFallback_returns_iff _ _ _).mp ⟨_, h⟩
    · intro hreads
      obtain ⟨bladeCmd, hcmd⟩ := (buildBladeCommandForExec_returns_iff _ _).mpr
        (hreads.timeout pod hpod)
      cases hr : answered (fallbackCommand x args pod bladeCmd) tools.exec with
      | none => exact ⟨none, execFallback_eq_ok_iff.mpr ⟨bladeCmd, hcmd, by rw [hr]; rfl⟩⟩
      | some r =>
        obtain ⟨found, hfound⟩ := (readFallback_returns_iff x.db pod r).mpr
          (hreads.streams pod hpod bladeCmd hcmd r hr)
        exact ⟨found, execFallback_eq_ok_iff.mpr ⟨bladeCmd, hcmd, by rw [hr]; exact hfound⟩⟩

theorem tryKubectlExecFallback_some {f : Fallback}
    (h : (tryKubectlExecFallback x tools args).result = .ok (some f)) : f.uid ≠ "" := by
  rw [tryKubectlExecFallback_result] at h
  cases hpod : chosenPod x tools args with
  | none =>
    rw [hpod] at h
    cases h
  | some pod =>
    rw [hpod] at h
    obtain ⟨bladeCmd, -, h⟩ := execFallback_eq_ok_iff.mp h
    cases hr : answered (fallbackCommand x args pod bladeCmd) tools.exec with
    | none =>
      rw [hr] at h
      cases h
    | some r =>
      rw [hr] at h
      exact readFallback_some h

theorem tryKubectlExecFallback_isSome_iff (hreads : FallbackReads x tools args) :
    (∃ f, (tryKubectlExecFallback x tools args).result = .ok (some f)) ↔
      InjectedInPod x tools args := by
  rw [tryKubectlExecFallback_result]
  constructor
  · rintro ⟨f, h⟩
    cases hpod : chosenPod x tools args with
    | none =>
      rw [hpod] at h
      cases h
    | some pod =>
      rw [hpod] at h
      obtain ⟨bladeCmd, hcmd, h⟩ := execFallback_eq_ok_iff.mp h
      cases hr : answered (fallbackCommand x args pod bladeCmd) tools.exec with
      | none =>
        rw [hr] at h
        cases h
      | some r =>
        rw [hr] at h
        exact ⟨pod, bladeCmd, r, hpod, hcmd, hr, (readFallback_isSome_iff
          (hreads.streams pod hpod bladeCmd hcmd r hr)).mp ⟨f, h⟩⟩
  · rintro ⟨pod, bladeCmd, r, hpod, hcmd, hr, huid⟩
    obtain ⟨f, hf⟩ := (readFallback_isSome_iff
      (hreads.streams pod hpod bladeCmd hcmd r hr)).mpr huid
    rw [hpod]
    exact ⟨f, execFallback_eq_ok_iff.mpr ⟨bladeCmd, hcmd, by rw [hr]; exact hf⟩⟩

end

/-! ## The disk -/

section

variable {x : DirectInput} {tools : DirectTools}

/-- No device has written so much between two samples that the rate overflows. -/
def SectorsFit (db : CharDb) (before after : String) : Prop :=
  ∀ name n m, (name, n) ∈ (parseDiskstats db after).entries →
    (parseDiskstats db before).get? name = some m → n - m < rateLimit

theorem rateLimit_pos : 0 < rateLimit :=
  Int.natCast_pos.mpr (by decide +kernel)

theorem sectorsWritten_returns_iff (before : Dict Int) (entries : List (String × Int)) :
    Returns (sectorsWritten before entries) ↔
      ∀ name n m, (name, n) ∈ entries → before.get? name = some m → n - m < rateLimit := by
  induction entries with
  | nil => simp [sectorsWritten]
  | cons e entries ih =>
    obtain ⟨name, n⟩ := e
    have hcons : (∀ name' n' m, (name', n') ∈ (name, n) :: entries →
        before.get? name' = some m → n' - m < rateLimit) ↔
        (∀ m, before.get? name = some m → n - m < rateLimit) ∧
          Returns (sectorsWritten before entries) := by
      rw [ih]
      constructor
      · exact fun h => ⟨fun m => h name n m mem_cons_self,
          fun name' n' m hmem => h name' n' m (mem_cons_of_mem _ hmem)⟩
      · rintro ⟨hhead, htail⟩ name' n' m hmem
        rcases mem_cons.mp hmem with heq | hmem
        · cases heq
          exact hhead m
        · exact htail name' n' m hmem
    rw [hcons, sectorsWritten]
    cases hm : before.get? name with
    | none => simp
    | some m =>
      have hpos := rateLimit_pos
      simp only [Option.some.injEq, forall_eq']
      split
      · next hneg => exact ⟨fun h => ⟨by omega, h⟩, fun h => h.2⟩
      · split
        · next hlimit =>
          simp only [not_returns_error, false_iff]
          intro hlt
          omega
        · next hlimit =>
          rw [returns_map]
          exact ⟨fun h => ⟨by omega, h⟩, fun h => h.2⟩

theorem compareSamples_returns_iff (db : CharDb) (pod node bladeUid before after : String) :
    Returns (compareSamples db pod node bladeUid before after) ↔ SectorsFit db before after := by
  unfold compareSamples SectorsFit
  rw [← sectorsWritten_returns_iff]
  exact (returns_bind fun _ => iff_true_intro (returns_ok _)).trans (and_iff_left trivial)

theorem returns_launch_bind {β : Type} {purpose : Purpose} {cmd : List String}
    {answer : Except PyError CommandResult} {f : Option CommandResult → Traced Launch β}
    (h : ∀ a, Returns (f a).result) : Returns (launch purpose cmd answer >>= f).result :=
  (returns_bind_of_ok rfl f).mpr (h _)

theorem toolPodPlace_returns (node : String) : Returns (toolPodPlace x tools node).result :=
  returns_launch_bind fun _ => ⟨_, rfl⟩

variable (x tools) in
theorem burnPlace_returns : Returns (burnPlace x tools).result := by
  have hpod : ∀ pod ns, Returns (podPlace x tools pod ns).result := by
    intro pod ns
    refine returns_launch_bind fun probe => ?_
    split
    · exact ⟨_, rfl⟩
    refine returns_launch_bind fun found => ?_
    split
    · exact ⟨_, rfl⟩
    · exact toolPodPlace_returns _
  unfold burnPlace
  dsimp only
  split
  · exact toolPodPlace_returns _
  split
  · exact hpod _ _
  · exact ⟨_, rfl⟩

variable (x tools) in
theorem burnSamples_returns (pod ns : String) : Returns (burnSamples x tools pod ns).result := by
  refine returns_launch_bind fun before => ?_
  cases before with
  | none => exact ⟨_, rfl⟩
  | some before => exact returns_launch_bind fun _ => ⟨_, rfl⟩

def sampledTexts (x : DirectInput) (tools : DirectTools) : Option (String × String) :=
  if isDiskBurn x.spec ∧ namesText x.spec ≠ "" then
    (burnPlace x tools).result.toOption.join.bind fun place =>
      (burnSamples x tools place.1 place.2.1).result.toOption.join
  else none

def SamplesFit (x : DirectInput) (tools : DirectTools) : Prop :=
  ∀ texts ∈ sampledTexts x tools, SectorsFit x.db texts.1 texts.2

theorem checkBurnAt_returns_iff (bladeUid : String) (place : String × String × String) :
    Returns (checkBurnAt x tools bladeUid place).result ↔
      ∀ texts ∈ (burnSamples x tools place.1 place.2.1).result.toOption.join,
        SectorsFit x.db texts.1 texts.2 := by
  obtain ⟨samples, hsamples⟩ := burnSamples_returns x tools place.1 place.2.1
  unfold checkBurnAt
  rw [returns_bind_of_ok hsamples, hsamples]
  cases samples with
  | none => exact ⟨fun _ _ h => (by cases h), fun _ => ⟨_, rfl⟩⟩
  | some s =>
    rw [Option.elim_some, result_ofExcept, returns_map, compareSamples_returns_iff]
    constructor
    · rintro h texts htexts
      cases htexts
      exact h
    · exact fun h => h s rfl

theorem verifyDiskBurnEffect_returns_iff (bladeUid : String) :
    Returns (verifyDiskBurnEffect x tools bladeUid).result ↔ SamplesFit x tools := by
  unfold verifyDiskBurnEffect SamplesFit sampledTexts
  by_cases hcheck : isDiskBurn x.spec = true ∧ namesText x.spec ≠ ""
  · obtain ⟨place, hplace⟩ := burnPlace_returns x tools
    rw [if_pos hcheck, if_pos hcheck, returns_bind_of_ok hplace, hplace]
    cases place with
    | none => exact ⟨fun _ _ h => (by cases h), fun _ => ⟨_, rfl⟩⟩
    | some place => exact checkBurnAt_returns_iff bladeUid place
  · rw [if_neg hcheck, if_neg hcheck]
    exact ⟨fun _ _ h => (by cases h), fun _ => ⟨_, rfl⟩⟩

variable (x tools) in
theorem verifyDiskFillEffect_returns (params : Dict String) (bladeUid : String) :
    Returns (verifyDiskFillEffect x tools params bladeUid).result := by
  unfold verifyDiskFillEffect
  dsimp only
  split
  · refine returns_launch_bind fun listed => ?_
    cases listed.bind fun r => toolPodOn [namesText x.spec] r.stdout with
    | none => exact ⟨_, rfl⟩
    | some pod =>
      refine returns_launch_bind fun ls => ?_
      cases ls with
      | none => exact ⟨_, rfl⟩
      | some ls => exact returns_launch_bind fun _ => ⟨_, rfl⟩
  · exact ⟨_, rfl⟩

theorem checkDisk_returns_iff (params : Dict String) (bladeUid : String) :
    Returns (checkDisk x tools params bladeUid).result ↔ SamplesFit x tools := by
  obtain ⟨fill, hfill⟩ := verifyDiskFillEffect_returns x tools params bladeUid
  unfold checkDisk
  rw [returns_bind_of_ok hfill, ← verifyDiskBurnEffect_returns_iff bladeUid, result_bind]
  exact (returns_bind fun burn => iff_true_intro (returns_ok (fill, burn))).trans
    (and_iff_left trivial)

end

/-! ## The node -/

section

variable {x : DirectInput} {tools : DirectTools}

def blockedNodes (x : DirectInput) (tools : DirectTools) : List String :=
  if x.spec.scope = "node" ∧ namesText x.spec ≠ "" then
    (answered (kubectlCommand x.paths x.kubeconfig listToolPods) tools.preflight).elim [] fun r =>
      missingNodes (namesText x.spec) r.stdout
  else []

theorem preflightCheck_result : (preflightCheck x tools.preflight).result =
    .ok (blockedNodes x tools) := by
  unfold preflightCheck blockedNodes
  split <;> rfl

def Injected (x : DirectInput) (tools : DirectTools) (args : BladeArgs) : Prop :=
  ¬ NoUid x.db (hostText x tools) ∨ InjectedInPod x tools args

structure InjectReads (x : DirectInput) (tools : DirectTools) (args : BladeArgs) : Prop where
  host : HostReads x tools args
  fallback : NoUid x.db (hostText x tools) → FallbackReads x tools args
  disk : Injected x tools args → SamplesFit x tools

def DirectOutcome.Reports (o : DirectOutcome) : Prop :=
  (∃ uid, o.bladeUid? = some uid ∧ uid ≠ "") ∨ o.failure?.isSome

theorem inject_returns_iff (params : Dict String) {args : BladeArgs} :
    Returns (inject x tools params args).result ↔ InjectReads x tools args := by
  unfold inject
  rw [Traced.returns_bind]
  constructor
  · rintro ⟨⟨uid, output⟩, hhost, h⟩
    obtain ⟨hreads, rfl, huid⟩ := createOnHost_eq_ok_iff.mp hhost
    dsimp only at h
    by_cases hu : uid ≠ ""
    · rw [if_pos hu, Traced.returns_bind] at h
      obtain ⟨checks, hchecks, -⟩ := h
      exact ⟨hreads, fun hno => absurd (Except.ok.inj (huid.symm.trans hno)) hu,
        fun _ => (checkDisk_returns_iff params uid).mp ⟨_, hchecks⟩⟩
    · have hno : NoUid x.db (hostText x tools) := huid.trans (congrArg Except.ok (not_not.mp hu))
      rw [if_neg hu, Traced.returns_bind] at h
      obtain ⟨found, hfound, h⟩ := h
      have hfallback := tryKubectlExecFallback_returns_iff.mp ⟨_, hfound⟩
      refine ⟨hreads, fun _ => hfallback, ?_⟩
      rintro (hhas | hpod)
      · exact absurd hno hhas
      · obtain ⟨f, hf⟩ := (tryKubectlExecFallback_isSome_iff hfallback).mpr hpod
        cases hfound.symm.trans hf
        rw [Option.elim_some, Traced.returns_bind] at h
        obtain ⟨checks, hchecks, -⟩ := h
        exact (checkDisk_returns_iff params f.uid).mp ⟨_, hchecks⟩
  · intro h
    obtain ⟨⟨uid, output⟩, hhost⟩ := createOnHost_returns_iff.mpr h.host
    obtain ⟨-, rfl, huid⟩ := createOnHost_eq_ok_iff.mp hhost
    refine ⟨_, hhost, ?_⟩
    dsimp only
    by_cases hu : uid ≠ ""
    · have hhas : ¬ NoUid x.db (hostText x tools) := fun hno =>
        hu (Except.ok.inj (huid.symm.trans hno))
      obtain ⟨checks, hchecks⟩ := (checkDisk_returns_iff params uid).mpr (h.disk (.inl hhas))
      rw [if_pos hu, returns_bind_of_ok hchecks]
      exact ⟨_, rfl⟩
    · have hno : NoUid x.db (hostText x tools) := huid.trans (congrArg Except.ok (not_not.mp hu))
      obtain ⟨found, hfound⟩ := tryKubectlExecFallback_returns_iff.mpr (h.fallback hno)
      rw [if_neg hu, returns_bind_of_ok hfound]
      cases found with
      | none => exact ⟨_, rfl⟩
      | some f =>
        have hpod := (tryKubectlExecFallback_isSome_iff (h.fallback hno)).mp ⟨f, hfound⟩
        obtain ⟨checks, hchecks⟩ := (checkDisk_returns_iff params f.uid).mpr (h.disk (.inr hpod))
        rw [Option.elim_some, returns_bind_of_ok hchecks]
        exact ⟨_, rfl⟩

theorem inject_reports {params : Dict String} {args : BladeArgs} {o : DirectOutcome}
    (h : (inject x tools params args).result = .ok o) : o.Reports := by
  unfold inject at h
  rw [result_bind, bind_eq_ok] at h
  obtain ⟨⟨uid, output⟩, -, h⟩ := h
  dsimp only at h
  by_cases hu : uid ≠ ""
  · rw [if_pos hu, result_bind, bind_eq_ok] at h
    obtain ⟨⟨fill, burn⟩, -, h⟩ := h
    cases h
    exact .inl ⟨uid, rfl, hu⟩
  · rw [if_neg hu, result_bind, bind_eq_ok] at h
    obtain ⟨found, hfound, h⟩ := h
    cases found with
    | none =>
      cases h
      exact .inr rfl
    | some f =>
      rw [Option.elim_some, result_bind, bind_eq_ok] at h
      obtain ⟨⟨fill, burn⟩, -, h⟩ := h
      cases h
      exact .inl ⟨f.uid, rfl, tryKubectlExecFallback_some hfound⟩

def approvedArgs (x : DirectInput) : BladeArgs :=
  buildBladeCreateArgs x (adaptedParams x).1 (adaptedParams x).2

/-- What `direct_execute` needs to report an outcome, in terms of what it reads
and of what the tools answer. -/
structure DirectReads (x : DirectInput) (tools : DirectTools) : Prop where
  /-- The memory usage of a pod that is small or of unknown size is known. -/
  usage : onLowMemory x = true → x.metadata.podMemoryUsageMb.isSome
  /-- A size the node chooses itself has a ceiling, or needs none. -/
  size : isDiskBurn x.spec = true → x.spec.params.get? "size" = none →
    onLowMemory x = true ∨ burnDefaultSize ≤
      computeSafeBurnSize x.metadata.podMemoryLimitMb x.metadata.podMemoryUsageMb
  /-- Unless the pre-flight check blocks, the injection can read what it needs. -/
  inject : blockedNodes x tools = [] → InjectReads x tools (approvedArgs x)

end

def burnOfUnknownMemory : DirectInput :=
  { spec := { ns := "prod", scope := "pod", names := ["web"], bladeTarget := "disk"
              bladeAction := "burn" } }

def burnOnCrowdedPod : DirectInput :=
  { burnOfUnknownMemory with
    metadata := { podMemoryLimitMb := some 512, podMemoryUsageMb := some 400 } }

def bareTimeout : DirectInput :=
  { spec := { ns := "prod", scope := "pod", names := ["web"], bladeTarget := "cpu"
              bladeAction := "fullload", paramsFlags := ["timeout"] } }

end ChaosBlade.Nodes.Direct
