/-
Nodes.RecoverVerifier: the loop of the recover graph:
`nodes/_recover_verifier_loop.py` with its model.

A pass first settles Layer 1, the undoing of the fault, and then takes a
step of Layer 2, the look at what is left of it. Which branch of Layer 1
a pass takes depends on the phase, on the number of passes made, and, on
the first pass, on what the messages say about the injection.
-/
import ChaosBlade.Nodes.RecoverLayer1
import ChaosBlade.Nodes.Verifier

namespace ChaosBlade.Nodes

open Py Agent

/-! ## Branches -/

inductive RecoverBranch where
  /-- The loop has run out of passes. -/
  | overrun
  /-- The first pass with an experiment of the host: `blade_destroy`. -/
  | hostDestroy
  /-- The first pass with a `blade_create` whose uid is not known. -/
  | uidMissing
  /-- The first pass with nothing to go by. -/
  | noContext
  /-- The first pass of a recovery by the model. -/
  | startRecovery
  /-- A later pass of it. -/
  | goOnRecovery
  /-- Layer 1 is done: its result is in the cache. -/
  | restore
  deriving DecidableEq

def RecoverBranch.isLayer1 : RecoverBranch → Bool
  | .hostDestroy | .uidMissing | .noContext | .startRecovery | .goOnRecovery => true
  | .overrun | .restore => false

def recoverUid (db : CharDb) (s : AgentState) : Except PyError String :=
  if s.bladeUid ≠ "" then .ok s.bladeUid
  else do return (← extractBladeUidFromMessages db s.messages).getD ""

def firstBranch (uid : String) (s : AgentState) : Except PyError RecoverBranch := do
  let kubectl ← wasKubectlBladeInjectionSuccessful s.messages
  if uid ≠ "" ∧ kubectl = false then return .hostDestroy
  if ← wasBladeCreateAttempted s.messages then return .uidMissing
  -- for an experiment inside a pod a text about its uid is added
  if s.injectContext = "" ∧ ¬ (kubectl = true ∧ uid ≠ "") then return .noContext
  return .startRecovery

def recoverBranch (σ : Setup) (s : AgentState) : Except PyError RecoverBranch := do
  let uid ← recoverUid σ.db s
  if σ.settings.maxRecoverVerifierLoop < s.verifierLoopCount + 1 then return .overrun
  match s.recoverPhase with
  | .layer2Verification => return .restore
  | .layer1Recovery =>
    if s.verifierLoopCount = 0 then firstBranch uid s else return .goOnRecovery

/-! ## Results -/

def unrecoveredResult (s : AgentState) (uid : String) : Json :=
  .obj [("task_id", .str s.taskId), ("skill", .str s.skillName), ("blade_uid", .str uid),
    ("recovered", .bool false)]

def recoverOverrun (σ : Setup) (a : Answer) (s : AgentState) (uid : String) : AgentState :=
  { s.failWith .recoveryVerificationTimeout
      ("max_iterations=" ++ toString σ.settings.maxRecoverVerifierLoop) [] with
    result := unrecoveredResult s uid
    recoverVerification :=
      .obj [("level", .str "partial"),
        ("layer1", layerDict "passed" "Confirmed in earlier iterations"),
        ("layer2", layerDict "skipped" "Max iterations reached, could not confirm recovery"),
        ("baseline_confidence", .str a.baselineConfidence),
        ("warnings", strList
          ["Recover verifier loop exceeded max iterations — fault may still be active"])] }

def layer1Verification (a : Answer) (layer1 : Layer1Result) (layer2Details warning : String) :
    Json :=
  .obj [("level", .str "unrecovered"), ("layer1", layer1ToDict layer1),
    ("layer2", layerDict "skipped" layer2Details),
    ("baseline_confidence", .str a.baselineConfidence),
    ("warnings", strList [warning])]

def failRecovery (a : Answer) (s : AgentState) (uid : String) (layer1 : Layer1Result) :
    AgentState :=
  { s.failWith .recoveryFailed
      ("Layer1=" ++ Layer1Status.value layer1.status ++ ", Layer2=skipped, details=" ++
        cut 200 layer1.details) [] with
    result := unrecoveredResult s uid
    recoverVerification := layer1Verification a layer1 "Layer 1 failed, skipping Layer 2"
      ("Layer 1 recovery verification failed: " ++ layer1.details) }

def recoveryOverrun (σ : Setup) (a : Answer) (s : AgentState) (uid : String) : AgentState :=
  let layer1 : Layer1Result :=
    { status := .error
      details := "Layer 1 recovery execution exceeded max iterations (" ++
        toString σ.settings.maxRecoverLayer1Iterations ++ ")" }
  { s.failWith .recoveryFailed "Layer1=error, Layer2=skipped" [] with
    result := unrecoveredResult s uid
    recoverVerification := layer1Verification a layer1 "Layer 1 exceeded max iterations"
      "Layer 1 recovery execution exceeded max iterations" }

/-! ## Layer 1 -/

/-- What Layer 1 of a pass comes to: a result, with which the pass goes on, or
the state the pass leaves. -/
inductive Layer1Step where
  | proceed (layer1 : Layer1Result)
  | leave (s : AgentState)

def callFailed (a : Answer) : Layer1Result :=
  { status := .error, details := "LLM call failed: " ++ a.callError, rawOutput := a.callError }

def toLayer2 (s : AgentState) : AgentState :=
  { s with recoverPhase := .layer2Verification, recoverLayer1Type := some .llmDriven }

def startRecovery (a : Answer) (s : AgentState) (uid : String) : Option Layer1Step :=
  match a.response with
  | none => some (.proceed (callFailed a))
  | some r =>
    let asked (cache : RecoverLayer1Cache) : AgentState :=
      { s with
        verifierLoopCount := s.verifierLoopCount + 1
        layer1IterationCount := 1
        recoverLayer1Cache := some cache
        messages := s.messages ++ a.contextMessages ++ [.ai r] }
    if r.toolCalls ≠ [] then do
      let kubectl ← (wasKubectlBladeInjectionSuccessful s.messages).toOption
      return .leave (asked (.inProgress (a.recoveryPrompt kubectl)))
    else do
      let layer1 := parseLayer1RecoveryResult (← turnText r)
      let next := asked (.result layer1)
      return .leave (if layer1.isTerminal then failRecovery a next uid layer1 else toLayer2 next)

/-- A later pass of it. One that ends in a failure stores neither the turn nor
the pass. -/
def goOnRecovery (σ : Setup) (a : Answer) (s : AgentState) (uid : String) : Option Layer1Step :=
  let iteration := s.layer1IterationCount + 1
  if σ.settings.maxRecoverLayer1Iterations < iteration then
    some (.leave (recoveryOverrun σ a s uid))
  else match a.response with
    | none => some (.proceed (callFailed a))
    | some r =>
      let asked : AgentState :=
        { s with
          verifierLoopCount := s.verifierLoopCount + 1
          layer1IterationCount := iteration
          messages := s.messages ++ [.ai r] }
      if r.toolCalls ≠ [] then some (.leave asked)
      else do
        let layer1 := parseLayer1RecoveryResult (← turnText r)
        return .leave (if layer1.isTerminal then failRecovery a s uid layer1
          else { toLayer2 asked with recoverLayer1Cache := some (.result layer1) })

/-- The result in the cache. That of a recovery still going on does not validate
and raises. -/
def restoreLayer1 : Option RecoverLayer1Cache → Option Layer1Result
  | none => some {}
  | some (.inProgress _) => none
  | some (.result r) => some { status := r.status, details := r.details, rawOutput := r.rawOutput }

def recoverLayer1 (σ : Setup) (a : Answer) (s : AgentState) (uid : String) :
    RecoverBranch → Option Layer1Step
  | .overrun => some (.leave (recoverOverrun σ a s uid))
  | .hostDestroy => some (.proceed (runRecoverLayer1 a.destroy a.status))
  | .uidMissing => some (.proceed
      { status := .failed
        details := "blade_create was called during injection but no UID available for recovery" })
  | .noContext => some (.proceed
      { status := .skipped, details := "Non-ChaosBlade fault: no inject context available" })
  | .startRecovery => startRecovery a s uid
  | .goOnRecovery => goOnRecovery σ a s uid
  | .restore => (restoreLayer1 s.recoverLayer1Cache).map .proceed

/-! ## Layer 2 -/

/-- A step of Layer 2. Only the first one adds the context of the verification. -/
def recoverLayer2 (a : Answer) (s : AgentState) (layer1 : Layer1Result) (r : AIMessage) :
    AgentState :=
  { s with
    verifierLoopCount := s.verifierLoopCount + 1
    recoverLayer1Cache := some (.result layer1)
    layer2ContextAdded := true
    recoverLayer2First := !s.layer2ContextAdded
    messages := a.compact s.messages ++ (if s.layer2ContextAdded then [] else a.contextMessages) ++
      a.baselineMessages ++ [.ai r] }

def recoverVerifierLoop (σ : Setup) (a : Answer) (s : AgentState) : Option AgentState := do
  let uid ← (recoverUid σ.db s).toOption
  let branch ← (recoverBranch σ s).toOption
  match ← recoverLayer1 σ a s uid branch with
  | .leave s' => return s'
  | .proceed layer1 =>
    if layer1.isTerminal then return failRecovery a s uid layer1
    return recoverLayer2 a s layer1 (← a.response)

/-! ## What a pass comes to -/

section

open List Option

variable {σ : Setup} {a : Answer} {s s' : AgentState} {uid : String}

/-- Within its limit a pass fails in Layer 1, takes a turn of the recovery by the model,
or takes a step of Layer 2. -/
inductive PassStep (σ : Setup) (a : Answer) (s : AgentState) : AgentState → Prop
  | exceeded (uid : String) : PassStep σ a s (recoveryOverrun σ a s uid)
  | fails {t : AgentState} (uid : String) (layer1 : Layer1Result)
      (hgrows : s.messages <+: t.messages) : PassStep σ a s (failRecovery a t uid layer1)
  | recovers {r : AIMessage} {iteration : Nat} {cache : Option RecoverLayer1Cache}
      {phase : RecoverPhase} {type : Option RecoverLayer1Type} {before : List Message}
      (hb : recoverBranch σ s = .ok .startRecovery ∧ iteration = 1 ∨
        recoverBranch σ s = .ok .goOnRecovery ∧ iteration = s.layer1IterationCount + 1 ∧
          s.layer1IterationCount < σ.settings.maxRecoverLayer1Iterations)
      (hr : a.response = some r)
      (hsummary : r.toolCalls = [] → ∃ text, turnText r = some text ∧
        (parseLayer1RecoveryResult text).isTerminal = false)
      (hgrows : s.messages <+: before) :
      PassStep σ a s { s with
        verifierLoopCount := s.verifierLoopCount + 1
        layer1IterationCount := iteration
        recoverLayer1Cache := cache
        recoverPhase := phase
        recoverLayer1Type := type
        messages := before ++ [.ai r] }
  | verifies {b : RecoverBranch} {uid : String} {layer1 : Layer1Result} {r : AIMessage}
      (hb : recoverBranch σ s = .ok b) (hlayer1 : recoverLayer1 σ a s uid b =
          some (.proceed layer1))
      (hgoes : layer1.isTerminal = false) (hr : a.response = some r) :
      PassStep σ a s (recoverLayer2 a s layer1 r)

theorem startRecovery_step (hb : recoverBranch σ s = .ok .startRecovery)
    (h : startRecovery a s uid = some (.leave s')) : PassStep σ a s s' := by
  unfold startRecovery at h
  split at h
  case h_1 => cases h
  case h_2 r hr =>
    split at h
    · next hcalls =>
      obtain ⟨kubectl, -, h⟩ := bind_eq_some_iff.mp h
      cases h
      exact .recovers (.inl ⟨hb, rfl⟩) hr (fun hnone => absurd hnone hcalls) (prefix_append _ _)
    · obtain ⟨text, htext, h⟩ := bind_eq_some_iff.mp h
      obtain rfl := Layer1Step.leave.inj (some.inj h)
      split
      · exact .fails uid _ ((prefix_append _ _).trans (prefix_append _ _))
      · next hterminal =>
        exact .recovers (.inl ⟨hb, rfl⟩) hr (fun _ => ⟨text, htext, by simpa using hterminal⟩)
          (prefix_append _ _)

theorem goOnRecovery_step (hb : recoverBranch σ s = .ok .goOnRecovery)
    (h : goOnRecovery σ a s uid = some (.leave s')) : PassStep σ a s s' := by
  unfold goOnRecovery at h
  dsimp only at h
  split at h
  · cases h
    exact .exceeded uid
  · next hbudget =>
    have hleft : s.layer1IterationCount < σ.settings.maxRecoverLayer1Iterations := by omega
    split at h
    case h_1 => cases h
    case h_2 r hr =>
      split at h
      · next hcalls =>
        cases h
        exact .recovers (.inr ⟨hb, rfl, hleft⟩) hr (fun hnone => absurd hnone hcalls) prefix_rfl
      · obtain ⟨text, htext, h⟩ := bind_eq_some_iff.mp h
        obtain rfl := Layer1Step.leave.inj (some.inj h)
        split
        · exact .fails uid _ prefix_rfl
        · next hterminal =>
          exact .recovers (.inr ⟨hb, rfl, hleft⟩) hr
            (fun _ => ⟨text, htext, by simpa using hterminal⟩) prefix_rfl

theorem recoverBranch_overrun_iff {b : RecoverBranch} (h : recoverBranch σ s = .ok b) :
    b = .overrun ↔ σ.settings.maxRecoverVerifierLoop ≤ s.verifierLoopCount := by
  obtain ⟨uid, -, h⟩ := bind_eq_ok.mp h
  split at h
  · next hlimit =>
    cases h
    exact iff_of_true rfl (by omega)
  · next hlimit =>
    refine iff_of_false ?_ (by omega)
    rintro rfl
    split at h
    · cases h
    · split at h
      · obtain ⟨kubectl, -, h⟩ := bind_eq_ok.mp h
        split at h
        · cases h
        · obtain ⟨attempted, -, h⟩ := bind_eq_ok.mp h
          split_ifs at h <;> cases h
      · cases h

theorem recoverVerifierLoop_step (h : recoverVerifierLoop σ a s = some s') :
    (σ.settings.maxRecoverVerifierLoop ≤ s.verifierLoopCount ∧ ∃ uid,
        s' = recoverOverrun σ a s uid) ∨
      (s.verifierLoopCount < σ.settings.maxRecoverVerifierLoop ∧ PassStep σ a s s') := by
  obtain ⟨uid, -, h⟩ := bind_eq_some_iff.mp h
  obtain ⟨b, hb, h⟩ := bind_eq_some_iff.mp h
  obtain ⟨step, hstep, h⟩ := bind_eq_some_iff.mp h
  have hb := toOption_eq_some.mp hb
  by_cases hover : b = .overrun
  · subst hover
    cases hstep
    cases h
    exact .inl ⟨(recoverBranch_overrun_iff hb).mp rfl, uid, rfl⟩
  have hlimit := mt (recoverBranch_overrun_iff hb).mpr hover
  refine .inr ⟨by omega, ?_⟩
  cases step with
  | leave s₁ =>
    cases h
    cases b with
    | startRecovery => exact startRecovery_step hb hstep
    | goOnRecovery => exact goOnRecovery_step hb hstep
    | overrun => exact absurd rfl hover
    | hostDestroy | uidMissing | noContext => cases hstep
    | restore =>
      obtain ⟨r, -, hstep⟩ := map_eq_some_iff.mp hstep
      cases hstep
  | proceed layer1 =>
    simp only at h
    split at h
    case isTrue =>
      cases h
      exact .fails uid layer1 prefix_rfl
    case isFalse hterminal =>
      obtain ⟨r, hr, h⟩ := bind_eq_some_iff.mp h
      cases h
      exact .verifies hb hstep (by simpa using hterminal) hr

end

/-! ## Without a model -/

/-- Layer 1 of a recovery without a model: only an experiment of the host can be
undone. -/
def plainLayer1 (a : Answer) (uid : String) (kubectl : Bool) : Layer1Result :=
  if uid = "" then
    { status := .skipped
      details := "Non-ChaosBlade fault (no blade_uid), Layer 1 recovery not applicable" }
  else if kubectl then
    { status := .skipped
      details := "ChaosBlade experiment (uid=" ++ uid ++ ") was created via kubectl exec, " ++
        "host blade_destroy cannot destroy it — LLM-based recovery required" }
  else runRecoverLayer1 a.destroy a.status

def plainWarnings (uid : String) (kubectl passed : Bool) : List String :=
  if kubectl then
    ["ChaosBlade experiment (uid=" ++ uid ++ ") created via kubectl exec cannot be " ++
      "destroyed from host (blade_destroy). Use LLM-based recovery " ++
      "(blade-ai recover with LLM) to destroy via kubectl exec: " ++
      "kubectl exec <pod> -n chaosblade -- blade destroy " ++ uid]
  else if uid = "" then
    ["Non-ChaosBlade fault: Layer 1 not applicable, Layer 2 skipped (no LLM). " ++
      "Recovery could NOT be verified — the fault may still be active."]
  else if passed then
    ["Layer 2 (fault-specific) recovery verification was skipped. " ++
      "Only blade_destroy + blade_status verification was performed."]
  else []

/-- The node `recover_verifier`, which a graph without a model has; `none` if it
raises. -/
def recoverVerifier (db : CharDb) (a : Answer) (s : AgentState) : Option AgentState := do
  let uid ← (recoverUid db s).toOption
  let kubectl ← (wasKubectlBladeInjectionSuccessful s.messages).toOption
  let layer1 := plainLayer1 a uid kubectl
  let recovered := !kubectl && uid ≠ "" && layer1.status == .passed
  let next := if recovered then s else
    s.failWith .recoveryFailed
      ("Layer1=" ++ Layer1Status.value layer1.status ++ ", Layer2=skipped, details=" ++
        cut 200 layer1.details) []
  return { next with
    result := .obj [("task_id", .str s.taskId), ("skill", .str s.skillName),
      ("blade_uid", .str uid), ("recovered", .bool recovered)]
    recoverVerification :=
      .obj [("level", .str (if recovered then "recovered" else "unrecovered")),
        ("layer1", layer1ToDict layer1),
        ("layer2", layerDict "skipped" "No LLM available for specific verification"),
        ("baseline_confidence", .str a.baselineConfidence),
        ("warnings", strList (plainWarnings uid kubectl (layer1.status == .passed)))] }

end ChaosBlade.Nodes
