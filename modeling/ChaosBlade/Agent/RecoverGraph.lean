/-
Agent.RecoverGraph: `build_recover_graph` of `agent/graph.py`:
three nodes around the loop of the recover verifier.

`RecoverPass` says once what a pass of the loop can come to: a verdict, a
turn of the recovery, or a step of Layer 2. The other two nodes add
messages or write the verdict, and leave the phase of the recovery alone.
-/
import ChaosBlade.Graph.Run
import ChaosBlade.Nodes.RecoverFinalize

namespace ChaosBlade.Agent

open Py Nodes ChaosBlade.Graph List Option

inductive RecoverNode where
  | recoverVerifierLoop
  | recoverVerifierTools
  | finalizeRecoverVerification
  deriving DecidableEq

def recoverAct (σ : Setup) : RecoverNode → Answer → AgentState → Option AgentState
  | .recoverVerifierLoop, a, s => recoverVerifierLoop σ a s
  | .recoverVerifierTools, a, s => toolNode a s
  | .finalizeRecoverVerification, a, s => finalizeRecoverVerification σ a s

/-- The edge after the loop; a graph without tools goes straight to the verdict. -/
def recoverLoopEdge (σ : Setup) : VerifierRoute → Option RecoverNode
  | .goOn => if σ.verifierTools then some .recoverVerifierTools
      else some .finalizeRecoverVerification
  | .finalize => some .finalizeRecoverVerification
  | .done => none

def recoverEdge (σ : Setup) : RecoverNode → Answer → AgentState → Option RecoverNode
  | .recoverVerifierLoop, a, s =>
    recoverLoopEdge σ (shouldContinueRecoverVerifier σ.settings a.nowRoute s)
  | .recoverVerifierTools, _, s => match routeAfterRecoverVerifierTools s with
    | .loop => some .recoverVerifierLoop
    | .finalize => some .finalizeRecoverVerification
  | .finalizeRecoverVerification, _, s => match routeAfterRecoverFinalize s with
    | .loop => some .recoverVerifierLoop
    | .done => none

def recoverGraph (σ : Setup) : StateGraph RecoverNode AgentState Answer where
  act := recoverAct σ
  edge := recoverEdge σ

def recoverStart (s : AgentState) : Config RecoverNode AgentState := ⟨some .recoverVerifierLoop, s⟩

/-! ## Branches -/

variable {σ : Setup} {a : Answer} {s s' : AgentState} {b : RecoverBranch}

theorem recoverBranch_eq_ok : recoverBranch σ s = .ok b ↔ ∃ uid, recoverUid σ.db s = .ok uid ∧
      (if σ.settings.maxRecoverVerifierLoop < s.verifierLoopCount + 1 then .ok .overrun
        else match s.recoverPhase with
          | .layer2Verification => .ok .restore
          | .layer1Recovery =>
            if s.verifierLoopCount = 0 then firstBranch uid s else .ok .goOnRecovery) =
        (.ok b : Except PyError RecoverBranch) :=
  bind_eq_ok

/-- The choices of the first pass and what each is made on. -/
inductive FirstChoice (uid : String) (s : AgentState) : RecoverBranch → Prop
  | hostDestroy (known : uid ≠ "")
      (method : wasKubectlBladeInjectionSuccessful s.messages = .ok false) :
      FirstChoice uid s .hostDestroy
  | uidMissing (unknown : uid = "") (attempted : wasBladeCreateAttempted s.messages = .ok true) :
      FirstChoice uid s .uidMissing
  | noContext (unknown : uid = "") (attempted : wasBladeCreateAttempted s.messages = .ok false)
      (silent : s.injectContext = "") : FirstChoice uid s .noContext
  | startRecovery (attempted : wasBladeCreateAttempted s.messages = .ok false)
      (told : uid = "" ∧ s.injectContext ≠ "" ∨
        uid ≠ "" ∧ wasKubectlBladeInjectionSuccessful s.messages = .ok true) :
      FirstChoice uid s .startRecovery

theorem wasBladeCreateAttempted_of_kubectl {messages : List Message}
    (h : wasKubectlBladeInjectionSuccessful messages = .ok true) :
    wasBladeCreateAttempted messages = .ok false := by
  simp only [wasBladeCreateAttempted, h]
  rfl

theorem kubectl_of_wasBladeCreateAttempted {messages : List Message} {attempted : Bool}
    (h : wasBladeCreateAttempted messages = .ok attempted) :
    ∃ kubectl, wasKubectlBladeInjectionSuccessful messages = .ok kubectl := by
  obtain ⟨kubectl, hk, -⟩ := bind_eq_ok.mp h
  exact ⟨kubectl, hk⟩

variable {uid : String}

theorem firstBranch_choice (h : firstBranch uid s = .ok b) : FirstChoice uid s b := by
  obtain ⟨kubectl, hk, h⟩ := bind_eq_ok.mp h
  split at h
  case isTrue hhost =>
    obtain ⟨huid, rfl⟩ := hhost
    cases h
    exact .hostDestroy huid hk
  case isFalse hhost =>
    obtain ⟨attempted, hatt, h⟩ := bind_eq_ok.mp h
    cases attempted with
    | true =>
      cases h
      refine .uidMissing ?_ hatt
      by_contra huid
      cases kubectl with
      | false => exact hhost ⟨huid, rfl⟩
      | true => cases hatt.symm.trans (wasBladeCreateAttempted_of_kubectl hk)
    | false =>
      simp only [Bool.false_eq_true, if_false] at h
      split at h
      case isTrue hctx =>
        cases h
        refine .noContext ?_ hatt hctx.1
        by_contra huid
        cases kubectl with
        | false => exact hhost ⟨huid, rfl⟩
        | true => exact hctx.2 ⟨rfl, huid⟩
      case isFalse hctx =>
        cases h
        refine .startRecovery hatt ?_
        by_cases huid : uid = ""
        · exact .inl ⟨huid, fun hsilent => hctx ⟨hsilent, fun h => h.2 huid⟩⟩
        · cases kubectl with
          | false => exact absurd ⟨huid, rfl⟩ hhost
          | true => exact .inr ⟨huid, hk⟩

attribute [local simp] Except.pure Except.bind

theorem FirstChoice.firstBranch (h : FirstChoice uid s b) : firstBranch uid s = .ok b := by
  unfold Nodes.firstBranch
  cases h with
  | hostDestroy huid hk => simp [hk, huid, bind, pure]
  | uidMissing huid hatt =>
    obtain ⟨kubectl, hk⟩ := kubectl_of_wasBladeCreateAttempted hatt
    simp [hk, hatt, huid, bind, pure]
  | noContext huid hatt hsilent =>
    obtain ⟨kubectl, hk⟩ := kubectl_of_wasBladeCreateAttempted hatt
    simp [hk, hatt, huid, hsilent, bind, pure]
  | startRecovery hatt htold =>
    rcases htold with ⟨huid, hctx⟩ | ⟨huid, hk⟩
    · obtain ⟨kubectl, hk⟩ := kubectl_of_wasBladeCreateAttempted hatt
      simp [hk, hatt, huid, hctx, bind, pure]
    · simp [hk, hatt, huid, bind, pure]

theorem FirstChoice.isLayer1 (h : FirstChoice uid s b) : b.isLayer1 = true := by cases h <;> rfl

theorem exists_firstChoice {attempted : Bool} (uid : String)
    (hatt : wasBladeCreateAttempted s.messages = .ok attempted) : ∃ b, FirstChoice uid s b := by
  obtain ⟨kubectl, hk⟩ := kubectl_of_wasBladeCreateAttempted hatt
  by_cases huid : uid = ""
  · cases attempted with
    | true => exact ⟨_, .uidMissing huid hatt⟩
    | false =>
      by_cases hctx : s.injectContext = ""
      · exact ⟨_, .noContext huid hatt hctx⟩
      · exact ⟨_, .startRecovery hatt (.inl ⟨huid, hctx⟩)⟩
  · cases kubectl with
    | false => exact ⟨_, .hostDestroy huid hk⟩
    | true => exact ⟨_, .startRecovery (wasBladeCreateAttempted_of_kubectl hk) (.inr ⟨huid, hk⟩)⟩

theorem recoverBranch_first (hcount : s.verifierLoopCount = 0)
    (hphase : s.recoverPhase = .layer1Recovery) (hmax : 0 < σ.settings.maxRecoverVerifierLoop) :
    recoverBranch σ s = .ok b ↔ ∃ uid, recoverUid σ.db s = .ok uid ∧ FirstChoice uid s b := by
  rw [recoverBranch_eq_ok]
  have hlimit : ¬ σ.settings.maxRecoverVerifierLoop < s.verifierLoopCount + 1 := by omega
  simp only [if_neg hlimit, hphase, if_pos hcount]
  constructor
  · rintro ⟨uid, huid, h⟩
    exact ⟨uid, huid, firstBranch_choice h⟩
  · rintro ⟨uid, huid, h⟩
    exact ⟨uid, huid, h.firstBranch⟩

theorem phase_of_isLayer1 (h : recoverBranch σ s = .ok b) (hb : b.isLayer1 = true) :
    s.recoverPhase = .layer1Recovery ∧ s.verifierLoopCount < σ.settings.maxRecoverVerifierLoop := by
  obtain ⟨uid, -, h⟩ := recoverBranch_eq_ok.mp h
  split at h
  case isTrue => cases h; cases hb
  case isFalse hlimit =>
    refine ⟨?_, by omega⟩
    cases hphase : s.recoverPhase with
    | layer1Recovery => rfl
    | layer2Verification =>
      rw [hphase] at h
      cases h
      cases hb

theorem recoverBranch_of_later (hphase : s.recoverPhase = .layer1Recovery)
    (hcount : s.verifierLoopCount ≠ 0) (h : recoverBranch σ s = .ok b) :
    b = .overrun ∨ b = .goOnRecovery := by
  obtain ⟨uid, -, hb⟩ := recoverBranch_eq_ok.mp h
  rw [hphase] at hb
  split at hb <;> cases hb
  · exact .inl rfl
  · exact .inr rfl

theorem phase_of_restore (h : recoverBranch σ s = .ok .restore) :
    s.recoverPhase = .layer2Verification := by
  obtain ⟨uid, -, h⟩ := recoverBranch_eq_ok.mp h
  cases hphase : s.recoverPhase with
  | layer2Verification => rfl
  | layer1Recovery =>
    rw [hphase] at h
    dsimp only at h
    split at h
    · cases h
    · split at h
      · cases firstBranch_choice h
      · cases h

/-! ## Passes -/

/-- The pass takes a step of Layer 2, with this result of Layer 1 and this turn. It
is these passes that write `layer2_context_added`. -/
structure TakesLayer2 (σ : Setup) (a : Answer) (s : AgentState) (b : RecoverBranch)
    (layer1 : Layer1Result) (r : AIMessage) : Prop where
  branch : recoverBranch σ s = .ok b
  result : ∃ uid, recoverLayer1 σ a s uid b = some (.proceed layer1)
  goesOn : layer1.isTerminal = false
  response : a.response = some r

theorem TakesLayer2.reached {layer1 : Layer1Result} {r : AIMessage}
    (h : TakesLayer2 σ a s b layer1 r) :
    b = .hostDestroy ∨ b = .noContext ∨ s.recoverPhase = .layer2Verification := by
  obtain ⟨uid, hresult⟩ := h.result
  cases b with
  | hostDestroy => exact .inl rfl
  | noContext => exact .inr (.inl rfl)
  | restore => exact .inr (.inr (phase_of_restore h.branch))
  | overrun => cases hresult
  | uidMissing =>
    cases hresult
    cases h.goesOn
  | startRecovery =>
    -- with a turn of the model the pass ends in Layer 1
    simp only [recoverLayer1, startRecovery, h.response] at hresult
    split at hresult
    · obtain ⟨_, -, hleave⟩ := bind_eq_some_iff.mp hresult
      cases hleave
    · obtain ⟨_, -, hleave⟩ := bind_eq_some_iff.mp hresult
      cases hleave
  | goOnRecovery =>
    simp only [recoverLayer1, goOnRecovery, h.response] at hresult
    split at hresult
    · cases hresult
    · split at hresult
      · cases hresult
      · obtain ⟨_, -, hleave⟩ := bind_eq_some_iff.mp hresult
        cases hleave

inductive RecoverPass (σ : Setup) (a : Answer) (s : AgentState) : AgentState → Prop
  /-- A verdict: the recovery has failed. -/
  | fails {next : AgentState} (verdict : next.recoverVerification.truthy = true)
      (messages : s.messages <+: next.messages) : RecoverPass σ a s next
  /-- A turn of the recovery by the model. -/
  | recovers {next : AgentState}
      (branch : recoverBranch σ s = .ok .startRecovery ∨ recoverBranch σ s = .ok .goOnRecovery)
      (count : next.verifierLoopCount = s.verifierLoopCount + 1)
      (context : next.layer2ContextAdded = s.layer2ContextAdded)
      (messages : s.messages <+: next.messages)
      (first : next.recoverLayer2First = s.recoverLayer2First) : RecoverPass σ a s next
  /-- A step of Layer 2. -/
  | verifies {branch : RecoverBranch} {layer1 : Layer1Result} {r : AIMessage}
      (h : TakesLayer2 σ a s branch layer1 r) :
      RecoverPass σ a s (recoverLayer2 a s layer1 r)

theorem recoverVerifierLoop_pass (h : recoverVerifierLoop σ a s = some s') :
    RecoverPass σ a s s' := by
  rcases recoverVerifierLoop_step h with ⟨-, uid, rfl⟩ | ⟨-, h⟩
  · exact .fails rfl prefix_rfl
  cases h with
  | exceeded uid => exact .fails rfl prefix_rfl
  | fails uid layer1 hgrows => exact .fails rfl hgrows
  | recovers hb hr hsummary hgrows =>
    exact .recovers (hb.imp And.left And.left) rfl rfl (hgrows.trans (prefix_append _ _)) rfl
  | verifies hb hlayer1 hgoes hr => exact .verifies ⟨hb, ⟨_, hlayer1⟩, hgoes, hr⟩

theorem recoverVerifierLoop_of_leave (huid : recoverUid σ.db s = .ok uid)
    (hb : recoverBranch σ s = .ok b) (hstep : recoverLayer1 σ a s uid b = some (.leave s')) :
    recoverVerifierLoop σ a s = some s' := by
  simp [recoverVerifierLoop, huid, hb, hstep, Except.toOption]

theorem recoverVerifierLoop_of_proceed {layer1 : Layer1Result} {r : AIMessage}
    (huid : recoverUid σ.db s = .ok uid) (hb : recoverBranch σ s = .ok b)
    (hstep : recoverLayer1 σ a s uid b = some (.proceed layer1))
    (hgoes : layer1.isTerminal = false) (hr : a.response = some r) :
    recoverVerifierLoop σ a s = some (recoverLayer2 a s layer1 r) := by
  simp [recoverVerifierLoop, huid, hb, hstep, hgoes, hr, Except.toOption]

theorem phase_of_recovers
    (h : recoverBranch σ s = .ok .startRecovery ∨ recoverBranch σ s = .ok .goOnRecovery) :
    s.recoverPhase = .layer1Recovery := by
  rcases h with h | h
  · exact (phase_of_isLayer1 h rfl).1
  · exact (phase_of_isLayer1 h rfl).1

/-! ## The other nodes -/

/-- A visit that does not move the recovery on: it only adds messages. -/
structure StaysPut (s s' : AgentState) : Prop where
  phase : s'.recoverPhase = s.recoverPhase
  count : s'.verifierLoopCount = s.verifierLoopCount
  context : s'.layer2ContextAdded = s.layer2ContextAdded
  messages : s.messages <+: s'.messages
  first : s'.recoverLayer2First = s.recoverLayer2First

theorem StaysPut.of_append (added : List Message) :
    StaysPut s { s with messages := s.messages ++ added } :=
  ⟨rfl, rfl, rfl, prefix_append _ _, rfl⟩

theorem toolNode_staysPut (h : toolNode a s = some s') : StaysPut s s' := by
  obtain ⟨turn, -, h⟩ := bind_eq_some_iff.mp h
  obtain ⟨results, -, h⟩ := bind_eq_some_iff.mp h
  cases h
  exact .of_append results

theorem writeVerdict_staysPut (layer1 : Layer1Result) (layer2 level : Json)
    (fs : List (String × Json)) : StaysPut s (writeVerdict s layer1 layer2 level fs) := by
  unfold writeVerdict
  split <;> exact ⟨rfl, rfl, rfl, prefix_rfl, rfl⟩

theorem finalizeRecoverVerification_staysPut (h : finalizeRecoverVerification σ a s = some s') :
    StaysPut s s' := by
  obtain ⟨layer1, -, h⟩ := bind_eq_some_iff.mp h
  obtain ⟨verdict, -, h⟩ := bind_eq_some_iff.mp h
  split at h
  · cases h
    exact .of_append _
  · obtain ⟨fs, -, h⟩ := bind_eq_some_iff.mp h
    obtain ⟨layer2, -, h⟩ := bind_eq_some_iff.mp h
    split at h
    · cases h
      exact .of_append _
    · obtain ⟨level, -, h⟩ := bind_eq_some_iff.mp h
      cases h
      exact writeVerdict_staysPut _ _ _ _

theorem recoverAct_staysPut {n : RecoverNode} (hn : n ≠ .recoverVerifierLoop)
    (h : recoverAct σ n a s = some s') : StaysPut s s' := by
  cases n with
  | recoverVerifierLoop => exact absurd rfl hn
  | recoverVerifierTools => exact toolNode_staysPut h
  | finalizeRecoverVerification => exact finalizeRecoverVerification_staysPut h

theorem recoverEdge_of_verdict (h : s.recoverVerification.truthy = true) :
    recoverEdge σ .recoverVerifierLoop a s = none := by
  have : shouldContinueRecoverVerifier σ.settings a.nowRoute s = .done := if_pos h
  simp [recoverEdge, this, recoverLoopEdge]

end ChaosBlade.Agent
