/-
Agent.VerifyGraph: the verification phase of the inject graph:
the loop of the verifier, its tools and its verdict, up to `se_detect`.

The nodes are those of `Agent.InjectGraph`, but the verdict is read by the
code (`Nodes.VerifierFinalize`), so a visit can raise on what the model
has written. A run of the phase is a stretch of a run of the inject graph,
in a world that reads what the code reads.
-/
import ChaosBlade.Agent.InjectGraph
import ChaosBlade.Nodes.VerifierFinalize

namespace ChaosBlade.Agent

open Py Nodes ChaosBlade.Graph Option

inductive VerifyNode where
  | verifierLoop
  | verifierTools
  | finalizeVerification
  deriving DecidableEq

def VerifyNode.inject : VerifyNode → InjectNode
  | .verifierLoop => .verifierLoop
  | .verifierTools => .verifierTools
  | .finalizeVerification => .finalizeVerification

def InjectNode.verify? : InjectNode → Option VerifyNode
  | .verifierLoop => some .verifierLoop
  | .verifierTools => some .verifierTools
  | .finalizeVerification => some .finalizeVerification
  | _ => none

def verifyAct (σ : Setup) : VerifyNode → Answer × Findings → AgentState → Option AgentState
  | .finalizeVerification, a, s => finalizeVerify σ a.1 a.2 s
  | n, a, s => injectAct σ n.inject a.1 s

def verifyEdge (σ : Setup) (n : VerifyNode) (a : Answer × Findings) (s : AgentState) :
    Option VerifyNode :=
  (injectEdge σ n.inject a.1 s).bind InjectNode.verify?

def verifyLoopEdge (σ : Setup) (route : VerifierRoute) : Option VerifyNode :=
  (verifierEdge σ route).verify?

def verifyGraph (σ : Setup) : StateGraph VerifyNode AgentState (Answer × Findings) where
  act := verifyAct σ
  edge := verifyEdge σ

def verifyStart (s : AgentState) : Config VerifyNode AgentState := ⟨some .verifierLoop, s⟩

/-! ## The phase in the inject graph -/

def injectConfig (c : Config VerifyNode AgentState) : Config InjectNode AgentState :=
  ⟨some (c.node.elim .seDetect VerifyNode.inject), c.state⟩

def answerFor (σ : Setup) (a : Answer × Findings) (s : AgentState) : Answer :=
  match readVerification σ.db a.2 s with
  | .ok reading => { a.1 with finalReading := fun _ _ => reading }
  | .error _ => a.1

variable {σ : Setup} {a : Answer × Findings} {s s' : AgentState} {n : VerifyNode}

theorem answerFor_eq (σ : Setup) (a : Answer × Findings) (s : AgentState) :
    ∃ f, answerFor σ a s = { a.1 with finalReading := f } := by
  unfold answerFor
  split
  · exact ⟨_, rfl⟩
  · exact ⟨a.1.finalReading, rfl⟩

theorem injectAct_of_verifyAct (h : verifyAct σ n a s = some s') :
    injectAct σ n.inject (answerFor σ a s) s = some s' := by
  cases n with
  | verifierLoop | verifierTools =>
    obtain ⟨f, hf⟩ := answerFor_eq σ a s
    rw [hf]
    exact h
  | finalizeVerification =>
    obtain ⟨reading, hreading, h⟩ := bind_eq_some_iff.mp h
    have hfor : answerFor σ a s = { a.1 with finalReading := fun _ _ => reading } := by
      unfold answerFor
      rw [toOption_eq_some.mp hreading]
    rw [hfor]
    exact h

/-- An edge of the phase leads to one of its nodes or to `se_detect`. -/
theorem injectEdge_of_verifyEdge {b : Answer} (hnow : b.nowRoute = a.1.nowRoute) :
    injectEdge σ n.inject b s = some ((verifyEdge σ n a s).elim .seDetect VerifyNode.inject) := by
  unfold verifyEdge
  cases n with
  | verifierLoop =>
    simp only [VerifyNode.inject, injectEdge, hnow, bind_some, verifierEdge]
    cases shouldContinueVerifier σ.settings a.1.nowRoute s <;> cases σ.verifierTools <;> rfl
  | verifierTools =>
    simp only [VerifyNode.inject, injectEdge, bind_some]
    cases routeAfterVerifierTools s <;> rfl
  | finalizeVerification =>
    simp only [VerifyNode.inject, injectEdge, bind_some]
    cases routeAfterFinalize s <;> rfl

theorem injectStep_of_verifyStep {c c' : Config VerifyNode AgentState}
    (h : (verifyGraph σ).step a c = some c') :
    (injectGraph σ).step (answerFor σ a c.state) (injectConfig c) = some (injectConfig c') := by
  obtain ⟨n, s, hn, hact, rfl⟩ := StateGraph.step_eq_some.mp h
  obtain ⟨node, t⟩ := c
  obtain rfl : node = some n := hn
  refine (StateGraph.step_of_act (injectAct_of_verifyAct hact)).trans ?_
  obtain ⟨f, hf⟩ := answerFor_eq σ a t
  have hedge : injectEdge σ n.inject (answerFor σ a t) s =
      some ((verifyEdge σ n a s).elim .seDetect VerifyNode.inject) :=
    injectEdge_of_verifyEdge (by rw [hf])
  exact congrArg some (congrArg (Config.mk · s) hedge)

theorem injectRun_of_verifyRun (w : Nat → Answer × Findings) (c : Config VerifyNode AgentState) :
    ∃ w', ∀ k d, (verifyGraph σ).run w c k = some d →
      (injectGraph σ).run w' (injectConfig c) k = some (injectConfig d) := by
  refine ⟨fun k => ((verifyGraph σ).run w c k).elim (w k).1 fun d => answerFor σ (w k) d.state, ?_⟩
  intro k
  induction k with
  | zero =>
    intro d h
    cases h
    rfl
  | succ k ih =>
    intro d h
    obtain ⟨d₀, h₀, hstep⟩ := StateGraph.run_succ_eq_some.mp h
    rw [StateGraph.run_succ, ih d₀ h₀, bind_some, h₀]
    exact injectStep_of_verifyStep hstep

end ChaosBlade.Agent
