/-
Agent.InjectGraph: `build_inject_graph` of `agent/graph.py`:
the nodes, the state each visit leaves, and the edges.

`baseline_capture` and `se_snapshot` write fields that no modelled node or
router reads; here they leave the state as it is. A graph without
clarification tools has no tool nodes for the dialogue, and one without
verifier tools goes from the verifier straight to its verdict.
-/
import ChaosBlade.Graph.Run
import ChaosBlade.Nodes.Planning
import ChaosBlade.Nodes.SafetyGate
import ChaosBlade.Nodes.Verifier
import ChaosBlade.Nodes.Conversation

namespace ChaosBlade.Agent

open Nodes ChaosBlade.Graph

variable {σ : Setup} {s : AgentState}

inductive InjectNode where
  | loadMemory
  | intentClarification
  | clarificationTools
  | planBuilder
  | planBuilderTools
  | intentConfirm
  | directSetup
  | agentLoop
  | phase1Screener
  | phase1Tools
  | planChangeConfirm
  | extractPlanningMetadata
  | safetyCheck
  | confirmationGate
  | baselineCapture
  | seSnapshot
  | executeLoop
  | toolScreener
  | phase2Tools
  | directExecute
  | verifierLoop
  | verifierTools
  | finalizeVerification
  | seDetect
  | saveMemory
  | recoverHandler
  | reject
  deriving DecidableEq

def injectAct (σ : Setup) : InjectNode → Answer → AgentState → Option AgentState
  | .loadMemory, _, s => some (loadMemoryNode s)
  | .intentClarification, a, s => some (intentClarification σ a s)
  | .clarificationTools, a, s => toolNode a s
  | .planBuilder, a, s => planBuilder σ a s
  | .planBuilderTools, a, s => toolNode a s
  | .intentConfirm, a, s => some (intentConfirm a s)
  | .directSetup, a, s => some (directSetup a s)
  | .agentLoop, a, s => agentLoop σ a s
  | .phase1Screener, _, s => some (phase1ScreenerNode σ s)
  | .phase1Tools, a, s => toolNode a s
  | .planChangeConfirm, a, s => some (planChangeConfirm a s)
  | .extractPlanningMetadata, a, s => extractPlanningMetadata a s
  | .safetyCheck, a, s => safetyCheck σ a s
  | .confirmationGate, a, s => confirmationGate a s
  | .baselineCapture, _, s => some s
  | .seSnapshot, _, s => some s
  | .executeLoop, a, s => executeLoop σ a s
  | .toolScreener, a, s => toolScreenerNode σ a s
  | .phase2Tools, a, s => toolNode a s
  | .directExecute, a, s => directExecute σ a s
  | .verifierLoop, a, s => verifierLoop σ a s
  | .verifierTools, a, s => toolNode a s
  | .finalizeVerification, a, s => some (finalizeVerification σ a s)
  | .seDetect, a, s => some (seDetect a s)
  | .saveMemory, a, s => some (saveMemory a s)
  | .recoverHandler, a, s => some (recoverHandler a s)
  | .reject, _, s => some (reject s)

/-! ## Edges

Each conditional edge maps the label of its router to a node; `none` is
`END`. -/

def LoadMemoryRoute.target : LoadMemoryRoute → InjectNode
  | .directSetup => .directSetup
  | .planBuilder => .planBuilder
  | .safetyCheck => .safetyCheck
  | .intentClarification => .intentClarification
  | .agentLoop => .agentLoop

def ClarificationRoute.target : ClarificationRoute → Option InjectNode
  | .goOn => some .clarificationTools
  | .intentConfirm => some .intentConfirm
  | .agentLoop => some .agentLoop
  | .recoverHandler => some .recoverHandler
  | .saveMemory => some .saveMemory
  | .intentClarification => some .intentClarification
  | .finish => none

def clarificationEdge (σ : Setup) (s : AgentState) : Option InjectNode :=
  (if σ.clarificationTools then shouldContinueIntentClarification s
    else routeAfterIntentClarification s).target

def planBuilderEdge (σ : Setup) (s : AgentState) : Option InjectNode :=
  if σ.clarificationTools then match shouldContinuePlanBuilder s with
    | .goOn => some .planBuilderTools
    | .finish => none
  else none

def IntentConfirmRoute.target : IntentConfirmRoute → Option InjectNode
  | .agentLoop => some .agentLoop
  | .finish => none

def AgentLoopRoute.target : AgentLoopRoute → InjectNode
  | .goOn => .phase1Screener
  | .extractPlanningMetadata => .extractPlanningMetadata
  | .reject => .reject

def phase1ScreenerEdge (s : AgentState) : InjectNode :=
  if routeAfterPhase1Screener s.screenerRoute = Route.retry.value then .agentLoop else .phase1Tools

def Phase1ToolsRoute.target : Phase1ToolsRoute → InjectNode
  | .agentLoop => .agentLoop
  | .extractPlanningMetadata => .extractPlanningMetadata
  | .planChangeConfirm => .planChangeConfirm

def planningEdge (s : AgentState) : InjectNode :=
  if s.error ≠ "" then .reject
  else if s.planningRejected then .agentLoop
  else .safetyCheck

def SafetyRoute.target : SafetyRoute → InjectNode
  | .confirmationGate => .confirmationGate
  | .baselineCapture => .baselineCapture
  | .reject => .reject

def ConfirmationRoute.target : ConfirmationRoute → Option InjectNode
  | .finish => none
  | .baselineCapture => some .baselineCapture
  | .reject => some .reject

def BaselineRoute.target : BaselineRoute → InjectNode
  | .directExecute => .directExecute
  | .executeLoop => .executeLoop

def ExecuteLoopRoute.target : ExecuteLoopRoute → InjectNode
  | .goOn => .toolScreener
  | .verifier => .verifierLoop
  | .finish => .saveMemory
  | .replan => .agentLoop

def screenerTarget : Route → InjectNode
  | .pass => .phase2Tools
  | .replan => .agentLoop
  | .retry => .executeLoop

def DirectExecuteRoute.target : DirectExecuteRoute → InjectNode
  | .verifier => .verifierLoop
  | .finish => .saveMemory

def verifierEdge (σ : Setup) : VerifierRoute → InjectNode
  | .goOn => if σ.verifierTools then .verifierTools else .finalizeVerification
  | .finalize => .finalizeVerification
  | .done => .seDetect

def VerifierToolsRoute.target : VerifierToolsRoute → InjectNode
  | .loop => .verifierLoop
  | .finalize => .finalizeVerification

def FinalizeRoute.target : FinalizeRoute → InjectNode
  | .loop => .verifierLoop
  | .done => .seDetect

def injectEdge (σ : Setup) : InjectNode → Answer → AgentState → Option InjectNode
  | .loadMemory, _, s => some (routeAfterLoadMemory s).target
  | .intentClarification, _, s => clarificationEdge σ s
  | .clarificationTools, _, _ => some .intentClarification
  | .planBuilder, _, s => planBuilderEdge σ s
  | .planBuilderTools, _, _ => some .planBuilder
  | .intentConfirm, _, s => (routeAfterIntentConfirm s).target
  | .directSetup, _, _ => some .safetyCheck
  | .agentLoop, a, s => some (shouldContinueAgentLoop σ.settings a.nowRoute s).target
  | .phase1Screener, _, s => some (phase1ScreenerEdge s)
  | .phase1Tools, _, s => some (routeAfterPhase1Tools s).target
  | .planChangeConfirm, _, _ => some .agentLoop
  | .extractPlanningMetadata, _, s => some (planningEdge s)
  | .safetyCheck, _, s => some (routeAfterSafety s).target
  | .confirmationGate, _, s => (routeAfterConfirmation s).target
  | .baselineCapture, _, _ => some .seSnapshot
  | .seSnapshot, _, s => some (routeAfterBaseline s).target
  | .executeLoop, a, s => some (shouldContinueExecuteLoop σ.settings a.nowRoute s).target
  | .toolScreener, _, s => some (screenerTarget (routeAfterScreener s.screenerRoute))
  | .phase2Tools, _, _ => some .executeLoop
  | .directExecute, _, s => some (routeAfterDirectExecute s).target
  | .verifierLoop, a, s => some (verifierEdge σ (shouldContinueVerifier σ.settings a.nowRoute s))
  | .verifierTools, _, s => some (routeAfterVerifierTools s).target
  | .finalizeVerification, _, s => some (routeAfterFinalize s).target
  | .seDetect, _, _ => some .saveMemory
  | .saveMemory, _, _ => none
  | .recoverHandler, _, _ => some .saveMemory
  | .reject, _, _ => none

def InjectNode.successors : InjectNode → List InjectNode
  | .loadMemory => [.agentLoop, .directSetup, .intentClarification, .planBuilder, .safetyCheck]
  | .intentClarification =>
    [.clarificationTools, .intentConfirm, .agentLoop, .recoverHandler, .saveMemory,
     .intentClarification]
  | .clarificationTools => [.intentClarification]
  | .planBuilder => [.planBuilderTools]
  | .planBuilderTools => [.planBuilder]
  | .intentConfirm => [.agentLoop]
  | .directSetup => [.safetyCheck]
  | .agentLoop => [.phase1Screener, .extractPlanningMetadata, .reject]
  | .phase1Screener => [.phase1Tools, .agentLoop]
  | .phase1Tools => [.agentLoop, .extractPlanningMetadata, .planChangeConfirm]
  | .planChangeConfirm => [.agentLoop]
  | .extractPlanningMetadata => [.agentLoop, .safetyCheck, .reject]
  | .safetyCheck => [.confirmationGate, .baselineCapture, .reject]
  | .confirmationGate => [.baselineCapture, .reject]
  | .baselineCapture => [.seSnapshot]
  | .seSnapshot => [.directExecute, .executeLoop]
  | .executeLoop => [.toolScreener, .verifierLoop, .saveMemory, .agentLoop]
  | .toolScreener => [.phase2Tools, .agentLoop, .executeLoop]
  | .phase2Tools => [.executeLoop]
  | .directExecute => [.verifierLoop, .saveMemory]
  | .verifierLoop => [.verifierTools, .finalizeVerification, .seDetect]
  | .verifierTools => [.verifierLoop, .finalizeVerification]
  | .finalizeVerification => [.verifierLoop, .seDetect]
  | .seDetect => [.saveMemory]
  | .saveMemory => []
  | .recoverHandler => [.saveMemory]
  | .reject => []

theorem injectEdge_mem {n m : InjectNode} {a : Answer}
    (h : injectEdge σ n a s = some m) : m ∈ n.successors := by
  cases n <;> simp only [injectEdge, Option.some.injEq, reduceCtorEq] at h
  case loadMemory =>
    subst h
    cases routeAfterLoadMemory s <;> decide
  case intentClarification =>
    unfold clarificationEdge at h
    revert h
    cases (if σ.clarificationTools then shouldContinueIntentClarification s
      else routeAfterIntentClarification s) <;> rintro ⟨⟩ <;> decide
  case planBuilder =>
    unfold planBuilderEdge at h
    split at h
    · split at h <;> cases h
      decide
    · cases h
  case intentConfirm =>
    revert h
    cases routeAfterIntentConfirm s <;> rintro ⟨⟩
    decide
  case agentLoop =>
    subst h
    cases shouldContinueAgentLoop σ.settings a.nowRoute s <;> decide
  case phase1Screener =>
    subst h
    unfold phase1ScreenerEdge
    split <;> decide
  case phase1Tools =>
    subst h
    cases routeAfterPhase1Tools s <;> decide
  case extractPlanningMetadata =>
    subst h
    unfold planningEdge
    split
    · decide
    · split <;> decide
  case safetyCheck =>
    subst h
    cases routeAfterSafety s <;> decide
  case confirmationGate =>
    revert h
    cases routeAfterConfirmation s <;> rintro ⟨⟩ <;> decide
  case seSnapshot =>
    subst h
    cases routeAfterBaseline s <;> decide
  case executeLoop =>
    subst h
    cases shouldContinueExecuteLoop σ.settings a.nowRoute s <;> decide
  case toolScreener =>
    subst h
    cases routeAfterScreener s.screenerRoute <;> decide
  case directExecute =>
    subst h
    cases routeAfterDirectExecute s <;> decide
  case verifierLoop =>
    subst h
    cases shouldContinueVerifier σ.settings a.nowRoute s <;> cases hv : σ.verifierTools <;>
      simp [verifierEdge, hv, InjectNode.successors]
  case verifierTools =>
    subst h
    cases routeAfterVerifierTools s <;> decide
  case finalizeVerification =>
    subst h
    cases routeAfterFinalize s <;> decide
  all_goals
    subst h
    decide

/-! ## The way out -/

def InjectNode.windsDown : InjectNode → Bool
  | .verifierLoop | .verifierTools | .finalizeVerification | .seDetect | .saveMemory
  | .recoverHandler | .reject => true
  | _ => false

def isOver (node : Option InjectNode) : Bool := node.all InjectNode.windsDown

theorem InjectNode.successors_windsDown (n : InjectNode) :
    (!n.windsDown || n.successors.all windsDown) = true := by cases n <;> decide

theorem injectEdge_windsDown {n : InjectNode} {a : Answer}
    (h : n.windsDown = true) : isOver (injectEdge σ n a s) = true := by
  have hall := n.successors_windsDown
  simp only [h, Bool.not_true, Bool.false_or, List.all_eq_true] at hall
  cases hm : injectEdge σ n a s with
  | none => rfl
  | some m => exact hall m (injectEdge_mem hm)

/-! ## The graph -/

def injectGraph (σ : Setup) : StateGraph InjectNode AgentState Answer where
  act := injectAct σ
  edge := injectEdge σ

def injectStart (s : AgentState) : Config InjectNode AgentState := ⟨some .loadMemory, s⟩

theorem injectRun_pred {w : Nat → Answer} {c : Config InjectNode AgentState} {k : Nat}
    {o : Option InjectNode} (h : (injectGraph σ).run w c (k + 1) = some ⟨o, s⟩) :
    ∃ n s₀, (injectGraph σ).run w c k = some ⟨some n, s₀⟩ ∧
      injectAct σ n (w k) s₀ = some s ∧ injectEdge σ n (w k) s = o :=
  StateGraph.run_pred h

end ChaosBlade.Agent
