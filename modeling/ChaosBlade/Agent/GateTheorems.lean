/-
Agent.GateTheorems: no side effect without the gate: the visits
of a run that touch the cluster, and the safety check each of them goes
back to.

The nodes that inject form a region of the graph.
-/
import ChaosBlade.Agent.InjectFrame

namespace ChaosBlade.Agent

open ChaosBlade.Graph ChaosBlade.Graph.StateGraph Nodes

/-! ## The region -/

def InjectNode.hasSideEffects : InjectNode → Bool
  | .baselineCapture | .executeLoop | .phase2Tools | .directExecute => true
  | _ => false

def InjectNode.behindGate : InjectNode → Bool
  | .baselineCapture | .seSnapshot | .executeLoop | .toolScreener | .phase2Tools
  | .directExecute => true
  | _ => false

theorem InjectNode.behindGate_of_hasSideEffects {n : InjectNode} (h : n.hasSideEffects = true) :
    n.behindGate = true := by cases n <;> simp_all [hasSideEffects, behindGate]

theorem InjectNode.successors_behindGate (n : InjectNode) : n.successors.all (fun m =>
      (!m.behindGate || n.behindGate ||
        (m == .baselineCapture && (n == .safetyCheck || n == .confirmationGate))) &&
      (m != .confirmationGate || n == .safetyCheck)) = true := by cases n <;> decide

variable {σ : Setup} {a : Answer} {s : AgentState} {n m : InjectNode}

theorem injectEdge_behindGate (h : injectEdge σ n a s = some m) (hm : m.behindGate = true) :
    n.behindGate = true ∨ (m = .baselineCapture ∧ (n = .safetyCheck ∨ n = .confirmationGate)) := by
  have := List.all_eq_true.mp n.successors_behindGate m (injectEdge_mem h)
  simp [hm] at this
  tauto

theorem injectEdge_confirmationGate (h : injectEdge σ n a s = some .confirmationGate) :
    n = .safetyCheck := by
  have := List.all_eq_true.mp n.successors_behindGate _ (injectEdge_mem h)
  simp only [Bool.and_eq_true] at this
  simpa using this.2

/-! ## The routers at the gate -/

theorem injectEdge_safetyCheck_baseline
    (h : injectEdge σ .safetyCheck a s = some .baselineCapture) :
    s.safetyStatus = .safe ∧ s.needsConfirmation = false ∧ s.dryRun = false := by
  have hr : routeAfterSafety s = .baselineCapture := by
    cases hr : routeAfterSafety s <;> simp [injectEdge, hr, SafetyRoute.target] at h ⊢
  unfold routeAfterSafety at hr
  split at hr
  · cases hr
  split at hr
  · cases hr
  split at hr
  · cases hr
  split at hr
  case isTrue hsafe => simp_all
  · cases hr

theorem injectEdge_safetyCheck_gate
    (h : injectEdge σ .safetyCheck a s = some .confirmationGate) : s.safetyStatus ≠ .rejected := by
  intro hrej
  simp [injectEdge, routeAfterSafety, hrej, SafetyRoute.target] at h

theorem injectEdge_gate_baseline (h : injectEdge σ .confirmationGate a s = some .baselineCapture) :
    s.safetyStatus ≠ .rejected ∧ s.dryRun = false := by
  by_cases hrej : s.safetyStatus = .rejected
  · simp [injectEdge, routeAfterConfirmation, hrej, ConfirmationRoute.target] at h
  · cases hdry : s.dryRun
    · exact ⟨hrej, rfl⟩
    · simp [injectEdge, routeAfterConfirmation, hrej, hdry, ConfirmationRoute.target] at h

/-! ## Gated visits -/

section

variable (σ : Setup) (w : Nat → Answer) (c : Config InjectNode AgentState)

def ReplansAt (j : Nat) : Prop :=
  ((injectGraph σ).nodeAt w c j = some .executeLoop ∨
      (injectGraph σ).nodeAt w c j = some .toolScreener) ∧
    (injectGraph σ).nodeAt w c (j + 1) = some .agentLoop

/-- The check at visit `i` left `d` behind it and let the run through, to visit
`k` at the latest: by the direct route of a safe target that needs no
confirmation, or by a pass of the gate that was not rejected. -/
def LetsThrough (i k : Nat) (d : Config InjectNode AgentState) : Prop :=
  d.state.safetyStatus ≠ .rejected ∧
    ((d.node = some .baselineCapture ∧ d.state.safetyStatus = .safe ∧
        d.state.needsConfirmation = false) ∨
      (d.node = some .confirmationGate ∧ i + 2 ≤ k ∧
        ∃ e, (injectGraph σ).run w c (i + 2) = some e ∧ e.node = some .baselineCapture ∧
          e.state.safetyStatus ≠ .rejected))

structure GatedBy (i k : Nat) : Prop where
  before : i < k
  check : (injectGraph σ).nodeAt w c i = some .safetyCheck
  through : ∃ d, (injectGraph σ).run w c (i + 1) = some d ∧ LetsThrough σ w c i k d
  undisturbed : ∀ j, i < j → j < k →
    (injectGraph σ).nodeAt w c j ≠ some .safetyCheck ∧ ¬ ReplansAt σ w c j

end

variable {w : Nat → Answer} {c : Config InjectNode AgentState} {k : Nat}

theorem LetsThrough.mono {i k' : Nat} {d : Config InjectNode AgentState} (hk : k ≤ k')
    (h : LetsThrough σ w c i k d) : LetsThrough σ w c i k' d := by
  refine ⟨h.1, h.2.imp id ?_⟩
  rintro ⟨hd, hik, he⟩
  exact ⟨hd, by omega, he⟩

theorem GatedBy.next {i : Nat} (h : GatedBy σ w c i k)
    (hn : (injectGraph σ).nodeAt w c k = some n) (hgate : n.behindGate = true)
    (hm : (injectGraph σ).nodeAt w c (k + 1) = some m) (hgate' : m.behindGate = true) :
    GatedBy σ w c i (k + 1) := by
  obtain ⟨d, hd, hthrough⟩ := h.through
  refine ⟨by have := h.before; omega, h.check, ⟨d, hd, hthrough.mono (by omega)⟩, ?_⟩
  intro j hij hjk
  rcases Nat.lt_succ_iff_lt_or_eq.mp hjk with hj | rfl
  · exact h.undisturbed j hij hj
  · refine ⟨?_, ?_⟩
    · rw [hn]
      rintro ⟨⟩
      cases hgate
    · rintro ⟨-, hagent⟩
      rw [hm] at hagent
      cases hagent
      cases hgate'

theorem gatedBy_of_behindGate {s₀ : AgentState} :
    ∀ {k n s}, (injectGraph σ).run w (injectStart s₀) k = some ⟨some n, s⟩ →
      n.behindGate = true → ∃ i, GatedBy σ w (injectStart s₀) i k := by
  intro k
  induction k with
  | zero =>
    intro n s h hn
    cases h
    cases hn
  | succ k ih =>
    intro m s' h hm
    obtain ⟨n, s, hk, hact, hedge⟩ := injectRun_pred h
    rcases injectEdge_behindGate hedge hm with hn | ⟨rfl, rfl | rfl⟩
    · -- inside the region
      obtain ⟨i, hi⟩ := ih hk hn
      exact ⟨i, hi.next (nodeAt_eq_some.mpr ⟨_, hk⟩) hn (nodeAt_eq_some.mpr ⟨_, h⟩) hm⟩
    · -- straight from the check
      obtain ⟨hsafe, hconf, -⟩ := injectEdge_safetyCheck_baseline hedge
      refine ⟨k, by omega, nodeAt_eq_some.mpr ⟨_, hk⟩, ⟨_, h, ?_, .inl ⟨rfl, hsafe, hconf⟩⟩, ?_⟩
      · simp [hsafe]
      · intro j hij hjk
        omega
    · -- through the gate, which is one visit after the check
      cases k with
      | zero => cases hk
      | succ i =>
        obtain ⟨n, s₁, hi, -, hedge'⟩ := injectRun_pred hk
        obtain rfl := injectEdge_confirmationGate hedge'
        refine ⟨i, by omega, nodeAt_eq_some.mpr ⟨_, hi⟩, ⟨_, hk, injectEdge_safetyCheck_gate hedge',
          .inr ⟨rfl, by omega, _, h, rfl, (injectEdge_gate_baseline hedge).1⟩⟩, ?_⟩
        intro j hij hjk
        obtain rfl : j = i + 1 := by omega
        have hgate : (injectGraph σ).nodeAt w (injectStart s₀) (i + 1) = some .confirmationGate :=
          nodeAt_eq_some.mpr ⟨_, hk⟩
        refine ⟨by simp [hgate], ?_⟩
        rintro ⟨h₁ | h₁, -⟩ <;> simp [hgate] at h₁

theorem not_behindGate_of_dryRun {s₀ : AgentState}
    (hdry : ∀ k d, (injectGraph σ).run w (injectStart s₀) k = some d → d.state.dryRun = true) :
    ∀ {k n s}, (injectGraph σ).run w (injectStart s₀) k = some ⟨some n, s⟩ →
      n.behindGate = false := by
  intro k
  induction k with
  | zero =>
    intro n s h
    cases h
    rfl
  | succ k ih =>
    intro m s' h
    obtain ⟨n, s, hk, hact, hedge⟩ := injectRun_pred h
    cases hm : m.behindGate
    · rfl
    · have hs' := hdry _ _ h
      rcases injectEdge_behindGate hedge hm with hn | ⟨rfl, rfl | rfl⟩
      · rw [ih hk] at hn
        cases hn
      · simp [(injectEdge_safetyCheck_baseline hedge).2.2] at hs'
      · simp [(injectEdge_gate_baseline hedge).2] at hs'

/-- No side effect without the gate. In every run of the inject graph, each
visit that measures, injects or runs the injection's tools goes back to a
safety check that was not rejected and let the run through, with no check and
no replan in between; and a run that is a dry run throughout has no such
visit. -/
theorem injectGraph_sideEffects_gated (σ : Setup) (w : Nat → Answer) (s₀ : AgentState) :
    (∀ k n, (injectGraph σ).nodeAt w (injectStart s₀) k = some n → n.hasSideEffects = true →
      ∃ i, GatedBy σ w (injectStart s₀) i k) ∧
    ((∀ k d, (injectGraph σ).run w (injectStart s₀) k = some d → d.state.dryRun = true) →
      ∀ k n, (injectGraph σ).nodeAt w (injectStart s₀) k = some n → n.hasSideEffects = false) := by
  constructor
  · intro k n hn hside
    obtain ⟨s, hs⟩ := nodeAt_eq_some.mp hn
    exact gatedBy_of_behindGate hs (InjectNode.behindGate_of_hasSideEffects hside)
  · intro hdry k n hn
    obtain ⟨s, hs⟩ := nodeAt_eq_some.mp hn
    cases hside : n.hasSideEffects
    · rfl
    · have := InjectNode.behindGate_of_hasSideEffects hside
      rw [not_behindGate_of_dryRun hdry hs] at this
      cases this

def directStart : AgentState where
  direct := true
  kubeconfig := "config"
  faultSpec := some
    { ns := "shop", scope := "pod", names := ["cart-0"], bladeTarget := "cpu"
      bladeAction := "fullload" }

def directAnswer : Answer where
  directSkill := some "blade create"

theorem injectGraph_sideEffects_gated_direct :
    (injectGraph {}).nodeAt (fun _ => directAnswer) (injectStart directStart) 3 =
        some .baselineCapture ∧
      (∃ i, GatedBy {} (fun _ => directAnswer) (injectStart directStart) i 3) ∧
      ∀ k n, (injectGraph {}).nodeAt (fun _ => directAnswer)
        (injectStart { directStart with dryRun := true }) k = some n →
            n.hasSideEffects = false := by
  have hvisit : (injectGraph {}).nodeAt (fun _ => directAnswer) (injectStart directStart) 3 =
      some .baselineCapture := by decide
  refine ⟨hvisit, (injectGraph_sideEffects_gated _ _ _).1 3 _ hvisit rfl, ?_⟩
  exact (injectGraph_sideEffects_gated _ _ _).2 fun k d h => (injectRun_entry h).dryRun

end ChaosBlade.Agent
