/-
Agent.TerminationTheorems: does an inject turn end by its own
counters?

Three loops are nested: planning, execution, and the replan that leads
from the second back to the first.
-/
import ChaosBlade.Agent.InjectFrame
import ChaosBlade.Nodes.ReplanTheorems
import ChaosBlade.Nodes.ToolScreenerTheorems

namespace ChaosBlade.Agent

open Py Nodes ChaosBlade.Graph ChaosBlade.Graph.StateGraph Option AgentState

variable {σ : Setup} {a : Answer} {s s' : AgentState} {n m : InjectNode}

/-! ## Parts of the graph -/

def InjectNode.isLoop (n : InjectNode) : Prop := n = .agentLoop ∨ n = .executeLoop

instance : DecidablePred InjectNode.isLoop :=
  fun n => inferInstanceAs (Decidable (n = .agentLoop ∨ n = .executeLoop))

def InjectNode.executes : InjectNode → Bool
  | .executeLoop | .toolScreener | .phase2Tools => true
  | _ => false

theorem InjectNode.successors_prepares (n : InjectNode) :
    (n.executes || n.successors.all fun m => m != .toolScreener && m != .phase2Tools) = true := by
  cases n <;> decide

theorem injectEdge_prepares (h : injectEdge σ n a s = some m) (hn : n.executes = false) :
    m ≠ .toolScreener ∧ m ≠ .phase2Tools := by
  have hall := n.successors_prepares
  simp only [hn, Bool.false_or, List.all_eq_true] at hall
  simpa using hall m (injectEdge_mem h)

/-! ## The routers -/

theorem shouldContinueAgentLoop_of_limit {settings : Settings} {now : Rat}
    (h : settings.maxAgentLoop ≤ s.agentLoopCount) :
    shouldContinueAgentLoop settings now s = .reject := by
  unfold shouldContinueAgentLoop
  split
  · rfl
  · rfl

theorem injectEdge_agentLoop_of_limit (h : σ.settings.maxAgentLoop ≤ s.agentLoopCount) :
    injectEdge σ .agentLoop a s = some .reject := by
  simp [injectEdge, shouldContinueAgentLoop_of_limit h, AgentLoopRoute.target]

theorem injectEdge_executeLoop (h : injectEdge σ .executeLoop a s = some m) :
    (m = .toolScreener ∧ s.executeLoopCount < σ.settings.maxExecuteLoop) ∨
    (m = .agentLoop ∧ (s.replanCount : Int) < σ.settings.maxReplanCount) ∨ m.windsDown = true := by
  simp only [injectEdge, some.injEq] at h
  subst h
  cases hr : shouldContinueExecuteLoop σ.settings a.nowRoute s with
  | goOn =>
    refine .inl ⟨rfl, ?_⟩
    by_contra hlimit
    have hlimit : σ.settings.maxExecuteLoop ≤ s.executeLoopCount := by omega
    unfold shouldContinueExecuteLoop at hr
    split at hr
    · cases hr
    · split at hr <;> cases hr
  | verifier | finish => exact .inr (.inr rfl)
  | replan =>
    refine .inr (.inl ⟨rfl, ?_⟩)
    obtain ⟨-, h | ⟨-, -, h⟩⟩ := shouldContinueExecuteLoop_eq_replan.mp hr
    · exact (shouldReplan_iff.mp h).1
    · exact (shouldReplan_iff.mp h).1

theorem injectEdge_executeLoop_of_requested (hreq : s.replanRequested = true)
    (hlt : (s.replanCount : Int) < σ.settings.maxReplanCount) :
    injectEdge σ .executeLoop a s = some .agentLoop ∨
      injectEdge σ .executeLoop a s = some .saveMemory := by
  cases hwall : wallClockExceeded σ.settings a.nowRoute s
  case true =>
    right
    simp [injectEdge, shouldContinueExecuteLoop, hwall, ExecuteLoopRoute.target]
  case false =>
    left
    have hr : shouldContinueExecuteLoop σ.settings a.nowRoute s = .replan :=
      shouldContinueExecuteLoop_eq_replan.mpr
        ⟨hwall, .inl (shouldReplan_iff.mpr ⟨hlt, .inl hreq⟩)⟩
    simp [injectEdge, hr, ExecuteLoopRoute.target]

theorem toolScreenerAnswered_route {depth : Nat} {settings : Settings} {answer : Json} {d : Delta}
    (h : toolScreenerAnswered depth settings s answer = .ok d) : d.screenerRoute ≠ .replan := by
  rcases toolScreenerAnswered_step h with ⟨-, rfl⟩ | ⟨msg, approved, -, -, hstep⟩
  · simp
  cases hstep with
  | passes hroute | returns hroute => simp [hroute]

theorem injectEdge_toolScreener (h : injectAct σ .toolScreener a s = some s') :
    injectEdge σ .toolScreener a s' = some .phase2Tools ∨
      injectEdge σ .toolScreener a s' = some .executeLoop := by
  obtain ⟨d, hd, h⟩ := bind_eq_some_iff.mp h
  have hne := toolScreenerAnswered_route (toOption_eq_some.mp hd)
  cases h
  simp only [injectEdge, Delta.merge]
  cases hr : d.screenerRoute with
  | pass => exact .inl (by decide)
  | retry => exact .inr (by decide)
  | replan => exact absurd hr hne

/-! ## The counters -/

theorem executeLoop_counters (h : executeLoop σ a s = some s') :
    s'.agentLoopCount = s.agentLoopCount ∧ ((σ.settings.maxExecuteLoop ≤ s.executeLoopCount ∧
        s'.executeLoopCount = s.executeLoopCount ∧ s'.replanCount = s.replanCount) ∨
      (s.executeLoopCount < σ.settings.maxExecuteLoop ∧
        s'.executeLoopCount = s.executeLoopCount + 1 ∧ s'.replanCount = s.replanCount) ∨
      (s.executeLoopCount < σ.settings.maxExecuteLoop ∧
        s'.replanCount = s.replanCount + 1 ∧ (s.replanCount : Int) < σ.settings.maxReplanCount ∧
        s'.replanRequested = true)) := by
  obtain ⟨e, r, u, i, hl⟩ := executeLoop_ledger h
  refine ⟨congrArg Ledger.agentLoopCount hl, ?_⟩
  cases executeLoop_step h with
  | overrun hlimit => exact .inl ⟨hlimit, rfl, rfl⟩
  | zombie hlt => exact .inr (.inl ⟨hlt, rfl, rfl⟩)
  | carryOn hlt => exact .inr (.inl ⟨hlt, by simp, by simp⟩)
  | granted hlt _ _ _ _ _ hcount =>
    exact .inr (.inr ⟨hlt, by simp [grantReplan], hcount, by simp [grantReplan]⟩)
  | exhausted hlt =>
    exact .inr (.inl ⟨hlt, by simp [exhaustReplan, failWith], by simp [exhaustReplan, failWith]⟩)

/-! ## The budget -/

def CountsPlanning (settings : Settings) : Prop :=
  settings.maxReplanCount ≤ 1 ∨ settings.maxAgentLoop = 1

structure OnBudget (σ : Setup) (c : Config InjectNode AgentState) : Prop where
  /-- The last planning pass ends the run. -/
  planning : isOver c.node = false → c.state.agentLoopCount < σ.settings.maxAgentLoop
  /-- A batch of tool calls comes from a pass within the limit. -/
  executing : c.node = some .toolScreener ∨ c.node = some .phase2Tools →
    c.state.executeLoopCount < σ.settings.maxExecuteLoop
  /-- After a replan that is not taken there is no way back to planning. -/
  replanned : σ.settings.maxAgentLoop ≠ 1 → 0 < c.state.replanCount →
    c.node.all (fun n => n.executes || n.windsDown) = true

def isLast (σ : Setup) (n : InjectNode) (s : AgentState) : Bool :=
  n.windsDown || (n == .agentLoop && σ.settings.maxAgentLoop ≤ s.agentLoopCount + 1)

def executionsLeft (σ : Setup) (s : AgentState) : Nat :=
  (σ.settings.maxExecuteLoop + 1 - s.executeLoopCount) +
    if (s.replanCount : Int) < σ.settings.maxReplanCount then σ.settings.maxExecuteLoop + 1 else 0

def overrunLeft (σ : Setup) (s : AgentState) : InjectNode → Nat
  | .executeLoop => if σ.settings.maxExecuteLoop ≤ s.executeLoopCount then 1 else 0
  | .agentLoop | .toolScreener | .phase2Tools => 0
  | _ => 1

/-- What the visits to both loops are paid from. A planning pass pays for itself
and for an overrun of the execution after it. -/
def loopBudget (σ : Setup) (c : Config InjectNode AgentState) : Nat :=
  2 * (σ.settings.maxAgentLoop + 1 - c.state.agentLoopCount) +
    match c.node with
    | none => 0
    | some n => if isLast σ n c.state then 0 else executionsLeft σ c.state + overrunLeft σ c.state n

theorem loopBudget_of_isOver {c : Config InjectNode AgentState} (h : isOver c.node = true) :
    loopBudget σ c = 2 * (σ.settings.maxAgentLoop + 1 - c.state.agentLoopCount) := by
  unfold loopBudget
  cases hn : c.node with
  | none => rfl
  | some n =>
    rw [hn] at h
    have hn : n.windsDown = true := by simpa [isOver] using h
    simp [isLast, hn]

variable {o : Option InjectNode}

theorem loopBudget_le_of_same (hagent : s'.agentLoopCount = s.agentLoopCount)
    (hexec : s'.executeLoopCount = s.executeLoopCount) (hreplan : s'.replanCount = s.replanCount)
    (hlast : isLast σ n s = true → isOver o = true)
    (hover : ∀ m, o = some m → overrunLeft σ s' m ≤ overrunLeft σ s n) :
    loopBudget σ ⟨o, s'⟩ ≤ loopBudget σ ⟨some n, s⟩ := by
  cases hl : isLast σ n s
  case true =>
    rw [loopBudget_of_isOver (hlast hl)]
    simp only [loopBudget]
    omega
  case false =>
    simp only [loopBudget, hl, hagent]
    cases o with
    | none => simp
    | some m =>
      have := hover m rfl
      have hleft : executionsLeft σ s' = executionsLeft σ s := by
        simp [executionsLeft, hexec, hreplan]
      simp only [hleft]
      split
      · simp
      · simp
        omega

theorem overrunLeft_le_one : overrunLeft σ s n ≤ 1 := by
  unfold overrunLeft
  split
  · split <;> omega
  · omega
  · omega
  · omega
  · omega

/-! ## One visit -/

structure PaysFor (σ : Setup) (c c' : Config InjectNode AgentState) : Prop where
  onBudget : OnBudget σ c'
  paid : toll InjectNode.isLoop c + loopBudget σ c' ≤ loopBudget σ c

theorem OnBudget.of_isOver (h : isOver o = true) : OnBudget σ ⟨o, s⟩ where
  planning hover := by simp [h] at hover
  executing := by rintro (rfl | rfl) <;> cases h
  replanned _ _ := by
    cases o with
    | none => rfl
    | some n =>
      have hn : n.windsDown = true := by simpa [isOver] using h
      simp [hn]

theorem toll_of_not_loop (hn : ¬ n.isLoop) : toll InjectNode.isLoop ⟨some n, s⟩ = 0 := by
  simp [toll, hn]

theorem toll_of_loop (hn : n.isLoop) : toll InjectNode.isLoop ⟨some n, s⟩ = 1 := by simp [toll, hn]

theorem paysFor_of_windsDown (hact : injectAct σ n a s = some s') (hn : n.windsDown = true) :
    PaysFor σ ⟨some n, s⟩ ⟨injectEdge σ n a s', s'⟩ := by
  have hover : isOver (injectEdge σ n a s') = true := injectEdge_windsDown hn
  obtain ⟨hagent, -, -⟩ := injectAct_counters hact
    (by rintro rfl; cases hn) (by rintro rfl; cases hn) (by rintro rfl; cases hn)
  refine ⟨.of_isOver hover, ?_⟩
  rw [toll_of_not_loop (by rintro (rfl | rfl) <;> cases hn), loopBudget_of_isOver hover,
    loopBudget_of_isOver (show isOver (some n) = true from hn), hagent]
  exact (Nat.zero_add _).le

theorem paysFor_directExecute (hact : injectAct σ .directExecute a s = some s') :
    PaysFor σ ⟨some .directExecute, s⟩ ⟨injectEdge σ .directExecute a s', s'⟩ := by
  have hover : isOver (injectEdge σ .directExecute a s') = true := by
    simp only [injectEdge]
    cases routeAfterDirectExecute s' <;> rfl
  obtain ⟨u, i, hl⟩ := directExecute_ledger hact
  have hagent : s'.agentLoopCount = s.agentLoopCount := congrArg Ledger.agentLoopCount hl
  refine ⟨.of_isOver hover, ?_⟩
  rw [toll_of_not_loop (by rintro (h | h) <;> cases h), loopBudget_of_isOver hover]
  simp only [loopBudget]
  omega

theorem paysFor_of_prepares (hact : injectAct σ n a s = some s') (h : OnBudget σ ⟨some n, s⟩)
    (hexec : n.executes = false) (hover : n.windsDown = false) (hagent : n ≠ .agentLoop)
    (hdirect : n ≠ .directExecute) : PaysFor σ ⟨some n, s⟩ ⟨injectEdge σ n a s', s'⟩ := by
  have hne : n ≠ .executeLoop := by
    rintro rfl
    cases hexec
  obtain ⟨hcount, hpass, hreplan⟩ := injectAct_counters hact hagent hne hdirect
  constructor
  · constructor
    · intro _
      have := h.planning hover
      exact hcount.trans_lt this
    · rintro (hm | hm)
      · exact absurd rfl (injectEdge_prepares hm hexec).1
      · exact absurd rfl (injectEdge_prepares hm hexec).2
    · intro hone hpos
      have hpos : 0 < s.replanCount := hreplan ▸ hpos
      have := h.replanned hone hpos
      simp [hexec, hover] at this
  · rw [toll_of_not_loop (by rintro (rfl | rfl) <;> contradiction), Nat.zero_add]
    refine loopBudget_le_of_same hcount hpass hreplan ?_ fun m _ => ?_
    · intro hlast
      simp [isLast, hover, hagent] at hlast
    · have hone : overrunLeft σ s n = 1 := by cases n <;> first | rfl | contradiction
      rw [hone]
      exact overrunLeft_le_one

theorem paysFor_of_batch (hact : injectAct σ n a s = some s') (h : OnBudget σ ⟨some n, s⟩)
    (hn : n = .toolScreener ∨ n = .phase2Tools) :
    PaysFor σ ⟨some n, s⟩ ⟨injectEdge σ n a s', s'⟩ := by
  have hedge : injectEdge σ n a s' = some .phase2Tools ∨
      injectEdge σ n a s' = some .executeLoop := by
    rcases hn with rfl | rfl
    · exact injectEdge_toolScreener hact
    · exact .inr rfl
  obtain ⟨hcount, hpass, hreplan⟩ := injectAct_counters hact
    (by rintro rfl; simp at hn) (by rintro rfl; simp at hn) (by rintro rfl; simp at hn)
  have hlt : s.executeLoopCount < σ.settings.maxExecuteLoop := h.executing (by simpa using hn)
  have hlt' : s'.executeLoopCount < σ.settings.maxExecuteLoop := hpass.trans_lt hlt
  constructor
  · constructor
    · intro _
      refine hcount.trans_lt (h.planning ?_)
      rcases hn with rfl | rfl <;> rfl
    · intro _
      exact hlt'
    · intro _ _
      rcases hedge with hm | hm <;> rw [hm] <;> rfl
  · rw [toll_of_not_loop (by rintro (rfl | rfl) <;> simp at hn), Nat.zero_add]
    refine loopBudget_le_of_same hcount hpass hreplan ?_ ?_
    · rcases hn with rfl | rfl <;> rintro ⟨⟩
    · intro m hm
      have hzero : overrunLeft σ s' m = 0 := by
        rcases hedge with h | h <;> rw [h] at hm <;> cases hm
        · rfl
        · simp only [overrunLeft, ite_eq_right_iff]
          omega
      omega

theorem agentLoop_counts (hact : injectAct σ .agentLoop a s = some s')
    (h : OnBudget σ ⟨some .agentLoop, s⟩) :
    s'.agentLoopCount = s.agentLoopCount + 1 ∧ s'.executeLoopCount = s.executeLoopCount ∧
      s'.replanCount = s.replanCount := by
  have hlt : s.agentLoopCount < σ.settings.maxAgentLoop := h.planning rfl
  have hpass : planningPass s = s.agentLoopCount + 1 := by
    unfold planningPass
    split
    case isFalse => rfl
    case isTrue hr =>
      simp only [isReplan, Bool.and_eq_true, decide_eq_true_eq] at hr
      by_cases hone : σ.settings.maxAgentLoop = 1
      · omega
      · cases h.replanned hone hr.2
  rcases agentLoop_ledger hact with ⟨hlimit, -⟩ | ⟨-, hl⟩
  · omega
  · have hcount : s'.agentLoopCount = planningPass s := congrArg Ledger.agentLoopCount hl
    exact ⟨hcount.trans hpass, congrArg Ledger.executeLoopCount hl, congrArg Ledger.replanCount hl⟩

theorem loopBudget_after_agentLoop
    (hexec : s'.executeLoopCount = s.executeLoopCount) (hreplan : s'.replanCount = s.replanCount) :
    loopBudget σ ⟨o, s'⟩ ≤
      2 * (σ.settings.maxAgentLoop + 1 - s'.agentLoopCount) + (executionsLeft σ s + 1) := by
  have hleft : executionsLeft σ s' = executionsLeft σ s := by simp [executionsLeft, hexec, hreplan]
  simp only [loopBudget]
  cases o with
  | none => simp
  | some m =>
    have := overrunLeft_le_one (σ := σ) (s := s') (n := m)
    simp only
    split <;> omega

theorem paysFor_agentLoop (hact : injectAct σ .agentLoop a s = some s')
    (h : OnBudget σ ⟨some .agentLoop, s⟩) :
    PaysFor σ ⟨some .agentLoop, s⟩ ⟨injectEdge σ .agentLoop a s', s'⟩ := by
  have hlt : s.agentLoopCount < σ.settings.maxAgentLoop := h.planning rfl
  obtain ⟨hcount, hexec, hreplan⟩ := agentLoop_counts hact h
  by_cases hlimit : σ.settings.maxAgentLoop ≤ s'.agentLoopCount
  · rw [injectEdge_agentLoop_of_limit hlimit]
    refine ⟨.of_isOver rfl, ?_⟩
    rw [toll_of_loop (.inl rfl), loopBudget_of_isOver rfl]
    simp only [loopBudget, hcount]
    omega
  · constructor
    · constructor
      · intro _
        show s'.agentLoopCount < σ.settings.maxAgentLoop
        omega
      · rintro (hm | hm)
        · exact absurd rfl (injectEdge_prepares (n := .agentLoop) hm rfl).1
        · exact absurd rfl (injectEdge_prepares (n := .agentLoop) hm rfl).2
      · intro hone hpos
        cases h.replanned hone (hreplan ▸ hpos)
    · have hlast : isLast σ .agentLoop s = false := by
        simp only [isLast, InjectNode.windsDown, Bool.false_or, beq_self_eq_true, Bool.true_and,
          decide_eq_false_iff_not]
        omega
      have hsource : loopBudget σ ⟨some .agentLoop, s⟩ =
          2 * (σ.settings.maxAgentLoop + 1 - s.agentLoopCount) + executionsLeft σ s := by
        simp [loopBudget, hlast, overrunLeft]
      have htarget := loopBudget_after_agentLoop (σ := σ) (o := injectEdge σ .agentLoop a s')
        hexec hreplan
      rw [toll_of_loop (.inl rfl), hsource]
      omega

theorem loopBudget_after_executeLoop {b : Nat} (hcount : s'.agentLoopCount = s.agentLoopCount)
    (hleft : injectEdge σ .executeLoop a s' = some .toolScreener ∨
      (injectEdge σ .executeLoop a s' = some .agentLoop ∧ isLast σ .agentLoop s' = false) →
        executionsLeft σ s' ≤ b) : loopBudget σ ⟨injectEdge σ .executeLoop a s', s'⟩ ≤
      2 * (σ.settings.maxAgentLoop + 1 - s.agentLoopCount) + b := by
  cases hm : injectEdge σ .executeLoop a s' with
  | none =>
    simp only [loopBudget]
    omega
  | some m =>
    rcases injectEdge_executeLoop hm with ⟨rfl, -⟩ | ⟨rfl, -⟩ | hdown
    · have := hleft (.inl hm)
      simp only [loopBudget, overrunLeft]
      split <;> omega
    · simp only [loopBudget, overrunLeft]
      cases hlast : isLast σ .agentLoop s'
      · have := hleft (.inr ⟨hm, hlast⟩)
        simp only [Bool.false_eq_true, if_false]
        omega
      · simp only [if_true]
        omega
    · rw [loopBudget_of_isOver (show isOver (some m) = true from hdown)]
      simp only [hcount]
      omega

section

variable (hclosed : CountsPlanning σ.settings)
include hclosed

section

variable (hact : injectAct σ .executeLoop a s = some s') (h : OnBudget σ ⟨some .executeLoop, s⟩)
include hact h

theorem onBudget_executeLoop : OnBudget σ ⟨injectEdge σ .executeLoop a s', s'⟩ := by
  obtain ⟨hcount, -⟩ := executeLoop_counters hact
  constructor
  · intro _
    exact hcount.trans_lt (h.planning rfl)
  · rintro (hm | hm)
    · rcases injectEdge_executeLoop hm with ⟨-, hlt⟩ | ⟨h, -⟩ | h
      · exact hlt
      · cases h
      · cases h
    · rcases injectEdge_executeLoop hm with ⟨h, -⟩ | ⟨h, -⟩ | h <;> cases h
  · intro hone hpos
    have hmax : σ.settings.maxReplanCount ≤ 1 := hclosed.resolve_right hone
    cases hm : injectEdge σ .executeLoop a s' with
    | none => rfl
    | some m =>
      rcases injectEdge_executeLoop hm with ⟨rfl, -⟩ | ⟨rfl, hreplan⟩ | hdown
      · rfl
      · have hpos : 0 < s'.replanCount := hpos
        omega
      · simp [hdown]

theorem paysFor_executeLoop :
    PaysFor σ ⟨some .executeLoop, s⟩ ⟨injectEdge σ .executeLoop a s', s'⟩ := by
  refine ⟨onBudget_executeLoop hclosed hact h, ?_⟩
  obtain ⟨hcount, hcases⟩ := executeLoop_counters hact
  have hsource : loopBudget σ ⟨some .executeLoop, s⟩ =
      2 * (σ.settings.maxAgentLoop + 1 - s.agentLoopCount) +
        (executionsLeft σ s + overrunLeft σ s .executeLoop) := by
    simp [loopBudget, isLast, InjectNode.windsDown]
  -- what is left behind the pass, with `b` executions
  have hafter := fun b => loopBudget_after_executeLoop (σ := σ) (a := a) (b := b) hcount
  rw [toll_of_loop (.inr rfl), hsource]
  rcases hcases with ⟨hlimit, hpass, hreplan⟩ | ⟨hlimit, hpass, hreplan⟩ |
    ⟨hlimit, hreplan, hmax, hreq⟩
  · -- an overrun was set aside
    have hover : overrunLeft σ s .executeLoop = 1 := by simp [overrunLeft, hlimit]
    have := hafter (executionsLeft σ s) fun _ => by simp [executionsLeft, hpass, hreplan]
    omega
  · have hspent : executionsLeft σ s' ≤ executionsLeft σ s - 1 := by
      simp only [executionsLeft, hreplan]
      omega
    have hsome : 1 ≤ executionsLeft σ s := by
      simp only [executionsLeft]
      omega
    have := hafter (executionsLeft σ s - 1) fun _ => hspent
    omega
  · have hleft : executionsLeft σ s =
        (σ.settings.maxExecuteLoop + 1 - s.executeLoopCount) + (σ.settings.maxExecuteLoop + 1) := by
      simp [executionsLeft, hmax]
    by_cases htaken : (s'.replanCount : Int) < σ.settings.maxReplanCount
    · -- the replan is taken, and the one planning pass allowed ends the run
      have hone : σ.settings.maxAgentLoop = 1 := hclosed.resolve_left (by omega)
      have := hafter 0 ?_
      · omega
      · rintro (hm | ⟨-, hlast⟩)
        · rcases injectEdge_executeLoop_of_requested (a := a) hreq htaken with h | h <;>
            rw [h] at hm <;> cases hm
        · simp [isLast, hone] at hlast
    · have hspent : executionsLeft σ s' ≤ σ.settings.maxExecuteLoop + 1 := by
        simp only [executionsLeft, htaken, if_false]
        omega
      have := hafter (σ.settings.maxExecuteLoop + 1) fun _ => hspent
      omega

end

theorem injectStep_paysFor {c c' : Config InjectNode AgentState} (h : OnBudget σ c)
    (hstep : (injectGraph σ).step a c = some c') : PaysFor σ c c' := by
  obtain ⟨node, s⟩ := c
  obtain ⟨n, s', rfl, hact, rfl⟩ := step_eq_some.mp hstep
  cases hdown : n.windsDown
  case true => exact paysFor_of_windsDown hact hdown
  cases hexec : n.executes
  case true =>
    cases n <;> simp only [InjectNode.executes, Bool.false_eq_true] at hexec
    case executeLoop => exact paysFor_executeLoop hclosed hact h
    case toolScreener => exact paysFor_of_batch hact h (.inl rfl)
    case phase2Tools => exact paysFor_of_batch hact h (.inr rfl)
  by_cases hagent : n = .agentLoop
  · subst hagent
    exact paysFor_agentLoop hact h
  by_cases hdirect : n = .directExecute
  · subst hdirect
    exact paysFor_directExecute hact
  exact paysFor_of_prepares hact h hexec hdown hagent hdirect

end

/-! ## Whole runs -/

structure CountersAtZero (s : AgentState) : Prop where
  agentLoopCount : s.agentLoopCount = 0
  executeLoopCount : s.executeLoopCount = 0
  verifierLoopCount : s.verifierLoopCount = 0
  replanCount : s.replanCount = 0

theorem visits_le_of_countsPlanning (hclosed : CountsPlanning σ.settings)
    (hpos : 0 < σ.settings.maxAgentLoop) (w : Nat → Answer) {s₀ : AgentState}
    (h₀ : CountersAtZero s₀) (k : Nat) :
    visits (injectGraph σ) InjectNode.isLoop w (injectStart s₀) k ≤
      2 * σ.settings.maxAgentLoop + 2 * σ.settings.maxExecuteLoop + 5 := by
  have hstart : OnBudget σ (injectStart s₀) := by
    constructor
    · intro _
      exact h₀.agentLoopCount.trans_lt hpos
    · rintro (h | h) <;> cases h
    · intro _ h
      exact absurd h₀.replanCount (Nat.pos_iff_ne_zero.mp h)
  have hbound : loopBudget σ (injectStart s₀) ≤
      2 * σ.settings.maxAgentLoop + 2 * σ.settings.maxExecuteLoop + 5 := by
    have hleft : executionsLeft σ s₀ ≤ 2 * σ.settings.maxExecuteLoop + 2 := by
      unfold executionsLeft
      split <;> omega
    have hfirst : isLast σ .loadMemory s₀ = false := rfl
    simp only [loopBudget, injectStart, overrunLeft, hfirst, Bool.false_eq_true, if_false]
    omega
  refine (visits_le (OnBudget σ) (loopBudget σ) ?_ ?_ ?_ hstart k).trans hbound
  · intro a c c' h hstep
    exact (injectStep_paysFor hclosed h hstep).onBudget
  · intro c h
    unfold toll
    split
    case isFalse => omega
    case isTrue hloop =>
      obtain ⟨n, hn, hloop⟩ := hloop
      have hover : isOver c.node = false := by
        rw [mem_def.mp hn]
        rcases hloop with rfl | rfl <;> rfl
      have := h.planning hover
      unfold loopBudget
      omega
  · intro a c c' h hstep
    exact (injectStep_paysFor hclosed h hstep).paid

/-! ## A planning phase without an end -/

section

variable (agent execute verifier : Nat) (replan : Int)

def limitedSetup : Setup where
  settings :=
    { maxAgentLoop := agent, maxExecuteLoop := execute, maxVerifierLoop := verifier
      maxReplanCount := replan }

def plannedStart : AgentState where
  interactionMode := "tui"
  planConfirmed := true
  skillName := "k8s-chaos-skills"
  kubeconfig := "config"
  input := "go"
  faultSpec := some
    { ns := "shop", scope := "pod", names := ["cart-0"], bladeTarget := "cpu"
      bladeAction := "fullload" }

def restlessTurn : AIMessage where
  content := .str "[REPLAN] unknown flag"
  toolCalls := [{ name := "read_skill_resource", args := .obj [], id := "1" }]

def restlessAnswer : Answer where
  response := some restlessTurn
  tool := fun _ => some { content := "ok" }

def Replanning (s : AgentState) : Prop := isReplan s = true ∧ s.error = ""

theorem agentLoop_eq_planTurn {r : AIMessage} (hpass : planningPass s ≤ σ.settings.maxAgentLoop)
    (hr : a.response = some r) (hcalls : r.toolCalls ≠ []) :
    agentLoop σ a s = some (planTurn a s r) := by
  unfold agentLoop
  simp [hr, hcalls, Nat.not_lt.mpr hpass]

def askedState (s : AgentState) : AgentState := planTurn restlessAnswer s restlessTurn

def screenedState (s : AgentState) : AgentState :=
  { askedState s with screenerRoute := some "pass" }

def readState (s : AgentState) : AgentState :=
  { screenedState s with
    messages := (askedState s).messages ++
      [.tool { content := "ok", name := "read_skill_resource", toolCallId := "1" }] }

theorem askedState_messages :
    (askedState s).messages = s.messages ++ intentMessages restlessAnswer s ++ [.ai restlessTurn] :=
  rfl

theorem askedState_pendingTurn : (askedState s).pendingTurn = some restlessTurn := by
  simp [pendingTurn, askedState_messages, restlessTurn]

theorem replanning_readState (h : Replanning s) : Replanning (readState s) := h

theorem executeLoop_decidesReplan {r : AIMessage} {text : String}
    (hlt : s.executeLoopCount < σ.settings.maxExecuteLoop) (hreq : s.replanRequested = false)
    (hr : a.response = some r) (htext : turnText r = some text)
    (hmarker : hasSub replanMarker text = true)
    (hseen : (observeInjection σ.db s.messages).toOption.isSome)
    (hcontext : (buildReplanContext s text).toOption.isSome)
    (hcount : (s.replanCount : Int) < σ.settings.maxReplanCount)
    (hwall : wallClockExceeded σ.settings a.now s = false) :
    ∃ s', executeLoop σ a s = some s' ∧ DecidesReplan s s' := by
  have hreason : replanReason s text = .ok (some text) := by simp [replanReason, hmarker]
  have hreason' : (replanReason s text).toOption = some (some text) := by rw [hreason]; rfl
  obtain ⟨seen, hseen⟩ := isSome_iff_exists.mp hseen
  obtain ⟨context, hcontext⟩ := isSome_iff_exists.mp hcontext
  have hstep : (executeLoop σ a s).isSome := by
    unfold executeLoop
    simp only [Nat.not_lt.mpr (Nat.succ_le_of_lt hlt), zombieReplan, hreq, hr, hseen, htext,
      hreason', hcontext, hcount, Bool.false_and, Bool.false_eq_true, if_false,
      if_true, bind_eq_bind, bind_some, isSome_some]
  obtain ⟨s', hs'⟩ := isSome_iff_exists.mp hstep
  refine ⟨s', hs', ?_⟩
  rcases executeLoop_replan_cases hs' hwall with ⟨-, -, h⟩ | ⟨hnot, -⟩
  · exact h
  · exact absurd ⟨⟨hlt, r, text, text, hr, htext, hreason⟩, hcount⟩ hnot

section

variable {agent execute verifier replan} (hσ : σ = limitedSetup agent execute verifier replan)
include hσ

theorem replanning_round (hagent : 2 ≤ agent) (h : Replanning s) :
    (injectGraph σ).run (fun _ => restlessAnswer) ⟨some .agentLoop, s⟩ 3 =
      some ⟨some .agentLoop, readState s⟩ := by
  obtain ⟨hreplan, herror⟩ := h
  -- the pass counts as the first
  have hpass : planningPass s = 1 := by simp [planningPass, hreplan]
  have hmax : σ.settings.maxAgentLoop = agent := by rw [hσ]; rfl
  have h₁ : (injectGraph σ).step restlessAnswer ⟨some .agentLoop, s⟩ =
      some ⟨some .phase1Screener, askedState s⟩ := by
    have hact : agentLoop σ restlessAnswer s = some (askedState s) :=
      agentLoop_eq_planTurn (by omega) rfl (by simp [restlessTurn])
    have hroute : shouldContinueAgentLoop σ.settings 0 (askedState s) = .goOn := by
      have hcount : ¬ σ.settings.maxAgentLoop ≤ (askedState s).agentLoopCount := by
        show ¬ _ ≤ planningPass s
        omega
      have hstatus : (askedState s).safetyStatus = .pending := by
        simp [askedState, planTurn, hreplan]
      have herror' : (askedState s).error = "" := herror
      have hcalls : (askedState s).lastHasToolCalls = true := by
        simp [lastHasToolCalls, askedState_pendingTurn]
      unfold shouldContinueAgentLoop
      simp only [hcount, hstatus, herror', hcalls]
      rw [hσ]
      rfl
    exact step_to hact (congrArg (some <| AgentLoopRoute.target ·) hroute)
  have h₂ : (injectGraph σ).step restlessAnswer ⟨some .phase1Screener, askedState s⟩ =
      some ⟨some .phase1Tools, screenedState s⟩ := by
    have hpass : phase1Screener 100 σ.settings (askedState s) = { screenerRoute := .pass } := by
      simp only [phase1Screener, pendingCalls, askedState_pendingTurn]
      rfl
    have hact : phase1ScreenerNode σ (askedState s) = screenedState s := by
      subst hσ
      show Delta.merge (phase1Screener 100 _ _) _ = _
      rw [hpass]
      simp [Delta.merge, screenedState, Route.value]
    show some (Config.mk (some (phase1ScreenerEdge (phase1ScreenerNode _ _))) _) = _
    rw [hact]
    rfl
  have h₃ : (injectGraph σ).step restlessAnswer ⟨some .phase1Tools, screenedState s⟩ =
      some ⟨some .agentLoop, readState s⟩ := by
    have hact : toolNode restlessAnswer (screenedState s) = some (readState s) := by
      have hlast : lastTurn (askedState s).messages = some restlessTurn := by
        simp [lastTurn, askedState_messages]
      have hlast : lastTurn (screenedState s).messages = some restlessTurn := hlast
      simp only [toolNode, hlast]
      rfl
    have hroute : routeAfterPhase1Tools (readState s) = .agentLoop := by
      simp [routeAfterPhase1Tools, readState, askedState_messages, scanPhase1Tools]
    exact step_to hact (congrArg (some <| Phase1ToolsRoute.target ·) hroute)
  simp [run, h₁, h₂, h₃]

theorem replanning_forever (hagent : 2 ≤ agent) (h : Replanning s) (rounds : Nat) :
    ∃ s', Replanning s' ∧ (injectGraph σ).run (fun _ => restlessAnswer) ⟨some .agentLoop, s⟩
      (3 * rounds) = some ⟨some .agentLoop, s'⟩ := by
  induction rounds with
  | zero => exact ⟨s, h, rfl⟩
  | succ rounds ih =>
    obtain ⟨s', hs', hrun⟩ := ih
    refine ⟨readState s', replanning_readState hs', ?_⟩
    rw [Nat.mul_succ, run_add, hrun]
    exact replanning_round hσ hagent hs'

theorem plannedStart_replans (hexec : 0 < execute) (hreplan : 2 ≤ replan) : ∃ s, Replanning s ∧
    (injectGraph σ).run (fun _ => restlessAnswer) (injectStart plannedStart) 5 =
      some ⟨some .agentLoop, s⟩ := by
  have hcheck : (safetyCheck {} restlessAnswer (loadMemoryNode plannedStart)).any (fun s =>
      routeAfterSafety s = .baselineCapture ∧ s.direct = false ∧ s.executeLoopCount = 0 ∧
        s.replanCount = 0 ∧ s.replanRequested = false ∧
        (observeInjection asciiDb s.messages).toOption.isSome ∧
        (buildReplanContext s "[REPLAN] unknown flag").toOption.isSome) = true := by decide
  simp only [any_eq_true, decide_eq_true_eq] at hcheck
  obtain ⟨s, hcheck, hsafe, hdirect, hcount, hzero, hreq, hseen, hcontext⟩ := hcheck
  obtain ⟨s', hexecute, hreq', hcount', hcontext', herror, -⟩ :=
    executeLoop_decidesReplan (σ := limitedSetup agent execute verifier replan)
      (a := restlessAnswer) (by rw [hcount]; exact hexec) hreq rfl
      (show turnText restlessTurn = some "[REPLAN] unknown flag" from rfl) (by decide)
      hseen hcontext
      (by rw [hzero]; show (0 : Int) < replan; omega) rfl
  refine ⟨s', ⟨?_, herror⟩, ?_⟩
  · simp [isReplan, hcontext', hcount']
  have h₀ : (injectGraph σ).step restlessAnswer (injectStart plannedStart) =
      some ⟨some .safetyCheck, loadMemoryNode plannedStart⟩ := by
    have hroute : routeAfterLoadMemory (loadMemoryNode plannedStart) = .safetyCheck := by
      decide
    exact step_to rfl (congrArg (some <| LoadMemoryRoute.target ·) hroute)
  have h₁ : (injectGraph σ).step restlessAnswer ⟨some .safetyCheck, loadMemoryNode plannedStart⟩ =
      some ⟨some .baselineCapture, s⟩ := by
    have hact : (injectGraph σ).act .safetyCheck restlessAnswer (loadMemoryNode plannedStart) =
        some s := hσ ▸ hcheck
    exact step_to hact (congrArg (some <| SafetyRoute.target ·) hsafe)
  have h₂ : (injectGraph σ).step restlessAnswer ⟨some .baselineCapture, s⟩ =
      some ⟨some .seSnapshot, s⟩ := rfl
  have h₃ : (injectGraph σ).step restlessAnswer ⟨some .seSnapshot, s⟩ =
      some ⟨some .executeLoop, s⟩ := by
    show some (Config.mk (some (routeAfterBaseline s).target) _) = _
    simp only [routeAfterBaseline, hdirect, Bool.false_eq_true, if_false]
    rfl
  have h₄ : (injectGraph σ).step restlessAnswer ⟨some .executeLoop, s⟩ =
      some ⟨some .agentLoop, s'⟩ := by
    have hlt : (s'.replanCount : Int) < replan := by omega
    subst hσ
    have hroute : shouldContinueExecuteLoop (limitedSetup agent execute verifier _).settings 0 s' =
        .replan :=
      shouldContinueExecuteLoop_eq_replan.mpr ⟨rfl, .inl (shouldReplan_iff.mpr ⟨hlt, .inl hreq'⟩)⟩
    exact step_to hexecute (congrArg (some <| ExecuteLoopRoute.target ·) hroute)
  simp only [run, bind_some, h₀, h₁, h₂, h₃, h₄]

end

theorem exists_visits_ge (hagent : 2 ≤ agent) (hexec : 0 < execute) (hreplan : 2 ≤ replan)
    (bound : Nat) : ∃ k, bound ≤ visits (injectGraph (limitedSetup agent execute verifier replan))
      InjectNode.isLoop (fun _ => restlessAnswer) (injectStart plannedStart) k := by
  obtain ⟨s, hs, hstart⟩ :=
      plannedStart_replans (σ := limitedSetup agent execute verifier replan) rfl hexec hreplan
  refine ⟨5 + 3 * bound, ?_⟩
  induction bound with
  | zero => omega
  | succ bound ih =>
    obtain ⟨s', -, hrun⟩ := replanning_forever rfl hagent hs bound
    have hat : (injectGraph (limitedSetup agent execute verifier replan)).run
        (fun _ => restlessAnswer) (injectStart plannedStart) (5 + 3 * bound) =
        some ⟨some .agentLoop, s'⟩ := by
      rw [run_add, hstart]
      exact hrun
    have hone := visits_succ_of_at (p := InjectNode.isLoop) hat (.inl rfl)
    have hmono := visits_mono (g := injectGraph (limitedSetup agent execute verifier replan))
      (p := InjectNode.isLoop) (w := fun _ => restlessAnswer) (c := injectStart plannedStart)
      (show 5 + 3 * bound + 1 ≤ 5 + 3 * (bound + 1) by omega)
    omega

end

/-! ## The bound -/

/-- With these limits, whatever else is configured, the two loops are visited at
most so many times in a run that starts with its counters at 0. -/
def LoopsBounded (agent execute verifier : Nat) (replan : Int) : Prop :=
  ∃ bound, ∀ σ : Setup, σ.settings.maxAgentLoop = agent → σ.settings.maxExecuteLoop = execute →
    σ.settings.maxVerifierLoop = verifier → σ.settings.maxReplanCount = replan →
      ∀ w s₀, CountersAtZero s₀ →
        ∀ k, visits (injectGraph σ) InjectNode.isLoop w (injectStart s₀) k ≤ bound

theorem loopsBounded_of_closed {agent execute verifier : Nat} {replan : Int} (hagent : 0 < agent)
    (h : replan ≤ 1 ∨ agent = 1) : LoopsBounded agent execute verifier replan := by
  refine ⟨2 * agent + 2 * execute + 5, ?_⟩
  rintro σ rfl rfl - rfl w s₀ h₀ k
  exact visits_le_of_countsPlanning h hagent w h₀ k

theorem not_loopsBounded {agent execute verifier : Nat} {replan : Int} (hagent : 2 ≤ agent)
    (hexec : 0 < execute) (hreplan : 2 ≤ replan) :
    ¬ LoopsBounded agent execute verifier replan := by
  rintro ⟨bound, h⟩
  obtain ⟨k, hk⟩ := exists_visits_ge agent execute verifier replan hagent hexec hreplan
    (bound + 1)
  have := h (limitedSetup agent execute verifier replan) rfl rfl rfl rfl (fun _ => restlessAnswer)
    plannedStart ⟨rfl, rfl, rfl, rfl⟩ k
  omega

/-- A turn ends by its own counters exactly if at most one replan is allowed, or
a single planning pass. -/
theorem loopsBounded_iff {agent execute verifier : Nat} {replan : Int} (hagent : 0 < agent)
    (hexec : 0 < execute) :
    LoopsBounded agent execute verifier replan ↔ replan ≤ 1 ∨ agent = 1 := by
  constructor
  · intro h
    by_contra hopen
    exact not_loopsBounded (by omega) hexec (by omega) h
  · exact loopsBounded_of_closed hagent

/-- The default limits with one replan instead of three. -/
theorem loopsBounded_single_replan : LoopsBounded 100 100 60 1 :=
  (loopsBounded_iff (by decide) (by decide)).mpr (.inl le_rfl)

/-- The default limits. -/
theorem not_loopsBounded_default : ¬ LoopsBounded 100 100 60 3 :=
  not_loopsBounded (by decide) (by decide) (by decide)

end ChaosBlade.Agent
