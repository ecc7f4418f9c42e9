/-
Server.OutcomeTheorems: does a turn inherit the outcome of an
earlier one?

The payload of a continuing turn resets the loop counters, but not the
outcome of an earlier experiment: `verification`, `blade_uid`,
`injection_method`, `reverify_count`, `result` and `inject_layer1_cache`
keep their checkpointed values.
-/
import ChaosBlade.Agent.InjectReads
import ChaosBlade.Server.Turn

namespace ChaosBlade.Server

open Py Agent Nodes ChaosBlade.Graph ChaosBlade.Graph.StateGraph

variable {σ : Setup} {a : Answer} {s s' t : AgentState} {n : InjectNode}
  {w : Nat → Answer} {k : Nat}

/-! ## Two runs side by side -/

/-- Two positions that differ in the `result`, and in the Layer 1 cache as long
as the verifier has not written it. -/
structure Alike (x y : Config InjectNode AgentState) : Prop where
  node : y.node = x.node
  state : ∃ r c, y.state = x.state.withRecord r c ∧
    (x.state.verifierLoopCount ≠ 0 → c = x.state.injectLayer1Cache)
  /-- The cache is read after the verifier's first pass only. -/
  counted : x.node = some .verifierTools ∨ x.node = some .finalizeVerification →
    x.state.verifierLoopCount ≠ 0

theorem successors_verification (n : InjectNode) : (n == .verifierLoop || n == .verifierTools ||
      n.successors.all fun m => m != .verifierTools && m != .finalizeVerification) = true := by
  cases n <;> decide

theorem injectEdge_counted (hact : injectAct σ n a s = some s')
    (hcount : n = .verifierTools ∨ n = .finalizeVerification → s.verifierLoopCount ≠ 0)
    (hedge : injectEdge σ n a s' = some .verifierTools ∨
      injectEdge σ n a s' = some .finalizeVerification) : s'.verifierLoopCount ≠ 0 := by
  by_cases hloop : n = .verifierLoop
  · subst hloop
    rcases verifierLoop_ledger hact with h | ⟨f, fs, h⟩
    · have : s'.verifierLoopCount = s.verifierLoopCount + 1 := congrArg Ledger.verifierLoopCount h
      omega
    · -- a verification was written: the run goes on to its end
      have hv : s'.verification = .obj (f :: fs) := congrArg Ledger.verification h
      have hdone : shouldContinueVerifier σ.settings a.nowRoute s' = .done := by
        simp [shouldContinueVerifier, hv, Json.truthy]
      simp only [injectEdge, hdone] at hedge
      rcases hedge with h | h <;> cases h
  · have hsame : s'.verifierLoopCount = s.verifierLoopCount :=
      (injectAct_ledger hact).verifierLoopCount hloop
    by_cases htools : n = .verifierTools
    · rw [hsame]
      exact hcount (.inl htools)
    · have hall := successors_verification n
      simp only [beq_eq_false_iff_ne.mpr hloop, beq_eq_false_iff_ne.mpr htools, Bool.false_or,
        List.all_eq_true] at hall
      rcases hedge with h | h
      · simpa using hall _ (injectEdge_mem h)
      · simpa using hall _ (injectEdge_mem h)

theorem injectAct_alike {r : Json} {c : Option Layer1Result}
    (hcache : s.verifierLoopCount ≠ 0 → c = s.injectLayer1Cache)
    (hcount : n = .verifierTools ∨ n = .finalizeVerification → s.verifierLoopCount ≠ 0) :
    ∃ r' c', injectAct σ n a (s.withRecord r c) = (injectAct σ n a s).map (·.withRecord r' c') ∧
      ∀ s', injectAct σ n a s = some s' → s'.verifierLoopCount ≠ 0 → c' = s'.injectLayer1Cache := by
  by_cases hloop : n = .verifierLoop
  · subst hloop
    exact verifierLoop_withRecord hcache
  by_cases hfinal : n = .finalizeVerification
  · subst hfinal
    obtain rfl := hcache (hcount (.inr rfl))
    obtain ⟨r', hr'⟩ := finalizeVerification_withRecord (σ := σ) (a := a) (s := s) (r := r)
    refine ⟨r', s.injectLayer1Cache, congrArg some hr', ?_⟩
    intro s' hs' _
    have hself := finalizeVerification_withRecord (σ := σ) (a := a) (s := s) (r := s.result)
    obtain ⟨r'', hr''⟩ := hself
    obtain rfl := Option.some.inj hs'
    exact (congrArg AgentState.injectLayer1Cache hr'').symm
  · obtain ⟨r', hr'⟩ := injectAct_withRecord (σ := σ) (a := a) (s := s) (r := r) (c := c) hloop
      hfinal
    refine ⟨r', c, hr', ?_⟩
    intro s' hs' hpos
    rw [injectAct_injectLayer1Cache hloop hfinal hs']
    have hsame : s'.verifierLoopCount = s.verifierLoopCount :=
      (injectAct_ledger hs').verifierLoopCount hloop
    exact hcache (hsame ▸ hpos)

theorem alike_step {x y : Config InjectNode AgentState} (h : Alike x y) :
    Both Alike ((injectGraph σ).step a x) ((injectGraph σ).step a y) := by
  obtain ⟨node, s⟩ := x
  obtain ⟨node', t⟩ := y
  obtain ⟨hnode, ⟨r, c, hstate, hcache⟩, hcount⟩ := h
  simp only at hnode hstate hcache hcount
  subst hnode hstate
  cases node' with
  | none => trivial
  | some n =>
    have hcount' : n = .verifierTools ∨ n = .finalizeVerification → s.verifierLoopCount ≠ 0 := by
      intro hn
      exact hcount (by simpa using hn)
    obtain ⟨r', c', hact, hnext⟩ :=
      injectAct_alike (σ := σ) (a := a) (r := r) hcache hcount'
    show Both Alike
      ((injectAct σ n a s).map fun s' => ⟨injectEdge σ n a s', s'⟩)
      ((injectAct σ n a (s.withRecord r c)).map fun s' => ⟨injectEdge σ n a s', s'⟩)
    rw [hact]
    cases hs' : injectAct σ n a s with
    | none => trivial
    | some s' =>
      exact ⟨injectEdge_withRecord, ⟨r', c', rfl, hnext s' hs'⟩,
        fun hedge => injectEdge_counted hs' hcount' hedge⟩

/-! ## What a turn reports is of this turn -/

def ShowsInjection (db : CharDb) (messages : List Message) : Prop :=
  ∃ seen, observeInjection db messages = .ok seen ∧ (seen.uid ≠ none ∨ seen.method ≠ none)

def HasInjection (s : AgentState) : Prop := s.bladeUid ≠ "" ∨ s.injectionMethod ≠ none

theorem executeTurn_injectionMethod {r : AIMessage} {text : String} {seen : Sighting}
    (h : (executeTurn σ a s r text seen).injectionMethod ≠ none) :
    s.injectionMethod ≠ none ∨ seen.method ≠ none := by
  by_contra hnone
  simp only [not_or, not_not] at hnone
  obtain ⟨hs, hseen⟩ := hnone
  apply h
  unfold executeTurn
  simp only [recordInjection, hs, hseen]
  split <;> rfl

theorem executeLoop_hasInjection (hstep : executeLoop σ a s = some s') (hs : ¬ HasInjection s)
    (hs' : HasInjection s') : ShowsInjection σ.db s.messages := by
  have hturn : ∀ r text {seen}, observeInjection σ.db s.messages = .ok seen →
      ((executeTurn σ a s r text seen).bladeUid ≠ "" ∨
        (executeTurn σ a s r text seen).injectionMethod ≠ none) →
      ShowsInjection σ.db s.messages := by
    intro r text seen hseen h
    refine ⟨seen, hseen, h.imp ?_ ?_⟩
    · rw [executeTurn_bladeUid]
      intro huid hnone
      rw [hnone] at huid
      exact hs (.inl huid)
    · intro hmethod
      exact (executeTurn_injectionMethod hmethod).resolve_left fun h => hs (.inr h)
  have step := executeLoop_step hstep
  cases step with
  | overrun | zombie => exact absurd hs' hs
  | carryOn _ _ hseen | exhausted _ _ hseen =>
    simp only [HasInjection, markWallClockTimeout_bladeUid,
      markWallClockTimeout_injectionMethod] at hs'
    exact hturn _ _ hseen hs'
  | granted _ _ hseen =>
    simp only [HasInjection, markWallClockTimeout_bladeUid,
      markWallClockTimeout_injectionMethod] at hs'
    refine hturn _ _ hseen (hs'.imp_left ?_)
    -- the uid is cleared when no experiment is live
    simp only [grantReplan]
    split
    · exact fun h => absurd rfl h
    · exact id

/-! ## Continuing turns -/

def SameButOutcome (s t : AgentState) : Prop :=
  t = { s with
    verification := t.verification
    result := t.result
    bladeUid := t.bladeUid
    injectionMethod := t.injectionMethod
    injectLayer1Cache := t.injectLayer1Cache
    reverifyCount := t.reverifyCount }

/-- A checkpoint without an outcome that a later turn would take for its own.
The time budget is never started, since no node stores the start. -/
structure Fresh (σ : Setup) (s : AgentState) : Prop where
  verification : s.verification = .null
  bladeUid : s.bladeUid = ""
  injectionMethod : s.injectionMethod = none
  reverifyCount : s.reverifyCount = 0
  silent : ¬ ShowsInjection σ.db s.messages
  untimed : s.pipelineStartedAt ≤ 0

def continuedStart (request : TurnRequest) (s : AgentState) : Config InjectNode AgentState :=
  injectStart (continuingPayload request s)

def verificationAfter (σ : Setup) (w : Nat → Answer) (c : Config InjectNode AgentState) (k : Nat) :
    Option Json :=
  ((injectGraph σ).run w c k).map fun d => d.state.verification

def VerifiedAt (σ : Setup) (w : Nat → Answer) (c : Config InjectNode AgentState) (j : Nat) : Prop :=
  ∃ x y, (injectGraph σ).run w c j = some x ∧ (injectGraph σ).run w c (j + 1) = some y ∧
    x.state.verification.truthy = false ∧ y.state.verification.truthy = true

def InjectedAt (σ : Setup) (w : Nat → Answer) (c : Config InjectNode AgentState) (j : Nat) : Prop :=
  ∃ x, (injectGraph σ).run w c j = some ⟨some .executeLoop, x⟩ ∧ ShowsInjection σ.db x.messages

theorem Fresh.withRecord (hs : Fresh σ s) (ht : Fresh σ t) (h : SameButOutcome s t) :
    t = s.withRecord t.result t.injectLayer1Cache := by
  unfold SameButOutcome at h
  rw [ht.verification, ht.bladeUid, ht.injectionMethod, ht.reverifyCount, ← hs.verification,
    ← hs.bladeUid, ← hs.injectionMethod, ← hs.reverifyCount] at h
  exact h

variable (request : TurnRequest)

theorem alike_continuedStart (hs : Fresh σ s) (ht : Fresh σ t)
    (h : SameButOutcome s t) : Alike (continuedStart request s) (continuedStart request t) where
  node := rfl
  state := by
    refine ⟨t.result, t.injectLayer1Cache, ?_, fun hcount => absurd rfl hcount⟩
    exact congrArg (continuingPayload request) (hs.withRecord ht h)
  counted := by rintro (h | h) <;> cases h

theorem runsAlike (hs : Fresh σ s) (ht : Fresh σ t)
    (h : SameButOutcome s t) (w : Nat → Answer) (k : Nat) :
    (injectGraph σ).nodeAt w (continuedStart request t) k =
        (injectGraph σ).nodeAt w (continuedStart request s) k ∧
      verificationAfter σ w (continuedStart request t) k =
        verificationAfter σ w (continuedStart request s) k := by
  have hrel := run_rel (g := injectGraph σ) (w := w) Alike (fun _ _ _ => alike_step)
    (alike_continuedStart request hs ht h) k
  unfold nodeAt verificationAfter
  revert hrel
  cases (injectGraph σ).run w (continuedStart request s) k with
  | none =>
    cases (injectGraph σ).run w (continuedStart request t) k with
    | none => exact fun _ => ⟨rfl, rfl⟩
    | some y => exact False.elim
  | some x =>
    cases (injectGraph σ).run w (continuedStart request t) k with
    | none => exact False.elim
    | some y =>
      rintro ⟨hnode, ⟨r, c, hstate, -⟩, -⟩
      refine ⟨hnode, ?_⟩
      simp [hstate]

theorem verifiedAt_of_done (hs : Fresh σ s) {x y : AgentState}
    (hrun : (injectGraph σ).run w (continuedStart request s) k = some ⟨some .verifierLoop, x⟩)
    (hact : verifierLoop σ (w k) x = some y)
    (hdone : shouldContinueVerifier σ.settings (w k).nowRoute y = .done) :
    ∃ j ≤ k, VerifiedAt σ w (continuedStart request s) j := by
  have hnext := run_succ_of_act hrun hact
  have hwall : wallClockExceeded σ.settings (w k).nowRoute y = false := by
    have huntimed : y.pipelineStartedAt ≤ 0 := by
      rw [(injectRun_entry hnext).pipelineStartedAt]
      exact hs.untimed
    simp [wallClockExceeded, huntimed]
  have hverified : y.verification.truthy = true := by
    by_contra hnot
    simp only [shouldContinueVerifier, hnot, hwall, Bool.false_eq_true, if_false] at hdone
    split at hdone
    · cases hdone
    split at hdone
    · cases hdone
    split at hdone <;> cases hdone
  have hstart : ¬ (continuedStart request s).state.verification.truthy = true := by
    show ¬ s.verification.truthy = true
    rw [hs.verification]
    simp [Json.truthy]
  obtain ⟨j, hj, x', y', hx, hy, hxv, hyv⟩ :=
    run_becomes (fun s => s.verification.truthy = true) hnext hstart hverified
  exact ⟨j, by omega, x', y', hx, hy, by simpa using hxv, hyv⟩

theorem isOver_of_isOver {i : Nat} (hik : i ≤ k) {c ci ck : Config InjectNode AgentState}
    (hi : (injectGraph σ).run w c i = some ci) (hk : (injectGraph σ).run w c k = some ck)
    (h : isOver ci.node = true) : isOver ck.node = true := by
  refine run_inv_from (fun c => isOver c.node = true) ?_ hik hi hk h
  intro a c₁ c₂ h₁ hstep
  obtain ⟨n, s, hn, -, rfl⟩ := step_eq_some.mp hstep
  rw [hn] at h₁
  exact injectEdge_windsDown h₁

theorem injectedAt_of_verifier (hs : Fresh σ s) {x y : AgentState}
    (hrun : (injectGraph σ).run w (continuedStart request s) k = some ⟨some .executeLoop, x⟩)
    (hact : executeLoop σ (w k) x = some y)
    (hroute : shouldContinueExecuteLoop σ.settings (w k).nowRoute y = .verifier) :
    ∃ j ≤ k, InjectedAt σ w (continuedStart request s) j := by
  have hnext := run_succ_of_act hrun hact
  have hstart : ¬ HasInjection (continuedStart request s).state := by
    rintro (h | h)
    · exact h hs.bladeUid
    · exact h hs.injectionMethod
  obtain ⟨j, hj, ⟨o, x'⟩, ⟨o', y'⟩, hx, hy, hno, hyes⟩ :=
    run_becomes HasInjection hnext hstart (recorded_of_verifier hroute)
  obtain ⟨n, x'', hx', hact', hedge⟩ := injectRun_pred hy
  cases hx.symm.trans hx'
  by_cases hexec : n = .executeLoop
  · subst hexec
    exact ⟨j, by omega, x', hx, executeLoop_hasInjection hact' hno hyes⟩
  by_cases hover : n = .directExecute ∨ n = .recoverHandler
  · -- these two only lead to the end of the run, away from the execution
    have hend : isOver o' = true := by
      rw [← hedge]
      rcases hover with rfl | rfl
      · simp only [injectEdge]
        cases routeAfterDirectExecute y' <;> rfl
      · rfl
    have hjk : j ≠ k := by
      rintro rfl
      rw [hrun] at hx
      cases hx
      exact hexec rfl
    have := isOver_of_isOver (show j + 1 ≤ k by omega) hy hrun hend
    cases this
  · simp only [not_or] at hover
    obtain ⟨huid, hmethod⟩ := (injectAct_ledger hact').injection hexec hover.1 hover.2
    have huid : y'.bladeUid = x'.bladeUid := huid
    have hmethod : y'.injectionMethod = x'.injectionMethod := hmethod
    simp only [HasInjection, huid, hmethod] at hyes
    exact absurd hyes hno

/-- A continuing turn does not inherit the outcome of an earlier one if the
checkpoint is fresh but for `result` and `inject_layer1_cache`: it makes the
same visits and comes to the same verification whatever these two hold, the
verifier is done only with a verification of this turn, and the execution goes
to the verifier only for an injection the conversation did not show before. -/
theorem continuingTurn_forgets_outcome (request : TurnRequest) (hs : Fresh σ s) (ht : Fresh σ t)
    (h : SameButOutcome s t) (w : Nat → Answer) :
    (∀ k, (injectGraph σ).nodeAt w (continuedStart request t) k =
        (injectGraph σ).nodeAt w (continuedStart request s) k ∧
      verificationAfter σ w (continuedStart request t) k =
        verificationAfter σ w (continuedStart request s) k) ∧
    (∀ k x y, (injectGraph σ).run w (continuedStart request s) k = some ⟨some .verifierLoop, x⟩ →
      verifierLoop σ (w k) x = some y → shouldContinueVerifier σ.settings (w k).nowRoute y = .done →
        ∃ j ≤ k, VerifiedAt σ w (continuedStart request s) j) ∧
    (∀ k x y, (injectGraph σ).run w (continuedStart request s) k = some ⟨some .executeLoop, x⟩ →
      executeLoop σ (w k) x = some y →
      shouldContinueExecuteLoop σ.settings (w k).nowRoute y = .verifier →
        ¬ ShowsInjection σ.db s.messages ∧
          ∃ j ≤ k, InjectedAt σ w (continuedStart request s) j) := by
  refine ⟨fun k => runsAlike request hs ht h w k, ?_, ?_⟩
  · intro k x y hrun hact hdone
    exact verifiedAt_of_done request hs hrun hact hdone
  · intro k x y hrun hact hroute
    exact ⟨hs.silent, injectedAt_of_verifier request hs hrun hact hroute⟩

def plannedCheckpoint (uid : String) : AgentState where
  interactionMode := "tui"
  planConfirmed := true
  skillName := "k8s-chaos-skills"
  kubeconfig := "config"
  bladeUid := uid
  faultSpec := some
    { ns := "shop", scope := "pod", names := ["cart-0"], bladeTarget := "cpu"
      bladeAction := "fullload" }

def idleAnswer : Answer where
  response := some { content := .str "nothing to do" }

theorem fresh_plannedCheckpoint (r : Json) (c : Option Layer1Result) :
    Fresh {} ((plannedCheckpoint "").withRecord r c) where
  verification := rfl
  bladeUid := rfl
  injectionMethod := rfl
  reverifyCount := rfl
  silent := by
    rintro ⟨seen, hseen, h⟩
    cases hseen
    simp at h
  untimed := Rat.le_refl

/-- A checkpoint with a result and a cache left, next to one without: the visit
with number 5 is to the same node. -/
theorem continuingTurn_forgets_result :
    (injectGraph {}).nodeAt (fun _ => idleAnswer) (continuedStart {}
        ((plannedCheckpoint "").withRecord (.obj [("verified", .bool true)])
          (some { status := .passed }))) 5 =
      (injectGraph {}).nodeAt (fun _ => idleAnswer)
        (continuedStart {} ((plannedCheckpoint "").withRecord .null none)) 5 := by
  have hsame : SameButOutcome ((plannedCheckpoint "").withRecord .null none)
      ((plannedCheckpoint "").withRecord (.obj [("verified", .bool true)])
        (some { status := .passed })) := rfl
  exact ((continuingTurn_forgets_outcome {} (fresh_plannedCheckpoint _ _)
    (fresh_plannedCheckpoint _ _) hsame fun _ => idleAnswer).1 5).1

/-- An old uid sends a turn that injects nothing to the verifier; without it the
turn goes on. -/
theorem continuingTurn_inherits_uid :
    SameButOutcome (plannedCheckpoint "") (plannedCheckpoint "uid-1") ∧
      (injectGraph {}).nodeAt (fun _ => idleAnswer) (continuedStart {} (plannedCheckpoint "")) 5 =
        some .toolScreener ∧ (injectGraph {}).nodeAt (fun _ => idleAnswer)
        (continuedStart {} (plannedCheckpoint "uid-1")) 5 = some .verifierLoop := by
  refine ⟨rfl, ?_, ?_⟩ <;> decide

end ChaosBlade.Server
