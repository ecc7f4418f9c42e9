/-
Server.RecoverGuardTheorems: the guard of
`finalize_recover_verification` against a verdict that nothing was run for.

The guard goes by a flag of the first step of Layer 2, not by what was
run: a verdict is written once the model was asked again.
-/
import ChaosBlade.Server.Recover

namespace ChaosBlade.Server

open Agent ChaosBlade.Graph Nodes Option StateGraph

variable {σ : Setup} {w : Nat → Answer} {s : AgentState}

def Layer2At (σ : Setup) (w : Nat → Answer) (s : AgentState) (i : Nat) : Prop :=
  ∃ x b layer1 r, (recoverGraph σ).run w (recoverStart s) i = some ⟨some .recoverVerifierLoop, x⟩ ∧
    TakesLayer2 σ (w i) x b layer1 r

def FinalizesAt (σ : Setup) (w : Nat → Answer) (s : AgentState) (k : Nat)
    (x y : AgentState) : Prop :=
  (recoverGraph σ).run w (recoverStart s) k = some ⟨some .finalizeRecoverVerification, x⟩ ∧
    finalizeRecoverVerification σ (w k) x = some y

/-- A verdict is written only after a second step of Layer 2, if there was a first one; and a run
that never goes back to Layer 1 is sent back by the guard at most once. -/
structure Guarded (σ : Setup) (w : Nat → Answer) (s : AgentState) : Prop where
  askedAgain : ∀ k x y, FinalizesAt σ w s k x y → y.recoverVerification ≠ x.recoverVerification →
    (∃ i < k, Layer2At σ w s i) →
      ∃ i j, i < j ∧ j < k ∧ Layer2At σ w s i ∧ Layer2At σ w s j
  onlyOnce : MovesForward σ w s → ∀ k k' x x' y y', FinalizesAt σ w s k x y →
    FinalizesAt σ w s k' x' y' → x.recoverLayer2First = true → x'.recoverLayer2First = true → k = k'

theorem first_of_writes {a : Answer} {x y : AgentState}
    (h : finalizeRecoverVerification σ a x = some y)
    (hwrites : y.recoverVerification ≠ x.recoverVerification) : x.recoverLayer2First = false := by
  obtain ⟨layer1, -, h⟩ := bind_eq_some_iff.mp h
  obtain ⟨verdict, -, h⟩ := bind_eq_some_iff.mp h
  cases hfirst : x.recoverLayer2First with
  | false => rfl
  | true =>
    rw [if_pos hfirst] at h
    cases h
    exact absurd rfl hwrites

/-! ## The flag along a run -/

structure Flags (σ : Setup) (w : Nat → Answer) (s : AgentState) (k : Nat)
    (x : AgentState) : Prop where
  fresh : x.layer2ContextAdded = false → x.recoverLayer2First = false ∧ ∀ i < k, ¬ Layer2At σ w s i
  seen : x.layer2ContextAdded = true → ∃ i < k, Layer2At σ w s i ∧
    (x.recoverLayer2First = false → ∃ j < k, i < j ∧ Layer2At σ w s j)

theorem Flags.keep {k : Nat} {x y : AgentState} (h : Flags σ w s k x)
    (hcontext : y.layer2ContextAdded = x.layer2ContextAdded)
    (hfirst : y.recoverLayer2First = x.recoverLayer2First) (hnot : ¬ Layer2At σ w s k) :
    Flags σ w s (k + 1) y := by
  constructor
  · intro hy
    obtain ⟨hflag, hnone⟩ := h.fresh (hcontext ▸ hy)
    refine ⟨hfirst.trans hflag, fun i hi => ?_⟩
    rcases Nat.lt_succ_iff_lt_or_eq.mp hi with hlt | rfl
    · exact hnone i hlt
    · exact hnot
  · intro hy
    obtain ⟨i, hi, hstep, hlater⟩ := h.seen (hcontext ▸ hy)
    refine ⟨i, by omega, hstep, fun hflag => ?_⟩
    obtain ⟨j, hj, hij, hagain⟩ := hlater (hfirst ▸ hflag)
    exact ⟨j, by omega, hij, hagain⟩

theorem Flags.layer2 {k : Nat} {x : AgentState} (h : Flags σ w s k x) (hstep : Layer2At σ w s k)
    (a : Answer) (layer1 : Layer1Result) (r : AIMessage) :
    Flags σ w s (k + 1) (recoverLayer2 a x layer1 r) := by
  refine ⟨fun hy => by simp [recoverLayer2] at hy, fun _ => ?_⟩
  cases hctx : x.layer2ContextAdded with
  | false =>
    refine ⟨k, by omega, hstep, fun hflag => ?_⟩
    simp [recoverLayer2, hctx] at hflag
  | true =>
    obtain ⟨i, hi, hfirst, -⟩ := h.seen hctx
    exact ⟨i, by omega, hfirst, fun _ => ⟨k, by omega, hi, hstep⟩⟩

theorem flags_run (hcontext : s.layer2ContextAdded = false) (hflag : s.recoverLayer2First = false) :
    ∀ {k : Nat} {c : Config RecoverNode AgentState},
      (recoverGraph σ).run w (recoverStart s) k = some c → c.node = none ∨
          Flags σ w s k c.state := by
  intro k
  induction k with
  | zero =>
    intro c h
    cases h
    refine .inr ⟨fun _ => ⟨hflag, fun i hi => by omega⟩, fun h => ?_⟩
    cases hcontext.symm.trans h
  | succ k ih =>
    rintro ⟨o, y⟩ h
    obtain ⟨n, x, hrun, hact, rfl⟩ := run_pred h
    have hflags := (ih hrun).resolve_left (by simp)
    by_cases hloop : n = .recoverVerifierLoop
    · subst hloop
      cases recoverVerifierLoop_pass hact with
      | fails hverdict => exact .inl (recoverEdge_of_verdict hverdict)
      | recovers hb _ hctx _ hfirst =>
        refine .inr (hflags.keep hctx hfirst ?_)
        rintro ⟨x, b, layer1, r, hx, htakes⟩
        obtain rfl := (Config.mk.inj (some.inj (hrun.symm.trans hx))).2
        rcases htakes.reached with rfl | rfl | hphase
        · rcases hb with hb | hb <;> cases htakes.branch.symm.trans hb
        · rcases hb with hb | hb <;> cases htakes.branch.symm.trans hb
        · cases (phase_of_recovers hb).symm.trans hphase
      | verifies htakes => exact .inr (hflags.layer2 ⟨_, _, _, _, hrun, htakes⟩ _ _ _)
    · have hstays := recoverAct_staysPut hloop hact
      refine .inr (hflags.keep hstays.context hstays.first ?_)
      rintro ⟨x, b, layer1, r, hx, -⟩
      have heq := (Config.mk.inj (some.inj (hrun.symm.trans hx))).1
      exact hloop (some.inj heq)

theorem recoverStep_flag {a : Answer} {c c' : Config RecoverNode AgentState}
    (h : c.state.layer2ContextAdded = true ∧ c.state.recoverLayer2First = false)
    (hstep : (recoverGraph σ).step a c = some c') : c'.node = none ∨
      c'.state.layer2ContextAdded = true ∧ c'.state.recoverLayer2First = false := by
  obtain ⟨n, s', hn, hact, rfl⟩ := step_eq_some.mp hstep
  by_cases hloop : n = .recoverVerifierLoop
  · subst hloop
    cases recoverVerifierLoop_pass hact with
    | fails hverdict => exact .inl (recoverEdge_of_verdict hverdict)
    | recovers _ _ hctx _ hfirst => exact .inr ⟨hctx.trans h.1, hfirst.trans h.2⟩
    | verifies _ => exact .inr ⟨rfl, by simp [recoverLayer2, h.1]⟩
  · have hstays := recoverAct_staysPut hloop hact
    exact .inr ⟨hstays.context.trans h.1, hstays.first.trans h.2⟩

theorem no_second_guard (hcontext : s.layer2ContextAdded = false)
    (hflag : s.recoverLayer2First = false)
    (hforward : MovesForward σ w s) {k k' : Nat} {x x' y : AgentState}
        (hk : FinalizesAt σ w s k x y)
    (hfirst : x.recoverLayer2First = true)
    (hk' : (recoverGraph σ).run w (recoverStart s) k' =
        some ⟨some .finalizeRecoverVerification, x'⟩)
    (hlt : k < k') : x'.recoverLayer2First = false := by
  have hflags : Flags σ w s k x := (flags_run hcontext hflag hk.1).resolve_left (by simp)
  have hctx : x.layer2ContextAdded = true := by
    by_contra hne
    cases hfirst.symm.trans (hflags.fresh (by simpa using hne)).1
  obtain ⟨i, hi, ⟨x₀, b, layer1, r, hx₀, htakes⟩, -⟩ := hflags.seen hctx
  have hstays := finalizeRecoverVerification_staysPut hk.2
  have hnext := run_succ_of_act hk.1 hk.2
  -- a run that goes on after the verdict goes on with a pass of the loop
  cases hroute : routeAfterRecoverFinalize y with
  | done =>
    simp only [recoverGraph, recoverEdge, hroute] at hnext
    rcases Nat.lt_or_eq_of_le hlt with hmore | rfl
    · exact absurd hk' (run_ne_of_end hnext hmore)
    · cases hnext.symm.trans hk'
  | loop =>
    simp only [recoverGraph, recoverEdge, hroute] at hnext
    rcases Nat.lt_or_eq_of_le hlt with hmore | rfl
    · obtain ⟨z, hact, hd⟩ := act_of_lt hmore hnext hk'
      refine (run_keeps (fun t => t.layer2ContextAdded = true ∧ t.recoverLayer2First = false)
        (fun _ _ _ hp hs => recoverStep_flag hp hs) hmore hd ?_ hk').2
      cases recoverVerifierLoop_pass hact with
      | fails hverdict => exact .inl (recoverEdge_of_verdict hverdict)
      | recovers hb =>
        rcases hb with hb | hb
        · cases hforward i (k + 1) x₀ y b layer1 r (by omega) hx₀ hnext htakes _ hb
        · cases hforward i (k + 1) x₀ y b layer1 r (by omega) hx₀ hnext htakes _ hb
      | verifies _ =>
        have hy : y.layer2ContextAdded = true := hstays.context.trans hctx
        exact .inr ⟨rfl, by simp [recoverLayer2, hy]⟩
    · cases hnext.symm.trans hk'

/-- What the guard ensures of a run that starts with no step of Layer 2 behind it. -/
theorem recoverGuard_spec (σ : Setup) (w : Nat → Answer) (s : AgentState)
    (hcontext : s.layer2ContextAdded = false) (hflag : s.recoverLayer2First = false) :
    Guarded σ w s where
  askedAgain := by
    rintro k x y hk hwrites ⟨i₀, hi₀, hstep⟩
    have hflags : Flags σ w s k x := (flags_run hcontext hflag hk.1).resolve_left (by simp)
    have hctx : x.layer2ContextAdded = true := by
      by_contra hne
      exact (hflags.fresh (by simpa using hne)).2 i₀ hi₀ hstep
    obtain ⟨i, -, hi, hlater⟩ := hflags.seen hctx
    obtain ⟨j, hj, hij, hagain⟩ := hlater (first_of_writes hk.2 hwrites)
    exact ⟨i, j, hij, hj, hi, hagain⟩
  onlyOnce := by
    intro hforward k k' x x' y y' hk hk' hfirst hfirst'
    rcases Nat.lt_trichotomy k k' with hlt | heq | hlt
    · cases hfirst'.symm.trans (no_second_guard hcontext hflag hforward hk hfirst hk'.1 hlt)
    · exact heq
    · cases hfirst.symm.trans (no_second_guard hcontext hflag hforward hk' hfirst' hk.1 hlt)

def submitting (first : Answer) : Nat → Answer
  | 0 => first
  | _ => { response := some { toolCalls := [⟨"submit_recover_verification",
             .obj [("layer2_status", .str "passed"), ("overall", .str "recovered")], "call-1"⟩] }
           tool := fun _ => some { content := "ok" } }

def lazyWorld : Nat → Answer :=
  submitting { response := some { content := .str "Status: success" } }

def lazyHostWorld : Nat → Answer :=
  submitting { submitting {} 1 with destroy := .ok "success", status := .ok "Destroyed" }

def isGuardMessage : Message → Bool
  | .human text => text == guardText
  | _ => false

def isKubectlResult : Message → Bool
  | .tool m => m.name == "kubectl"
  | _ => false

theorem recoverGuard_lazy : Guarded {} lazyWorld nativeRecovery :=
  recoverGuard_spec {} lazyWorld nativeRecovery rfl rfl

/-- The second verdict is written though no tool but the one that submits it has run, long before
the limit; and after a destroy on the host the guard sends the run back twice. -/
theorem lazy_verdict_written :
    ((recoverGraph {}).run lazyWorld (recoverStart nativeRecovery) 8).any (fun c =>
      decide (c.node = none ∧ c.state.recoverVerification.truthy = true ∧
        c.state.verifierLoopCount < ({} : Setup).settings.maxRecoverVerifierLoop ∧
        (c.state.messages.drop nativeRecovery.messages.length).any isKubectlResult = false)) =
            true ∧
    ((recoverGraph {}).run lazyHostWorld (recoverStart hostRecovery) 6).any (fun c =>
      decide (c.node = some .recoverVerifierLoop ∧
        c.state.messages.countP isGuardMessage = 2)) = true := by decide +kernel

end ChaosBlade.Server
