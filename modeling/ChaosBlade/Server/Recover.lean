/-
Server.Recover: the requests that start a recovery:
`server/routes/recover.py`, and `recover` of `cli/runner.py`, which is
meant to do the same; and what holds of a recovery whatever request
started it.

Both merge a payload into the checkpoint of the injection's thread and run
the recover graph on it. Every key a payload omits keeps its value, and
the empty list of messages it writes removes none. The payload of the
command line resets three fields more. Keys that no modelled node reads
are left out.

The route of the first pass is read off the messages, not off the
injection method on record, and a recovery from a turn of a conversation
has no messages.
-/
import ChaosBlade.Agent.RecoverGraph
import ChaosBlade.Server.Turn
import Mathlib.Tactic.Linarith

namespace ChaosBlade.Server

open Py Agent Nodes ChaosBlade.Graph List Option StateGraph

/-- The state a `POST /recover` starts with, from the checkpoint; `contextOf` is
`build_inject_context`. -/
def postRecover (contextOf : List Message → String) (recordId : String) (s : AgentState) :
    AgentState :=
  { s with
    taskId := recordId
    injectContext := contextOf s.messages
    verifierLoopCount := 0
    verification := .null
    recoverVerification := .null
    injectLayer1Cache := none
    recoverLayer1Cache := none }

def cliRecover (contextOf : List Message → String) (recordId kubeconfig : String)
    (s : AgentState) : AgentState :=
  { postRecover contextOf recordId s with
    kubeconfig := if kubeconfig = "" then s.kubeconfig else kubeconfig
    recoverPhase := .layer1Recovery
    layer1IterationCount := 0
    layer2ContextAdded := false }

/-- The states a recovery starts with: from a turn of a conversation, whose
recovery has a thread of its own, or by one of the two requests. -/
inductive RecoverStart : AgentState → Prop
  | turn {look : Lookup} {paused : Bool} {conversation s : AgentState}
      (h : autoRecover look paused conversation = some s) : RecoverStart s
  | post (contextOf : List Message → String) (recordId : String) (s : AgentState) :
      RecoverStart (postRecover contextOf recordId s)
  | cli (contextOf : List Message → String) (recordId kubeconfig : String) (s : AgentState) :
      RecoverStart (cliRecover contextOf recordId kubeconfig s)

theorem autoRecover_fresh {look : Lookup} {paused : Bool} {conversation s : AgentState}
    (h : autoRecover look paused conversation = some s) :
    s.messages = [] ∧ s.recoverPhase = .layer1Recovery ∧ s.verifierLoopCount = 0 := by
  unfold autoRecover at h
  split at h
  case isFalse => cases h
  case isTrue =>
    split at h
    · cases h
      exact ⟨rfl, rfl, rfl⟩
    · unfold buildRecoverInitialFromStore at h
      split at h
      · cases h
      · split at h
        · cases h
        · cases h
          exact ⟨rfl, rfl, rfl⟩

theorem RecoverStart.count {s : AgentState} (h : RecoverStart s) : s.verifierLoopCount = 0 := by
  cases h with
  | turn h => exact (autoRecover_fresh h).2.2
  | post => rfl
  | cli => rfl

variable {σ : Setup} {w : Nat → Answer} {s : AgentState}

variable {x : AgentState} {n : RecoverNode} {old : List Message}

/-! ## The route of the first pass -/

/-- The first pass destroys the experiment on the host if it was made there, and
does not if it was made inside a pod. -/
def RouteMatchesMethod (σ : Setup) (s : AgentState) : Prop :=
  (s.injectionMethod = some .hostBlade → recoverBranch σ s = .ok .hostDestroy) ∧
  (s.injectionMethod = some .kubectlExec → recoverBranch σ s ≠ .ok .hostDestroy)

def ShowsNoExec (s : AgentState) : Prop :=
  wasKubectlBladeInjectionSuccessful s.messages = .ok false

theorem recoverUid_of_known (h : s.bladeUid ≠ "") : recoverUid σ.db s = .ok s.bladeUid := if_pos h

theorem recoverBranch_hostDestroy_iff (hcount : s.verifierLoopCount = 0) (huid : s.bladeUid ≠ "") :
    recoverBranch σ s = .ok .hostDestroy ↔
      0 < σ.settings.maxRecoverVerifierLoop ∧ s.recoverPhase = .layer1Recovery ∧ ShowsNoExec s := by
  constructor
  · intro h
    obtain ⟨hphase, hmax⟩ := phase_of_isLayer1 h rfl
    have hmax : 0 < σ.settings.maxRecoverVerifierLoop := by omega
    obtain ⟨uid, -, hchoice⟩ := (recoverBranch_first hcount hphase hmax).mp h
    cases hchoice with
    | hostDestroy _ hmethod => exact ⟨hmax, hphase, hmethod⟩
  · rintro ⟨hmax, hphase, hmethod⟩
    exact (recoverBranch_first hcount hphase hmax).mpr
      ⟨s.bladeUid, recoverUid_of_known huid, .hostDestroy huid hmethod⟩

/-- From the start of a recovery with a uid on record, the route matches the recorded method
exactly if a host injection is still in its first phase, within the limit and without a sign of an
exec, and an exec injection is not. -/
theorem recoverRoute_iff (σ : Setup) {s : AgentState} (h : RecoverStart s)
    (huid : s.bladeUid ≠ "") : RouteMatchesMethod σ s ↔
      (s.injectionMethod = some .hostBlade → 0 < σ.settings.maxRecoverVerifierLoop ∧
        s.recoverPhase = .layer1Recovery ∧ ShowsNoExec s) ∧
      (s.injectionMethod = some .kubectlExec → σ.settings.maxRecoverVerifierLoop = 0 ∨
        s.recoverPhase = .layer2Verification ∨ ¬ ShowsNoExec s) := by
  unfold RouteMatchesMethod
  rw [Ne, recoverBranch_hostDestroy_iff h.count huid]
  refine and_congr_right fun _ => imp_congr_right fun _ => ?_
  have hphase : ¬ s.recoverPhase = .layer1Recovery ↔ s.recoverPhase = .layer2Verification := by
    cases s.recoverPhase <;> simp
  rw [not_and_or, not_and_or, hphase, Nat.pos_iff_ne_zero, not_not]

def execConversation : AgentState :=
  { taskId := "turn-000000000002"
    confirmedIntent := some .recover
    recoverTaskId := "task-1"
    bladeUid := "4f3a1c0e9b7d2a65"
    injectionMethod := some .kubectlExec
    messages :=
      [.ai { toolCalls := [⟨"kubectl", .obj [("subcommand", .str "exec"),
            ("v_args", .str "otel-c-tool-1 -n chaosblade -- blade create k8s node-cpu fullload")],
          "call-1"⟩] },
       .tool { content := "\x7b\"code\":200,\"success\":true,\"result\":\"4f3a1c0e9b7d2a65\"\x7d"
               name := "kubectl", toolCallId := "call-1" }] }

def emptyLookup : Lookup := { checkpoint := fun _ => none, record := fun _ => none }

def execRecovery : AgentState :=
  recoverInitial emptyLookup.contextOf execConversation.taskId execConversation

theorem execRecovery_start : autoRecover emptyLookup false execConversation = some execRecovery :=
  rfl

/-- The host is asked to destroy an experiment it cannot see. -/
theorem recoverRoute_exec_on_host : RecoverStart execRecovery ∧ execRecovery.bladeUid ≠ "" ∧
      ¬ RouteMatchesMethod {} execRecovery := by
  refine ⟨.turn execRecovery_start, by decide, fun h => h.2 rfl ?_⟩
  rfl

def hostCheckpoint : AgentState :=
  { bladeUid := "4f3a1c0e9b7d2a65", injectionMethod := some .hostBlade }

theorem recoverRoute_host :
    RouteMatchesMethod {} (postRecover (fun _ => "") "task-2" hostCheckpoint) :=
  (recoverRoute_iff {} (.post _ _ _) (by decide)).mpr
    ⟨fun _ => ⟨by decide, rfl, rfl⟩, fun h => by cases h⟩

/-! ## Phases -/

def MovesForward (σ : Setup) (w : Nat → Answer) (s : AgentState) : Prop :=
  ∀ i j x y b layer1 r, i < j →
    (recoverGraph σ).run w (recoverStart s) i = some ⟨some .recoverVerifierLoop, x⟩ →
    (recoverGraph σ).run w (recoverStart s) j = some ⟨some .recoverVerifierLoop, y⟩ →
    TakesLayer2 σ (w i) x b layer1 r →
    ∀ b', recoverBranch σ y = .ok b' → b'.isLayer1 = false

/-- Layer 1 is left to the model, or fails at once: there is no experiment to
destroy on the host, and something is known about the injection. -/
def LeftToModel (σ : Setup) (s : AgentState) : Prop :=
  ∀ uid, recoverUid σ.db s = .ok uid →
    (uid ≠ "" → ¬ ShowsNoExec s) ∧
    (uid = "" → s.injectContext ≠ "" ∨ wasBladeCreateAttempted s.messages ≠ .ok false)

theorem recoverStep_phase {a : Answer} {c c' : Config RecoverNode AgentState}
    (h : c.state.recoverPhase = .layer2Verification) (hstep : (recoverGraph σ).step a c = some c') :
    c'.node = none ∨ c'.state.recoverPhase = .layer2Verification := by
  obtain ⟨n, s', hn, hact, rfl⟩ := step_eq_some.mp hstep
  by_cases hloop : n = .recoverVerifierLoop
  · subst hloop
    cases recoverVerifierLoop_pass hact with
    | fails hverdict => exact .inl (recoverEdge_of_verdict hverdict)
    | recovers hb => cases (phase_of_recovers hb).symm.trans h
    | verifies _ => exact .inr h
  · exact .inr ((recoverAct_staysPut hloop hact).phase.trans h)

theorem recoverStep_count {a : Answer} {c c' : Config RecoverNode AgentState}
    (hstep : (recoverGraph σ).step a c = some c') :
    c'.node = none ∨ c.state.verifierLoopCount ≤ c'.state.verifierLoopCount ∧
      (c.node = some .recoverVerifierLoop →
        c.state.verifierLoopCount < c'.state.verifierLoopCount) := by
  obtain ⟨n, s', hn, hact, rfl⟩ := step_eq_some.mp hstep
  by_cases hloop : n = .recoverVerifierLoop
  · subst hloop
    cases recoverVerifierLoop_pass hact with
    | fails hverdict => exact .inl (recoverEdge_of_verdict hverdict)
    | recovers _ hcount =>
      right
      simp only [hcount]
      omega
    | verifies _ =>
      right
      simp only [recoverLayer2]
      omega
  · have := (recoverAct_staysPut hloop hact).count
    right
    simp only [this, hn, some.injEq, hloop, false_implies, and_true]
    exact le_rfl

theorem recoverRun_count {i j : Nat} (hij : i < j) {y : AgentState}
    (hi : (recoverGraph σ).run w (recoverStart s) i = some ⟨some .recoverVerifierLoop, x⟩)
    (hj : (recoverGraph σ).run w (recoverStart s) j = some ⟨some n, y⟩) :
    x.verifierLoopCount < y.verifierLoopCount := by
  obtain ⟨c, hc⟩ := run_before hij hj
  obtain ⟨d, hd, hstep⟩ := run_succ_eq_some.mp hc
  obtain rfl := some.inj (hi.symm.trans hd)
  have hfirst : c.node = none ∨ x.verifierLoopCount < c.state.verifierLoopCount :=
    (recoverStep_count hstep).imp_right fun h => h.2 rfl
  refine run_keeps (fun t => x.verifierLoopCount < t.verifierLoopCount) ?_ hij hc
    hfirst hj
  intro a d d' hlt hs
  exact (recoverStep_count hs).imp_right fun h => lt_of_lt_of_le hlt h.1

theorem first_of_count_eq_zero {i : Nat}
    (hi : (recoverGraph σ).run w (recoverStart s) i = some ⟨some n, x⟩)
    (hcount : x.verifierLoopCount = 0) : x = s := by
  rcases Nat.eq_zero_or_pos i with rfl | hpos
  · cases hi
    rfl
  · have := recoverRun_count hpos run_zero hi
    omega

theorem layer2_in_second_phase (hleft : LeftToModel σ s) {i : Nat}
    (hi : (recoverGraph σ).run w (recoverStart s) i = some ⟨some .recoverVerifierLoop, x⟩)
    {b : RecoverBranch} {layer1 : Layer1Result} {r : AIMessage}
    (h : TakesLayer2 σ (w i) x b layer1 r) : x.recoverPhase = .layer2Verification := by
  by_contra hphase
  -- otherwise this is the first pass, and the choice it makes is ruled out
  have hb : b = .hostDestroy ∨ b = .noContext := by
    rcases h.reached with hb | hb | hlayer2
    · exact .inl hb
    · exact .inr hb
    · exact absurd hlayer2 hphase
  have hlayer1 : b.isLayer1 = true := by rcases hb with rfl | rfl <;> rfl
  obtain ⟨hphase, hmax⟩ := phase_of_isLayer1 h.branch hlayer1
  have hcount : x.verifierLoopCount = 0 := by
    by_contra hne
    rcases recoverBranch_of_later hphase hne h.branch with rfl | rfl <;> simp at hb
  obtain rfl := first_of_count_eq_zero hi hcount
  obtain ⟨uid, huid, hchoice⟩ :=
    (recoverBranch_first hcount hphase (Nat.zero_lt_of_lt hmax)).mp h.branch
  obtain ⟨hknown, hunknown⟩ := hleft uid huid
  cases hchoice with
  | hostDestroy hne hshows => exact hknown hne hshows
  | noContext heq hatt hsilent =>
    rcases hunknown heq with hctx | hne
    · exact hctx hsilent
    · exact hne hatt
  | uidMissing => simp at hb
  | startRecovery => simp at hb

/-- A recovery moves forward, whatever request started it, if Layer 1 is left to the
model or done at the start, or if there is only one pass. -/
theorem recoverRun_movesForward (σ : Setup) {s : AgentState}
    (hcond : σ.settings.maxRecoverVerifierLoop ≤ 1 ∨ s.recoverPhase = .layer2Verification ∨
      LeftToModel σ s) (w : Nat → Answer) : MovesForward σ w s := by
  intro i j x y b layer1 r hij hi hj hlayer2 b' hb'
  by_contra hb
  obtain ⟨hphase, hcount⟩ := phase_of_isLayer1 hb' (by simpa using hb)
  rcases hcond with hmax | hcond
  · have := recoverRun_count hij hi hj
    omega
  · -- the second phase is reached by now, and kept
    have hx : x.recoverPhase = .layer2Verification := by
      rcases hcond with hstart | hleft
      · exact run_keeps (fun t => t.recoverPhase = .layer2Verification)
          (fun _ _ _ hp hs => recoverStep_phase hp hs) (Nat.zero_le i) run_zero
          (.inr hstart) hi
      · exact layer2_in_second_phase hleft hi hlayer2
    have hy := run_keeps (fun t => t.recoverPhase = .layer2Verification)
      (fun _ _ _ hp hs => recoverStep_phase hp hs) hij.le hi (.inr hx) hj
    cases hphase.symm.trans hy

def nativeCheckpoint : AgentState :=
  { injectionMethod := some .kubectlNative
    messages :=
      [.ai { toolCalls := [⟨"kubectl",
          .obj [("subcommand", .str "scale"), ("v_args", .str "deploy/web --replicas=0")],
          "call-1"⟩] },
       .tool
        { content := "deployment.apps/web scaled", name := "kubectl", toolCallId := "call-1" }] }

def nativeRecovery : AgentState :=
  postRecover (fun _ => "deploy/web was scaled to 0") "task-2" nativeCheckpoint

theorem recoverUid_nativeRecovery : recoverUid asciiDb nativeRecovery = .ok "" := by decide

def hostRecovery : AgentState := postRecover (fun _ => "") "task-2" hostCheckpoint

def hostWorld : Nat → Answer
  | 0 => { destroy := .ok "success", status := .ok "Destroyed"
           response := some { toolCalls :=
             [⟨"kubectl", .obj [("subcommand", .str "get"), ("v_args", .str "pods")], "call-1"⟩] } }
  | _ => { tool := fun _ => some { content := "web-1 Running" } }

theorem recoverRun_movesForward_native : MovesForward {} hostWorld nativeRecovery := by
  refine recoverRun_movesForward {} (.inr (.inr fun uid huid => ?_)) hostWorld
  obtain rfl := Except.ok.inj (recoverUid_nativeRecovery.symm.trans huid)
  exact ⟨fun h => absurd rfl h, fun _ => .inl (by decide)⟩

/-- The pass after that is asked to execute the recovery once more. -/
theorem not_movesForward_host :
    RecoverStart hostRecovery ∧ ¬ MovesForward {} hostWorld hostRecovery := by
  refine ⟨.post _ _ _, fun h => ?_⟩
  have hlater : ((recoverGraph {}).run hostWorld (recoverStart hostRecovery) 2).any (fun c =>
      decide (c.node = some .recoverVerifierLoop ∧
        recoverBranch {} c.state = .ok .goOnRecovery)) = true := by decide +kernel
  simp only [Option.any_eq_true, decide_eq_true_eq] at hlater
  obtain ⟨⟨_, y⟩, hrun, rfl, hb⟩ := hlater
  have hfirst : TakesLayer2 {} (hostWorld 0) hostRecovery .hostDestroy
      (runRecoverLayer1 (.ok "success") (.ok "Destroyed"))
      { toolCalls :=
          [⟨"kubectl", .obj [("subcommand", .str "get"), ("v_args", .str "pods")], "call-1"⟩] } :=
    ⟨rfl, ⟨hostCheckpoint.bladeUid, rfl⟩, by decide +kernel, rfl⟩
  cases h 0 2 hostRecovery y _ _ _ (by decide) rfl hrun hfirst _ hb

/-! ## A second attempt -/

def verdictReads (messages : List Message) : VerdictSource × Bool :=
  (verdictSource messages, phraseInMessages messages retryMarker)

def BuildsContext (σ : Setup) (w : Nat → Answer) (s : AgentState) (i : Nat) : Prop :=
  ∃ x y, (recoverGraph σ).run w (recoverStart s) i = some ⟨some .recoverVerifierLoop, x⟩ ∧
    (recoverGraph σ).run w (recoverStart s) (i + 1) = some y ∧
    x.layer2ContextAdded = false ∧ y.state.layer2ContextAdded = true

structure StartsFresh (σ : Setup) (s : AgentState) : Prop where
  /-- The first pass sees to Layer 1. -/
  layer1 : ∃ b, recoverBranch σ s = .ok b ∧ b.isLayer1 = true
  /-- A verdict after Layer 2 follows a context this run has built. -/
  context : ∀ w k x, (recoverGraph σ).run w (recoverStart s) k =
    some ⟨some .finalizeRecoverVerification, x⟩ → x.layer2ContextAdded = true →
      ∃ i < k, BuildsContext σ w s i
  /-- Whatever messages the run adds, the verdict reads those alone. -/
  verdict : ∀ added, verdictReads (s.messages ++ added) = verdictReads added

/-! ### The messages -/

theorem lastRound_append (old added : List Message) : lastRound (old ++ added) =
      if added.any startsRound then lastRound added else lastRound old ++ added := by
  unfold lastRound
  rw [reverse_append, takeWhile_append]
  by_cases h : added.any startsRound
  · rw [if_pos h, if_neg]
    obtain ⟨m, hm, hstarts⟩ := List.any_eq_true.mp h
    intro hlength
    have hall := List.takeWhile_eq_self_iff.mp
      ((takeWhile_sublist _).eq_of_length hlength) m (List.mem_reverse.mpr hm)
    simp [hstarts] at hall
  · have hall : ∀ m ∈ added, startsRound m = false := by simpa using h
    have hself : added.reverse.takeWhile (fun m => !startsRound m) = added.reverse :=
      List.takeWhile_eq_self_iff.mpr fun m hm => by simp [hall m (List.mem_reverse.mp hm)]
    rw [if_neg h, hself, if_pos rfl, reverse_append, reverse_reverse]

theorem extractRecoverSubmitArgs_append (added : List Message)
    (h : extractRecoverSubmitArgs old = none) :
    extractRecoverSubmitArgs (old ++ added) = extractRecoverSubmitArgs added := by
  unfold extractRecoverSubmitArgs at h ⊢
  rw [lastRound_append]
  split
  · rfl
  · rename_i hround
    have hself : lastRound added = added := by
      have := lastRound_append [] added
      rwa [nil_append, if_neg hround] at this
    rw [reverse_append, List.findSome?_append, h, or_none, hself]

theorem lastAiText_append (added : List Message) (h : lastAiText old = "") :
    lastAiText (old ++ added) = lastAiText added := by
  unfold lastAiText at h ⊢
  rw [reverse_append, List.findSome?_append]
  cases added.reverse.findSome? aiText with
  | none => simpa using h
  | some text => rfl

structure Silent (messages : List Message) : Prop where
  noArgs : extractRecoverSubmitArgs messages = none
  noText : lastAiText messages = ""
  noRetry : phraseInMessages messages retryMarker = false

theorem verdictReads_append (h : Silent old) (added : List Message) :
    verdictReads (old ++ added) = verdictReads added := by
  unfold verdictReads verdictSource
  rw [extractRecoverSubmitArgs_append added h.noArgs, lastAiText_append added h.noText]
  have hretry : phraseInMessages (old ++ added) retryMarker =
      phraseInMessages added retryMarker := by
    have := h.noRetry
    unfold phraseInMessages at this ⊢
    rw [any_append, this, Bool.false_or]
  rw [hretry]

theorem verdictReads_append_iff (old : List Message) :
    (∀ added, verdictReads (old ++ added) = verdictReads added) ↔ Silent old := by
  refine ⟨fun h => ?_, fun h added => verdictReads_append h added⟩
  have hnil := h []
  rw [append_nil, verdictReads, verdictReads, Prod.mk.injEq] at hnil
  obtain ⟨hsource, hretry⟩ := hnil
  cases hargs : extractRecoverSubmitArgs old with
  | some args =>
    rw [verdictSource, hargs] at hsource
    cases hsource
  | none =>
    rw [verdictSource, hargs] at hsource
    exact ⟨hargs, VerdictSource.text.inj hsource, hretry⟩

/-! ### The first pass -/

def Readable (db : CharDb) (s : AgentState) : Prop :=
  ∃ uid, recoverUid db s = .ok uid ∧
    (uid ≠ "" ∧ ShowsNoExec s ∨ Returns (wasBladeCreateAttempted s.messages))

def LostUid (db : CharDb) (s : AgentState) : Prop :=
  recoverUid db s = .ok "" ∧ wasBladeCreateAttempted s.messages = .ok true

theorem layer1_first_iff (hcount : s.verifierLoopCount = 0) :
    (∃ b, recoverBranch σ s = .ok b ∧ b.isLayer1 = true) ↔
      0 < σ.settings.maxRecoverVerifierLoop ∧ s.recoverPhase = .layer1Recovery ∧
        Readable σ.db s := by
  constructor
  · rintro ⟨b, h, hb⟩
    obtain ⟨hphase, hmax⟩ := phase_of_isLayer1 h hb
    have hmax : 0 < σ.settings.maxRecoverVerifierLoop := by omega
    obtain ⟨uid, huid, hchoice⟩ := (recoverBranch_first hcount hphase hmax).mp h
    refine ⟨hmax, hphase, uid, huid, ?_⟩
    cases hchoice with
    | hostDestroy hne hk => exact .inl ⟨hne, hk⟩
    | uidMissing _ hatt | noContext _ hatt _ | startRecovery hatt _ => exact .inr ⟨_, hatt⟩
  · rintro ⟨hmax, hphase, uid, huid, hreads⟩
    obtain ⟨b, hchoice⟩ : ∃ b, FirstChoice uid s b := by
      rcases hreads with ⟨hne, hk⟩ | ⟨attempted, hatt⟩
      · exact ⟨_, .hostDestroy hne hk⟩
      · exact exists_firstChoice uid hatt
    exact ⟨b, (recoverBranch_first hcount hphase hmax).mpr ⟨uid, huid, hchoice⟩, hchoice.isLayer1⟩

/-! ### The context of Layer 2 -/

theorem buildsContext_of_unset (h : s.layer2ContextAdded = false) {k : Nat}
    {c : Config RecoverNode AgentState} (hk : (recoverGraph σ).run w (recoverStart s) k = some c)
    (hc : c.state.layer2ContextAdded = true) : ∃ i < k, BuildsContext σ w s i := by
  obtain ⟨i, hi, x, ⟨o, y⟩, hx, hy, hunset, hset⟩ :=
    run_becomes (fun t => t.layer2ContextAdded = true) hk
      (show ¬ s.layer2ContextAdded = true by simp [h]) hc
  obtain ⟨n, x', hx', hact, rfl⟩ := run_pred hy
  cases hx.symm.trans hx'
  by_cases hloop : n = .recoverVerifierLoop
  · subst hloop
    exact ⟨i, hi, x', _, hx, hy, by simpa using hunset, hset⟩
  · exact absurd ((recoverAct_staysPut hloop hact).context.symm.trans hset) hunset

theorem recoverRun_of_lostUid (hb : recoverBranch σ s = .ok .uidMissing) {k : Nat}
    (hk : (recoverGraph σ).run w (recoverStart s) k = some ⟨some n, x⟩) : k = 0 := by
  by_contra hne
  obtain ⟨s', hact, hc⟩ := act_of_lt (Nat.pos_of_ne_zero hne) run_zero hk
  have hover : recoverEdge σ .recoverVerifierLoop (w 0) s' = none := by
    cases recoverVerifierLoop_pass hact with
    | fails hverdict => exact recoverEdge_of_verdict hverdict
    | recovers hb' => rcases hb' with hb' | hb' <;> cases hb.symm.trans hb'
    | verifies h =>
      obtain rfl := Except.ok.inj (h.branch.symm.trans hb)
      rcases h.reached with hb' | hb' | hphase
      · cases hb'
      · cases hb'
      · cases (phase_of_isLayer1 hb rfl).1.symm.trans hphase
  exact run_keeps (fun _ => False) (fun _ _ _ h => h.elim)
    (Nat.one_le_iff_ne_zero.mpr hne) hc (.inl hover) hk

def concluding : Answer :=
  { destroy := .ok "success", status := .ok "Destroyed", response := some {} }

theorem recoverVerifierLoop_concludes {b : RecoverBranch} (hb : recoverBranch σ s = .ok b)
    (hfirst : b = .hostDestroy ∨ b = .noContext ∨ b = .startRecovery)
    (hcontext : s.layer2ContextAdded = true) : ∃ y, recoverVerifierLoop σ concluding s = some y ∧
      y.recoverVerification = s.recoverVerification ∧ y.layer2ContextAdded = true ∧
      y.messages.getLast? = some (.ai {}) := by
  obtain ⟨uid, huid, -⟩ := recoverBranch_eq_ok.mp hb
  rcases hfirst with rfl | rfl | rfl
  · have hgoes : (runRecoverLayer1 concluding.destroy concluding.status).isTerminal = false := by
      decide +kernel
    exact ⟨_, recoverVerifierLoop_of_proceed huid hb rfl hgoes rfl, rfl, rfl,
      by simp [recoverLayer2]⟩
  · exact ⟨_, recoverVerifierLoop_of_proceed huid hb rfl rfl rfl, rfl, rfl, by simp [recoverLayer2]⟩
  · have hgoes : (parseLayer1RecoveryResult "").isTerminal = false := by decide
    have hstart : recoverLayer1 σ concluding s uid .startRecovery =
        some (.leave (toLayer2 { s with
          verifierLoopCount := s.verifierLoopCount + 1
          layer1IterationCount := 1
          recoverLayer1Cache := some (.result (parseLayer1RecoveryResult ""))
          messages := s.messages ++ [] ++ [.ai {}] })) :=
      congrArg (fun next => some (Layer1Step.leave next)) (if_neg (by simp [hgoes]))
    exact ⟨_, recoverVerifierLoop_of_leave huid hb hstart, rfl, hcontext, by simp [toLayer2]⟩

theorem wallClockExceeded_zero (settings : Settings) (s : AgentState) :
    wallClockExceeded settings 0 s = false := by
  unfold wallClockExceeded
  split
  · rfl
  · split
    · rfl
    · rename_i hbudget hstarted
      have : (0 : Rat) < settings.maxInjectSeconds := by exact_mod_cast not_le.mp hbudget
      rw [decide_eq_false_iff_not]
      linarith

theorem recoverEdge_concludes (hverdict : s.recoverVerification.truthy = false)
    (hcontext : s.layer2ContextAdded = true) (hlast : s.messages.getLast? = some (.ai {})) :
    recoverEdge σ .recoverVerifierLoop concluding s = some .finalizeRecoverVerification := by
  have hroute : shouldContinueRecoverVerifier σ.settings concluding.nowRoute s = .finalize := by
    have hcalls : s.lastHasToolCalls = false := by
      simp [AgentState.lastHasToolCalls, AgentState.pendingTurn, hlast]
    have hai : s.lastIsAi = true := by simp [AgentState.lastIsAi, hlast]
    have hclock : wallClockExceeded σ.settings concluding.nowRoute s = false :=
      wallClockExceeded_zero _ _
    simp [shouldContinueRecoverVerifier, hverdict, hclock, hcalls, hai, hcontext]
  simp [recoverEdge, hroute, recoverLoopEdge]

theorem context_iff (hcount : s.verifierLoopCount = 0)
    (hverdict : s.recoverVerification.truthy = false)
    (hmax : 0 < σ.settings.maxRecoverVerifierLoop) (hphase : s.recoverPhase = .layer1Recovery)
    (hreads : Readable σ.db s) : (∀ w k x, (recoverGraph σ).run w (recoverStart s) k =
      some ⟨some .finalizeRecoverVerification, x⟩ → x.layer2ContextAdded = true →
        ∃ i < k, BuildsContext σ w s i) ↔ s.layer2ContextAdded = false ∨ LostUid σ.db s := by
  have hbranch := fun b => recoverBranch_first (b := b) hcount hphase hmax
  constructor
  · intro h
    by_contra hnot
    obtain ⟨hset, hknown⟩ := not_or.mp hnot
    have hset : s.layer2ContextAdded = true := by simpa using hset
    obtain ⟨b, hb, -⟩ := (layer1_first_iff hcount).mpr ⟨hmax, hphase, hreads⟩
    obtain ⟨uid, huid, hchoice⟩ := (hbranch b).mp hb
    have hfirst : b = .hostDestroy ∨ b = .noContext ∨ b = .startRecovery := by
      cases hchoice with
      | hostDestroy => exact .inl rfl
      | noContext => exact .inr (.inl rfl)
      | startRecovery => exact .inr (.inr rfl)
      | uidMissing heq hatt => exact absurd ⟨heq ▸ huid, hatt⟩ hknown
    obtain ⟨y, hact, hkept, hcontext, hlast⟩ := recoverVerifierLoop_concludes hb hfirst hset
    have hvisit : (recoverGraph σ).act .recoverVerifierLoop concluding s = some y := hact
    have hedge : (recoverGraph σ).edge .recoverVerifierLoop concluding y =
        some .finalizeRecoverVerification :=
      recoverEdge_concludes (by rw [hkept]; exact hverdict) hcontext hlast
    have hrun : (recoverGraph σ).run (fun _ => concluding) (recoverStart s) 1 =
        some ⟨some .finalizeRecoverVerification, y⟩ := by
      rw [run_succ, run_zero, bind_some, recoverStart, step_of_act hvisit, hedge]
    obtain ⟨i, hi, x, -, hx, -, hunset, -⟩ := h _ 1 y hrun hcontext
    obtain rfl : i = 0 := by omega
    obtain rfl : s = x := by simpa [recoverStart] using hx
    cases hset.symm.trans hunset
  · rintro (hunset | ⟨huid, hatt⟩) w k x hk hx
    · exact buildsContext_of_unset hunset hk hx
    · have hb := (hbranch .uidMissing).mpr ⟨"", huid, .uidMissing rfl hatt⟩
      obtain rfl := recoverRun_of_lostUid hb hk
      cases hk

theorem startsFresh_iff (hcount : s.verifierLoopCount = 0)
    (hverdict : s.recoverVerification.truthy = false) :
    StartsFresh σ s ↔ 0 < σ.settings.maxRecoverVerifierLoop ∧
      s.recoverPhase = .layer1Recovery ∧ Readable σ.db s ∧
      (s.layer2ContextAdded = false ∨ LostUid σ.db s) ∧ Silent s.messages := by
  constructor
  · intro h
    obtain ⟨hmax, hphase, hreads⟩ := (layer1_first_iff hcount).mp h.layer1
    exact ⟨hmax, hphase, hreads, (context_iff hcount hverdict hmax hphase hreads).mp h.context,
      (verdictReads_append_iff _).mp h.verdict⟩
  · rintro ⟨hmax, hphase, hreads, hcontext, hsilent⟩
    exact ⟨(layer1_first_iff hcount).mpr ⟨hmax, hphase, hreads⟩,
      (context_iff hcount hverdict hmax hphase hreads).mpr hcontext,
      (verdictReads_append_iff _).mpr hsilent⟩

/-- What a checkpoint must be like for a request to start fresh on it. The request
over the network forgets to reset the phase and the context of Layer 2, and
both leave the messages. -/
theorem recover_startsFresh_iff (σ : Setup) (contextOf : List Message → String)
    (recordId kubeconfig : String) (s : AgentState) :
    (StartsFresh σ (postRecover contextOf recordId s) ↔
      0 < σ.settings.maxRecoverVerifierLoop ∧ s.recoverPhase = .layer1Recovery ∧
        Readable σ.db s ∧ (s.layer2ContextAdded = false ∨ LostUid σ.db s) ∧ Silent s.messages) ∧
    (StartsFresh σ (cliRecover contextOf recordId kubeconfig s) ↔
      0 < σ.settings.maxRecoverVerifierLoop ∧ Readable σ.db s ∧ Silent s.messages) := by
  constructor
  · exact startsFresh_iff rfl rfl
  · rw [startsFresh_iff rfl rfl]
    constructor
    · rintro ⟨hmax, -, hreads, -, hsilent⟩
      exact ⟨hmax, hreads, hsilent⟩
    · rintro ⟨hmax, hreads, hsilent⟩
      exact ⟨hmax, rfl, hreads, .inl rfl, hsilent⟩

def firstAttempt : Nat → Answer
  | 0 => { response := some { content := .str "Status: success" } }
  | 2 => { response := some { toolCalls :=
             [⟨"kubectl", .obj [("subcommand", .str "get"), ("v_args", .str "pods")], "call-2"⟩] } }
  | 4 => { response := some { toolCalls :=
             [⟨"submit_recover_verification",
               .obj [("layer2_status", .str "passed"), ("overall", .str "recovered")],
               "call-3"⟩] } }
  | _ => { tool := fun _ => some { content := "ok" } }

/-- A second request after that goes straight to Layer 2, and either request would
find the verdict of the first attempt. -/
theorem not_startsFresh_second_attempt :
    ∃ s, (recoverGraph {}).run firstAttempt (recoverStart nativeRecovery) 7 = some ⟨none, s⟩ ∧
      ¬ StartsFresh {} (postRecover (fun _ => "") "task-3" s) ∧
      ¬ StartsFresh {} (cliRecover (fun _ => "") "task-3" "" s) := by
  have hleft : ((recoverGraph {}).run firstAttempt (recoverStart nativeRecovery) 7).any (fun c =>
      decide (c.node = none ∧ c.state.recoverPhase = .layer2Verification ∧
        (extractRecoverSubmitArgs c.state.messages).isSome = true)) = true := by decide +kernel
  simp only [Option.any_eq_true, decide_eq_true_eq] at hleft
  obtain ⟨⟨_, s⟩, hrun, rfl, hphase, hargs⟩ := hleft
  refine ⟨s, hrun, fun h => ?_, fun h => ?_⟩
  · obtain ⟨b, hb, hlayer1⟩ := h.layer1
    cases (phase_of_isLayer1 hb hlayer1).1.symm.trans hphase
  · have hsilent := ((verdictReads_append_iff _).mp h.verdict).noArgs
    have hargs : (none : Option Json).isSome = true := hsilent ▸ hargs
    cases hargs

end ChaosBlade.Server
