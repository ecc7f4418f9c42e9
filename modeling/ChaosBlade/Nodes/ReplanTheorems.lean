/-
Nodes.ReplanTheorems: a replan that is granted, and what it
keeps of the experiments that run.

`execute_loop` grants a replan while `replan_count` is below the maximum
and raises the count; the router compares the raised count with the same
maximum.
-/
import ChaosBlade.Nodes.ExecuteLoopTheorems

namespace ChaosBlade.Nodes

open Py Agent Except List

variable {now : Rat} {v : Json} {u : String}

/-! ## The router -/

variable {settings : Settings}

theorem shouldReplan_iff {s : AgentState} {e : String} : shouldReplan settings s e = true ↔
      (s.replanCount : Int) < settings.maxReplanCount ∧ (s.replanRequested = true ∨
          (e ≠ "" ∧ settings.replanAutoTrigger = true ∧ shouldAutoReplan e = true)) := by
  unfold shouldReplan
  split
  case isTrue h => simp; omega
  case isFalse h =>
    have hlt : (s.replanCount : Int) < settings.maxReplanCount := by omega
    cases hr : s.replanRequested
    · simp only [Bool.false_eq_true, if_false]
      split <;> simp_all
    · simp [hlt]

theorem shouldContinueExecuteLoop_eq_replan {s : AgentState} :
    shouldContinueExecuteLoop settings now s = .replan ↔ wallClockExceeded settings now s = false ∧
        (shouldReplan settings s "" = true ∨
          (s.executeLoopCount < settings.maxExecuteLoop ∧ s.error ≠ "" ∧
            shouldReplan settings s s.error = true)) := by
  unfold shouldContinueExecuteLoop
  cases wallClockExceeded settings now s
  case true => simp
  case false =>
    by_cases hlimit : settings.maxExecuteLoop ≤ s.executeLoopCount
    · rw [if_pos hlimit]
      cases shouldReplan settings s "" <;> simp; omega
    · rw [if_neg hlimit]
      cases shouldReplan settings s ""
      case true => simp
      case false =>
        by_cases he : s.error = ""
        · simp only [he, ne_eq, not_true_eq_false]
          simp only [Bool.false_eq_true, if_false]
          split
          · simp
          · split
            · split
              · simp
              · split <;> simp
            · simp
        · simp only [ne_eq, he]
          cases shouldReplan settings s s.error <;> simp; omega

/-! ## Granted and taken -/

def DecidesReplan (s s' : AgentState) : Prop :=
  s'.replanRequested = true ∧ s'.replanCount = s.replanCount + 1 ∧ s'.replanContext.isSome ∧
    s'.error = "" ∧ s'.approvedTarget = none

instance (s s' : AgentState) : Decidable (DecidesReplan s s') :=
  inferInstanceAs (Decidable (_ ∧ _ ∧ _ ∧ _ ∧ _))

def ReplansForError (settings : Settings) (s : AgentState) : Prop :=
  s.replanRequested = false ∧ s.error ≠ "" ∧ settings.replanAutoTrigger = true ∧
    shouldAutoReplan s.error = true

def HonoursReplan (settings : Settings) (now : Rat) (s s' : AgentState) : Prop :=
  (DecidesReplan s s' → shouldContinueExecuteLoop settings now s' = .replan) ∧
    (shouldContinueExecuteLoop settings now s' = .replan →
      DecidesReplan s s' ∨ ReplansForError settings s')

/-- The pass gets to the decision, and there is a reason for a new plan: the
marker in the model's text, or a tool error the model is not handling. -/
def AsksReplan (σ : Setup) (a : Answer) (s : AgentState) : Prop :=
  s.executeLoopCount < σ.settings.maxExecuteLoop ∧
    ∃ r text reason, a.response = some r ∧ turnText r = some text ∧
      replanReason s text = .ok (some reason)

variable {σ : Setup} {a : Answer} {s s' : AgentState}

theorem AsksReplan.reason {r : AIMessage} {text : String} {x : Option String}
    (h : AsksReplan σ a s) (hr : a.response = some r) (htext : turnText r = some text)
    (hx : replanReason s text = .ok x) : x.isSome := by
  obtain ⟨-, r', text', reason, hr', htext', hreason⟩ := h
  obtain rfl : r = r' := Option.some.inj (hr.symm.trans hr')
  obtain rfl : text = text' := Option.some.inj (htext.symm.trans htext')
  rw [hx] at hreason
  cases hreason
  rfl

theorem not_decidesReplan (h : s'.replanCount = s.replanCount) : ¬ DecidesReplan s s' := by
  rintro ⟨-, hcount, -⟩
  omega

theorem honoursReplan_of_not_decides (hwall : wallClockExceeded settings now s' = false)
    (hcount : s'.replanCount = s.replanCount) : HonoursReplan settings now s s' ↔
      ¬ (s'.replanRequested = true ∧ (s.replanCount : Int) < settings.maxReplanCount) := by
  have hno : ¬ DecidesReplan s s' := not_decidesReplan hcount
  unfold HonoursReplan ReplansForError
  rw [shouldContinueExecuteLoop_eq_replan, shouldReplan_iff, shouldReplan_iff, hcount]
  cases s'.replanRequested
  · simp [hno, hwall]
  · simp only [hno, hwall, false_imp_iff, true_and, true_or, and_true, reduceCtorEq, false_and,
      or_self, imp_false, not_or, not_and]
    constructor
    · rintro ⟨h, -⟩
      exact h
    · intro h
      exact ⟨h, fun _ _ => h⟩

theorem honoursReplan_of_decides
    (hwall : wallClockExceeded settings now s' = false) (h : DecidesReplan s s') :
    HonoursReplan settings now s s' ↔ (s.replanCount : Int) + 1 < settings.maxReplanCount := by
  obtain ⟨hreq, hcount, -, herr, -⟩ := id h
  unfold HonoursReplan
  rw [shouldContinueExecuteLoop_eq_replan, shouldReplan_iff, shouldReplan_iff, hcount]
  simp [h, hwall, hreq, herr]

theorem executeLoop_replan_cases (hstep : executeLoop σ a s = some s')
    (hnode : wallClockExceeded σ.settings a.now s = false) :
    (AsksReplan σ a s ∧ (s.replanCount : Int) < σ.settings.maxReplanCount ∧ DecidesReplan s s') ∨
    (¬ (AsksReplan σ a s ∧ (s.replanCount : Int) < σ.settings.maxReplanCount) ∧
      s'.replanCount = s.replanCount ∧ ((s.replanCount : Int) < σ.settings.maxReplanCount →
        s'.replanRequested = s.replanRequested)) := by
  have step := executeLoop_step hstep
  clear hstep
  cases step with
  | overrun hlimit =>
    refine .inr ⟨?_, rfl, fun _ => rfl⟩
    rintro ⟨⟨hlt, -⟩, -⟩
    omega
  | zombie hlimit hz =>
    have hmax : σ.settings.maxReplanCount ≤ s.replanCount := by
      simp only [zombieReplan, Bool.and_eq_true, decide_eq_true_eq] at hz
      exact hz.1.2
    refine .inr ⟨?_, rfl, ?_⟩
    · rintro ⟨-, h⟩
      omega
    · intro h
      omega
  | carryOn hlimit hr hseen htext hreason =>
    rw [markWallClockTimeout_of_not_exceeded _ _ _ _ _ _ hnode]
    refine .inr ⟨?_, by simp, fun _ => by simp⟩
    rintro ⟨hasks, -⟩
    simpa using hasks.reason hr htext hreason
  | granted hlimit hr hseen htext hreason hcontext hcount =>
    rw [markWallClockTimeout_of_not_exceeded _ _ _ _ _ _ hnode]
    refine .inl ⟨⟨hlimit, _, _, _, hr, htext, hreason⟩, hcount, ?_⟩
    exact ⟨rfl, by simp [grantReplan], rfl, rfl, rfl⟩
  | exhausted hlimit hr hseen htext hreason hcontext hcount =>
    rw [markWallClockTimeout_of_not_exceeded _ _ _ _ _ _ hnode]
    refine .inr ⟨?_, by simp [exhaustReplan, AgentState.failWith], ?_⟩
    · rintro ⟨-, h⟩
      omega
    · intro h
      omega

/-- A pass of `execute_loop` and the router after it, within the time budget.
The pass decides to replan exactly if there is a reason and the count is below
the maximum. The router honours the decision, and goes back for nothing else
but an error, exactly if the pass is not the one that raises the count to the
maximum, and no request is left over that this pass does not renew. -/
theorem executeLoop_honoursReplan_iff (hstep : executeLoop σ a s = some s')
    (hnode : wallClockExceeded σ.settings a.now s = false)
    (hroute : wallClockExceeded σ.settings a.nowRoute s' = false) :
    (DecidesReplan s s' ↔ AsksReplan σ a s ∧ (s.replanCount : Int) < σ.settings.maxReplanCount) ∧
    (HonoursReplan σ.settings a.nowRoute s s' ↔
      (AsksReplan σ a s → (s.replanCount : Int) + 1 ≠ σ.settings.maxReplanCount) ∧
      (s.replanRequested = true → (s.replanCount : Int) < σ.settings.maxReplanCount →
        AsksReplan σ a s)) := by
  rcases executeLoop_replan_cases hstep hnode with ⟨hasks, hlt, hdec⟩ | ⟨hnot, hcount, hreq⟩
  · refine ⟨⟨fun _ => ⟨hasks, hlt⟩, fun _ => hdec⟩, ?_⟩
    rw [honoursReplan_of_decides hroute hdec]
    constructor
    · intro h
      exact ⟨fun _ => by omega, fun _ _ => hasks⟩
    · rintro ⟨h, -⟩
      have := h hasks
      omega
  · refine ⟨⟨fun h => absurd h (not_decidesReplan hcount), fun h => absurd h hnot⟩, ?_⟩
    rw [honoursReplan_of_not_decides hroute hcount]
    constructor
    · intro h
      refine ⟨fun hasks heq => hnot ⟨hasks, by omega⟩, fun hr hlt => ?_⟩
      exact absurd ⟨(hreq hlt).trans hr, hlt⟩ h
    · rintro ⟨-, h⟩ ⟨hr, hlt⟩
      exact hnot ⟨h ((hreq hlt).symm.trans hr) hlt, hlt⟩

def onlyReplan : Setup := { settings := { maxReplanCount := 1 } }

def markerAnswer : Answer := { response := some { content := .str "[REPLAN] unknown flag" } }

/-- The pass at the default maximum of three: the first replan is taken. -/
theorem executeLoop_honoursReplan_first :
    ∃ s', executeLoop {} markerAnswer {} = some s' ∧ HonoursReplan {} 0 {} s' := by
  have hsome : (executeLoop {} markerAnswer {}).isSome := by decide
  refine ⟨_, (Option.some_get hsome).symm, ?_⟩
  refine (executeLoop_honoursReplan_iff (Option.some_get hsome).symm rfl rfl).2.mpr ⟨?_, ?_⟩
  · intro _
    decide
  · intro h
    cases h

/-- The only replan is granted, and the router goes on in the loop instead. -/
theorem executeLoop_last_grant_not_taken :
    ∃ s', executeLoop onlyReplan markerAnswer {} = some s' ∧ DecidesReplan {} s' ∧
      shouldContinueExecuteLoop onlyReplan.settings 0 s' = .goOn := by
  have h : (executeLoop onlyReplan markerAnswer {}).any (fun s' => DecidesReplan {} s' ∧
      shouldContinueExecuteLoop onlyReplan.settings 0 s' = .goOn) = true := by decide
  simpa [Option.any_eq_true] using h

/-! ## The experiments a replan remembers -/

def reportsFailure : Message → Bool
  | .tool m => match toolOutcome m with
    | .ok .failed => true
    | _ => false
  | _ => false

def ReportedFrom (n : Nat) (messages : List Message) (v : Json) : Prop :=
  ∃ later m earlier, messages = later ++ .tool m :: earlier ∧
    toolOutcome m = .ok (.live v) ∧ n + later.countP reportsFailure < 5

theorem reportedFrom_nil {n : Nat} : ¬ ReportedFrom n [] v := by
  rintro ⟨later, m, earlier, h, -⟩
  simp at h

theorem reportedFrom_cons {n : Nat} {x : Message} {rest : List Message} :
    ReportedFrom n (x :: rest) v ↔ ((∃ m, x = .tool m ∧ toolOutcome m = .ok (.live v)) ∧ n < 5) ∨
        ReportedFrom (n + if reportsFailure x then 1 else 0) rest v := by
  constructor
  · rintro ⟨later, m, earlier, h, hm, hlt⟩
    cases later with
    | nil =>
      obtain ⟨rfl, rfl⟩ := cons.inj h
      exact .inl ⟨⟨m, rfl, hm⟩, by simpa using hlt⟩
    | cons y later =>
      obtain ⟨rfl, rfl⟩ := cons.inj h
      refine .inr ⟨later, m, earlier, rfl, hm, ?_⟩
      rw [countP_cons] at hlt
      omega
  · rintro (⟨⟨m, rfl, hm⟩, hlt⟩ | ⟨later, m, earlier, rfl, hm, hlt⟩)
    · exact ⟨[], m, rest, rfl, hm, by simpa using hlt⟩
    · refine ⟨x :: later, m, earlier, rfl, hm, ?_⟩
      rw [countP_cons]
      omega

theorem not_reportedFrom_of_five {n : Nat} (h : 5 ≤ n) {messages : List Message} :
    ¬ ReportedFrom n messages v := by
  rintro ⟨later, m, earlier, -, -, hlt⟩
  omega

theorem mem_scanReplan : ∀ {messages : List Message} {failed failed' : List FailedCall}
    {uids uids' : List Json}, scanReplan messages failed uids = .ok (failed', uids') →
    failed.length < 5 → (v ∈ uids' ↔ v ∈ uids ∨ ReportedFrom failed.length messages v) := by
  intro messages
  induction messages with
  | nil =>
    intro failed failed' uids uids' h _
    cases h
    simp [reportedFrom_nil]
  | cons x rest ih =>
    intro failed failed' uids uids' h hlt
    rw [reportedFrom_cons]
    -- a message that is no tool result is passed over
    have other : (∀ m, x ≠ .tool m) → scanReplan rest failed uids = .ok (failed', uids') →
        (v ∈ uids' ↔ v ∈ uids ∨ (((∃ m, x = .tool m ∧ toolOutcome m = .ok (.live v)) ∧
          failed.length < 5) ∨
          ReportedFrom (failed.length + if reportsFailure x then 1 else 0) rest v)) := by
      intro hx h
      have hfail : reportsFailure x = false := by
        cases x with
        | tool m => exact absurd rfl (hx m)
        | _ => rfl
      rw [ih h hlt, hfail]
      simp [hx]
    cases x with
    | ai r | human t | system t => exact other (by simp) h
    | tool m =>
      obtain ⟨outcome, hout, h⟩ := bind_eq_ok.mp h
      cases outcome with
      | failed =>
        have hfail : reportsFailure (.tool m) = true := by simp [reportsFailure, hout]
        simp only [length_append, length_cons, length_nil] at h
        split at h
        case isTrue hfive =>
          cases h
          simp only [hfail, if_true, not_reportedFrom_of_five hfive]
          simp [hout]
        case isFalse hfive =>
          rw [ih h (by simp; omega)]
          simp [hfail, hout]
      | live u =>
        have hfail : reportsFailure (.tool m) = false := by simp [reportsFailure, hout]
        rw [ih h hlt]
        simp [hfail, hout, hlt, or_assoc, eq_comm (a := u)]
      | silent =>
        have hfail : reportsFailure (.tool m) = false := by simp [reportsFailure, hout]
        rw [ih h hlt]
        simp [hfail, hout]

def ReportedLive (messages : List Message) (v : Json) : Prop :=
  ∃ earlier m later, messages = earlier ++ .tool m :: later ∧
    toolOutcome m = .ok (.live v) ∧ later.countP reportsFailure < 5

theorem reportedFrom_reverse {messages : List Message} :
    ReportedFrom 0 messages.reverse v ↔ ReportedLive messages v := by
  constructor
  · rintro ⟨later, m, earlier, h, hm, hlt⟩
    refine ⟨earlier.reverse, m, later.reverse, ?_, hm, ?_⟩
    · rw [← reverse_reverse messages, h]
      simp
    · simpa using hlt
  · rintro ⟨earlier, m, later, rfl, hm, hlt⟩
    exact ⟨later.reverse, m, earlier.reverse, by simp, hm, by simpa using hlt⟩

theorem mem_existingBladeUids {reason : String} {context : ReplanContext}
    (h : buildReplanContext s reason = .ok context) (v : Json) :
    v ∈ context.existingBladeUids ↔ ReportedLive s.messages v := by
  obtain ⟨⟨failed, uids⟩, hscan, h⟩ := bind_eq_ok.mp h
  have huids : context.existingBladeUids = uids := by rw [← ok.inj h]
  have := mem_scanReplan (v := v) hscan (by simp)
  simpa [reportedFrom_reverse, huids] using this

/-- An experiment the conversation or the state has shown: its uid is what the
extractor finds in some prefix of the messages, or what the state holds. -/
def HasShown (db : CharDb) (s : AgentState) (u : String) : Prop :=
  u ≠ "" ∧
    ((∃ front, front <+: s.messages ∧ extractBladeUidFromMessages db front = .ok (some u)) ∨
      s.bladeUid = u)

def Remembers (s : AgentState) (u : String) : Prop :=
  s.bladeUid = u ∨ ∃ context, s.replanContext = some context ∧ .str u ∈ context.existingBladeUids

def IsCurrent (db : CharDb) (s : AgentState) (u : String) : Prop :=
  extractBladeUidFromMessages db s.messages = .ok (some u) ∨
    (extractBladeUidFromMessages db s.messages = .ok none ∧ s.bladeUid = u)

theorem isCurrent_iff {db : CharDb} {seen : Sighting}
    (h : observeInjection db s.messages = .ok seen) :
    IsCurrent db s u ↔ seen.uid.getD s.bladeUid = u := by
  obtain ⟨uid, huid, h⟩ := bind_eq_ok.mp h
  obtain ⟨method, -, h⟩ := bind_eq_ok.mp h
  obtain rfl : ({ uid, method } : Sighting) = seen := ok.inj h
  unfold IsCurrent
  rw [huid]
  cases uid <;> simp

theorem remembers_granted_iff {reason : String} {seen : Sighting} {context : ReplanContext}
    (hseen : observeInjection σ.db s.messages = .ok seen)
    (hcontext : buildReplanContext s reason = .ok context) (huid : s'.bladeUid =
      if context.existingBladeUids.isEmpty then "" else seen.uid.getD s.bladeUid)
    (hctx : s'.replanContext = some context) (hu : u ≠ "") : Remembers s' u ↔
      ReportedLive s.messages (.str u) ∨
        ((∃ v, ReportedLive s.messages v) ∧ IsCurrent σ.db s u) := by
  have hmem := mem_existingBladeUids hcontext
  have hrem : Remembers s' u ↔ .str u ∈ context.existingBladeUids ∨ s'.bladeUid = u := by
    simp [Remembers, hctx, or_comm]
  rw [hrem, huid, isCurrent_iff hseen, hmem]
  refine or_congr Iff.rfl ?_
  cases hl : context.existingBladeUids with
  | nil =>
    have hnone : ¬ ∃ v, ReportedLive s.messages v := by
      rintro ⟨v, hv⟩
      rw [← hmem, hl] at hv
      cases hv
    simp [hnone, Ne.symm hu]
  | cons v l =>
    have hsome : ∃ v, ReportedLive s.messages v := ⟨v, by rw [← hmem, hl]; simp⟩
    simp [hsome]

/-- A pass that decides to replan remembers every experiment shown before
exactly if each of them is named by a JSON result of `blade_create` with fewer
than five failures after it, or is the current one while such a result names
some other. An experiment started through `kubectl exec`, or read from a text
that is no JSON object, is lost unless the current one happens to be it. -/
theorem executeLoop_remembers_iff (hstep : executeLoop σ a s = some s')
    (hdec : DecidesReplan s s') : (∀ u, HasShown σ.db s u → Remembers s' u) ↔
      ∀ u, HasShown σ.db s u → ReportedLive s.messages (.str u) ∨
          ((∃ v, ReportedLive s.messages v) ∧ IsCurrent σ.db s u) := by
  have step := executeLoop_step hstep
  clear hstep
  cases step with
  | overrun hlimit | zombie hlimit hz => exact absurd hdec (not_decidesReplan rfl)
  | carryOn hlimit hr hseen htext hreason => exact absurd hdec (not_decidesReplan (by simp))
  | exhausted hlimit hr hseen htext hreason hcontext hcount =>
    exact absurd hdec (not_decidesReplan (by simp [exhaustReplan, AgentState.failWith]))
  | granted hlimit hr hseen htext hreason hcontext hcount =>
    refine forall_congr' fun u => forall_congr' fun hu => ?_
    refine remembers_granted_iff hseen hcontext ?_ ?_ hu.1
    · simp [grantReplan]
    · simp [grantReplan]

def createdText : String := "\x7b\"code\":200,\"success\":true,\"result\":\"4f3a\"\x7d"

def createdMessage : ToolMessage :=
  { content := createdText, name := "blade_create", toolCallId := "c1" }

def isLiveUid (u : String) : Except PyError ToolOutcome → Bool
  | .ok (.live (.str v)) => v == u
  | _ => false

theorem eq_of_isLiveUid {x : Except PyError ToolOutcome} (h : isLiveUid u x = true) :
    x = .ok (.live (.str u)) := by
  unfold isLiveUid at h
  split at h
  · rw [eq_of_beq h]
  · cases h

theorem toolOutcome_createdMessage : toolOutcome createdMessage = .ok (.live (.str "4f3a")) :=
  eq_of_isLiveUid (by decide +kernel)

def createdState : AgentState := { messages := [.tool createdMessage] }

theorem executeLoop_remembers_created : ∃ s', executeLoop {} markerAnswer createdState = some s' ∧
      ∀ u, HasShown asciiDb createdState u → Remembers s' u := by
  have h : (executeLoop {} markerAnswer createdState).any
      (fun s' => DecidesReplan createdState s') = true := by decide +kernel
  simp only [Option.any_eq_true, decide_eq_true_eq] at h
  obtain ⟨s', hstep, hdec⟩ := h
  refine ⟨s', hstep, (executeLoop_remembers_iff hstep hdec).mpr ?_⟩
  rintro u ⟨hne, ⟨front, hfront, hu⟩ | hu⟩
  · have hnil : extractBladeUidFromMessages asciiDb [] = .ok none := by decide
    have hone : extractBladeUidFromMessages asciiDb [.tool createdMessage] = .ok (some "4f3a") := by
      decide +kernel
    rcases List.prefix_cons_iff.mp hfront with rfl | ⟨rest, rfl, hrest⟩
    · rw [hnil] at hu
      cases hu
    · rw [List.prefix_nil.mp hrest, hone] at hu
      obtain rfl : "4f3a" = u := Option.some.inj (ok.inj hu)
      exact .inl ⟨[], createdMessage, [], rfl, toolOutcome_createdMessage, by decide⟩
  · exact absurd hu.symm hne

def execState : AgentState :=
  { messages :=
      [.ai { toolCalls :=
               [{ name := "kubectl"
                  args := .obj [("subcommand", .str "exec"),
                    ("v_args", .str "tool-pod -- blade create k8s pod-cpu fullload")]
                  id := "c1" }] },
       .tool { content := createdText, name := "kubectl", toolCallId := "c1" }] }

/-- The replan is granted and the running experiment is forgotten. -/
theorem executeLoop_forgets_exec :
    ∃ s', executeLoop {} markerAnswer execState = some s' ∧ DecidesReplan execState s' ∧
      HasShown asciiDb execState "4f3a" ∧ ¬ Remembers s' "4f3a" := by
  have h : (executeLoop {} markerAnswer execState).any
      (fun s' => DecidesReplan execState s' ∧ s'.bladeUid = "" ∧
        s'.replanContext.all (·.existingBladeUids.isEmpty)) = true := by decide +kernel
  simp only [Option.any_eq_true, decide_eq_true_eq] at h
  obtain ⟨s', hstep, hdec, huid, hctx⟩ := h
  refine ⟨s', hstep, hdec, ⟨by decide, .inl ⟨_, prefix_refl _, by decide +kernel⟩⟩, ?_⟩
  rintro (h | ⟨context, hc, hmem⟩)
  · rw [huid] at h
    exact absurd h (by decide)
  · simp [hc] at hctx
    simp [hctx] at hmem

end ChaosBlade.Nodes
