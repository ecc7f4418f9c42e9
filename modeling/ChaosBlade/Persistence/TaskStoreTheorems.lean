/-
Persistence.TaskStoreTheorems: does the stored state of a task
reflect everything stored for it?

`upsert` infers the state from the row of `tasks` and from the columns it
is given; it never reads `task_details` back.
-/
import ChaosBlade.Agent.TaskStateTheorems
import ChaosBlade.Persistence.TaskStore

namespace ChaosBlade.Persistence

open Py Agent List Option TaskRows

/-! ## Reading -/

structure Reading where
  recover : Bool
  rejected : Bool
  cleared : Bool
  skill : Bool
  uid : Bool
  error : Bool
  confirm : Bool
  verification : Json
  recoverVerification : Json
  result : List (String × Json)

def reading (v : Values) : Reading where
  recover := isText "recover" (v "operation")
  rejected := isText "rejected" (v "safety_status")
  cleared := isText "safe" (v "safety_status") || isText "warning" (v "safety_status")
  skill := isSet (v "skill_name")
  uid := isSet (v "blade_uid")
  error := isSet (v "error")
  confirm := isSet (v "needs_confirm")
  verification := (v "verification").getD .null
  recoverVerification := (v "recover_verification").getD .null
  result := resultFields v

def Reading.reportsRecovered (r : Reading) : Bool := isSet (Json.get? r.result "recovered")

def Reading.taskState (r : Reading) : Except PyError TaskState :=
  if r.rejected then .ok .rejected
  else if r.error then .ok .failed
  else if r.recover then
    if r.recoverVerification.truthy then recoveryState r.recoverVerification r.result
    else .ok .recovering
  else if r.verification.truthy then verifiedState r.verification
  else .ok .injecting

def Reading.phase (r : Reading) : Except PyError Phase :=
  if r.error then .ok .failed
  else if r.rejected then .ok .rejected
  else if r.recover then
    .ok (if r.recoverVerification.truthy then recoveryPhase r.result else .recovering)
  else if !r.skill then .ok (if r.uid then .executing else .planning)
  else if r.confirm then .ok .confirming
  else if !r.uid then .ok (if r.cleared then .safetyCheck else .planning)
  else if r.verification.truthy then verifiedPhase r.verification
  else .ok .executing

def Reading.infer (r : Reading) : Option Inferred := do
  let state ← r.taskState.toOption
  let phase ← r.phase.toOption
  return {
    taskState := if state == .injecting && r.confirm && !r.uid then .waitingInput else state
    stage := some (if r.recover then .recovery else .injection)
    phase := some phase }

def agentKeys : List String :=
  ["confirmed_intent", "interaction_mode", "dry_run", "replan_count", "replan_context",
   "needs_confirmation"]

theorem verifiedState_eq_ok {verification : Json} {state : TaskState}
    (h : verifiedState verification = .ok state) : state = .injected ∨ state = .failed := by
  obtain ⟨v, hv, -⟩ := bind_eq_ok.mp h
  exact cascade_eq_ok ((verifiedState_eq_cascade hv).symm.trans h)

theorem recoveryState_eq_ok {rv : Json} {result : List (String × Json)} {state : TaskState}
    (h : recoveryState rv result = .ok state) :
    state = .recovered ∨ state = .partialRecovered ∨ state = .failed := by
  unfold recoveryState at h
  split at h
  · split at h <;> cases h <;> simp
  · obtain ⟨status, -, h⟩ := bind_eq_ok.mp h
    repeat' split at h
    all_goals
      cases h
      simp

variable {v : Values}

section

variable (hintent : v "confirmed_intent" = none)
include hintent

theorem inferTaskState_eq
    (hcount : v "replan_count" = none) : inferTaskState v = (reading v).taskState := by
  simp only [inferTaskState, isBridgeIntent, hintent, hcount, isPositive_none, Bool.false_and,
    Bool.not_false, Bool.and_true, bind, Except.bind]
  rfl

theorem inferStage_eq :
    inferStage v = some (if (reading v).recover then .recovery else .injection) := by
  simp only [inferStage, isBridgeIntent, hintent]
  exact (apply_ite some _ _ _).symm

theorem inferPhase_eq
    (hdry : v "dry_run" = none) (hcontext : v "replan_context" = none) : inferPhase v =
      (Reading.phase { reading v with confirm := isSet (v "needs_confirmation") }).map some := by
  simp only [inferPhase, isBridgeIntent, hintent, hdry, hcontext,
    isSet_eq_getD (v "recover_verification")]
  change _ = Except.map some (if isSet (v "error") then _ else
    if isText "rejected" (v "safety_status") then _ else if isText "recover" (v "operation") then
      .ok (if ((v "recover_verification").getD .null).truthy then _ else _) else
    if !isSet (v "skill_name") then .ok (if isSet (v "blade_uid") then _ else _) else
    if isSet (v "needs_confirmation") then _ else if !isSet (v "blade_uid") then _ else
      if ((v "verification").getD .null).truthy then
        verifiedPhase ((v "verification").getD .null) else _)
  cases isSet (v "error")
  case true => rfl
  cases isText "rejected" (v "safety_status")
  case true => rfl
  cases isText "recover" (v "operation")
  case true => cases ((v "recover_verification").getD .null).truthy <;> rfl
  cases isSet (v "skill_name")
  case false => cases isSet (v "blade_uid") <;> rfl
  cases isSet (v "needs_confirmation")
  case true => rfl
  cases isSet (v "blade_uid")
  case false => rfl
  cases ((v "verification").getD .null).truthy
  case false => rfl
  cases verifiedPhase ((v "verification").getD .null) <;> rfl

end

open Reading

theorem inferFields_eq (hv : ∀ k ∈ agentKeys, v k = none) : inferFields v = (reading v).infer := by
  have hkey : ∀ k, k ≠ "needs_confirmation" → agentValues v k = v k := fun k hk => if_neg hk
  have hintent : agentValues v "confirmed_intent" = none :=
    (hkey _ (by decide)).trans (hv _ (by decide))
  have hreading : reading (agentValues v) = reading v := by simp [reading, resultFields, hkey]
  have hconfirm : agentValues v "needs_confirmation" = v "needs_confirm" := by
    simp [agentValues, hv "needs_confirmation" (by decide)]
  have hstate :=
      inferTaskState_eq hintent ((hkey _ (by decide)).trans (hv "replan_count" (by decide)))
  have hphase := inferPhase_eq hintent ((hkey _ (by decide)).trans (hv "dry_run" (by decide)))
    ((hkey _ (by decide)).trans (hv "replan_context" (by decide)))
  have hcompleted : isCompletedIntent (agentValues v) = false := by
    simp [isCompletedIntent, hintent]
  have hwaiting : ∀ state, isWaiting (agentValues v) state =
      (state == .injecting && (reading v).confirm && !(reading v).uid) := by
    intro state
    simp [isWaiting, hconfirm, hkey, hv "interaction_mode" (by decide), reading]
  rw [hreading] at hstate
  rw [hreading, hconfirm] at hphase
  simp only [inferFields, hstate, hphase, inferStage_eq hintent, hreading, hcompleted, hwaiting,
    Bool.false_eq_true, if_false, infer]
  cases (reading v).taskState
  case error => rfl
  change Except.toOption (Except.bind (Except.map some (reading v).phase) _) = _
  cases (reading v).phase <;> rfl

section

variable {r : Reading} (hrej : r.rejected = false) (herror : r.error = false)
include hrej herror

theorem infer_recovery (hrec : r.recover = true) : r.infer = if r.recoverVerification.truthy then
        (recoveryState r.recoverVerification r.result).toOption.map fun state =>
          ⟨state, some .recovery, some (recoveryPhase r.result)⟩
      else some ⟨.recovering, some .recovery, some .recovering⟩ := by
  cases hv : r.recoverVerification.truthy with
  | false => simp [infer, taskState, phase, hrej, herror, hrec, hv, Except.toOption]
  | true =>
    cases hs : recoveryState r.recoverVerification r.result with
    | error e => simp [infer, taskState, hrej, herror, hrec, hv, hs, Except.toOption]
    | ok state =>
      have hne : state ≠ .injecting := by
        rcases recoveryState_eq_ok hs with rfl | rfl | rfl <;> decide
      simp [infer, taskState, phase, hrej, herror, hrec, hv, hs, hne, Except.toOption]

theorem infer_verified (hrec : r.recover = false) (hv : r.verification.truthy = true) :
    r.infer = (verifiedState r.verification).toOption.bind fun state =>
      r.phase.toOption.map fun phase => ⟨state, some .injection, some phase⟩ := by
  cases hs : verifiedState r.verification with
  | error e => simp [infer, taskState, hrej, herror, hrec, hv, hs, Except.toOption]
  | ok state =>
    have hne : state ≠ .injecting := by rcases verifiedState_eq_ok hs with rfl | rfl <;> decide
    cases hp : r.phase <;>
      simp [infer, taskState, hrej, herror, hrec, hv, hs, hne, hp, Except.toOption]

theorem infer_pending (hrec : r.recover = false) (hv : r.verification.truthy = false) :
    r.infer = r.phase.toOption.map fun phase =>
      ⟨if r.confirm && !r.uid then .waitingInput else .injecting, some .injection, some phase⟩ := by
  cases hp : r.phase <;>
    simp [infer, taskState, hrej, herror, hrec, hv, hp, Except.toOption]

theorem phase_injection (hrec : r.recover = false) : r.phase =
      if !r.skill then .ok (if r.uid then .executing else .planning)
      else if r.confirm then .ok .confirming
      else if !r.uid then .ok (if r.cleared then .safetyCheck else .planning)
      else if r.verification.truthy then verifiedPhase r.verification else .ok .executing := by
  simp [phase, hrej, herror, hrec]

end

/-! ## Agreement -/

def Picks {α : Type} (d seen left all : α) : Prop :=
  (all = seen ∧ left = d) ∨ (all = left ∧ seen = d)

/-- A call sees some of the columns and leaves out others: `all` is what is
stored after it. Only columns of the details are left out. -/
structure Reading.Extends (seen left all : Reading) : Prop where
  recover : all.recover = seen.recover
  skill : all.skill = seen.skill
  uid : all.uid = seen.uid
  error : all.error = seen.error
  rejected : Picks false seen.rejected left.rejected all.rejected
  cleared : Picks false seen.cleared left.cleared all.cleared
  confirm : Picks false seen.confirm left.confirm all.confirm
  verification : Picks .null seen.verification left.verification all.verification
  recoverVerification :
    Picks .null seen.recoverVerification left.recoverVerification all.recoverVerification
  result : Picks [] seen.result left.result all.result

theorem Picks.map {α β : Type} {d seen left all : α} (f : α → β) (h : Picks d seen left all) :
    Picks (f d) (f seen) (f left) (f all) := by
  rcases h with ⟨rfl, rfl⟩ | ⟨rfl, rfl⟩
  · exact .inl ⟨rfl, rfl⟩
  · exact .inr ⟨rfl, rfl⟩

theorem Picks.eq_seen {seen left all : Bool} (h : Picks false seen left all) (hl : left = false) :
    all = seen := by
  rcases h with ⟨rfl, -⟩ | ⟨rfl, rfl⟩
  · rfl
  · exact hl

theorem Picks.of_left {seen left all : Bool} (h : Picks false seen left all) (hl : left = true) :
    all = true ∧ seen = false := by
  rcases h with ⟨-, rfl⟩ | ⟨rfl, rfl⟩
  · cases hl
  · exact ⟨hl, rfl⟩

theorem Picks.truthy_eq {seen left all : Json} (h : Picks .null seen left all)
    (hl : left.truthy = false) : all.truthy = seen.truthy ∧ (all.truthy = true → all = seen) := by
  rcases h with ⟨rfl, -⟩ | ⟨rfl, rfl⟩
  · exact ⟨rfl, fun _ => rfl⟩
  · exact ⟨hl, fun h => absurd (hl.symm.trans h) (by decide)⟩

theorem Picks.of_truthy_left {seen left all : Json} (h : Picks .null seen left all)
    (hl : left.truthy = true) : all.truthy = true ∧ seen.truthy = false :=
  (h.map Json.truthy).of_left hl

/-- Nothing that is left out decides the state: no rejection; for a recovery no
verdict and, once there is one, no result that reports success; for an
injection no verification, and no confirmation or clearance that is asked
for at this point. -/
def Restated (left all : Reading) : Prop :=
  left.rejected = false ∧
  (all.rejected = false → all.error = false → if all.recover then
      left.recoverVerification.truthy = false ∧
        (all.recoverVerification.truthy = true → left.reportsRecovered = false)
    else
      left.verification.truthy = false ∧
        (all.skill = true ∨ (all.uid = false ∧ all.verification.truthy = false) →
          left.confirm = false) ∧
        (all.skill = true → all.uid = false → all.confirm = false → left.cleared = false))

section

variable {seen left all : Reading} (h : seen.Extends left all)
include h

theorem recovery_eq_of_not_reported (hl : left.reportsRecovered = false) (rv : Json) :
    recoveryState rv all.result = recoveryState rv seen.result ∧
      recoveryPhase all.result = recoveryPhase seen.result := by
  rcases h.result with ⟨hres, -⟩ | ⟨hres, hnone⟩
  · simp [hres]
  · have hsome : isSet (Json.get? all.result "recovered") = false := by
      rw [hres]
      exact hl
    have hempty : isSet (Json.get? [] "recovered") = false := rfl
    simp [hnone, recoveryState, recoveryPhase, hsome, hempty]

theorem infer_eq_of_rejected (hs : seen.rejected = true) (ha : all.rejected = true) :
    seen.infer = all.infer := by
  cases herror : seen.error <;>
    simp [infer, taskState, phase, hs, ha, h.error, h.recover, Except.toOption]

theorem infer_eq_of_error (hs : seen.rejected = false) (hrej : all.rejected = false)
    (herror : all.error = true) : seen.infer = all.infer := by
  simp [infer, taskState, phase, hs, hrej, ← h.error, h.recover, herror, Except.toOption]

section

variable (hs : seen.rejected = false) (hrej : all.rejected = false) (herror : all.error = false)
include hs hrej herror

theorem infer_eq_of_recovery (hrec : all.recover = true)
    (hrv : left.recoverVerification.truthy = false)
    (hres : all.recoverVerification.truthy = true → left.reportsRecovered = false) :
    seen.infer = all.infer := by
  obtain ⟨htruthy, heq⟩ := h.recoverVerification.truthy_eq hrv
  rw [infer_recovery hs (h.error ▸ herror) (h.recover ▸ hrec), infer_recovery hrej herror hrec,
    htruthy]
  cases hv : seen.recoverVerification.truthy with
  | false => rfl
  | true =>
    have hv := htruthy.trans hv
    obtain ⟨hstate, hphase⟩ := recovery_eq_of_not_reported h (hres hv) all.recoverVerification
    rw [← heq hv, hstate, hphase]

theorem infer_eq_of_injection (hrec : all.recover = false) (hver : left.verification.truthy = false)
    (hconfirm : all.skill = true ∨ (all.uid = false ∧ all.verification.truthy = false) →
      left.confirm = false)
    (hcleared : all.skill = true → all.uid = false → all.confirm = false → left.cleared = false) :
    seen.infer = all.infer := by
  obtain ⟨htruthy, heq⟩ := h.verification.truthy_eq hver
  have hse : seen.error = false := h.error ▸ herror
  have hsr : seen.recover = false := h.recover ▸ hrec
  have hphase : seen.phase = all.phase := by
    rw [phase_injection hs hse hsr, phase_injection hrej herror hrec, h.uid, h.skill]
    cases hskill : seen.skill with
    | false => rfl
    | true =>
      have hskill := h.skill.trans hskill
      have hconf : all.confirm = seen.confirm := h.confirm.eq_seen (hconfirm (.inl hskill))
      cases hc : all.confirm with
      | true => simp [← hconf, hc]
      | false =>
        cases huid : all.uid with
        | false =>
          have hclear : all.cleared = seen.cleared := h.cleared.eq_seen (hcleared hskill huid hc)
          simp [← hconf, hc, ← h.uid, huid, hclear]
        | true =>
          cases hv : all.verification.truthy with
          | false => simp [← hconf, hc, ← h.uid, huid, ← htruthy, hv]
          | true => simp [← hconf, hc, ← h.uid, huid, ← heq hv, hv]
  cases hv : all.verification.truthy with
  | true =>
    have hsv : seen.verification.truthy = true := htruthy ▸ hv
    rw [infer_verified hs hse hsr hsv, infer_verified hrej herror hrec hv, heq hv, hphase]
  | false =>
    have hsv : seen.verification.truthy = false := htruthy ▸ hv
    rw [infer_pending hs hse hsr hsv, infer_pending hrej herror hrec hv, hphase, h.uid]
    cases huid : seen.uid with
    | true => simp
    | false =>
      have hconf : all.confirm = seen.confirm :=
        h.confirm.eq_seen (hconfirm (.inr ⟨h.uid.trans huid, hv⟩))
      rw [hconf]

end

theorem infer_eq_of_restated (hr : Restated left all) : seen.infer = all.infer := by
  obtain ⟨hleft, hr⟩ := hr
  have hsame : all.rejected = seen.rejected := h.rejected.eq_seen hleft
  cases hrej : all.rejected with
  | true => exact infer_eq_of_rejected h (hsame ▸ hrej) hrej
  | false =>
    have hs : seen.rejected = false := hsame ▸ hrej
    cases herror : all.error with
    | true => exact infer_eq_of_error h hs hrej herror
    | false =>
      have hr := hr hrej herror
      cases hrec : all.recover with
      | true =>
        rw [hrec] at hr
        exact infer_eq_of_recovery h hs hrej herror hrec hr.1 hr.2
      | false =>
        rw [hrec] at hr
        exact infer_eq_of_injection h hs hrej herror hrec hr.1 hr.2.1 hr.2.2

end

/-! The other direction: what decides and is left out shows in the state or in
the phase. -/

section

variable {r : Reading} {i : Inferred} (hrej : r.rejected = false) (herror : r.error = false)
  (h : r.infer = some i)
include hrej herror h

theorem inferred_recovering (hrec : r.recover = true) (hv : r.recoverVerification.truthy = false) :
    i.taskState = .recovering := by
  rw [infer_recovery hrej herror hrec, hv] at h
  cases h
  rfl

theorem inferred_recovery (hrec : r.recover = true) (hv : r.recoverVerification.truthy = true) :
    (i.taskState = .recovered ∨ i.taskState = .partialRecovered ∨ i.taskState = .failed) ∧
      i.phase = some (recoveryPhase r.result) := by
  rw [infer_recovery hrej herror hrec, hv, if_pos rfl] at h
  obtain ⟨state, hs, rfl⟩ := map_eq_some_iff.mp h
  exact ⟨recoveryState_eq_ok (toOption_eq_some.mp hs), rfl⟩

theorem inferred_verified (hrec : r.recover = false) (hv : r.verification.truthy = true) :
    i.taskState = .injected ∨ i.taskState = .failed := by
  rw [infer_verified hrej herror hrec hv] at h
  obtain ⟨state, hs, h⟩ := bind_eq_some_iff.mp h
  obtain ⟨phase, -, rfl⟩ := map_eq_some_iff.mp h
  exact verifiedState_eq_ok (toOption_eq_some.mp hs)

theorem inferred_pending (hrec : r.recover = false) (hv : r.verification.truthy = false) :
    i.taskState = if r.confirm && !r.uid then .waitingInput else .injecting := by
  rw [infer_pending hrej herror hrec hv] at h
  obtain ⟨phase, -, rfl⟩ := map_eq_some_iff.mp h
  rfl

omit hrej herror in
theorem inferred_phase : ∃ phase, r.phase = .ok phase ∧ i.phase = some phase := by
  unfold infer at h
  obtain ⟨state, -, h⟩ := bind_eq_some_iff.mp h
  obtain ⟨phase, hp, h⟩ := bind_eq_some_iff.mp h
  cases h
  exact ⟨phase, toOption_eq_some.mp hp, rfl⟩

end

theorem taskState_ne_rejected {r : Reading} {i : Inferred} (hrej : r.rejected = false)
    (h : r.infer = some i) : i.taskState ≠ .rejected := by
  cases herror : r.error with
  | true =>
    simp only [infer, taskState, phase, hrej, herror] at h
    cases h
    simp
  | false =>
    cases hrec : r.recover with
    | true =>
      cases hv : r.recoverVerification.truthy with
      | true => rcases (inferred_recovery hrej herror h hrec hv).1 with hi | hi | hi <;> simp [hi]
      | false => simp [inferred_recovering hrej herror h hrec hv]
    | false =>
      cases hv : r.verification.truthy with
      | true => rcases inferred_verified hrej herror h hrec hv with hi | hi <;> simp [hi]
      | false =>
        rw [inferred_pending hrej herror h hrec hv]
        split <;> simp

theorem verifiedPhase_eq_ok {verification : Json} {phase : Phase}
    (h : verifiedPhase verification = .ok phase) :
    phase = .verificationPassed ∨ phase = .verificationFailed := by
  obtain ⟨v, hv, -⟩ := bind_eq_ok.mp h
  exact cascade_eq_ok ((verifiedPhase_eq_cascade hv).symm.trans h)

theorem phase_ne_confirming {r : Reading} (hrej : r.rejected = false) (herror : r.error = false)
    (hrec : r.recover = false) (hc : r.confirm = false) : r.phase ≠ .ok .confirming := by
  intro h
  rw [phase_injection hrej herror hrec, hc] at h
  cases hskill : r.skill
  case false => cases huid : r.uid <;> simp [hskill, huid] at h
  cases huid : r.uid
  case false => cases hclear : r.cleared <;> simp [hskill, huid, hclear] at h
  cases hv : r.verification.truthy
  case false => simp [huid, hv] at h
  simp only [hskill, huid, hv] at h
  rcases verifiedPhase_eq_ok h with h | h <;> cases h

theorem inferred_phase_eq {r₁ r₂ : Reading} {i : Inferred} (h₁ : r₁.infer = some i)
    (h₂ : r₂.infer = some i) : r₁.phase = r₂.phase := by
  obtain ⟨phase, hp, hi⟩ := inferred_phase h₁
  obtain ⟨phase', hp', hi'⟩ := inferred_phase h₂
  rw [hp, hp', some.inj (hi.symm.trans hi')]

section

variable {seen left all : Reading} {i : Inferred} (h : seen.Extends left all)
  (hi : seen.infer = some i) (ha : all.infer = some i)
include h hi ha

section

variable (hs : seen.rejected = false) (hrej : all.rejected = false) (herror : all.error = false)
include hs hrej herror

theorem restated_recovery (hrec : all.recover = true) : left.recoverVerification.truthy = false ∧
      (all.recoverVerification.truthy = true → left.reportsRecovered = false) := by
  have hse : seen.error = false := h.error ▸ herror
  have hsr : seen.recover = true := h.recover ▸ hrec
  have hrv : left.recoverVerification.truthy = false := by
    by_contra hl
    obtain ⟨hav, hsv⟩ := h.recoverVerification.of_truthy_left (by simpa using hl)
    have hstate := inferred_recovering hs hse hi hsr hsv
    rcases (inferred_recovery hrej herror ha hrec hav).1 with h' | h' | h' <;>
      cases hstate.symm.trans h'
  refine ⟨hrv, fun hav => ?_⟩
  have hsv : seen.recoverVerification.truthy = true :=
    (h.recoverVerification.truthy_eq hrv).1 ▸ hav
  by_contra hl
  have hl : left.reportsRecovered = true := by simpa using hl
  rcases h.result with ⟨-, hnone⟩ | ⟨hres, hnone⟩
  · rw [reportsRecovered, hnone] at hl
    cases hl
  · have hphase := (inferred_recovery hs hse hi hsr hsv).2.symm.trans
      (inferred_recovery hrej herror ha hrec hav).2
    rw [hnone, hres, recoveryPhase, recoveryPhase, show isSet (Json.get? left.result "recovered") =
      true from hl, show isSet (Json.get? [] "recovered") = false from rfl] at hphase
    simp only [Bool.false_eq_true, if_false, if_true] at hphase
    split at hphase <;> cases hphase

theorem restated_injection (hrec : all.recover = false) : left.verification.truthy = false ∧
      (all.skill = true ∨ (all.uid = false ∧ all.verification.truthy = false) →
        left.confirm = false) ∧
      (all.skill = true → all.uid = false → all.confirm = false → left.cleared = false) := by
  have hse : seen.error = false := h.error ▸ herror
  have hsr : seen.recover = false := h.recover ▸ hrec
  have hphase := inferred_phase_eq hi ha
  have hver : left.verification.truthy = false := by
    by_contra hl
    obtain ⟨hav, hsv⟩ := h.verification.of_truthy_left (by simpa using hl)
    have hstate := inferred_pending hs hse hi hsr hsv
    rcases inferred_verified hrej herror ha hrec hav with h' | h' <;> rw [h'] at hstate <;>
      split at hstate <;> cases hstate
  refine ⟨hver, fun hasked => ?_, fun hskill huid hc => ?_⟩
  · by_contra hl
    obtain ⟨hac, hsc⟩ := h.confirm.of_left (by simpa using hl)
    cases hskill : all.skill with
    | true =>
      have hconfirming : all.phase = .ok .confirming := by
        rw [phase_injection hrej herror hrec]
        simp [hskill, hac]
      exact phase_ne_confirming hs hse hsr hsc (hphase.trans hconfirming)
    | false =>
      obtain ⟨huid, hav⟩ := hasked.resolve_left (by simp [hskill])
      have hsv : seen.verification.truthy = false := (h.verification.truthy_eq hver).1 ▸ hav
      have hstate := (inferred_pending hs hse hi hsr hsv).symm.trans
        (inferred_pending hrej herror ha hrec hav)
      simp [hsc, hac, huid] at hstate
  · by_contra hl
    obtain ⟨hac, hsc⟩ := h.cleared.of_left (by simpa using hl)
    have hconf : seen.confirm = false := by
      rcases h.confirm with ⟨h', -⟩ | ⟨-, h'⟩
      · exact h' ▸ hc
      · exact h'
    rw [phase_injection hs hse hsr, phase_injection hrej herror hrec, ← h.skill, ← h.uid] at hphase
    simp [hskill, huid, hc, hconf, hac, hsc] at hphase

end

theorem restated_of_infer_eq : Restated left all := by
  have hleft : left.rejected = false := by
    by_contra hl
    obtain ⟨harej, hsrej⟩ := h.rejected.of_left (by simpa using hl)
    have hstate : i.taskState = .rejected := by
      obtain ⟨state, hst, ha⟩ := bind_eq_some_iff.mp ha
      obtain ⟨phase, -, ha⟩ := bind_eq_some_iff.mp ha
      simp only [taskState, harej, if_true, Except.toOption, some.injEq] at hst
      subst hst
      cases ha
      rfl
    exact taskState_ne_rejected hsrej hi hstate
  refine ⟨hleft, fun hrej herror => ?_⟩
  have hs : seen.rejected = false := h.rejected.eq_seen hleft ▸ hrej
  cases hrec : all.recover with
  | true => exact restated_recovery h hi ha hs hrej herror hrec
  | false => exact restated_injection h hi ha hs hrej herror hrec

end

/-! ## Calls -/

def leftOut (s : TaskRows) (fields : Fields) : Values := fun c =>
  if (fields.get c).isSome then none else s.details.bind fun row => row.read detailColumns c

def columnsAfter (s : TaskRows) (fields : Fields) : Values := fun c =>
  (fields.get c).or (s.stored c)

def Restates (s : TaskRows) (fields : Fields) : Prop :=
  Restated (reading (leftOut s fields)) (reading (columnsAfter s fields))

def Reflects (s : TaskRows) : Prop :=
  ∀ row i, s.task = some row → inferFields s.stored = some i →
    ∀ c v, i.columns c = some v → row c = v

def readTaskColumns : List String := ["operation", "skill_name", "blade_uid", "error"]

def inferredColumns : List String := ["task_state", "stage", "phase"]

theorem inferredColumns_spec : ∀ c ∈ inferredColumns,
    c ∈ taskColumns ∧ c ≠ "id" ∧ c ≠ "task_id" ∧ (c ≠ "gmt_modified" ∧ c ≠ "gmt_create") ∧
      (c ≠ "namespace" ∧ c ≠ "target_name") ∧ c ∈ ownColumns := by decide

variable {c : String}

theorem inferred_columns_mem {i : Inferred} {v : Json} (h : i.columns c = some v) :
    c ∈ inferredColumns := by
  unfold Inferred.columns at h
  split at h
  · decide
  · decide
  · decide
  · cases h

def readDetailColumns : List String :=
  ["safety_status", "needs_confirm", "verification", "recover_verification", "result"]

theorem readTaskColumns_mem : ∀ c ∈ readTaskColumns, c ∈ taskColumns ∧ c ∉ detailColumns := by
  decide

theorem readDetailColumns_mem : ∀ c ∈ readDetailColumns, c ∉ taskColumns ∧ c ∈ detailColumns := by
  decide

theorem agentKeys_notMem : ∀ c ∈ agentKeys, c ∉ taskColumns ∧ c ∉ detailColumns := by decide

theorem fields_agentKeys (fields : Fields) : ∀ k ∈ agentKeys, fields.get k = none := by
  intro k hk
  obtain ⟨htask, hdetail⟩ := agentKeys_notMem k hk
  cases hv : fields.get k with
  | none => rfl
  | some v => exact absurd (fields.columns k v hv).1 (by simp [htask, hdetail])

section

variable {taskId now : String} {fields : Fields} {s s' : TaskRows}

theorem extractIndexFields_get {v' : Values} (h : extractIndexFields v = some v')
    (hc : c ≠ "namespace" ∧ c ≠ "target_name") : v' c = v c := by
  unfold extractIndexFields at h
  split at h
  · dsimp only at h
    split at h
    · obtain ⟨name, -, rfl⟩ := map_eq_some_iff.mp h
      simp [setDefault, hc.1, hc.2]
    · cases h
      simp [setDefault, hc.1]
  · cases h
    rfl

theorem setTimestamps_get {row : Option Row}
    (hc : c ≠ "gmt_modified" ∧ c ≠ "gmt_create") : setTimestamps now row v c = v c := by
  simp [setTimestamps, hc.1, hc.2]

/-- What a call writes once it has merged the columns. -/
def written (taskId now : String) (s : TaskRows) (merged : Values) : Values :=
  setTimestamps now s.task fun c => if c = "task_id" then some (.str taskId)
    else ((inferFields merged).bind fun i => i.columns c).or (merged c)

theorem upsert_eq_some (htask : taskId ≠ "" ∧ startsWith taskId "turn-" = false)
    (h : upsert taskId now fields s = some s') :
    ∃ merged final, extractIndexFields (mergeFields taskId s.task fields) = some merged ∧
      final = written taskId now s merged ∧
      s' = { task := some (upsertRow taskDefaults taskColumns s.task final)
             details := some (upsertRow detailDefaults detailColumns s.details final) } := by
  unfold upsert at h
  rw [if_neg (by simp [htask.1, htask.2])] at h
  obtain ⟨merged, hm, h⟩ := bind_eq_some_iff.mp h
  dsimp only at h
  split at h
  · exact ⟨merged, _, hm, rfl, (some.inj h).symm⟩
  · cases h

theorem columns_inferred_eq_none {i : Inferred}
    (hc : c ∈ readTaskColumns ++ readDetailColumns) : i.columns c = none := by
  simp only [readTaskColumns, readDetailColumns, cons_append, nil_append,
    mem_cons, not_mem_nil, or_false] at hc
  rcases hc with rfl | rfl | rfl | rfl | rfl | rfl | rfl | rfl | rfl <;> rfl

structure IsPlain (c : String) : Prop where
  index : c ≠ "namespace" ∧ c ≠ "target_name"
  stamp : c ≠ "gmt_modified" ∧ c ≠ "gmt_create"
  key : c ≠ "task_id" ∧ c ≠ "id"
  inferred : ∀ i : Inferred, i.columns c = none

theorem isPlain_of_read (hc : c ∈ readTaskColumns ++ readDetailColumns) : IsPlain c where
  index := by revert c; decide
  stamp := by revert c; decide
  key := by revert c; decide
  inferred := fun _ => columns_inferred_eq_none hc

section

variable {merged final : Values}
  (hm : extractIndexFields (mergeFields taskId s.task fields) = some merged)
  (hf : final = written taskId now s merged)

include hm

theorem merged_task (hc : c ∈ readTaskColumns) : merged c = columnsAfter s fields c := by
  have hp := isPlain_of_read (mem_append_left _ hc)
  obtain ⟨htask, hdetail⟩ := readTaskColumns_mem c hc
  rw [extractIndexFields_get hm hp.index]
  cases hrow : s.task <;>
    simp [mergeFields, columnsAfter, stored, Row.read, hrow, hdetail, hp.key.1]

theorem merged_details (hc : c ∈ readDetailColumns) : merged c = fields.get c := by
  have hp := isPlain_of_read (mem_append_right _ hc)
  have htask := (readDetailColumns_mem c hc).1
  rw [extractIndexFields_get hm hp.index]
  cases hrow : s.task <;> simp [mergeFields, Row.read, htask, hp.key.1]

theorem picks_details (hc : c ∈ readDetailColumns) :
    Picks none (merged c) (leftOut s fields c) (columnsAfter s fields c) := by
  have htask := (readDetailColumns_mem c hc).1
  have hstored : s.stored c = s.details.bind fun row => row.read detailColumns c := by
    cases hrow : s.task <;> simp [stored, Row.read, htask]
  rw [merged_details hm hc]
  cases hpass : fields.get c with
  | some v => exact .inl ⟨by simp [columnsAfter, hpass], by simp [leftOut, hpass]⟩
  | none => exact .inr ⟨by simp [columnsAfter, leftOut, hpass, hstored], rfl⟩

theorem extends_merged :
    (reading merged).Extends (reading (leftOut s fields)) (reading (columnsAfter s fields)) where
  recover := by simp only [reading, merged_task hm (by decide : "operation" ∈ _)]
  skill := by simp only [reading, merged_task hm (by decide : "skill_name" ∈ _)]
  uid := by simp only [reading, merged_task hm (by decide : "blade_uid" ∈ _)]
  error := by simp only [reading, merged_task hm (by decide : "error" ∈ _)]
  rejected := (picks_details hm (by decide : "safety_status" ∈ _)).map (isText "rejected")
  cleared := (picks_details hm (by decide : "safety_status" ∈ _)).map fun v =>
    isText "safe" v || isText "warning" v
  confirm := (picks_details hm (by decide : "needs_confirm" ∈ _)).map isSet
  verification := (picks_details hm (by decide : "verification" ∈ _)).map fun v => v.getD .null
  recoverVerification :=
    (picks_details hm (by decide : "recover_verification" ∈ _)).map fun v => v.getD .null
  result := (picks_details hm (by decide : "result" ∈ _)).map fun v : Option Json =>
    fieldsOf (v.getD .null)

theorem merged_agentKeys : ∀ k ∈ agentKeys, merged k = none := by
  intro k hk
  obtain ⟨htask, hdetail⟩ := agentKeys_notMem k hk
  have hindex : k ≠ "namespace" ∧ k ≠ "target_name" := by revert k; decide
  have hid : k ≠ "task_id" := by revert k; decide
  rw [extractIndexFields_get hm hindex]
  cases s.task <;> simp [mergeFields, Row.read, fields_agentKeys fields k hk, htask, hid]

omit hm
include hf

theorem final_eq (hc : IsPlain c) : final c = merged c := by
  rw [hf, written, setTimestamps_get hc.stamp, if_neg hc.key.1]
  cases inferFields merged <;> simp [hc.inferred]

theorem final_inferred {i : Inferred} (hi : inferFields merged = some i) {v : Json}
    (hc : i.columns c = some v) : c ∈ taskColumns ∧ c ≠ "id" ∧ final c = some v := by
  have hp := inferredColumns_spec c (inferred_columns_mem hc)
  rw [hf, written, setTimestamps_get hp.2.2.2.1, if_neg hp.2.2.1, hi]
  exact ⟨hp.1, hp.2.1, by simp [hc]⟩

variable (hs : s' = { task := some (upsertRow taskDefaults taskColumns s.task final)
                      details := some (upsertRow detailDefaults detailColumns s.details final) })

include hm hs

theorem stored_task {α : Type} (hc : c ∈ readTaskColumns) (f : Option Json → α)
    (hdefault : f (some (taskDefaults c)) = f none) : f (s'.stored c) =
        f (columnsAfter s fields c) := by
  obtain ⟨htask, hdetail⟩ := readTaskColumns_mem c hc
  have hp := isPlain_of_read (mem_append_left _ hc)
  have hfinal : final c = columnsAfter s fields c := (final_eq hf hp).trans (merged_task hm hc)
  have hstored : s'.stored c =
      some ((columnsAfter s fields c).getD ((s.task.getD taskDefaults) c)) := by
    simp [hs, stored, Row.read, upsertRow, htask, hp.key.2, hfinal]
  rw [hstored]
  cases hafter : columnsAfter s fields c with
  | some v => rfl
  | none =>
    have hrow : s.task = none := by
      cases hrow : s.task with
      | none => rfl
      | some row => simp [columnsAfter, stored, Row.read, hrow, htask] at hafter
    rw [hrow]
    exact hdefault

theorem stored_details {α : Type} (hc : c ∈ readDetailColumns) (f : Option Json → α)
    (hdefault : f (some (detailDefaults c)) = f none) :
    f (s'.stored c) = f (columnsAfter s fields c) := by
  obtain ⟨htask, hdetail⟩ := readDetailColumns_mem c hc
  have hp := isPlain_of_read (mem_append_right _ hc)
  have hfinal : final c = fields.get c := (final_eq hf hp).trans (merged_details hm hc)
  have hstored : s'.stored c = some ((fields.get c).getD ((s.details.getD detailDefaults) c)) := by
    simp [hs, stored, Row.read, upsertRow, htask, hdetail, hp.key.2, hfinal]
  have hafter : columnsAfter s fields c =
      (fields.get c).or (s.details.bind fun row => row.read detailColumns c) := by
    cases hrow : s.task <;> simp [columnsAfter, stored, Row.read, htask]
  rw [hstored, hafter]
  cases fields.get c with
  | some v => rfl
  | none =>
    cases s.details with
    | none => exact hdefault
    | some row => simp [Row.read, hdetail]

theorem reading_stored : reading s'.stored = reading (columnsAfter s fields) := by
  have htask {α : Type} {c : String} (hc : c ∈ readTaskColumns) (f : Option Json → α) :=
    stored_task hm hf hs hc f
  have hdetails {α : Type} {c : String} (hc : c ∈ readDetailColumns) (f : Option Json → α) :=
    stored_details hm hf hs hc f
  have hresult := hdetails (by decide : "result" ∈ _) (fun v => fieldsOf (v.getD .null)) rfl
  simp only [reading, resultFields, htask (by decide : "operation" ∈ _) (isText "recover") rfl,
    htask (by decide : "skill_name" ∈ _) isSet rfl, htask (by decide : "blade_uid" ∈ _) isSet rfl,
    htask (by decide : "error" ∈ _) isSet rfl,
    hdetails (by decide : "safety_status" ∈ _) (isText "rejected") rfl,
    hdetails (by decide : "safety_status" ∈ _) (isText "safe") rfl,
    hdetails (by decide : "safety_status" ∈ _) (isText "warning") rfl,
    hdetails (by decide : "needs_confirm" ∈ _) isSet rfl,
    hdetails (by decide : "verification" ∈ _) (fun v => v.getD .null) rfl,
    hdetails (by decide : "recover_verification" ∈ _) (fun v => v.getD .null) rfl, hresult]

end

theorem stored_agentKeys (s : TaskRows) : ∀ k ∈ agentKeys, s.stored k = none := by
  intro k hk
  obtain ⟨htask, hdetail⟩ := agentKeys_notMem k hk
  cases htr : s.task <;> cases hdr : s.details <;>
    simp [stored, Row.read, htask, hdetail]

theorem columnsAfter_agentKeys : ∀ k ∈ agentKeys, columnsAfter s fields k = none := by
  intro k hk
  simp [columnsAfter, fields_agentKeys fields k hk, stored_agentKeys s k hk]

theorem inferred_ext {i j : Inferred} (hi : i.stage.isSome ∧ i.phase.isSome)
    (hj : j.stage.isSome ∧ j.phase.isSome) (h : ∀ c v, i.columns c = some v →
        j.columns c = some v) :
    i = j := by
  obtain ⟨state, stage, phase⟩ := i
  obtain ⟨state', stage', phase'⟩ := j
  obtain ⟨stage, rfl⟩ := isSome_iff_exists.mp hi.1
  obtain ⟨phase, rfl⟩ := isSome_iff_exists.mp hi.2
  obtain ⟨stage', rfl⟩ := isSome_iff_exists.mp hj.1
  obtain ⟨phase', rfl⟩ := isSome_iff_exists.mp hj.2
  have hstate : state'.value = state.value := by simpa [Inferred.columns] using h "task_state" _ rfl
  have hstage : stage'.value = stage.value := by simpa [Inferred.columns] using h "stage" _ rfl
  have hphase : phase'.value = phase.value := by simpa [Inferred.columns] using h "phase" _ rfl
  have hs : state = state' := by revert hstate; cases state <;> cases state' <;> decide
  have ht : stage = stage' := by revert hstage; cases stage <;> cases stage' <;> decide
  have hp : phase = phase' := by revert hphase; cases phase <;> cases phase' <;> decide
  rw [hs, ht, hp]

theorem infer_isSome {r : Reading} {i : Inferred} (h : r.infer = some i) :
    i.stage.isSome ∧ i.phase.isSome := by
  obtain ⟨state, -, h⟩ := bind_eq_some_iff.mp h
  obtain ⟨phase, -, h⟩ := bind_eq_some_iff.mp h
  cases h
  exact ⟨rfl, rfl⟩

theorem inferred_columns_isSome (i : Inferred) (hc : c ∈ inferredColumns) :
    ∃ v, i.columns c = some v := by
  simp only [inferredColumns, mem_cons, not_mem_nil, or_false] at hc
  rcases hc with rfl | rfl | rfl
  · exact ⟨_, rfl⟩
  · exact ⟨_, rfl⟩
  · exact ⟨_, rfl⟩

section

variable {merged final : Values}
  (hm : extractIndexFields (mergeFields taskId s.task fields) = some merged)
  (hf : final = written taskId now s merged)

include hm in
theorem inferFields_mergeFields :
    inferFields (mergeFields taskId s.task fields) = inferFields merged := by
  have hkeys : ∀ k ∈ agentKeys, mergeFields taskId s.task fields k = none := by
    intro k hk
    have hindex : k ≠ "namespace" ∧ k ≠ "target_name" := by revert k; decide
    rw [← extractIndexFields_get hm hindex]
    exact merged_agentKeys hm k hk
  have hcol : ∀ c ∈ readTaskColumns ++ readDetailColumns,
      mergeFields taskId s.task fields c = merged c := fun c hc =>
    (extractIndexFields_get hm (isPlain_of_read hc).index).symm
  rw [inferFields_eq hkeys, inferFields_eq (merged_agentKeys hm)]
  have hreading : reading (mergeFields taskId s.task fields) = reading merged := by
    simp only [reading, resultFields, hcol _ (by decide : "operation" ∈ _),
      hcol _ (by decide : "safety_status" ∈ _), hcol _ (by decide : "skill_name" ∈ _),
      hcol _ (by decide : "blade_uid" ∈ _), hcol _ (by decide : "error" ∈ _),
      hcol _ (by decide : "needs_confirm" ∈ _), hcol _ (by decide : "verification" ∈ _),
      hcol _ (by decide : "recover_verification" ∈ _), hcol _ (by decide : "result" ∈ _)]
  rw [hreading]

include hf in
theorem upsertRow_inferred {i : Inferred} (hi : inferFields merged = some i)
    {v : Json} (hc : i.columns c = some v) :
    upsertRow taskDefaults taskColumns s.task final c = v := by
  obtain ⟨htask, hid, hfinal⟩ := final_inferred hf hi hc
  simp [upsertRow, htask, hid, hfinal]

include hm hf in
theorem upsertRow_kept (hi : inferFields merged = none) (hc : c ∈ inferredColumns) :
    upsertRow taskDefaults taskColumns s.task final c = (s.task.getD taskDefaults) c := by
  obtain ⟨htask, hnid, hid, hstamp, hindex, hown⟩ := inferredColumns_spec c hc
  have hnone : fields.get c = none := by
    cases hv : fields.get c with
    | none => rfl
    | some v => exact absurd hown (fields.columns c v hv).2.1
  have hfinal : final c = mergeFields taskId s.task fields c := by
    rw [hf, written, setTimestamps_get hstamp, if_neg hid, hi, ← extractIndexFields_get hm hindex]
    rfl
  cases hrow : s.task <;> simp [upsertRow, hfinal, mergeFields, Row.read, hrow, hnone, hid, htask,
    hnid]

end

/-- The inference raises on what the call sees, so the stored state stays as it
is; it is already what all columns say. -/
def KeepsState (taskId : String) (s : TaskRows) (fields : Fields) : Prop :=
  inferFields (mergeFields taskId s.task fields) = none ∧
    ∀ i, inferFields (columnsAfter s fields) = some i →
      ∀ c v, i.columns c = some v → (s.task.getD taskDefaults) c = v

/-- One call: the state it stores reflects everything stored exactly if the
call restates what decides, if there is nothing to be inferred, or if the
inference raises on what it sees and the state was right before. -/
theorem upsert_reflects_iff (htask : taskId ≠ "" ∧ startsWith taskId "turn-" = false)
    (h : upsert taskId now fields s = some s') :
    Reflects s' ↔ inferFields (columnsAfter s fields) = none ∨ Restates s fields ∨
      KeepsState taskId s fields := by
  obtain ⟨merged, final, hm, hf, hs⟩ := upsert_eq_some htask h
  have hext := extends_merged hm
  have hseen := inferFields_eq (merged_agentKeys hm)
  have hall : inferFields s'.stored = (reading (columnsAfter s fields)).infer := by
    rw [inferFields_eq (stored_agentKeys s'), reading_stored hm hf hs]
  have hafter : inferFields (columnsAfter s fields) = (reading (columnsAfter s fields)).infer :=
    inferFields_eq columnsAfter_agentKeys
  have hmerge := inferFields_mergeFields hm
  have hrow : s'.task = some (upsertRow taskDefaults taskColumns s.task final) := by rw [hs]
  constructor
  · intro hr
    cases ha : (reading (columnsAfter s fields)).infer with
    | none => exact .inl (hafter.trans ha)
    | some i =>
      have hr := hr _ i hrow (hall.trans ha)
      cases hi : inferFields merged with
      | some j =>
        -- the call has written what it inferred
        have hij : i = j := by
          refine inferred_ext (infer_isSome ha) (infer_isSome (hseen.symm.trans hi)) ?_
          intro c v hc
          obtain ⟨w, hw⟩ := inferred_columns_isSome j (inferred_columns_mem hc)
          rw [hw, ← upsertRow_inferred hf hi hw, hr c v hc]
        subst hij
        exact .inr (.inl (restated_of_infer_eq hext (hseen.symm.trans hi) ha))
      | none =>
        refine .inr (.inr ⟨hmerge.trans hi, fun j hj c v hc => ?_⟩)
        obtain rfl : i = j := some.inj (ha.symm.trans (hafter.symm.trans hj))
        rw [← upsertRow_kept hm hf hi (inferred_columns_mem hc)]
        exact hr c v hc
  · rintro hcond row i hrow' hi c v hc
    obtain rfl := some.inj (hrow.symm.trans hrow')
    have ha : (reading (columnsAfter s fields)).infer = some i := hall.symm.trans hi
    rcases hcond with hnone | hres | ⟨hnone, hkept⟩
    · cases hnone.symm.trans (hafter.trans ha)
    · have hj : inferFields merged = some i := by rw [hseen, infer_eq_of_restated hext hres, ha]
      exact upsertRow_inferred hf hj hc
    · rw [upsertRow_kept hm hf (hmerge.symm.trans hnone) (inferred_columns_mem hc)]
      exact hkept i (hafter.trans ha) c v hc

end

/-! ## Sequences -/

/-- After every sequence of calls whose last one returns, the stored state
reflects everything stored exactly if that call restates what decides it. -/
theorem upserts_reflect_iff {taskId : String} {calls : List Call} {call : Call} {s : TaskRows}
    (htask : taskId ≠ "" ∧ startsWith taskId "turn-" = false)
    (h : upsert taskId call.now call.fields (upserts taskId calls) = some s) :
    upserts taskId (calls ++ [call]) = s ∧
      (Reflects s ↔ inferFields (columnsAfter (upserts taskId calls) call.fields) = none ∨
          Restates (upserts taskId calls) call.fields ∨
          KeepsState taskId (upserts taskId calls) call.fields) := by
  refine ⟨?_, upsert_reflects_iff htask h⟩
  rw [upserts, foldl_append]
  exact congrArg (fun r => Option.getD r (upserts taskId calls)) h

def passedVerification : Json :=
  .obj [("level", .str "verified"), ("layer1", .obj [("status", .str "passed")]),
    ("layer2", .obj [("status", .str "passed")])]

def verifierCall : Call where
  now := "2026-01-01T00:00:00Z"
  fields := .ofList [("skill_name", .str "pod-cpu"), ("blade_uid", .str "4f3a1c0e9b7d2a65"),
    ("verification", passedVerification)] (by decide)

def spanCall : Call where
  now := "2026-01-01T00:00:01Z"
  fields := .ofList [] (by decide)

def storedState (taskId : String) (calls : List Call) : Option Json :=
  (upserts taskId calls).task.map fun row => row "task_state"

/-- The tracer's call takes the outcome of the verification back: everything
stored says that the fault is injected, the stored state that the injection
is still on its way. -/
theorem not_reflects_after_span : inferFields (upserts "task-1" [verifierCall, spanCall]).stored =
      some ⟨.injected, some .injection, some .verificationPassed⟩ ∧
    storedState "task-1" [verifierCall, spanCall] = some (.str "injecting") ∧
    ¬ Reflects (upserts "task-1" [verifierCall, spanCall]) := by
  have hinfer : inferFields (upserts "task-1" [verifierCall, spanCall]).stored =
      some ⟨.injected, some .injection, some .verificationPassed⟩ := by decide
  have hstate : storedState "task-1" [verifierCall, spanCall] = some (.str "injecting") := rfl
  refine ⟨hinfer, hstate, fun h => ?_⟩
  obtain ⟨row, hrow, hcell⟩ := map_eq_some_iff.mp hstate
  have hinjected := h row _ hrow hinfer "task_state" _ rfl
  rw [hcell] at hinjected
  exact absurd (Json.str.inj hinjected) (by decide)

def restatingCall : Call where
  now := "2026-01-01T00:00:01Z"
  fields := .ofList [("verification", passedVerification)] (by decide)

theorem upserts_reflect_restated :
    Reflects (upserts "task-1" ([verifierCall] ++ [restatingCall])) := by
  have hrest : Restates (upserts "task-1" [verifierCall]) restatingCall.fields := by
    refine ⟨by decide, fun _ _ => ?_⟩
    rw [show (reading (columnsAfter (upserts "task-1" [verifierCall])
      restatingCall.fields)).recover = false by decide]
    exact ⟨by decide, fun _ => by decide, fun _ _ _ => by decide⟩
  have h := @upserts_reflect_iff "task-1" [verifierCall] restatingCall _ (by decide) rfl
  exact h.2.mpr (.inr (.inl hrest))

end ChaosBlade.Persistence
