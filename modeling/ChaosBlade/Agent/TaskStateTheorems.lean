/-
Agent.TaskStateTheorems: whether the state and the phase of a
task tell the same story.

`infer_task_state` and `infer_phase` read the same documents in two
cascades. Both come down to one question about the layers, with two
differences: the phase also accepts two skipped layers, and after a
recovery before the observation it looks for restarts only, where the
state takes any side effect.
-/
import ChaosBlade.Agent.TaskState

namespace ChaosBlade.Agent

open Py Json LayerVerdicts

/-! ## The layers -/

def textOf : Option Json → Option String
  | some (.str s) => some s
  | _ => none

theorem isText_eq (text : String) (v : Option Json) : isText text v =
    decide (textOf v = some text) := by
  unfold isText textOf
  split <;> simp [Bool.beq_eq_decide_eq]

def LayerVerdicts.accepted (v : LayerVerdicts) : Bool :=
  isText "verified" v.level || isText "partial" v.level

/-- What both cascades ask of the layers. `bothSkipped` tells whether two skipped
layers count, `seen` whether side effects stand in for the observation. -/
def LayerVerdicts.confirms (v : LayerVerdicts) (bothSkipped seen : Bool) : Bool :=
  isText "passed" v.layer1 &&
      (isText "passed" v.layer2 || isText "skipped" v.layer2 ||
        (isText "unknown" v.layer2 && !isText "unverified" v.level) ||
        (isText "partial" v.layer2 && v.accepted) ||
        (isText "recovered_before_observation" v.layer2 && seen)) ||
    isText "skipped" v.layer1 &&
      (isText "passed" v.layer2 || (bothSkipped && isText "skipped" v.layer2) ||
        (isText "partial" v.layer2 && v.accepted))

def anyEffect : Option Json → Bool
  | some (.obj effects) => effects.any fun f => f.2.truthy
  | _ => false

def restarted : Option Json → Bool
  | some (.obj effects) => isSet (Json.get? effects "container_restarts")
  | _ => false

theorem isSet_eq_getD (v : Option Json) : isSet v = (v.getD .null).truthy := by cases v <;> rfl

theorem restarted_anyEffect {effects : Option Json} (h : restarted effects = true) :
    anyEffect effects = true := by
  unfold restarted at h
  split at h
  · next fs =>
    cases hget : get? fs "container_restarts" with
    | none => simp [hget] at h
    | some v =>
      rw [hget] at h
      obtain ⟨l₁, l₂, rfl, -⟩ := List.lookup_eq_some_iff.mp hget
      have htruthy : v.truthy = true := h
      simp [anyEffect, htruthy]
  · cases h

/-- The cascade the two functions share, with `good` and `bad` as their answers
and `seen` as their reading of the side effects. -/
def cascade {α : Type} (bothSkipped : Bool) (good bad : α)
    (seen : Option Json → Except PyError Bool) (v : LayerVerdicts) : Except PyError α :=
  if isText "passed" v.layer1 && (isText "passed" v.layer2 || isText "skipped" v.layer2) then
    .ok good
  else if isText "passed" v.layer1 && isText "unknown" v.layer2 then
    .ok (if isText "unverified" v.level then bad else good)
  else if isText "passed" v.layer1 && isText "partial" v.layer2 then
    .ok (if v.accepted then good else bad)
  else if isText "skipped" v.layer1 &&
      (isText "passed" v.layer2 || (bothSkipped && isText "skipped" v.layer2)) then .ok good
  else if isText "skipped" v.layer1 && isText "partial" v.layer2 then
    .ok (if v.accepted then good else bad)
  else if isText "passed" v.layer1 && isText "recovered_before_observation" v.layer2 then
    (seen v.sideEffects).map fun yes => if yes then good else bad
  else .ok bad

def whenSet (read : Json → Except PyError Bool) (effects : Option Json) : Except PyError Bool :=
  if isSet effects then read (effects.getD .null) else .ok false

attribute [local simp] Except.map

section

variable {v : LayerVerdicts}

theorem verifiedState_eq_cascade {verification : Json} (hv : layerVerdicts verification = .ok v) :
    verifiedState verification = cascade false .injected .failed (whenSet anyValue) v := by
  unfold verifiedState cascade whenSet
  simp only [hv, accepted, bind, Except.bind, pure, Except.pure, Bool.false_and, Bool.or_false]
  cases v.sideEffects with
  | none => rfl
  | some effects =>
    rw [isSet_eq_getD]
    cases ht : effects.truthy <;> cases anyValue effects <;> simp [ht]

theorem verifiedPhase_eq_cascade {verification : Json} (hv : layerVerdicts verification = .ok v) :
    verifiedPhase verification = cascade true .verificationPassed .verificationFailed
      (whenSet fun effects => (effects.getD "container_restarts" .null).map Json.truthy) v := by
  unfold verifiedPhase cascade whenSet
  simp only [hv, accepted, bind, Except.bind, pure, Except.pure]
  cases v.sideEffects with
  | none => rfl
  | some effects =>
    rw [isSet_eq_getD]
    cases ht : effects.truthy <;> cases hr : effects.getD "container_restarts" .null <;>
      simp [ht, hr]

theorem whenSet_anyValue (effects : Option Json) :
    whenSet anyValue effects = .ok true ↔ anyEffect effects = true := by
  unfold whenSet anyEffect
  cases effects with
  | none => simp
  | some effects =>
    cases effects with
    | obj fs => cases fs <;> simp [isSet, truthy, anyValue]
    | _ => split <;> simp [anyValue]

theorem whenSet_restarts (effects : Option Json) :
    whenSet (fun effects => (effects.getD "container_restarts" .null).map Json.truthy) effects =
      .ok true ↔ restarted effects = true := by
  unfold whenSet restarted
  cases effects with
  | none => simp
  | some effects =>
    cases effects with
    | obj fs => cases fs <;> simp [isSet_eq_getD, truthy, getD, get?]
    | _ => split <;> simp [getD]

theorem cascade_good_iff {α : Type} {bothSkipped seen : Bool} {good bad : α} (hne : bad ≠ good)
    {read : Option Json → Except PyError Bool}
    (hread : read v.sideEffects = .ok true ↔ seen = true) :
    cascade bothSkipped good bad read v = .ok good ↔ v.confirms bothSkipped seen = true := by
  unfold cascade confirms
  simp only [isText_eq]
  by_cases hp : textOf v.layer1 = some "passed"
  · by_cases h2 : textOf v.layer2 = some "passed"
    · simp [hp, h2]
    by_cases h3 : textOf v.layer2 = some "skipped"
    · simp [hp, h3]
    by_cases h4 : textOf v.layer2 = some "unknown"
    · by_cases hl : textOf v.level = some "unverified" <;> simp [hp, h4, hne]
    by_cases h5 : textOf v.layer2 = some "partial"
    · cases hl : v.accepted <;> simp [hp, h5, hne]
    by_cases h6 : textOf v.layer2 = some "recovered_before_observation"
    · simp only [hp, h6]
      rcases hr : read v.sideEffects with e | (_ | _) <;> simp [hr] at hread <;>
        simp [hread, hne]
    · simp [hp, h2, h4, h5, h6, hne]
  by_cases hs : textOf v.layer1 = some "skipped"
  · by_cases h2 : textOf v.layer2 = some "passed"
    · simp [hs, h2]
    by_cases h3 : textOf v.layer2 = some "skipped"
    · cases bothSkipped <;> simp [hs, h3, hne]
    by_cases h5 : textOf v.layer2 = some "partial"
    · cases hl : v.accepted <;> simp [hs, h5, hne]
    · simp [hs, h2, h5, hne]
  · simp [hp, hs, hne]

theorem cascade_eq_ok {α : Type} {bothSkipped : Bool} {good bad a : α}
    {read : Option Json → Except PyError Bool}
    (h : cascade bothSkipped good bad read v = .ok a) : a = good ∨ a = bad := by
  unfold cascade at h
  cases hr : read v.sideEffects <;> grind [Except.map]

end

/-- The layers on which the two cascades agree: not both skipped, and a side
effect in place of the observation is a restart. -/
def LayerVerdicts.Agree (v : LayerVerdicts) : Prop :=
  ¬ (textOf v.layer1 = some "skipped" ∧ textOf v.layer2 = some "skipped") ∧
  (textOf v.layer1 = some "passed" → textOf v.layer2 = some "recovered_before_observation" →
    anyEffect v.sideEffects = true → restarted v.sideEffects = true)

theorem confirms_agree_iff (v : LayerVerdicts) :
    (v.confirms false (anyEffect v.sideEffects) = true ↔
      v.confirms true (restarted v.sideEffects) = true) ↔ v.Agree := by
  have hsub : restarted v.sideEffects = true → anyEffect v.sideEffects = true := restarted_anyEffect
  simp only [confirms, LayerVerdicts.Agree, isText_eq]
  by_cases hskip : textOf v.layer1 = some "skipped" ∧ textOf v.layer2 = some "skipped"
  · simp [hskip]
  by_cases hrbo : textOf v.layer1 = some "passed" ∧
      textOf v.layer2 = some "recovered_before_observation"
  · cases ha : anyEffect v.sideEffects <;> cases hr : restarted v.sideEffects <;>
      simp_all
  · grind

/-! ## The two readings of a settled task -/

structure Settled (v : Values) : Prop where
  intent : isBridgeIntent v = false
  error : isSet (v "error") = false
  safety : isText "rejected" (v "safety_status") = false
  dryRun : isSet (v "dry_run") = false
  replan : isSet (v "replan_context") = false

def isNumber : Option Json → Bool
  | none => true
  | some (.int _) => true
  | some (.bool _) => true
  | some (.float _ _) => true
  | _ => false

section

variable {v : Values} (h : Settled v)
include h

attribute [local simp] Except.bind

theorem Settled.not_counted (hcount : isNumber (v "replan_count") = false) :
    ∃ e, inferTaskState v = .error e := by
  have herr : ∃ e, isPositive (v "replan_count") = .error e := by
    unfold isNumber at hcount
    unfold isPositive
    split at hcount <;> cases hcount
    split <;> simp_all
  obtain ⟨e, he⟩ := herr
  refine ⟨e, ?_⟩
  unfold inferTaskState
  simp [h.intent, h.safety, he, bind]

theorem Settled.state (hcount : isNumber (v "replan_count") = true) : inferTaskState v =
      if isText "recover" (v "operation") then if isSet (v "recover_verification") then
          recoveryState ((v "recover_verification").getD .null) (resultFields v)
        else .ok .recovering
      else if isSet (v "verification") then verifiedState ((v "verification").getD .null)
      else .ok .injecting := by
  have hok : ∃ b, isPositive (v "replan_count") = .ok b := by
    unfold isNumber at hcount
    split at hcount <;> simp_all [isPositive]
  obtain ⟨b, hb⟩ := hok
  unfold inferTaskState
  simp [h.intent, h.safety, h.error, h.replan, hb, bind, pure, Except.pure, isSet_eq_getD]

theorem Settled.phase_recovery (hop : isText "recover" (v "operation") = true)
    (hrv : isSet (v "recover_verification") = true) :
    inferPhase v = .ok (some (recoveryPhase (resultFields v))) := by
  unfold inferPhase
  simp [h.intent, h.safety, h.error, h.dryRun, h.replan, hop, hrv, bind, pure, Except.pure]

theorem Settled.phase_injection (hop : isText "recover" (v "operation") = false)
    (hskill : isSet (v "skill_name") = true) (huid : isSet (v "blade_uid") = true)
    (hconfirm : isSet (v "needs_confirmation") = false) : inferPhase v =
      if isSet (v "verification") then (verifiedPhase ((v "verification").getD .null)).map some
      else .ok (some .executing) := by
  unfold inferPhase
  simp [h.intent, h.safety, h.error, h.dryRun, h.replan, hop, hskill, huid, hconfirm, bind, pure,
      Except.pure, isSet_eq_getD]

end

/-! ## Agreement -/

/-- What an injection must show for both cascades to agree. Without a number in
`replan_count` the state raises, and the phase must not report a success. -/
def InjectionAgrees (v : Values) : Prop :=
  isSet (v "verification") = true →
    ∀ layers, layerVerdicts ((v "verification").getD .null) = .ok layers →
      if isNumber (v "replan_count") then layers.Agree
      else layers.confirms true (restarted layers.sideEffects) = false

def recoverFields (v : Values) : List (String × Json) :=
  fieldsOf ((v "recover_verification").getD .null)

/-- What a recovery must show: a number in `replan_count`, and a result that
reports it, or a Layer 1 that is an object and not a skipped one under a level
that counts as recovered. -/
def RecoveryAgrees (v : Values) : Prop :=
  isNumber (v "replan_count") = true ∧
    (isSet (Json.get? (resultFields v) "recovered") = true ∨
      ∃ layer1, (Json.get? (recoverFields v) "layer1").getD (.obj []) = .obj layer1 ∧
        ¬ (textOf (Json.get? layer1 "status") = some "skipped" ∧
          (textOf (Json.get? (recoverFields v) "level") = some "recovered" ∨
            textOf (Json.get? (recoverFields v) "level") = some "partial")))

theorem map_some_eq_ok {α : Type} {x : Except PyError α} {a : α} :
    x.map some = .ok (some a) ↔ x = .ok a := by cases x <;> simp

theorem injection_agrees_iff {v : Values} (h : Settled v)
    (hop : isText "recover" (v "operation") = false) (hskill : isSet (v "skill_name") = true)
    (huid : isSet (v "blade_uid") = true) (hconfirm : isSet (v "needs_confirmation") = false) :
    (inferTaskState v = .ok .injected ↔ inferPhase v = .ok (some .verificationPassed)) ↔
      InjectionAgrees v := by
  rw [h.phase_injection hop hskill huid hconfirm]
  unfold InjectionAgrees
  cases hver : isSet (v "verification") with
  | false =>
    -- nothing is verified yet: neither reports a success
    cases hcount : isNumber (v "replan_count") with
    | false =>
      obtain ⟨e, he⟩ := h.not_counted hcount
      simp [he]
    | true => simp [h.state hcount, hop, hver]
  | true =>
    simp only [if_true, map_some_eq_ok, true_imp_iff]
    cases hlayers : layerVerdicts ((v "verification").getD .null) with
    | error e =>
      have hphase : verifiedPhase ((v "verification").getD .null) = .error e := by
        unfold verifiedPhase
        rw [hlayers]
        rfl
      have hstate : verifiedState ((v "verification").getD .null) = .error e := by
        unfold verifiedState
        rw [hlayers]
        rfl
      cases hcount : isNumber (v "replan_count") with
      | false =>
        obtain ⟨e', he⟩ := h.not_counted hcount
        simp [he, hphase]
      | true => simp [h.state hcount, hop, hver, hphase, hstate]
    | ok layers =>
      have hphase := verifiedPhase_eq_cascade hlayers
      rw [hphase, cascade_good_iff (by decide) (whenSet_restarts _)]
      simp only [Except.ok.injEq, forall_eq']
      cases hcount : isNumber (v "replan_count") with
      | false =>
        obtain ⟨e, he⟩ := h.not_counted hcount
        simp [he]
      | true =>
        rw [h.state hcount, hop, hver, if_neg (by simp), if_pos rfl,
            verifiedState_eq_cascade hlayers,
          cascade_good_iff (by decide) (whenSet_anyValue _), if_pos rfl]
        exact confirms_agree_iff layers

def recoveryEnds : List (TaskState × Phase) :=
  [(.recovered, .recovered), (.partialRecovered, .partialRecovered), (.failed, .verificationFailed)]

theorem recovery_agrees_iff {v : Values} (h : Settled v)
    (hop : isText "recover" (v "operation") = true)
    (hrv : isSet (v "recover_verification") = true) :
    (∀ e ∈ recoveryEnds, inferTaskState v = .ok e.1 ↔ inferPhase v = .ok (some e.2)) ↔
      RecoveryAgrees v := by
  rw [h.phase_recovery hop hrv]
  unfold RecoveryAgrees recoveryPhase recoverFields
  simp only [recoveryEnds]
  cases hcount : isNumber (v "replan_count") with
  | false =>
    -- the phase is one of the three, the state raises
    obtain ⟨e, he⟩ := h.not_counted hcount
    rw [he]
    split <;> (try split) <;> simp
  | true =>
    rw [h.state hcount, hop, hrv, if_pos rfl, if_pos rfl]
    unfold recoveryState
    cases hrec : isSet (get? (resultFields v) "recovered") with
    | true =>
      cases isText "partial" (get? (resultFields v) "recovery_level") <;>
        simp [pure, Except.pure]
    | false =>
      simp only [bind, Except.bind, pure, Except.pure, isText_eq]
      generalize fieldsOf ((v "recover_verification").getD .null) = rv
      cases (get? rv "layer1").getD (.obj []) with
      | obj layer1 =>
        have hstatus : textOf (some ((get? layer1 "status").getD .null)) =
            textOf (get? layer1 "status") := by cases get? layer1 "status" <;> rfl
        simp only [getD, hstatus]
        by_cases hskip : textOf (get? layer1 "status") = some "skipped"
        · by_cases hr : textOf (get? rv "level") = some "recovered"
          · simp [hskip, hr]
          by_cases hp : textOf (get? rv "level") = some "partial"
          · simp [hskip, hp]
          · simp [hr, hp]
        · simp [hskip]
      | _ => simp [getD]

/-- The state and the phase of a settled task agree: on an injection with a
verification, and on a recovery with one, exactly under the conditions above. -/
theorem state_phase_agree_iff {v : Values} (h : Settled v) :
    (isText "recover" (v "operation") = false → isSet (v "skill_name") = true →
      isSet (v "blade_uid") = true → isSet (v "needs_confirmation") = false →
      ((inferTaskState v = .ok .injected ↔ inferPhase v = .ok (some .verificationPassed)) ↔
        InjectionAgrees v)) ∧
    (isText "recover" (v "operation") = true → isSet (v "recover_verification") = true →
      ((∀ e ∈ recoveryEnds, inferTaskState v = .ok e.1 ↔ inferPhase v = .ok (some e.2)) ↔
        RecoveryAgrees v)) :=
  ⟨injection_agrees_iff h, recovery_agrees_iff h⟩

def layer (status : String) : Json := .obj [("status", .str status)]

def injected (layer1 layer2 : String) (effects : Json) : Values :=
  Json.get? [("operation", .str "inject"), ("skill_name", .str "mem-load"),
      ("blade_uid", .str "98f7"),
    ("verification", .obj [("layer1", layer layer1), ("layer2", layer layer2),
        ("side_effects", effects)])]

def skippedRecovery : Values :=
  Json.get? [("operation", .str "recover"),
    ("recover_verification", .obj [("layer1", layer "skipped"), ("level", .str "recovered")])]

/-- Two skipped layers fail and pass; a side effect other than a restart injects
and fails; a recovery without an experiment to destroy recovers and fails. -/
theorem state_phase_differ : let skipped := injected "skipped" "skipped" .null
    let killed := injected "passed" "recovered_before_observation" (.obj [("oom_killed",
        .bool true)])
    (inferTaskState skipped = .ok .failed ∧ inferPhase skipped = .ok (some .verificationPassed)) ∧
    (inferTaskState killed = .ok .injected ∧ inferPhase killed = .ok (some .verificationFailed)) ∧
    (inferTaskState skippedRecovery = .ok .recovered ∧
      inferPhase skippedRecovery = .ok (some .verificationFailed)) := by
  refine ⟨⟨?_, ?_⟩, ⟨?_, ?_⟩, ?_, ?_⟩ <;> rfl

theorem state_phase_agree_passed : InjectionAgrees (injected "passed" "passed" .null) :=
  ((state_phase_agree_iff ⟨rfl, rfl, rfl, rfl, rfl⟩).1 rfl rfl rfl rfl).mp ⟨fun _ => rfl,
      fun _ => rfl⟩

end ChaosBlade.Agent
