/-
Nodes.RecoverLayer1: `nodes/_recover_layer1.py`: the layer of
a recovery that undoes the fault, and what it makes of an error text.

On the host that is `blade_destroy`, confirmed by `blade_status`. Their
outputs are texts, mostly JSON, and reading them can raise; the layer
catches everything. Both answer `Error…` when they fail, but only the
reader of `blade_destroy` looks for that word first. A recovery by the
model ends with a summary, which counts as a success unless it says
otherwise.
-/
import ChaosBlade.Nodes.ExecuteLoop

namespace ChaosBlade.Nodes

open Py Agent

/-! ## The outputs of blade -/

def loadsOrNone (raw : String) : Except PyError (Option Json) :=
  match jsonLoads raw with
  | .ok v => .ok (some v)
  | .error .decode => .ok none
  | .error (.other e) => .error e

def reportsSuccess (data : Json) : Except PyError Bool := do
  if (← data.getD "success" .null).truthy then return true
  return (← data.getD "code" .null).eqInt 200

def parseBladeDestroyOutput (raw : String) : Except PyError (Layer1Status × String) := do
  if raw = "" ∨ startsWith raw "Error" then
    return (.failed, "blade_destroy returned error: " ++ cut 200 raw)
  match ← loadsOrNone raw with
  | none =>
    if hasSub "success" (lower raw) ∨ hasSub "destroy" (lower raw) then
      return (.passed, "blade_destroy completed (non-JSON output)")
    return (.failed, cut 200 raw)
  | some data =>
    if ← reportsSuccess data then return (.passed, "blade_destroy: success")
    return (.failed, "blade_destroy failed: " ++ (← data.getD "error" (.str (cut 200 raw))).toStr)

def destroyedStates : List String := ["Destroyed", "destroyed"]

def parseExperimentState (state : Json) : Except PyError (Layer1Status × String) :=
  match state with
  | .arr _ | .obj _ => .error ⟨.typeError, "unhashable type: '" ++ state.typeName ++ "'"⟩
  | state =>
    if destroyedStates.contains state.toStr then .ok (.passed, "blade_status confirms: Destroyed")
    else if ["Running", "running"].contains state.toStr then
      .ok (.failed, "blade_status: experiment still Running (destroy may have failed)")
    else .ok (.failed, "blade_status: unexpected status '" ++ state.toStr ++ "'")

def parseBladeStatusDestroyed (raw : String) : Except PyError (Layer1Status × String) := do
  match ← loadsOrNone raw with
  | none =>
    if destroyedStates.any fun text => hasSub text raw then
      return (.passed, "blade_status confirms: Destroyed")
    return (.unknown, "Could not parse blade_status output")
  | some data =>
    if !(← reportsSuccess data) then
      if (← data.getD "code" .null).eqInt 406 then
        return (.passed, "blade_status: experiment data not found (already destroyed)")
      return (.failed, "blade_status check failed: " ++ cut 200 raw)
    match ← data.getD "result" (.obj []) with
    | .obj res =>
      parseExperimentState
        ((Json.get? res "Status").getD ((Json.get? res "status").getD (.str "")))
    | _ => return (.passed, "blade_status: Destroyed")

/-! ## Recovery on the host -/

/-- The second step: what `blade_status` adds to a destroy that went through. -/
def confirmDestroyed (destroyRaw destroyDetails : String) (status : Except PyError String) :
    Layer1Result :=
  match (do let raw ← status; return (raw, ← parseBladeStatusDestroyed raw)) with
  | .error _ =>
    { status := .passed, details := destroyDetails ++ " (status check unavailable)"
      rawOutput := destroyRaw }
  | .ok (raw, .failed, details) =>
    { status := .failed, details := destroyDetails ++ ", but " ++ details
      rawOutput := "destroy: " ++ destroyRaw ++ "\nstatus: " ++ raw }
  | .ok (raw, _, details) =>
    { status := .passed, details := destroyDetails ++ ", " ++ details
      rawOutput := "destroy: " ++ destroyRaw ++ "\nstatus: " ++ raw }

def runRecoverLayer1 (destroy status : Except PyError String) : Layer1Result :=
  match (do let raw ← destroy; return (raw, ← parseBladeDestroyOutput raw)) with
  | .error e => { status := .error, details := e.msg, rawOutput := e.msg }
  | .ok (raw, .failed, details) => { status := .failed, details, rawOutput := raw }
  | .ok (raw, _, details) => confirmDestroyed raw details status

/-! ## Recovery by the model -/

def summaryStatus (text : String) : Layer1Status :=
  let text := lower text
  if hasSub "status: success" text ∨ hasSub "status:  success" text then .passed
  else if hasSub "status: failed" text ∨ hasSub "status:  failed" text then .failed
  else if hasSub "recovery_execution_result" text ∧
      (hasSub "error" text ∨ hasSub "failed" text) then .failed
  else .passed

def summaryLines (text : String) : String :=
  join "" (((splitChar '\n' text).filter fun line =>
    startsWith (lower (strip line)) "actions:" || startsWith (lower (strip line)) "details:").map
      fun line => strip line ++ "; ")

def parseLayer1RecoveryResult (text : String) : Layer1Result :=
  let kept := summaryLines text
  let details := if kept = "" then cut 300 (strip text) else kept
  { status := summaryStatus text
    details := if details = "" then "Recovery execution completed"
      else String.ofList (details.toList.rdropWhile fun c => c == ';' || c == ' ')
    rawOutput := cut 500 (strip text) }

/-! ## `nodes/_verifier_layer1.py` -/

def expiredStates : List String :=
  ["Destroyed", "destroyed", "Revoked", "revoked", "Completed", "completed"]

def runningStates : List String := ["Running", "running", "Success", "success"]

/-- The last part of `_parse_blade_status_output`: the dict `result`. -/
def parseRunningState (res : List (String × Json)) :
    Except PyError (Layer1Status × String × Bool) :=
  match (Json.get? res "Status").getD ((Json.get? res "status").getD (.str "")) with
  | .arr xs => .error ⟨.typeError, "unhashable type: '" ++ (Json.arr xs).typeName ++ "'"⟩
  | .obj fs => .error ⟨.typeError, "unhashable type: '" ++ (Json.obj fs).typeName ++ "'"⟩
  | state =>
    if runningStates.contains state.toStr then
      .ok (.passed, "blade_status: " ++ state.toStr ++ " (experiment running)", false)
    else if expiredStates.contains state.toStr then
      .ok (.failed, "Experiment status: " ++ state.toStr ++
        " — the fault has already expired (likely due to --timeout being too short). " ++
        "Verification cannot observe fault effects because they have already dissipated. " ++
        "Recommend increasing --duration to >= 60s.", true)
    else match (Json.get? res "Error").getD (.str "") with
      | .str e =>
        if hasSub "please wait" (lower e) then
          .ok (.warning, "Experiment in transient state (" ++ e ++
            "). Layer 2 will verify actual cluster state.", false)
        else .ok (.failed, "Experiment status: " ++ state.toStr, false)
      | v => .error (attributeError v "lower")

def parseBladeStatusOutput (raw : String) : Except PyError (Layer1Status × String × Bool) := do
  match ← loadsOrNone raw with
  | none =>
    if runningStates.any fun text => hasSub text raw then
      return (.passed, "blade_status: Running (raw match)", false)
    return (.failed, cut 200 raw, false)
  | some data =>
    if !(← reportsSuccess data) then return (.failed, cut 200 raw, false)
    match ← data.getD "result" (.obj []) with
    | .obj res => parseRunningState res
    | _ => return (.passed, "blade_status: Success (experiment running)", false)

/-- `_run_recover_layer1` with its test of the uid, which is made before
anything can be caught. -/
def runRecoverLayer1Of (bladeUid : String) (messages : List Message)
    (destroy status : Except PyError String) : Except PyError Layer1Result := do
  if bladeUid ≠ "" then return runRecoverLayer1 destroy status
  if ← wasBladeCreateAttempted messages then
    return { status := .failed
             details := "blade_create was called during injection but no UID available " ++
               "for recovery" }
  return { status := .skipped
           details := "Non-ChaosBlade fault (no blade_uid), Layer 1 recovery not applicable" }

/-! ## Error texts -/

open JsonDecode in
theorem loadsOrNone_error_text (t : String) : loadsOrNone ("Error" ++ t) = .ok none := by
  have hloads : jsonLoads ("Error" ++ t) = .error .decode := by
    simp [jsonLoads, skipBlanks, isBlank, rawDecode, scanOnce, scanWord, words, Re.lit,
      scanNumber, scanInt, isDigit]
  simp [loadsOrNone, hloads]

attribute [local simp] Except.pure

theorem parseBladeDestroyOutput_error_text (t : String) : parseBladeDestroyOutput ("Error" ++ t) =
      .ok (.failed, "blade_destroy returned error: " ++ cut 200 ("Error" ++ t)) := by
  have herror : startsWith ("Error" ++ t) "Error" = true := by simp [startsWith]
  simp [parseBladeDestroyOutput, herror, pure]

attribute [local simp] Except.bind runRecoverLayer1

theorem parseBladeStatusOutput_error_text (t : String) :
    (∃ details expired, parseBladeStatusOutput ("Error" ++ t) = .ok (.passed, details, expired)) ↔
      ∃ word ∈ runningStates, hasSub word ("Error" ++ t) = true := by
  simp only [parseBladeStatusOutput, loadsOrNone_error_text, ← List.any_eq_true]
  cases runningStates.any fun text => hasSub text ("Error" ++ t) <;>
    simp [bind, pure]

theorem parseBladeStatusDestroyed_error_text (t : String) :
    (∃ details, parseBladeStatusDestroyed ("Error" ++ t) = .ok (.passed, details)) ↔
      ∃ word ∈ destroyedStates, hasSub word ("Error" ++ t) = true := by
  simp only [parseBladeStatusDestroyed, loadsOrNone_error_text, ← List.any_eq_true]
  cases destroyedStates.any fun text => hasSub text ("Error" ++ t) <;>
    simp [bind, pure]

theorem parseBladeDestroyOutput_status {raw details : String} {st : Layer1Status}
    (h : parseBladeDestroyOutput raw = .ok (st, details)) : st = .failed ∨ st = .passed := by
  simp only [parseBladeDestroyOutput, bind, Except.bind] at h
  repeat' split at h
  all_goals cases h
  all_goals simp

/-- Layer 1 passes on the word of `blade_destroy`, never on that of
`blade_status` alone. -/
theorem runRecoverLayer1Of_passed {bladeUid : String} {messages : List Message}
    {destroy status : Except PyError String} {r : Layer1Result}
    (h : runRecoverLayer1Of bladeUid messages destroy status = .ok r) (hr : r.status = .passed) :
    ∃ raw details, destroy = .ok raw ∧ parseBladeDestroyOutput raw = .ok (.passed, details) := by
  simp only [runRecoverLayer1Of, bind, Except.bind] at h
  -- without a uid the layer fails or is skipped
  repeat' split at h
  all_goals cases h
  any_goals cases hr
  cases destroy with
  | error e => simp [bind] at hr
  | ok raw =>
    cases hparse : parseBladeDestroyOutput raw with
    | error e => simp [bind, hparse] at hr
    | ok answer =>
      obtain ⟨st, details⟩ := answer
      obtain rfl | rfl := parseBladeDestroyOutput_status hparse
      · simp [bind, pure, hparse] at hr
      · exact ⟨raw, details, rfl, hparse⟩

/-- An error text passes in the readers of `blade_status` exactly if it
contains the name of a state. -/
theorem layer1_reads_error_text (t : String) :
    (∀ details, parseBladeDestroyOutput ("Error" ++ t) ≠ .ok (.passed, details)) ∧
    ((∃ details expired, parseBladeStatusOutput ("Error" ++ t) = .ok (.passed, details, expired)) ↔
      ∃ word ∈ runningStates, hasSub word ("Error" ++ t) = true) ∧
    ((∃ details, parseBladeStatusDestroyed ("Error" ++ t) = .ok (.passed, details)) ↔
      ∃ word ∈ destroyedStates, hasSub word ("Error" ++ t) = true) ∧
    ∀ bladeUid messages destroy status r,
      runRecoverLayer1Of bladeUid messages destroy status = .ok r → r.status = .passed →
      ∃ raw details, destroy = .ok raw ∧ parseBladeDestroyOutput raw = .ok (.passed, details) := by
  refine ⟨fun details => ?_, parseBladeStatusOutput_error_text t,
    parseBladeStatusDestroyed_error_text t, fun _ _ _ _ _ => runRecoverLayer1Of_passed⟩
  rw [parseBladeDestroyOutput_error_text]
  simp

/-- An error of `blade_status` about a destroyed experiment reads as its
destruction, and any text with `success` as a running experiment. -/
theorem error_text_passes : parseBladeStatusOutput "Error: no success" =
      .ok (.passed, "blade_status: Running (raw match)", false) ∧
    parseBladeStatusDestroyed "Error: not Destroyed" =
      .ok (.passed, "blade_status confirms: Destroyed") := by decide +kernel

end ChaosBlade.Nodes
