/-
Nodes.Verifier: the verification phase: `nodes/verifier.py`
with its model, `nodes/_verifier_finalize.py` and `nodes/se_detect.py`.

The first pass of the loop checks the experiment itself (Layer 1) and
keeps the result; every pass then asks the model (Layer 2), whose verdict
`finalize_verification` reads. The reading of the verdict is the world's;
what the node does with it is here.
-/
import ChaosBlade.Nodes.ExecuteLoop

namespace ChaosBlade.Nodes

open Py Agent

/-! ## Results -/

def Layer1Status.value : Layer1Status → String
  | .passed => "passed"
  | .failed => "failed"
  | .warning => "warning"
  | .error => "error"
  | .skipped => "skipped"
  | .unknown => "unknown"

def layer1ToDict (r : Layer1Result) : Json :=
  .obj [("status", .str (Layer1Status.value r.status)), ("details", .str r.details),
    ("raw_output", .str r.rawOutput), ("affected_count", .int r.affectedCount),
    ("expired", .bool r.expired)]

def verifierResult (s : AgentState) (verified : Bool) : Json :=
  .obj [("task_id", .str s.taskId), ("skill", .str s.skillName), ("blade_uid", .str s.bladeUid),
    ("verified", .bool verified)]

def layerDict (status details : String) : Json :=
  .obj [("status", .str status), ("details", .str details)]

def overrunVerification (a : Answer) : Json :=
  .obj [("level", .str "partial"), ("layer1", layerDict "passed" "Confirmed in earlier iterations"),
    ("layer2", layerDict "skipped" "Max iterations reached, LLM did not produce final summary"),
    ("baseline_confidence", .str a.baselineConfidence),
    ("warnings",
      strList ["Verifier loop exceeded max iterations - verification may be incomplete"])]

def failedVerification (a : Answer) (layer1 : Layer1Result) : Json :=
  .obj [("level", .str "unverified"), ("layer1", layer1ToDict layer1),
    ("layer2", layerDict "skipped" "Layer 1 failed, skipping Layer 2"),
    ("baseline_confidence", .str a.baselineConfidence),
    ("warnings", strList ["Layer 1 verification failed: " ++ layer1.details])]

/-! ## The loop -/

def verifierLayer1 (a : Answer) (s : AgentState) : Layer1Result :=
  if s.verifierLoopCount = 0 then a.layer1 s.bladeUid s.injectionMethod s.messages
  else s.injectLayer1Cache.getD {}

def verifierLoop (σ : Setup) (a : Answer) (s : AgentState) : Option AgentState :=
  let count := s.verifierLoopCount + 1
  let layer1 := verifierLayer1 a s
  if σ.settings.maxVerifierLoop < count then
    some { s with result := verifierResult s false, verification := overrunVerification a }
  else if layer1.isTerminal then
    some { s.failWith .verificationFailed
        ("Layer1=" ++ Layer1Status.value layer1.status ++ ", Layer2=skipped, details=" ++
          cut 200 layer1.details) s.messages with
      result := verifierResult s false
      verification := failedVerification a layer1 }
  else do
    let r ← a.response
    return markWallClockTimeout σ.settings a.now s
      { s with
        verifierLoopCount := count
        injectLayer1Cache := some layer1
        messages := a.compact s.messages ++ a.contextMessages ++ [.ai r] }
      false false

/-! ## The verdict -/

def reverifyText (gaps : List String) : String :=
  "Verification gaps detected:\n" ++ join "\n" gaps ++ "\n\n" ++
  "Re-attempt verification and call submit_verification again with ALL gaps addressed."

def finalizeVerification (σ : Setup) (a : Answer) (s : AgentState) : AgentState :=
  let layer1 := s.injectLayer1Cache.getD {}
  let reading := a.finalReading layer1 s.messages
  if reading.gaps ≠ [] ∧ s.reverifyCount < reading.maxAttempts then
    { s with
      messages := s.messages ++ [.human (reverifyText reading.gaps)]
      reverifyCount := s.reverifyCount + 1 }
  else
    let verified := match Json.get? reading.fields "level" with
      | some (.str level) => level == "verified"
      | _ => false
    markWallClockTimeout σ.settings a.now s
      { s with
        result := verifierResult s verified
        verification := .obj (("layer1", layer1ToDict layer1) :: reading.fields) }
      false false

def seDetect (a : Answer) (s : AgentState) : AgentState :=
  if (s.faultSpec.map FaultSpec.ns).getD "" = "" ∨ s.injectionStartTime = "" then s
  else match a.sideEffects with
    | none => s
    | some effects =>
      let fields := match s.verification with
        | .obj fs => fs.filter (·.1 ≠ "side_effects")
        | _ => []
      { s with verification := .obj (fields ++ [("side_effects", effects)]) }

end ChaosBlade.Nodes
