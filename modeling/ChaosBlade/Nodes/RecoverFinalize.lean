/-
Nodes.RecoverFinalize: `nodes/_recover_finalize.py`: the
verdict of a recovery.

The verdict is taken from the arguments of `submit_recover_verification`,
and without them from the text of the last model turn. A verdict that
follows the first step of Layer 2 at once is sent back, and one that finds
the fault still there is sent back once with another try. Both prompts
mark where the next round of messages begins.
-/
import ChaosBlade.Nodes.RecoverVerifier

namespace ChaosBlade.Nodes

open Py Agent

/-! ## Where the verdict comes from -/

def guardMarker : String := "RECOVERY VERIFICATION GUARD"

def retryMarker : String := "recovery retry"

def hasPhrase (phrase : String) : Message → Bool
  | .human content => hasSub phrase content
  | _ => false

variable (messages : List Message)

def phraseInMessages (phrase : String) : Bool :=
  messages.any (hasPhrase phrase)

def startsRound (m : Message) : Bool :=
  hasPhrase guardMarker m || hasPhrase retryMarker m

def lastRound : List Message :=
  (messages.reverse.takeWhile fun m => !startsRound m).reverse

def submittedArgs : Message → Option Json
  | .ai msg => (msg.toolCalls.find? (·.name == submitRecoverVerificationToolName)).map fun tc =>
    if tc.args.truthy then tc.args else .obj []
  | _ => none

def extractRecoverSubmitArgs : Option Json :=
  (lastRound messages).reverse.findSome? submittedArgs

def aiText : Message → Option String
  | .ai msg => if msg.content.truthy then some msg.content.toStr else none
  | _ => none

def lastAiText : String :=
  (messages.reverse.findSome? aiText).getD ""

inductive VerdictSource where
  | submitted (args : Json)
  | text (content : String)

def verdictSource : VerdictSource :=
  match extractRecoverSubmitArgs messages with
  | some args => .submitted args
  | none => .text (lastAiText messages)

/-! ## The verdict -/

def submittedLevel (overall layer2 : Json) : Json :=
  match overall, layer2 with
  | .str "recovered", .str "failed" => .str "unrecovered"
  | .str "recovered", .str "partial" => .str "partial"
  | .str "recovered", _ => .str "recovered"
  | .str "partial", _ => .str "partial"
  | _, _ => .str "unrecovered"

def listOrEmpty (v : Json) : Except PyError (List Json) :=
  if v.truthy then match v with
    | .arr xs => .ok xs
    | .str s => .ok (s.toList.map fun c => .str (String.ofList [c]))
    | .obj fs => .ok (fs.map fun f => .str f.1)
    | v => .error ⟨.typeError, "'" ++ v.typeName ++ "' object is not iterable"⟩
  else .ok []

def recoverVerificationFromSubmitArgs (args : Json) : Except PyError (List (String × Json)) := do
  let checklist := match ← args.getD "checklist" .null with
    | .arr items => items
    | _ => []
  let layer2 ← args.getD "layer2_status" (.str "unknown")
  let level := submittedLevel (← args.getD "overall" (.str "unrecovered")) layer2
  let details ← args.getD "layer2_details" (.str "")
  let warnings ← listOrEmpty (← args.getD "warnings" .null)
  let used := (← args.getD "baseline_used" (.bool false)).truthy
  let items : List (String × Json) := if checklist = [] then [] else
    [("checklist", .obj [("items", .arr checklist), ("total_count", .int checklist.length),
      ("total_executed", .int checklist.length)])]
  return [("level", level), ("layer1", layerDict "unknown" ""),
    ("layer2", .obj [("status", layer2), ("details", details)]),
    ("warnings", .arr warnings), ("baseline_used", .bool used)] ++ items

def verdictOf (a : Answer) (skill : String) : VerdictSource → Except PyError (List (String × Json))
  | .submitted args => recoverVerificationFromSubmitArgs args
  | .text content => .ok (a.recoverReading content skill)

/-! ## Completing the verdict -/

def baselineWarning : String :=
  "Pre-injection baseline was available (confidence=high) but LLM did not " ++
  "perform baseline comparison. Verification relies on absolute thresholds " ++
  "instead of more reliable before/after delta."

def addWarning (warning : String) (fs : List (String × Json)) :
    Except PyError (List (String × Json)) :=
  match Json.get? fs "warnings" with
  | none => .ok (Dict.setEntry "warnings" (.arr [.str warning]) fs)
  | some (.arr ws) => .ok (Dict.setEntry "warnings" (.arr (ws ++ [.str warning])) fs)
  | some v => .error ⟨.attributeError, "'" ++ v.typeName ++ "' object has no attribute 'append'"⟩

/-- The verdict with the result of Layer 1 and the confidence in the baseline. -/
def completeVerdict (a : Answer) (layer1 : Layer1Result) (fs : List (String × Json)) :
    Except PyError (List (String × Json)) :=
  let fs := Dict.setEntry "layer1" (layer1ToDict layer1) fs
  let fs := if (Json.get? fs "baseline_confidence").isSome then fs
    else fs ++ [("baseline_confidence", .str a.baselineConfidence)]
  let isHigh : Bool := match Json.get? fs "baseline_confidence" with
    | some (.str text) => text == "high"
    | _ => false
  if isHigh && !((Json.get? fs "baseline_used").any Json.truthy) then addWarning baselineWarning fs
  else .ok fs

def layer2Status (fs : List (String × Json)) : Except PyError Json :=
  ((Json.get? fs "layer2").getD (.obj [])).getD "status" (.str "unknown")

/-! ## The node -/

def guardText : String :=
  "⚠️ " ++ guardMarker ++ ": Your recovery verdict was rejected because you did NOT " ++
  "execute any kubectl verification commands to observe the CURRENT post-recovery " ++
  "state. Baseline / injection-phase data is NOT current.\n\n" ++
  "You MUST run kubectl commands now (e.g. kubectl exec to check disk/CPU, " ++
  "kubectl describe to check pod status), observe the CURRENT state, and only " ++
  "THEN call submit_recover_verification."

def retryExecutedText (output : String) : String :=
  "**" ++ retryMarker ++ " executed**\n" ++
  "blade_destroy output: " ++ cut 500 output ++ "\n\n" ++
  "Please verify again whether the fault has been removed, then call " ++
  "submit_recover_verification."

def retryRequiredText : String :=
  "**" ++ retryMarker ++ " required**: The fault effect is STILL PRESENT.\n" ++
  "Re-attempt recovery using alternative methods (e.g. if kubectl patch failed, " ++
  "try kubectl delete --force --grace-period=0). After re-attempting, verify again " ++
  "and call submit_recover_verification."

/-- Was Layer 1 the destroy on the host? Where nothing is noted, the uid decides. -/
def layer1IsDeterministic (s : AgentState) : Bool :=
  match s.recoverLayer1Type with
  | some t => t == .deterministic
  | none => s.bladeUid ≠ ""

/-- The prompt of another try, if there is to be one: Layer 2 has found the fault,
no retry is on record and passes are left. A destroy that raises is none. -/
def retryPrompt (σ : Setup) (a : Answer) (s : AgentState) (layer2 : Json) : Option String :=
  let failed : Bool := match layer2 with
    | .str text => text == "failed"
    | _ => false
  if failed ∧ phraseInMessages s.messages retryMarker = false ∧
      s.verifierLoopCount + 1 < σ.settings.maxRecoverVerifierLoop then
    if s.bladeUid ≠ "" ∧ layer1IsDeterministic s then a.destroy.toOption.map retryExecutedText
    else some retryRequiredText
  else none

def isRecovered : Json → Bool
  | .str level => level == "recovered" || level == "partial"
  | _ => false

def writeVerdict (s : AgentState) (layer1 : Layer1Result) (layer2 level : Json)
    (fs : List (String × Json)) : AgentState :=
  let next := if isRecovered level then s else
    s.failWith .recoveryFailed
      ("Layer1=" ++ Layer1Status.value layer1.status ++ ", Layer2=" ++ layer2.toStr ++
        ", level=" ++ level.toStr) []
  { next with
    result := .obj [("task_id", .str s.taskId), ("skill", .str s.skillName),
      ("blade_uid", .str s.bladeUid), ("recovered", .bool (isRecovered level)),
      ("recovery_level", level)]
    recoverVerification := .obj fs }

def finalizeRecoverVerification (σ : Setup) (a : Answer) (s : AgentState) : Option AgentState := do
  let layer1 ← restoreLayer1 s.recoverLayer1Cache
  let verdict ← (verdictOf a s.skillName (verdictSource s.messages)).toOption
  if s.recoverLayer2First then return { s with messages := s.messages ++ [.human guardText] }
  let fs ← (completeVerdict a layer1 verdict).toOption
  let layer2 ← (layer2Status fs).toOption
  match retryPrompt σ a s layer2 with
  | some text => return { s with messages := s.messages ++ [.human text] }
  | none => return writeVerdict s layer1 layer2 (← Json.get? fs "level") fs

end ChaosBlade.Nodes
