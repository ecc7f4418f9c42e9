/-
Nodes.VerifierFinalize: `nodes/_verifier_finalize.py`: what
`finalize_verification` does with a verdict before it is written.

The verdict is held against the metric timeline, a measured disk burn, the
steps of the use case and the targets. Then the gaps of the verification
are listed: with attempts left the model is asked again, else the verdict
is written as it stands. `Nodes.Verifier` has the node around this; here
is the reading it is given.
-/
import ChaosBlade.Nodes.VerifierParse
import ChaosBlade.Utils.FaultContext

namespace ChaosBlade.Nodes

open Py Agent Utils

/-! ## What the verdict is held against -/

structure BaselineCounts where
  success : Int
  total : Int

/-- The fields of the state that only this node reads. -/
structure Findings where
  /-- What in the details of Layer 2 and the evidence of the steps contradicts the
  metric timeline; the search for numbers in a text is not modelled. -/
  contradictions : Json → List Json → Except PyError (List String) := fun _ _ => .ok []
  /-- The throughput `disk_burn_post_check` has measured, if it saw burn I/O. -/
  burnIo : Option String := none
  skillCase : String := ""
  baseline : Option BaselineCounts := none
  targetMetadata : TargetMetadata := {}

def baselineConfidence : Option BaselineCounts → String
  | none => "none"
  | some b =>
    if b.success ≤ 0 then "none"
    else if 0 < b.total ∧ b.total ≤ b.success then "high"
    else "partial"

def hasBaseline (x : Findings) : Bool := x.baseline.any fun b => 0 < b.success

/-! ## The timeline -/

def capStatus (v : Verdict) : Verdict :=
  if v.status.isStr "passed" then { v with status := .str "partial" } else v

/-- `cross_check_evidence`: what the timeline contradicts counts as not shown. -/
def crossCheckEvidence (x : Findings) (v : Verdict) : Except PyError Verdict := do
  match ← x.contradictions v.details (v.checklist.elim [] Checklist.items) with
  | [] => return v
  | found => do
    let v ← v.warnAll found
    let v := capStatus v
    if v.level = "verified" then
      ({ v with level := "partial" } : Verdict).warn
        ("Verdict downgraded verified→partial due to evidence/timeline " ++
          "contradiction(s) above. Objective metric measurements override " ++
          "the LLM's stated conclusion.")
    else return v

/-! ## The measured disk burn -/

def overrideStep (parts : String) (item : Json) : Json :=
  if isNonPassed item then match item with
    | .obj fs => .obj (Dict.setEntry "evidence" (.str (
        "[OVERRIDE] Programmatic I/O check confirmed ACTIVE " ++
        "(write throughput: " ++ parts ++ "). " ++
        "Fault is still in effect — LLM observation was insufficient, " ++
        "not evidence of recovery.")) (Dict.setEntry "status" (.str "passed") fs))
    | v => v
  else item

def concluded (status : Json) : String :=
  if status.isStr "failed" then "the fault was absent"
  else if status.isStr "recovered_before_observation" then
    "the fault effect had already dissipated before observation"
  else "the fault effect was only partially confirmed"

def overrideStatus (parts : String) (v : Verdict) : Except PyError Verdict :=
  if nonPassedStatuses.any v.status.isStr then
    ({ v with
        status := .str "passed"
        details := .str ("Programmatic I/O check: disk burn ACTIVE " ++
          "(write throughput: " ++ parts ++ "). LLM conclusion overridden.") } : Verdict).warn
      ("Programmatic override: disk_burn_post_check confirmed I/O ACTIVE " ++
        "(write throughput: " ++ parts ++ "), but LLM concluded " ++
        concluded v.status ++ " (original status: '" ++ v.status.toStr ++ "').")
  else
    v.warn ("Programmatic override: disk_burn_post_check confirmed I/O ACTIVE " ++
      "(write throughput: " ++ parts ++ ") " ++
      "(LLM Layer2 concluded '" ++ v.status.toStr ++
      "'; override applied to checklist steps only).")

/-- The measurement overrides the checklist, and with it Layer 2 and the level. -/
def overrideVerdict (parts : String) (c : Checklist) (v : Verdict) : Except PyError Verdict := do
  let v ← overrideStatus parts
    { v with checklist := some { c with items := c.items.map (overrideStep parts) } }
  return if v.status.isStr "passed" then { v with level := "verified" } else v

def enforceBurn (x : Findings) (v : Verdict) : Except PyError (Verdict × Bool) :=
  match x.burnIo, v.checklist with
  | some parts, some c =>
    if c.items.any isNonPassed then do return (← overrideVerdict parts c v, true)
    else .ok (v, false)
  | _, _ => .ok (v, false)

/-! ## The steps of the use case -/

open Regex in
def injectionSection (content : String) : Option String :=
  (splitOnce "注入验证" content).map fun r =>
    match (all [lit "\n**", oneOrMore (.char (· != '*')), lit "**"]).search ("证" ++ r.2) with
    | some m => "注入验" ++ m.head
    | none => "注入验证" ++ r.2

variable (db : CharDb)

/-- The different numbers among those the steps start with, else the bullets. -/
def countVerificationSteps (content : String) : Nat :=
  match injectionSection content with
  | none => 0
  | some sect =>
    let numbers := (Regex.finditer (Regex.all [.lineStart, .many .space,
      .group 1 (.oneOrMore (.digit db)), .lit ".", .space]) sect).filterMap (·.group 1)
    if numbers = [] then
      (Regex.finditer (Regex.all [.lineStart, .many .space, .oneOf "-*", .space]) sect).length
    else numbers.dedup.length

/-- The number of descriptions `_extract_verification_step_descriptions` finds. -/
def countDescriptions (content : String) : Nat :=
  match injectionSection content with
  | none => 0
  | some sect =>
    let numbered := Regex.finditer (Regex.all [.lineStart, .many .space,
      .oneOrMore (.digit db), .lit ".", .oneOrMore .space, .oneOrMore .dot]) sect
    if numbered.isEmpty then
      (Regex.finditer (Regex.all [.lineStart, .many .space, .oneOf "-*", .oneOrMore .space,
        .oneOrMore .dot]) sect).length
    else numbered.length

def candidatePattern : Regex :=
  .all [.lineStart, .lit "---", .many .space, .lit "Candidate", .oneOrMore .space,
    .oneOrMore (.digit db), .many .space, .lit ":", .star .dot false, .lit "---", .many .space,
    .lineEnd]

def bodies : List Regex.Match → List String
  | [] => []
  | [m] => [strip m.tail]
  | m :: m' :: rest =>
    strip (String.ofList
      (m.stop.rest.take (m'.start.before.length - m.stop.before.length))) :: bodies (m' :: rest)

def splitCandidates (content : String) : List String :=
  let marks := (candidatePattern db).finditer content
  if marks.length < 2 then [content] else bodies marks

def intOf : Json → Option Int
  | .int n => some n
  | .bool b => some (if b then 1 else 0)
  | _ => none

def chosenCase (x : Findings) (args : Option Json) : String :=
  let chosen := ((args.bind (·.field? "chosen_candidate")).bind intOf).getD 0
  if 0 < chosen then
    ((splitCandidates db x.skillCase)[chosen.toNat - 1]?).getD x.skillCase
  else x.skillCase

/-- The note of a deviation is looked for in the evidence of every numbered step. -/
def requireTexts (items : List Json) : Except PyError Unit :=
  match (items.filter fun item => ((item.field? "step").bind intOf).isSome).findSome? fun item =>
      match (item.field? "evidence").getD (.str "") with
      | .str _ => none
      | v => some v with
  | some v => .error (attributeError v "lower")
  | none => .ok ()

/-- The numbers of the use case that no step has, `_validate_step_number_coverage`. -/
def missingSteps (expected : Nat) (items : List Json) : List Nat :=
  ((List.range expected).map (· + 1)).filter fun n =>
    !items.any fun item => ((item.field? "step").bind intOf) == some (n : Int)

/-- What the use case asks for and the checklist lacks. -/
structure Coverage where
  missing : List Nat := []
  expected : Nat := 0
  executed : Nat := 0

def Coverage.isGap (c : Coverage) : Bool := !c.missing.isEmpty || c.executed < c.expected

/-- The coverage of the use case; without a use case or a checklist nothing is
missing. -/
def stepCoverage (x : Findings) (args : Option Json) (checklist : Option Checklist) :
    Except PyError Coverage :=
  match checklist with
  | none => .ok {}
  | some c =>
    if x.skillCase = "" then .ok {}
    else do
      let content := chosenCase db x args
      let described := countDescriptions db content
      if described ≠ 0 then requireTexts c.items
      return { missing := missingSteps described c.items
               expected := countVerificationSteps db content
               executed := c.totalExecuted }

def coverageText (c : Coverage) : String :=
  if c.missing = [] then
    "Step coverage: " ++ toString c.executed ++ "/" ++ toString c.expected ++ " steps executed. " ++
    toString (c.expected - c.executed) ++
    " step(s) never attempted. Verification may be incomplete."
  else
    "Step coverage: steps " ++ join ", " (c.missing.map toString) ++ " from skill case " ++
    "are missing from the verification checklist. " ++
    "Verification may be incomplete."

/-- Steps that are missing make a Layer 2 that passed partial, unless the burn was
measured. -/
def applyCoverage (enforced : Bool) (c : Coverage) (v : Verdict) : Except PyError Verdict :=
  if c.isGap then do
    let v ← v.warn (coverageText c)
    return if enforced = false ∧ v.status.isStr "passed" = true then
        { v with
          status := .str "partial"
          level := if v.level = "verified" then "partial" else v.level }
      else v
  else .ok v

/-! ## The targets -/

def warnTargets (layer1 : Layer1Result) (names : List String) (v : Verdict) :
    Except PyError Verdict :=
  if 0 < layer1.affectedCount ∧ layer1.affectedCount < names.length then do
    let text := "Coverage: " ++ toString layer1.affectedCount ++ "/" ++ toString names.length ++
      " target resources " ++ "affected by ChaosBlade experiment."
    if ← v.warnings.contains text then return v else v.warn text
  else .ok v

/-! ## The gaps -/

inductive GapType where
  | stepGap
  | layer1Contradiction
  | layer2Layer1Conflict
  | baselineUsedCheck
  | primaryEvidenceConsistency

def GapType.instruction (missing : List Nat) : GapType → String
  | .stepGap =>
    "- STEP GAP: Skill case steps [" ++
    (if missing = [] then "unknown" else join ", " (missing.map toString)) ++
    "] are missing from your " ++ "checklist. Add each missing step with status and evidence."
  | .layer1Contradiction =>
    "- LAYER1 CONTRADICTION: blade reports Success but 0 resources " ++
    "affected. Explain consistency with your Layer2 conclusion."
  | .layer2Layer1Conflict =>
    "- LAYER2/LAYER1 CONFLICT: Layer2=passed but container restarts " ++
    "detected. Reconcile: fault evidence, or destroyed primary evidence?"
  | .baselineUsedCheck =>
    "- BASELINE NOT USED: Include \"baseline: X → current: Y (ΔZ)\" " ++
    "comparisons and set BaselineUsed: true."
  | .primaryEvidenceConsistency =>
    "- EVIDENCE/CONCLUSION CONFLICT: PrimaryEvidenceObserved=false but " ++
    "Overall=verified. Use 'partial' or 'unverified'."

def showsRestarts (v : Verdict) : Bool :=
  (v.sideEffects.bind (·.field? "container_restarts")).any Json.truthy

def gapsOf (x : Findings) (layer1 : Layer1Result) (enforced : Bool) (c : Coverage) (v : Verdict) :
    List GapType :=
  (if enforced = false ∧ c.isGap = true then [.stepGap] else []) ++
    (if layer1.status = .passed ∧ layer1.affectedCount = 0 then [.layer1Contradiction] else []) ++
    (if v.status.isStr "passed" = true ∧ showsRestarts v = true then [.layer2Layer1Conflict]
      else []) ++
    (if hasBaseline x = true ∧ v.baselineUsed.any Json.truthy = false then [.baselineUsedCheck]
      else []) ++
    (if v.primaryEvidenceObserved ≠ some true ∧ v.overall.any (·.isStr "verified") = true then
      [.primaryEvidenceConsistency] else [])

def maxReverifyAttempts (x : Findings) (spec : Option FaultSpec) : Nat :=
  let spec := spec.getD {}
  match lookupAdaptations spec.scope spec.bladeTarget spec.bladeAction x.targetMetadata
      .verificationIntegrityGuard with
  | [] => 1
  | rule :: _ => rule.action.maxReverifyAttempts.getD 1

/-! ## Writing -/

def forceBaseline (x : Findings) (v : Verdict) : Except PyError Verdict :=
  let confidence := baselineConfidence x.baseline
  if (confidence = "high" ∨ confidence = "partial") ∧ v.baselineUsed.any Json.truthy = false then
    ({ v with baselineUsed := some (.bool true) } : Verdict).warn
      ("Programmatic override: BaselineUsed forced to true — pre-injection " ++
        "baseline was available (confidence=" ++ confidence ++ ") but LLM declared " ++
        "BaselineUsed=" ++ (v.baselineUsed.getD .null).toStr ++ ".")
  else .ok v

def isString : Json → Bool
  | .str _ => true
  | _ => false

def requireJoinable (warnings : Json) : Except PyError Unit :=
  match warnings with
  | .arr ws => match ws.findIdx? fun w => !isString w with
    | some i => .error ⟨.typeError, "sequence item " ++ toString i ++ ": expected str instance, " ++
        (ws[i]?.getD .null).typeName ++ " found"⟩
    | none => .ok ()
  | .str _ | .obj _ => .ok ()
  | v => if v.truthy then .error ⟨.typeError, "can only join an iterable"⟩ else .ok ()

def entry (k : String) (v : Option Json) : List (String × Json) := (v.map fun v => (k, v)).toList

def Checklist.toJson (c : Checklist) : Json :=
  .obj [("items", .arr c.items), ("skipped_count", .int c.skippedCount),
    ("non_passed_count", .int c.nonPassedCount), ("total_count", .int c.totalCount),
    ("total_executed", .int c.totalExecuted)]

def Verdict.fields (confidence : String) (v : Verdict) : List (String × Json) :=
  [("level", .str v.level), ("layer2", .obj [("status", v.status), ("details", v.details)]),
    ("warnings", v.warnings), ("baseline_confidence", .str confidence)] ++
  entry "checklist" (v.checklist.map Checklist.toJson) ++ entry "overall" v.overall ++
  entry "primary_evidence_observed" (v.primaryEvidenceObserved.map .bool) ++
  entry "baseline_used" v.baselineUsed

def InjectSource.args? : InjectSource → Option Json
  | .submitted args => some args
  | _ => none

/-- A verdict as far as it is taken before the gaps are acted on. -/
structure Examined where
  verdict : Verdict
  coverage : Coverage
  gaps : List GapType

def examine (x : Findings) (layer1 : Layer1Result) (names : List String)
    (source : InjectSource) : Except PyError Examined := do
  let v ← verdictFrom db source
  let v ← crossCheckEvidence x v
  let (v, enforced) ← enforceBurn x v
  let coverage ← stepCoverage db x source.args? v.checklist
  let v ← applyCoverage enforced coverage v
  let v ← warnTargets layer1 names v
  return ⟨v, coverage, gapsOf x layer1 enforced coverage v⟩

def readVerification (x : Findings) (s : AgentState) : Except PyError FinalReading := do
  let layer1 := s.injectLayer1Cache.getD {}
  let names := (s.faultSpec.map FaultSpec.names).getD []
  let e ← examine db x layer1 names (← injectSource s.messages)
  let gaps := e.gaps.map (GapType.instruction e.coverage.missing)
  let attempts := maxReverifyAttempts x s.faultSpec
  if e.gaps ≠ [] ∧ s.reverifyCount < attempts then
    return { gaps, maxAttempts := attempts }
  else do
    let v ← forceBaseline x e.verdict
    requireJoinable v.warnings
    return { gaps, maxAttempts := attempts, fields := v.fields (baselineConfidence x.baseline) }

/-- The node `finalize_verification` with the reading it makes; `none` if it
raises. -/
def finalizeVerify (σ : Setup) (a : Answer) (x : Findings)
    (s : AgentState) : Option AgentState := do
  let reading ← (readVerification σ.db x s).toOption
  return finalizeVerification σ { a with finalReading := fun _ _ => reading } s

end ChaosBlade.Nodes
