/-
Nodes.VerifierParse: `nodes/_verifier_layer2_parse.py` and
`_verification_from_submit_args`: the verdict of an injection from each of
its three sources, the arguments of the submit call, a JSON text and a
free text.

All three give the same dictionary, here `Verdict`. The arguments and the
JSON text come from the model unchecked, so a value can have any type;
what then raises in Python is an error here.
-/
import ChaosBlade.Nodes.RecoverFinalize
import ChaosBlade.Nodes.VerdictText

namespace ChaosBlade.Nodes

open Py Agent

/-! ## The verdict -/

structure Checklist where
  items : List Json
  skippedCount : Nat
  nonPassedCount : Nat
  totalCount : Nat
  totalExecuted : Nat

/-- The verification as the sources give it, without its Layer 1. -/
structure Verdict where
  level : String
  status : Json
  details : Json := .str ""
  warnings : Json := .arr []
  checklist : Option Checklist := none
  overall : Option Json := none
  primaryEvidenceObserved : Option Bool := none
  baselineUsed : Option Json := none
  sideEffects : Option Json := none

def Verdict.warn (text : String) (v : Verdict) : Except PyError Verdict :=
  match v.warnings with
  | .arr ws => .ok { v with warnings := .arr (ws ++ [.str text]) }
  | w => .error (attributeError w "append")

def Verdict.warnAll : List String → Verdict → Except PyError Verdict
  | [], v => .ok v
  | text :: texts, v => do Verdict.warnAll texts (← v.warn text)

/-! ## Steps -/

def hasStatus (status : String) (item : Json) : Bool :=
  (item.field? "status").any (·.isStr status)

def nonPassedStatuses : List String := ["failed", "partial", "recovered_before_observation"]

def isNonPassed (item : Json) : Bool := nonPassedStatuses.any (hasStatus · item)

variable (items : List Json)

def checklistOf : Checklist where
  items := items
  skippedCount := items.countP (hasStatus "skipped")
  nonPassedCount := items.countP isNonPassed
  totalCount := items.length
  totalExecuted := items.length

def joinEvidenceFrom : Nat → List Json → Except PyError (List String)
  | _, [] => .ok []
  | i, item :: rest => match (item.field? "evidence").getD (.str "") with
    | .str text => do return text :: (← joinEvidenceFrom (i + 1) rest)
    | v => .error ⟨.typeError, "sequence item " ++ toString i ++ ": expected str instance, " ++
        v.typeName ++ " found"⟩

def joinEvidence : Except PyError String := do
  return join " " (← joinEvidenceFrom 0 items)

/-- The phrases that say the fault has no effect, `_INJECT_ABSENCE_PHRASES`. -/
def injectAbsencePhrases : List String :=
  ["no change", "no increase", "no increase observed", "not observed",
    "not elevated", "not increased", "no effect", "not affected",
    "remains at", "remains normal", "unchanged", "no fill",
    "still normal", "no observable", "not yet observable",
    "far below", "well below", "at 1%", "at 2%", "at 3%",
    "at 4%", "at 5%", "at 6%", "at 7%", "at 8%", "at 9%",
    "at 10%", "at 11%", "at 12%", "at 13%", "at 14%", "at 15%",
    "at 16%", "at 17%", "at 18%", "at 19%", "at 20%",
    "below threshold", "under threshold"]

def markedSteps (status : String) : List String :=
  let marked := items.filter (hasStatus status)
  if marked = [] then []
  else ["Step(s) " ++
      (Json.arr (marked.map fun item => (item.field? "step").getD (.str "?"))).repr ++
    " marked '" ++ status ++ "'"]

/-- The warning about steps that do not bear out a Layer 2 that passed; does it lower
the status? -/
def conclusionWarning (evidence : String) : String × Bool :=
  let warning := "Checklist-conclusion inconsistency: " ++
    join "; " (nonPassedStatuses.flatMap (markedSteps items)) ++
    " but Layer2 concluded 'passed'. "
  if injectAbsencePhrases.any (hasSub · (lower evidence)) then
    (warning ++ "Failed steps contain absence evidence (metric far below threshold). " ++
      "Auto-downgrading to 'partial' — objective measurement overrides subjective judgment.",
      true)
  else
    (warning ++ "The LLM may have determined these failures are benign (e.g., timing delays). " ++
      "Overall field is the final authority.", false)

/-- `_detect_checklist_conclusion_inconsistency`, with its second result only where
there is a warning. Steps that recovered before they were observed do not count
against a Layer 2 that passed, unless others do. -/
def detectChecklistConclusionInconsistency (status : Json)
    (failedEvidence : String) : Except PyError (Option (String × Bool)) :=
  let nonPassed := items.filter isNonPassed
  if status.isStr "passed" = false ∨
      nonPassed.any (fun item => hasStatus "failed" item || hasStatus "partial" item) = false then
    .ok none
  else do
    let evidence ← joinEvidence nonPassed
    return some (conclusionWarning items
      (if failedEvidence = "" then evidence else evidence ++ " " ++ failedEvidence))

def checkConclusion (v : Verdict) : Except PyError Verdict :=
  if v.status.isStr "passed" then do
    let evidence ← joinEvidence (items.filter isNonPassed)
    match ← detectChecklistConclusionInconsistency items v.status evidence with
    | none => return v
    | some (warning, downgrade) => do
      let v ← v.warn warning
      return if downgrade then { v with status := .str "partial" } else v
  else .ok v

def syncLevel (v : Verdict) : Verdict :=
  if v.status.isStr "partial" ∧ (v.level = "verified" ∨ v.level = "unverified") then
    { v with level := "partial" }
  else v

/-! ## The submit call -/

def overallToLevel (overall : Json) : String :=
  match overall with
  | .str level => if ["verified", "partial", "unverified"].contains level then level
      else "unverified"
  | _ => "unverified"

def isObject : Json → Bool
  | .obj _ => true
  | _ => false

def requireObserved (v : Verdict) : Except PyError Verdict :=
  if v.level = "verified" ∧ v.primaryEvidenceObserved ≠ some true then
    ({ v with level := "partial" } : Verdict).warn
      ("Verdict 'verified' is incompatible with PrimaryEvidenceObserved=false. " ++
        "Downgraded to 'partial'.")
  else .ok v

def requireEffect (v : Verdict) : Except PyError Verdict :=
  if v.status.isStr "failed" ∧ v.level = "verified" then
    ({ v with level := "unverified" } : Verdict).warn
      ("Verdict 'verified' is incompatible with Layer2='failed' (fault effect not observed). " ++
        "Downgraded to 'unverified'.")
  else .ok v

def verificationFromSubmitArgs (args : Json) : Except PyError Verdict := do
  let checklist := asList (← args.getD "checklist" .null)
  let status ← args.getD "layer2_status" (.str "unknown")
  let overall ← args.getD "overall" (.str "unverified")
  let warnings ← listOrEmpty (← args.getD "warnings" .null)
  let details ← args.getD "layer2_details" (.str "")
  let observed ← args.getD "primary_evidence_observed" (.bool false)
  let used ← args.getD "baseline_used" (.bool false)
  let items := checklist.filter isObject
  let v : Verdict :=
    { level := overallToLevel overall, status, details, warnings := .arr warnings
      overall := some overall
      primaryEvidenceObserved := some observed.truthy
      baselineUsed := some (.bool used.truthy)
      checklist := if checklist = [] then none else some (checklistOf items) }
  let v ← checkConclusion items v
  let v ← requireObserved v
  return syncLevel (← requireEffect v)

/-! ## The JSON text -/

def isJsonVerdict (fs : List (String × Json)) : Bool :=
  statusKeywords.any (((Json.get? fs "layer2").getD .null).isStr ·) &&
    ["verified", "partial", "unverified"].any (((Json.get? fs "overall").getD .null).isStr ·)

def requireObjects : Except PyError Unit :=
  match items.find? fun item => !isObject item with
  | some item => .error (attributeError item "get")
  | none => .ok ()

def verificationFromJson (fs : List (String × Json)) : Except PyError Verdict := do
  let items := listField (.obj fs) "verification_checklist"
  requireObjects items
  let v ← checkConclusion items
    { level := ((Json.get? fs "overall").getD .null).toStr
      status := (Json.get? fs "layer2").getD .null
      details := (Json.get? fs "layer2_details").getD (.str "")
      warnings := (Json.get? fs "warnings").getD (.arr [])
      checklist := if items = [] then none else some (checklistOf items) }
  return syncLevel v

/-! ## The free text -/

open Regex in
def evidenceTail : Regex :=
  all [opt (all [many space, oneOf "—–-", many space, group 3 (oneOrMoreLazy dot)]), many space,
    lineEnd]

variable (db : CharDb)

def injectChecklistPatterns : List Regex :=
  checklistPatterns db ["passed", "failed", "skipped", "recovered_before_observation", "expected"]
    evidenceTail

def parseChecklistItems (text : String) : List Json :=
  (checklistItems db (injectChecklistPatterns db)
    (checklistSection "VERIFICATION_CHECKLIST:" "VERIFICATION_RESULT:" text)).map StepItem.toJson

def hasChecklist (text : String) : Bool :=
  hasSub "VERIFICATION_CHECKLIST:" text ||
    (injectChecklistPatterns db).any fun r => (r.search text).isSome

variable (low : String)

/-- The status of Layer 1 as the text says it, up to the mention of Layer 2. -/
def saidLayer1 : String :=
  match splitOnce "layer1" low with
  | none => "unknown"
  | some (_, after) => parseStatusKeyword (((splitOnce "layer2" after).map Prod.fst).getD after)

def injectDetails : String :=
  ((lineAfter "layer2" low).map (statusDetails
    ["recovered_before_observation", "passed", "failed", "partial", "skipped"])).getD ""

def contradictionIndicators : List String :=
  ["cpu usage high", "cpu utilization", "cpu at",
    "packet loss", "network delay", "latency increased",
    "connection refused", "network loss",
    "disk usage", "disk full", "no space left",
    "restart count", "crashloop", "oomkilled"]

def absencePhrases : List String :=
  ["no change", "no increase", "no increase observed", "not observed",
    "not elevated", "not increased", "no effect", "not affected",
    "remains at", "remains normal", "unchanged", "no fill",
    "still normal", "at 16%", "at 17%", "at 18%", "at 19%",
    "no observable", "not yet observable"]

def describesEffect (details : String) : Bool :=
  !absencePhrases.any (hasSub · (lower details)) && contradictionIndicators.any (hasSub · details)

def determineLevel (layer1 layer2 : String) : String :=
  if layer2 = "recovered_before_observation" then "partial"
  else if layer2 = "passed" ∧ (layer1 = "passed" ∨ layer1 = "skipped") then "verified"
  else if layer1 = "passed" ∧ (layer2 = "partial" ∨ layer2 = "skipped") then "partial"
  else if layer1 = "skipped" ∧ layer2 = "partial" then "partial"
  else "unverified"

def saysVerified (overall : String) : Bool :=
  hasSub "verified" overall && !hasSub "partial" overall && !hasSub "unverified" overall

def injectOverallLevel (overall : String) : String :=
  if saysVerified overall then "verified"
  else if hasSub "partial" overall then "partial"
  else "unverified"

/-- Layer 2 as said, or `partial` for a failure whose details describe an effect. -/
def effectLayer2 : String :=
  if saidLayer2 low = "failed" ∧ describesEffect (injectDetails low) = true then "partial"
  else saidLayer2 low

/-- The warnings of the text parser before the checklist is held against Layer 2. -/
def textWarnings (text : String) : List String :=
  let low := lower text
  let items := parseChecklistItems db text
  let said := saidLayer2 low
  let skipped := items.countP (hasStatus "skipped")
  let recovered := items.countP (hasStatus "recovered_before_observation")
  (if said = "skipped" then ["Layer 2 skipped: LLM could not design a verification plan"]
      else []) ++
    (if said = "passed" ∧ 0 < skipped then
      ["Verification Checklist has " ++ toString skipped ++ " skipped step(s). " ++
        "These checks were not executable. Executed checks all passed."] else []) ++
    (if 0 < recovered then
      ["Verification Checklist has " ++ toString recovered ++ " step(s) marked " ++
        "'recovered_before_observation'. The fault effect had already " ++
        "dissipated before verification could observe it."] else []) ++
    (if (said = "passed" ∨ said = "partial") ∧ hasChecklist db text = false then
      ["No Verification Checklist detected in LLM output. " ++
        "Verification completeness cannot be confirmed."] else []) ++
    (if effectLayer2 low ≠ said then
      ["Contradiction: Layer2 concluded 'failed' but details describe " ++
        "observable fault effects. Overriding to 'partial'."] else [])

def saidLevel (low layer2 : String) : String :=
  match lineAfter "overall:" low with
  | some line => injectOverallLevel (strip line)
  | none => determineLevel (saidLayer1 low) layer2

def textLevel (status : Json) : String :=
  if status.isStr "partial" then "partial" else saidLevel low status.toStr

def claimsUnobserved (low level : String) : Bool :=
  level = "verified" && declaredFlag "primaryevidenceobserved:" low == some false

def closingWarnings (status : Json) : List String :=
  (if hasWarningsLine low then ["See verification details for warnings"] else []) ++
    (if status.isStr "skipped" then
      ["Layer 2 (fault-specific) verification was skipped. " ++
        "Only general blade_status verification was performed."]
    else if status.isStr "unknown" then
      ["Layer 2 (fault-specific) verification result is unknown. " ++
        "The LLM did not produce a clear verification conclusion. " ++
        "Only general blade_status verification was confirmed."]
    else [])

/-- `_parse_verification_result`. Where all steps recovered before they were observed
the source lowers the level that it sets only afterwards. -/
def parseVerificationResult (text : String) : Except PyError Verdict := do
  let low := lower text
  let items := parseChecklistItems db text
  let v ← checkConclusion items
    { level := "unverified"
      status := .str (effectLayer2 low)
      details := .str (injectDetails low)
      warnings := strList (textWarnings db text)
      baselineUsed := some (((declaredFlag "baselineused:" low).map Json.bool).getD .null)
      checklist := if items = [] then none else some (checklistOf items) }
  let level := textLevel low v.status
  let unobserved := claimsUnobserved low level
  let v ← Verdict.warnAll (if unobserved then
    ["Verdict 'verified' is incompatible with PrimaryEvidenceObserved=false. " ++
      "Cannot confirm fault effectiveness without direct primary evidence. " ++
      "Downgraded to 'partial'."] else []) v
  let v ← Verdict.warnAll (closingWarnings low v.status) v
  return { v with level := if unobserved then "partial" else level }

/-! ## The sources -/

inductive InjectSource where
  | submitted (args : Json)
  | json (fs : List (String × Json))
  | text (content : String)

def startsReverify (m : Message) : Bool :=
  hasPhrase "Verification gaps" m || hasPhrase "re-verification" m

def submittedVerification : Message → Option Json
  | .ai msg => (msg.toolCalls.find? (·.name == submitVerificationToolName)).map fun tc =>
    if tc.args.truthy then tc.args else .obj []
  | _ => none

def extractSubmitArgs (messages : List Message) : Option Json :=
  (messages.reverse.takeWhile fun m => !startsReverify m).findSome? submittedVerification

def injectSource (messages : List Message) : Except PyError InjectSource :=
  match extractSubmitArgs messages with
  | some args => .ok (.submitted args)
  | none => do
    let content := lastAiText messages
    match ← loadsOrNone content with
    | some (.obj fs) => return if isJsonVerdict fs then .json fs else .text content
    | _ => return .text content

def verdictFrom : InjectSource → Except PyError Verdict
  | .submitted args => verificationFromSubmitArgs args
  | .json fs => verificationFromJson fs
  | .text content => parseVerificationResult db content

end ChaosBlade.Nodes
