/-
Nodes.RecoverParse: `nodes/_recover_layer2_parse.py`: the
verdict of a recovery as a text says it.

The text names the status of Layer 2, the steps of a checklist and an
overall level. Layer 2 is corrected where the checklist or its own details
contradict it, and the level follows the corrected Layer 2 down, but a
Layer 2 that has failed, was skipped or is not named leaves the level to
the overall line.
-/
import ChaosBlade.Nodes.RecoverFinalize
import ChaosBlade.Nodes.VerdictText

namespace ChaosBlade.Nodes

open Py Agent

/-! ## The checklist -/

def recoveryStatuses : List String := ["passed", "failed", "skipped", "partial", "expected"]

variable (db : CharDb)

def recoveryChecklistPatterns : List Regex :=
  checklistPatterns db recoveryStatuses .eps

def parseRecoveryChecklistItems (text : String) : List StepItem :=
  checklistItems db (recoveryChecklistPatterns db)
    (checklistSection "RECOVERY_VERIFICATION_CHECKLIST:" "RECOVERY_VERIFICATION_RESULT:" text)

/-- `_has_recovery_checklist`: the pattern of skipped steps is not looked for. -/
def hasRecoveryChecklist (text : String) : Bool :=
  hasSub "RECOVERY_VERIFICATION_CHECKLIST:" text ||
    [0, 2].any fun i => ((recoveryChecklistPatterns db)[i]?.bind (·.search text)).isSome

def incompleteStatuses : List String := ["failed", "partial", "skipped"]

def incompleteSteps (items : List StepItem) : List StepItem :=
  items.filter fun item => incompleteStatuses.contains item.status

def detectRecoveryChecklistInconsistency (items : List StepItem) (status : String) :
    Option String :=
  let incomplete := incompleteSteps items
  if status ≠ "passed" ∨ incomplete = [] then none
  else
    let steps := Json.arr (incomplete.map fun item => .int item.step)
    let statuses := strList (incompleteStatuses.filter fun st =>
      incomplete.any fun item => item.status == st)
    some ("Recovery checklist-conclusion inconsistency: Step(s) " ++ steps.repr ++
      " marked " ++ statuses.repr ++ " but Layer2 concluded 'passed'. " ++
      "For recovery, unverified or failed steps mean incomplete confirmation — " ++
      "auto-downgrading to 'partial'.")

/-! ## A failure that the evidence contradicts -/

def recoveryContradictionIndicators : List String :=
  ["cpu usage normal", "cpu back to normal", "cpu utilization normal",
    "cpu utilization back to", "cpu returned to normal",
    "connectivity restored", "network recovered", "network back to normal",
    "latency back to normal", "latency back to baseline",
    "no packet loss", "no network delay", "packet loss resolved",
    "disk usage back to", "diskpressure is false", "diskpressure false",
    "disk usage normal", "disk back to normal", "no disk pressure",
    "pod running", "pod is running", "no restarts",
    "pod healthy", "restart count 0", "no crashloop"]

def recoveryAbsencePhrases : List String :=
  ["still elevated", "remains high", "still at 95%", "not recovered",
    "still present", "persisting", "not yet recovered",
    "still high", "remains elevated", "at 95%", "at 90%", "at 85%", "at 80%",
    "diskpressure is true", "diskpressure true",
    "still not", "not yet", "still active",
    "still stressed", "remains at 95%", "remains at 90%", "remains at 85%"]

def detectRecoveryContradiction (details : String) (items : List StepItem) : Option String :=
  let low := lower details
  if recoveryAbsencePhrases.any (hasSub · low) then none
  else if items ≠ [] ∧ items.all (·.status == "passed") then
    some (if details = "" then
        "Contradiction: Layer2 concluded 'failed' but ALL checklist steps " ++
        "are 'passed'. Overriding to 'partial'."
      else
        "Contradiction: Layer2 concluded 'failed' but ALL checklist steps " ++
        "are 'passed' and details describe no ongoing fault. " ++
        "Overriding to 'partial'.")
  else if recoveryContradictionIndicators.any (hasSub · low) then
    some ("Contradiction: Layer2 concluded 'failed' but details describe " ++
      "observable recovery effects. Overriding to 'partial'.")
  else none

/-! ## Evidence that says little -/

def genericHealthIndicators : List String :=
  ["pod running", "pod is running", "pods running",
    "no new restarts", "restart count", "restarts: 0",
    "healthy", "health check", "healthcheck",
    "pod status: running", "status: running", "phase: running",
    "ready", "1/1", "pods ready", "deployment available",
    "no errors", "no error", "error-free",
    "service responding", "responding", "reachable",
    "uptime", "container running", "containers running",
    "no crash", "no oom", "not evicted", "not restarting",
    "node ready", "nodes ready"]

def faultSpecificEvidence : List String :=
  ["cpu usage", "cpu percent", "cpu load", "cpu back", "cpu returned",
    "cpu normal", "cpu baseline", "cpu utilization", "cpu metric",
    "top node", "top pod",
    "disk usage", "disk percent", "disk fill", "disk back", "disk returned",
    "disk normal", "disk baseline", "disk utilization", "disk metric",
    "diskpressure", "diskpressure=false", "diskpressure false",
    "/proc/diskstats", "iowait", "io wait", "%util", "disk io",
    "storage usage", "volume usage",
    "memory usage", "memory percent", "memory back", "memory returned",
    "memory normal", "memory baseline", "memory utilization",
    "memorypressure", "memorypressure=false",
    "rss", "working set",
    "latency", "packet loss", "delay", "network delay", "rtt",
    "connectivity restored", "packet drop", "dns resolution",
    "networkpolicy", "network back", "network normal",
    "process killed", "process removed", "blade process", "chaosblade process",
    "restart observed", "pod restarted", "pod recreated",
    "finalizers removed", "finalizer removed",
    "io throughput", "read latency", "write latency",
    "iops", "throughput"]

/-- `_detect_primary_evidence_generic_contradiction` for evidence that is said to
be observed. -/
def detectPrimaryEvidenceGenericContradiction (details skillName : String) : Option String :=
  let low := lower details
  if ["pod-kill", "pod-terminating", "pod-delete"].contains (lower skillName) then none
  else if faultSpecificEvidence.any (hasSub · low) then none
  else if genericHealthIndicators.any (hasSub · low) then
    some ("PrimaryEvidenceObserved=true contradicts evidence: all evidence items are " ++
      "generic health indicators (pod Running, no restarts, etc.) rather than " ++
      "fault-specific metrics (CPU/disk/memory/network returned to baseline). " ++
      "Per prompt rules, PrimaryEvidenceObserved should be false when only generic " ++
      "indicators are observed. Downgrading to 'partial'.")
  else none

/-! ## The parser -/

structure RecoveryText where
  level : String := "unrecovered"
  status : String := "unknown"
  details : String := ""
  warnings : List String := []
  baselineUsed : Option Bool := none
  items : List StepItem := []

def RecoveryText.fields (v : RecoveryText) : List (String × Json) :=
  [("level", .str v.level), ("layer1", layerDict "passed" ""),
    ("layer2", layerDict v.status v.details), ("warnings", strList v.warnings),
    ("baseline_used", (v.baselineUsed.map Json.bool).getD .null)] ++
  if v.items = [] then []
  else [("checklist", .obj [("items", .arr (v.items.map StepItem.toJson)),
    ("skipped_count", .int (v.items.countP (·.status == "skipped"))),
    ("partial_count", .int (v.items.countP (·.status == "partial"))),
    ("failed_count", .int (v.items.countP (·.status == "failed"))),
    ("total_count", .int v.items.length)])]

def isExecutionResult (low : String) : Bool :=
  hasSub "recovery_execution_result" low && !hasSub "recovery_verification_result" low

def saysSuccess (low : String) : Bool :=
  hasSub "status: success" low || hasSub "status:  success" low

def executionVerdict (low : String) : RecoveryText :=
  if saysSuccess low then
    { level := "recovered", status := "passed"
      warnings := ["Layer 2 LLM used RECOVERY_EXECUTION_RESULT format instead of " ++
        "RECOVERY_VERIFICATION_RESULT; inferred Layer2=passed from Status: success"] }
  else
    { status := "failed"
      warnings := ["Layer 2 LLM used RECOVERY_EXECUTION_RESULT format with non-success status"] }

def recoveryDetails (low : String) : String :=
  ((lineAfter "layer2" low).map (statusDetails ["passed", "failed", "partial", "skipped"])).getD ""

def checkedLayer2 (items : List StepItem) (said : String) : String :=
  if (detectRecoveryChecklistInconsistency items said).isSome then "partial" else said

def layer2Contradiction (text : String) : Option String :=
  let items := parseRecoveryChecklistItems db text
  if checkedLayer2 items (saidLayer2 (lower text)) = "failed" then
    detectRecoveryContradiction (recoveryDetails (lower text)) items
  else none

def correctedLayer2 (text : String) : String :=
  if (layer2Contradiction db text).isSome then "partial"
  else checkedLayer2 (parseRecoveryChecklistItems db text) (saidLayer2 (lower text))

def layer2Warnings (text : String) : List String :=
  let items := parseRecoveryChecklistItems db text
  let said := saidLayer2 (lower text)
  let checked := checkedLayer2 items said
  (if said = "skipped" then ["Layer 2 skipped: LLM could not design a verification plan"]
      else []) ++
    (detectRecoveryChecklistInconsistency items said).toList ++
    (if (checked = "passed" ∨ checked = "partial") ∧ hasRecoveryChecklist db text = false then
      ["No Recovery Verification Checklist detected in LLM output. " ++
        "Recovery verification completeness cannot be confirmed."] else []) ++
    (layer2Contradiction db text).toList

def saysRecovered (overall : String) : Bool :=
  (hasSub "recovered" overall || hasSub "verified" overall) &&
    !hasNegativePrefix overall "recovered" && !hasSub "partial" overall &&
    !hasSub "unrecovered" overall

def overallLevel (overall : String) : String :=
  if saysRecovered overall then "recovered"
  else if (hasNegativePrefix overall "recovered" || hasNegativePrefix overall "verified") &&
      !hasSub "unrecovered" overall then "unrecovered"
  else if hasSub "partial" overall then "partial"
  else "unrecovered"

def levelOfLayer2 (status : String) : String :=
  if status = "passed" then "recovered"
  else if status = "partial" then "partial"
  else if status = "skipped" then "recovered"
  else "unrecovered"

def recoveryLevel (low status : String) : String :=
  let level := match lineAfter "overall:" low with
    | some line => overallLevel (strip line)
    | none => levelOfLayer2 status
  if status = "partial" then "partial" else level

def evidenceObjection (low details skillName : String) : Option String :=
  match declaredFlag "primaryevidenceobserved:" low with
  | some false =>
    some ("Verdict 'recovered' is incompatible with PrimaryEvidenceObserved=false. " ++
      "Cannot confirm recovery effectiveness without direct evidence " ++
      "that fault effects are gone. Downgraded to 'partial'.")
  | some true => detectPrimaryEvidenceGenericContradiction details skillName
  | none => none

def parseRecoveryVerificationResult (text skillName : String) : RecoveryText :=
  let low := lower text
  if isExecutionResult low then executionVerdict low
  else
    let status := correctedLayer2 db text
    let details := recoveryDetails low
    let level := recoveryLevel low status
    let objection := if level = "recovered" then evidenceObjection low details skillName else none
    { level := if objection.isSome then "partial" else level
      status
      details
      warnings := layer2Warnings db text ++ objection.toList ++
        (if hasWarningsLine low then ["See recovery verification details for warnings"] else []) ++
        (if status = "unknown" then
          ["Layer 2 (fault-specific) recovery verification result is unknown. " ++
            "The LLM did not produce a clear verification conclusion."] else [])
      baselineUsed := declaredFlag "baselineused:" low
      items := parseRecoveryChecklistItems db text }

def recoveryReading (text skillName : String) : List (String × Json) :=
  (parseRecoveryVerificationResult db text skillName).fields

def finalizeRecover (σ : Setup) (a : Answer) (s : AgentState) : Option AgentState :=
  finalizeRecoverVerification σ { a with recoverReading := recoveryReading σ.db } s

end ChaosBlade.Nodes
