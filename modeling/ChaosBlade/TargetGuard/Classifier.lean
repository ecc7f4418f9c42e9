/-
TargetGuard.Classifier: `target_guard/classifier.py`: which
resource a tool call would act on.

Each `while i < len(args)` loop of the argument scanners is a recursion on
the token list. The scanners do not share one grammar, and the differences
are kept.

Line-anchored regular expressions stand in for a YAML parser.
`re.MULTILINE` lets `^` match at the start and after every line feed, so
each search carries whether the scan is at the beginning of a line. `\s`
crosses line ends, in `\s*` as well as in `\s+`. The patterns need no
backtracking: after a blank run the next character is never a blank, so a
shorter run cannot match either.

`inferEffectiveTarget` dispatches on the tool name. `kubectl` calls are
cut into verb and arguments and go through `classifyVerb`, whose early
exits (banned verb, file input, read-only verb, help flag) come in the
source's order before the per-verb classifiers of `dispatchVerb`.
-/
import ChaosBlade.Py.Repr
import ChaosBlade.Py.Shlex
import ChaosBlade.TargetGuard.Types

namespace ChaosBlade.TargetGuard

open Py

/-! ## Kinds -/

def kindAliases : List (String × String) :=
  [("pod", "pod"), ("pods", "pod"), ("po", "pod"), ("container", "pod"), ("containers", "pod"),
   ("node", "node"), ("nodes", "node"), ("no", "node"),
   ("service", "service"), ("services", "service"), ("svc", "service"),
   ("namespace", "namespace"), ("namespaces", "namespace"), ("ns", "namespace"),
   ("configmap", "configmap"), ("configmaps", "configmap"), ("cm", "configmap"),
   ("secret", "secret"), ("secrets", "secret"),
   ("persistentvolumeclaim", "pvc"), ("pvc", "pvc"), ("pvcs", "pvc"),
   ("persistentvolume", "pv"), ("pv", "pv"), ("pvs", "pv"),
   ("serviceaccount", "serviceaccount"), ("serviceaccounts", "serviceaccount"),
   ("sa", "serviceaccount"),
   ("endpoints", "endpoints"), ("ep", "endpoints"),
   ("event", "event"), ("events", "event"), ("ev", "event"),
   ("deployment", "deployment"), ("deployments", "deployment"), ("deploy", "deployment"),
   ("daemonset", "daemonset"), ("daemonsets", "daemonset"), ("ds", "daemonset"),
   ("statefulset", "statefulset"), ("statefulsets", "statefulset"), ("sts", "statefulset"),
   ("replicaset", "replicaset"), ("replicasets", "replicaset"), ("rs", "replicaset"),
   ("replicationcontroller", "replicationcontroller"),
   ("replicationcontrollers", "replicationcontroller"), ("rc", "replicationcontroller"),
   ("job", "job"), ("jobs", "job"),
   ("cronjob", "cronjob"), ("cronjobs", "cronjob"), ("cj", "cronjob"),
   ("ingress", "ingress"), ("ingresses", "ingress"), ("ing", "ingress"),
   ("networkpolicy", "networkpolicy"), ("networkpolicies", "networkpolicy"),
   ("netpol", "networkpolicy"),
   ("horizontalpodautoscaler", "hpa"), ("horizontalpodautoscalers", "hpa"), ("hpa", "hpa"),
   ("role", "role"), ("roles", "role"),
   ("rolebinding", "rolebinding"), ("rolebindings", "rolebinding"),
   ("clusterrole", "clusterrole"), ("clusterroles", "clusterrole"),
   ("clusterrolebinding", "clusterrolebinding"), ("clusterrolebindings", "clusterrolebinding"),
   ("storageclass", "storageclass"), ("storageclasses", "storageclass"),
   ("sc", "storageclass"),
   ("chaosblade", "chaosblade"), ("chaosblades", "chaosblade")]

def kindHead (raw : String) : String := strip (lower (beforeChar '.' raw))

def canonicaliseKind (raw : String) : String :=
  if raw = "" then "" else (kindAliases.lookup (kindHead raw)).getD (kindHead raw)

def isKnownKind (token : String) : Bool :=
  if token = "" then false else (kindAliases.lookup (kindHead token)).isSome

def splitKindName (token : String) : String × String :=
  if hasChar '/' token then (beforeChar '/' token, afterChar '/' token) else ("", token)

/-! ## Namespace and labels -/

def isNsFlag (a : String) : Bool := a == "-n" || a == "--namespace"

def isNsEquals (a : String) : Bool := startsWith a "-n=" || startsWith a "--namespace="

def parseNamespace : List String → String → String
  | [], dflt => dflt
  | a :: rest, dflt =>
    if a = "--" then dflt
    else if isNsEquals a then afterChar '=' a
    else if isNsFlag a then
      match rest with
      | v :: _ => v
      | [] => dflt
    else parseNamespace rest dflt

def isLabelFlag (a : String) : Bool := a == "-l" || a == "--selector" || a == "--labels"

def isLabelEquals (a : String) : Bool :=
  startsWith a "-l=" || startsWith a "--selector=" || startsWith a "--labels="

def isOperatorPair (pair : String) : Bool :=
  hasSub "!=" pair || hasSub ">=" pair || hasSub "<=" pair ||
    hasSub " in " pair || hasSub " notin " pair

def addPair (selector : Labels) (piece : String) : Labels :=
  let pair := strip piece
  if isOperatorPair pair then selector.set pair pair
  else if hasChar '=' pair then
    selector.set (strip (beforeChar '=' pair)) (strip (afterChar '=' pair))
  else selector.set pair pair

def addSelector (selector : Labels) (raw : String) : Labels :=
  if raw = "" then selector else (splitChar ',' raw).foldl addPair selector

def parseLabelsFrom : List String → Labels → Labels
  | [], selector => selector
  | a :: rest, selector =>
    if a = "--" then selector
    else if isLabelFlag a then
      match rest with
      | v :: rest' => parseLabelsFrom rest' (addSelector selector v)
      | [] => selector
    else if isLabelEquals a then parseLabelsFrom rest (addSelector selector (afterChar '=' a))
    else parseLabelsFrom rest selector

variable (args : List String)

def parseLabels : Labels := parseLabelsFrom args ∅

/-! ## Flags and positionals -/

def booleanFlags : List String :=
  ["-h", "--help", "-v", "--version", "-W", "--warnings-as-errors", "-q", "--quiet",
   "-A", "--all-namespaces", "--all", "-R", "--recursive",
   "--force", "--ignore-not-found", "--prune", "--insecure-skip-tls-verify",
   "-w", "--watch", "--watch-only",
   "--show-labels", "--show-kind", "--no-headers", "--server-side", "--client",
   "--include-uninitialized", "--keep-annotations", "--validate", "--save-config",
   "--rm", "-i", "--stdin", "-t", "--tty", "--allow-missing-template-keys",
   "--overwrite", "--local"]

def isOneToken (a : String) : Bool := hasChar '=' a || booleanFlags.contains a

def findSubcommandIndex : List String → Option Nat
  | [] => none
  | a :: rest =>
    if !startsWith a "-" then some 0
    else if isOneToken a then (findSubcommandIndex rest).map (· + 1)
    else
      match rest with
      | [] => none
      | _ :: rest' => (findSubcommandIndex rest').map (· + 2)

def listPositionals : List String → List String
  | [] => []
  | a :: rest =>
    if a = "--" then []
    else if !startsWith a "-" then a :: listPositionals rest
    else if isOneToken a then listPositionals rest
    else
      match rest with
      | [] => []
      | _ :: rest' => listPositionals rest'

def firstPositional : String := (listPositionals args).headD ""

def restHasNamespace : List String → Bool
  | [] => false
  | a :: rest =>
    if a = "--" then false else isNsFlag a || isNsEquals a || restHasNamespace rest

def usesFileInput : Bool :=
  args.any fun a => a == "-f" || a == "--filename" || startsWith a "-f=" ||
    startsWith a "--filename="

def hasHelpFlag : Bool := args.contains "-h" || args.contains "--help"

def extractAfterDoubleDash : List String → List String
  | [] => []
  | a :: rest => if a = "--" then rest else extractAfterDoubleDash rest

def parseFlagValue (flag : String) : List String → String
  | [] => ""
  | a :: rest =>
    match rest with
    | v :: _ =>
      if a = flag then v
      else if startsWith a (flag ++ "=") then afterChar '=' a
      else parseFlagValue flag rest
    | [] => if startsWith a (flag ++ "=") then afterChar '=' a else ""

def parseBladeNames : List String := csv (parseFlagValue "--names" args)

/-! The recursions above look one token ahead; these are their equations on a
list with a head. -/

variable (a : String) (rest : List String)

theorem parseLabelsFrom_cons (selector : Labels) :
    parseLabelsFrom (a :: rest) selector =
      if a = "--" then selector
      else if isLabelFlag a then
        parseLabelsFrom (rest.drop 1) (addSelector selector (rest.headD ""))
      else if isLabelEquals a then parseLabelsFrom rest (addSelector selector (afterChar '=' a))
      else parseLabelsFrom rest selector := by cases rest <;> rfl

theorem findSubcommandIndex_cons :
    findSubcommandIndex (a :: rest) = if !startsWith a "-" then some 0
      else if isOneToken a then (findSubcommandIndex rest).map (· + 1)
      else (findSubcommandIndex (rest.drop 1)).map (· + 2) := by cases rest <;> rfl

theorem listPositionals_cons : listPositionals (a :: rest) = if a = "--" then []
      else if !startsWith a "-" then a :: listPositionals rest
      else if isOneToken a then listPositionals rest else listPositionals (rest.drop 1) := by
  cases rest <;> rfl

/-! ## The regular expressions -/

def captureValue (cs : List Char) : Option (List Char × List Char) :=
  let text := cs.dropWhile isSpace
  match text.takeWhile (fun c => !isSpace c) with
  | [] => none
  | v => some (v, text.dropWhile (fun c => !isSpace c))

/-- All matches of `^key\s*(\S+)`, left to right and not overlapping. The
fuel is the number of characters left. -/
def findAllAtLineStart (key : List Char) : Nat → Bool → List Char → List (List Char)
  | 0, _, _ => []
  | _, _, [] => []
  | fuel + 1, bol, c :: cs =>
    if bol && key.isPrefixOf (c :: cs) then
      match captureValue ((c :: cs).drop key.length) with
      | some (v, rest) => v :: findAllAtLineStart key fuel false rest
      | none => findAllAtLineStart key fuel (c == '\n') cs
    else findAllAtLineStart key fuel (c == '\n') cs

def searchIndented (key : List Char) : Bool → List Char → Option (List Char)
  | _, [] => none
  | bol, c :: cs =>
    let text := (c :: cs).dropWhile isSpace
    match if bol && isSpace c && key.isPrefixOf text then captureValue (text.drop key.length)
        else none with
    | some (v, _) => some v
    | none => searchIndented key (c == '\n') cs

def extractAllKindsFromYaml (yaml : String) : List String :=
  (findAllAtLineStart "kind:".toList yaml.toList.length true yaml.toList).map String.ofList

def extractNameFromYaml (yaml : String) : String :=
  ((searchIndented "name:".toList true yaml.toList).map String.ofList).getD ""

def extractNamespaceFromYaml (yaml : String) : String :=
  ((searchIndented "namespace:".toList true yaml.toList).map String.ofList).getD ""

/-! ## The manifest classifier -/

def allowedManifestKinds : List String :=
  ["persistentvolumeclaim", "pvc", "persistentvolume", "pv", "configmap", "secret", "namespace"]

def isAllowedKind (kind : String) : Bool := allowedManifestKinds.contains (lower kind)

def classifyManifestText (yaml : String) (rest : List String) (raw : String) : EffectiveTarget :=
  match extractAllKindsFromYaml yaml with
  | [] => .banned raw
  | kind :: kinds =>
    if !(kind :: kinds).all isAllowedKind then .banned raw
    else
      let flagNs := parseNamespace rest ""
      let name := extractNameFromYaml yaml
      { scope := canonicaliseKind kind
        ns := if flagNs = "" then extractNamespaceFromYaml yaml else flagNs
        names := if name = "" then [] else [name]
        confidence := .high
        rawCommand := raw }

def classifyKubectlStdinManifest (stdinData : Json) (rest : List String) (raw : String) :
    Except PyError EffectiveTarget :=
  match stdinData with
  | .str yaml => .ok (classifyManifestText yaml rest raw)
  | v => .error ⟨.typeError, "expected string or bytes-like object, got '" ++ v.typeName ++ "'"⟩

/-! ## Verb tables -/

def toolPodNamespaces : List String := ["chaosblade"]

def readonlyKubectlSubs : List String :=
  ["get", "describe", "top", "logs", "events", "version", "api-resources", "api-versions",
   "explain", "auth", "wait", "diff", "help"]

def readonlyRolloutSubs : List String := ["status", "history"]

def readonlyConfigSubs : List String :=
  ["view", "current-context", "get-contexts", "get-clusters", "get-users"]

def bannedKubectlSubs : List String := ["certificate"]

def fileInputSubs : List String :=
  ["apply", "create", "replace", "patch", "set", "delete", "edit"]

def bladeTargetToScope : List (String × String) :=
  [("pod", "pod"), ("node", "node"), ("container", "pod"),
   ("jvm", "pod"), ("mysql", "pod"), ("redis", "pod"), ("kafka", "pod"),
   ("rocketmq", "pod"), ("nginx", "pod"),
   ("cpu", "node"), ("mem", "node"), ("memory", "node"), ("disk", "node"),
   ("network", "node"), ("process", "node"), ("file", "node"), ("script", "node"),
   ("time", "node"), ("kernel", "node")]

/-! ## `blade_create` -/

def firstTruthy : List (Option Json) → String
  | [] => ""
  | some v :: rest => if v.truthy then v.toStr else firstTruthy rest
  | none :: rest => firstTruthy rest

def addLabelPair (out : Labels) (piece : String) : Labels :=
  let pair := strip piece
  if hasChar '=' pair then
    out.set (strip (beforeChar '=' pair)) (strip (afterChar '=' pair))
  else out

def parseLabelString (s : String) : Labels := (splitChar ',' s).foldl addLabelPair ∅

def bladeNames (names : Option Json) : Except PyError (List String) :=
  match names with
  | none => .ok []
  | some v =>
    if !v.truthy then .ok []
    else
      match v with
      | .str s => .ok (csv s)
      | .arr xs => .ok ((xs.filter Json.truthy).map Json.toStr)
      -- iterating a dict yields its keys
      | .obj fs => .ok ((fs.map Prod.fst).filter (· ≠ ""))
      | v => .error ⟨.typeError, "'" ++ v.typeName ++ "' object is not iterable"⟩

def bladeLabels (labels : Option Json) : Except PyError Labels :=
  match labels with
  | none => .ok ∅
  | some v =>
    if !v.truthy then .ok ∅
    else
      match v with
      | .str s => .ok (parseLabelString s)
      | .obj fs => .ok (Dict.ofPairs (fs.map fun f => (f.1, f.2.toStr)))
      | v => .error ⟨.attributeError, "'" ++ v.typeName ++ "' object has no attribute 'items'"⟩

/-- The scope of a `blade_create` call: the explicit scope if it is a pod or
a node, else the scope its target acts on. -/
def bladeScope (rawScope bladeTarget : String) : String :=
  let scope := if rawScope = "" then "" else canonicaliseKind rawScope
  if scope = "pod" ∨ scope = "node" then scope
  else (bladeTargetToScope.lookup bladeTarget).getD scopeUnknown

def classifyBladeCreate (args : List (String × Json)) (raw : String) :
    Except PyError EffectiveTarget := do
  let get := Json.get? args
  let bladeTarget := lower (firstTruthy [get "target", get "blade_target"])
  let bladeAction := lower (firstTruthy [get "action", get "blade_action"])
  let rawScope := lower (firstTruthy [get "scope", get "blade_scope"])
  let scope := bladeScope rawScope bladeTarget
  let given := strip (Json.strOrEmpty (get "namespace"))
  let ns := if given = "" ∧ scope ≠ "node" then "default" else given
  let names ← bladeNames (get "names")
  let labels ← bladeLabels (get "labels")
  return {
    scope, ns, names, labels, bladeTarget, bladeAction
    confidence := if !names.isEmpty || !labels.isEmpty then .high else .low
    rawCommand := raw }

/-! ## Resource verbs -/

def resourceClusterScoped : List String :=
  ["node", "pv", "namespace", "clusterrole", "clusterrolebinding", "storageclass"]

variable (args : List String) (raw : String)

def classifyKubectlDebug : EffectiveTarget :=
  let first := firstPositional args
  if first = "" then .unknown raw
  else
    let (kind, name) := splitKindName first
    let canonical := if kind = "" then "pod" else canonicaliseKind kind
    let ns := parseNamespace args (if canonical = "node" then "" else "default")
    { scope := canonical, ns, names := [name], rawCommand := raw }

def classifyKubectlNodeOp : EffectiveTarget :=
  let node := firstPositional args
  if node = "" then .unknown raw
  else { scope := "node", ns := "", names := [node], rawCommand := raw }

def classifyKubectlTaint : EffectiveTarget :=
  match listPositionals args with
  | kind :: node :: _ =>
    if canonicaliseKind kind = "node" then
      { scope := "node", ns := "", names := [node], rawCommand := raw }
    else .unknown raw
  | _ => .unknown raw

/-- The kind and name a positional list denotes: `KIND/NAME`, `KIND NAME` or,
with a default kind, `NAME`. -/
def resolveKindName (defaultKind : Option String) : List String → Option (String × String)
  | [] => none
  | first :: more =>
    let (kind, name) := splitKindName first
    if kind = "" then
      match defaultKind, more with
      -- a lone positional is the name, even if it spells a kind
      | some dk, [] => some (dk, first)
      | _, _ =>
        if isKnownKind first then some (first, more.headD "")
        else defaultKind.map fun dk => (dk, first)
    else if name = "" then some (kind, more.headD "")
    else some (kind, name)

def classifyKubectlResource (defaultKind : Option String) (args : List String) (raw : String) :
    EffectiveTarget :=
  match resolveKindName defaultKind (listPositionals args) with
  | none => .unknown raw
  | some (kind, name) =>
    let canonical := canonicaliseKind kind
    if canonical = "" then .unknown raw
    else
      let ns := parseNamespace args
        (if resourceClusterScoped.contains canonical then "" else "default")
      let labels := parseLabels args
      { scope := canonical, ns
        names := if name = "" then [] else [name]
        labels
        rawCommand := raw
        confidence := if name ≠ "" ∨ labels.isEmpty = false then .high else .low }

def classifyKubectlRun : EffectiveTarget :=
  let name := firstPositional args
  if name = "" then .unknown raw
  else { scope := "pod", ns := parseNamespace args "default", names := [name], rawCommand := raw }

def classifyKubectlRollout : EffectiveTarget :=
  match args with
  | [] => .unknown raw
  | _ :: rest => classifyKubectlResource none rest raw

def classifyKubectlCp : EffectiveTarget :=
  match args.find? fun a => !startsWith a "-" && hasChar ':' a with
  | none => .unknown raw
  | some a =>
    let podPart := beforeChar ':' a
    if hasChar '/' podPart then
      { scope := "pod", ns := beforeChar '/' podPart, names := [afterChar '/' podPart]
        rawCommand := raw }
    else
      { scope := "pod", ns := parseNamespace args "default", names := [podPart]
        rawCommand := raw }

/-! ## `exec` -/

/-- The target of `blade create [k8s] SUBTYPE ...`, from the words after the
subtype. -/
def inlineBladeTarget (isK8s : Bool) (bladeSubtype : String) (rest : List String)
    (raw fallbackNs fallbackPod : String) : EffectiveTarget :=
  -- "pod-cpu" has the scope hint "pod" and the target hint "cpu"
  let scopeHint := if hasChar '-' bladeSubtype then beforeChar '-' bladeSubtype else ""
  let targetHint :=
    if hasChar '-' bladeSubtype then afterChar '-' bladeSubtype else bladeSubtype
  let bladeAction := rest.headD ""
  let ns := parseNamespace rest ""
  let names := parseBladeNames rest
  let labels := parseLabels rest
  let nodeName := parseFlagValue "--node" rest
  let scope :=
    if isK8s && scopeHint != "" then
      let canonical := canonicaliseKind scopeHint
      if canonical = "" then scopeHint else canonical
    else
      (bladeTargetToScope.lookup targetHint).getD (if scopeHint = "" then "pod" else scopeHint)
  let isTier1 := isK8s && toolPodNamespaces.contains fallbackNs && ns == ""
  let effectiveNs :=
    if scope = "node" then ""
    else if ns ≠ "" then ns
    else if isTier1 then ""
    else "default"
  let effectiveNames :=
    if scope = "node" ∧ nodeName ≠ "" then [nodeName]
    else if names ≠ [] then names
    else if labels.isEmpty = false then []
    else if fallbackPod ≠ "" ∧ scope = "pod" then [fallbackPod]
    else []
  { scope, ns := effectiveNs, names := effectiveNames, labels
    bladeTarget := targetHint, bladeAction, confidence := .high
    rawCommand := raw, isTier1Exec := isTier1 }

def classifyInlineBlade (inner : List String) (raw fallbackNs fallbackPod : String) :
    EffectiveTarget :=
  match inner with
  | "blade" :: "create" :: afterCreate =>
    let isK8s := afterCreate.head? == some "k8s"
    let words := if isK8s then afterCreate.drop 1 else afterCreate
    inlineBladeTarget isK8s (words.headD "") (words.drop 1) raw fallbackNs fallbackPod
  -- status, destroy, query, version, prepare, revoke
  | _ => .readonly raw

def escapePrograms : List String := ["nsenter", "chroot", "unshare"]

def inheritNamespace (ns raw : String) (inner : EffectiveTarget) : EffectiveTarget :=
  if inner.ns = "default" ∧ ns ≠ "default" then
    { scope := inner.scope, ns, names := inner.names, labels := inner.labels
      bladeTarget := inner.bladeTarget, bladeAction := inner.bladeAction
      confidence := .low, rawCommand := raw }
  else inner

def classifyKubectlExec (nested : List String → Except PyError EffectiveTarget)
    (args : List String) (raw : String) : Except PyError EffectiveTarget :=
  let ns := parseNamespace args "default"
  let podName := firstPositional args
  if podName = "" then .ok (.unknown raw)
  else
    let onPod : EffectiveTarget :=
      { scope := "pod", ns, names := [podName], rawCommand := raw, confidence := .high }
    match extractAfterDoubleDash args with
    | [] => .ok onPod
    | program :: words =>
      if hasHelpFlag (program :: words) then .ok (.readonly raw)
      else if program = "blade" then
        .ok (classifyInlineBlade (program :: words) raw ns podName)
      else if program = "kubectl" then (nested words).map (inheritNamespace ns raw)
      else if escapePrograms.contains program then .ok (.unknown raw)
      else .ok onPod

/-! ## The verb -/

def dispatchVerb (nested : List String → Except PyError EffectiveTarget)
    (sub : String) (rest : List String) (raw : String) : Except PyError EffectiveTarget :=
  if sub = "rollout" then
    if readonlyRolloutSubs.contains (rest.headD "") then .ok (.readonly raw)
    else .ok (classifyKubectlRollout rest raw)
  else if sub = "config" then
    if readonlyConfigSubs.contains (rest.headD "") then .ok (.readonly raw)
    else .ok (.banned raw)
  else if sub = "exec" then classifyKubectlExec nested rest raw
  else if sub = "debug" then .ok (classifyKubectlDebug rest raw)
  else if sub = "scale" then .ok (classifyKubectlResource none rest raw)
  else if ["cordon", "uncordon", "drain"].contains sub then .ok (classifyKubectlNodeOp rest raw)
  else if sub = "taint" then .ok (classifyKubectlTaint rest raw)
  else if ["patch", "set", "delete", "edit", "replace", "label", "annotate",
      "autoscale"].contains sub then .ok (classifyKubectlResource none rest raw)
  else if sub = "run" then .ok (classifyKubectlRun rest raw)
  else if sub = "expose" then .ok (classifyKubectlResource none rest raw)
  else if sub = "attach" then .ok (classifyKubectlResource (some "pod") rest raw)
  else if sub = "cp" then .ok (classifyKubectlCp rest raw)
  else if sub = "port-forward" then .ok (classifyKubectlResource (some "pod") rest raw)
  else if sub = "proxy" then .ok (.banned raw)
  else if sub = "create" then .ok (classifyKubectlResource none rest raw)
  else if sub = "apply" then .ok (classifyKubectlResource none rest raw)
  else .ok (.unknown raw)

def classifyVerb (nested : List String → Except PyError EffectiveTarget)
    (sub : String) (rest : List String) (raw : String) (rawArgs : Option (List (String × Json))) :
    Except PyError EffectiveTarget :=
  if bannedKubectlSubs.contains sub then .ok (.banned raw)
  else if fileInputSubs.contains sub && usesFileInput rest then
    match rawArgs.bind (Json.get? · "stdin_data") with
    | some stdinData =>
      if stdinData.truthy then classifyKubectlStdinManifest stdinData rest raw
      else .ok (.banned raw)
    | none => .ok (.banned raw)
  else if readonlyKubectlSubs.contains sub then .ok (.readonly raw)
  else if hasHelpFlag rest then .ok (.readonly raw)
  else dispatchVerb nested sub rest raw

/-- The arguments after the verb, with a namespace given before the verb put
in front unless they carry their own. -/
def propagateNamespace (pre rest : List String) : List String :=
  let globalNs := parseNamespace pre ""
  if globalNs ≠ "" ∧ restHasNamespace rest = false then ["-n", globalNs] ++ rest else rest

def classifyKubectlWith (nested : List String → Except PyError EffectiveTarget)
    (args : List String) (raw : String) (rawArgs : Option (List (String × Json))) :
    Except PyError EffectiveTarget :=
  match findSubcommandIndex args with
  | none => .ok (.unknown raw)
  | some i =>
    classifyVerb nested (args.getD i "") (propagateNamespace (args.take i) (args.drop (i + 1)))
      raw rawArgs

def classifyKubectl : Nat → List String → String → Option (List (String × Json)) →
    Except PyError EffectiveTarget
  | 0, _, _, _ => .error ⟨.recursionError, "maximum recursion depth exceeded"⟩
  | depth + 1, args, raw, rawArgs =>
    classifyKubectlWith (fun inner => classifyKubectl depth inner raw none) args raw rawArgs

/-! ## Tool arguments -/

def coerceArgsDict : Json → List (String × Json)
  | .obj fs => fs
  | _ => []

def legacyArgs (fs : List (String × Json)) : List String → List String
  | [] => []
  | key :: keys =>
    match Json.get? fs key with
    | some (.arr xs) => xs.map Json.toStr
    | some (.str s) => Shlex.splitArgs s
    | _ => legacyArgs fs keys

def coerceArgsList : Json → List String
  | .arr xs => xs.map Json.toStr
  | .obj fs =>
    match Json.get? fs "subcommand" with
    | some sub =>
      let vArgs := Json.strOrEmpty (Json.get? fs "v_args")
      (Json.strOrEmpty (some sub) :: (if vArgs = "" then [] else Shlex.splitArgs vArgs)).filter
        (· ≠ "")
    | none => legacyArgs fs ["command", "args", "argv", "cmd"]
  | .str s => Shlex.splitArgs s
  | _ => []

def formatRawCommand (toolName : String) : Json → String
  | .obj fs => toolName ++ "(" ++ join ", " (fs.map fun f => f.1 ++ "=" ++ f.2.repr) ++ ")"
  | .arr xs => toolName ++ "(" ++ join " " (xs.map Json.toStr) ++ ")"
  | .str s => toolName ++ "(" ++ s ++ ")"
  | _ => toolName ++ "(?)"

/-! ## Entry point -/

def readonlyTools : List String :=
  ["blade_help", "blade_status", "blade_query_k8s", "read_knowledge_resource",
   "read_skill_resource", "activate_skill", "submit_fault_intent", "kubectl_ro", "read_file",
   "save_fault_plan", "finish_planning", "propose_plan_change", "submit_verification",
   "submit_recover_verification", "time_wait"]

/-- Classify one tool call. `depth` is the number of nested classifier calls
Python's recursion limit leaves. -/
def inferEffectiveTarget (depth : Nat) (toolName : String) (toolArgs : Json)
    (skillScriptAllowed : Bool) : Except PyError EffectiveTarget :=
  let raw := formatRawCommand toolName toolArgs
  if readonlyTools.contains toolName then .ok (.readonly raw)
  else if ["_execute_skill_script", "execute_skill_script"].contains toolName then
    if skillScriptAllowed then .ok (.readonly raw) else .ok (.banned raw)
  else if toolName = "blade_create" then classifyBladeCreate (coerceArgsDict toolArgs) raw
  else if ["kubectl", "kubectl_verify"].contains toolName then
    let rawArgs := match toolArgs with
      | .obj fs => some fs
      | _ => none
    classifyKubectl depth (coerceArgsList toolArgs) raw rawArgs
  else .ok (.unknown raw)

/-! ## Arguments that cannot be written out -/

def tryFormatRawCommand (stack : Nat) (toolName : String) : Json → Except PyError String
  | .obj fs => do
    let parts ← fs.mapM fun f => do return f.1 ++ "=" ++ (← f.2.tryRepr stack)
    return toolName ++ "(" ++ join ", " parts ++ ")"
  | .arr xs => do return toolName ++ "(" ++ join " " (← xs.mapM (Json.tryStr stack)) ++ ")"
  | v => .ok (formatRawCommand toolName v)

/-- The classifier from its first line on, which writes the call out for the audit log and can
raise; `inferEffectiveTarget` is what it does with a call that can be written. What is turned into
a text later are the same values or parts of them. -/
def inferEffectiveTargetWithin (stack depth : Nat) (toolName : String) (toolArgs : Json)
    (skillScriptAllowed : Bool) : Except PyError EffectiveTarget := do
  let _ ← tryFormatRawCommand stack toolName toolArgs
  inferEffectiveTarget depth toolName toolArgs skillScriptAllowed

end ChaosBlade.TargetGuard
