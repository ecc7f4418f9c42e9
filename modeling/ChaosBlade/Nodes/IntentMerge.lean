/-
Nodes.IntentMerge: the parameters of a dialogue:
`_merge_known_params_into_fault_intent` of
`agent/nodes/intent_clarification.py` and the readers it calls.

The messages are read from the newest to the oldest. A slot of the intent
is filled once; a message with an override phrase writes it again. Names
are only ever added.

  * A slot that is a text is empty if it is missing.
  * The names and the parameters of the starting intent are extended in
    place there; here the returned intent is a new one.
  * A message whose content is a list has no `strip`, which raises.
-/
import ChaosBlade.Agent.State
import ChaosBlade.Py.JsonDecode
import ChaosBlade.Py.Regex
import ChaosBlade.Py.Text

namespace ChaosBlade.Nodes

open Py Agent

structure FaultIntent where
  scope : String := ""
  target : String := ""
  action : String := ""
  ns : String := ""
  names : List String := []
  params : Dict Json := ∅

/-! ## Tables -/

def executionKeywords : List String :=
  ["开始", "执行", "确认", "好的", "可以", "go", "run", "就这样", "没问题", "可以了", "是的", "对", "没错",
   "确认执行", "开始吧", "执行吧"]

def scopeKeywords : List (String × List String) :=
  [("pod", ["pod", "pods", "容器"]), ("node", ["node", "nodes", "节点"]),
   ("container", ["container", "容器实例"])]

def targetKeywords : List (String × List String) :=
  [("cpu", ["cpu", "处理器", "CPU"]), ("mem", ["内存", "mem", "memory", "MEM"]),
   ("network", ["网络", "network", "net", "Network"]), ("disk", ["磁盘", "disk", "Disk"]),
   ("process", ["进程", "process", "Process"])]

def actionMap : List (String × String) :=
  [("cpu", "fullload"), ("mem", "load"), ("network", "drop"), ("disk", "burn"), ("process", "kill")]

def scopeKeywordExclusions : List String := (scopeKeywords.flatMap Prod.snd).map lower

def overrideSignals : List String := ["改成", "换成", "修改为", "改为", "调整"]

/-! ## Readers -/

def keywordIn (table : List (String × List String)) (text : String) : String :=
  ((table.find? fun e => e.2.any fun kw => hasSub (lower kw) (lower text)).map Prod.fst).getD ""

def extractScope (text : String) : String := keywordIn scopeKeywords text

def extractTargetKeyword (text : String) : String := keywordIn targetKeywords text

def isAsciiAlnum (c : Char) : Bool := c.isAlphanum

def isNameChar (c : Char) : Bool := c.isAlphanum || "-_.".toList.contains c

/-- A name in a pattern under `re.IGNORECASE`. -/
def resourceName : Regex :=
  .seq (.char fun c => isAsciiAlnum (Regex.foldCase c))
    (.many (.char fun c => isNameChar (Regex.foldCase c)))

def boldMark : Regex := .opt (.seq (.lit "*") (.opt (.lit "*")))

def ackPattern (labels : List Regex) : Regex :=
  .all [boldMark, labels.foldr .alt (.oneOf ""), boldMark, .many .space,
    [.lit "已确认为", .lit "确认为", .word "is",
      .all [.word "confirmed", .oneOrMore .space, .word "as"], .lit "为", .oneOf ":："].foldr .alt
        (.oneOf ""),
    .many .space, .many (.oneOf "*`"), .group 1 resourceName, .many (.oneOf "*`")]

/-- The explicit flags, `-n ns`, `--namespace ns`, `namespace=ns`, `namespace:ns`. -/
def namespacePattern : Regex :=
  .alt
    (.all [.alt (.word "-n") (.word "--namespace"),
      .oneOrMore (.char fun c => isSpace c || c == '='), .group 1 resourceName])
    (.all [.word "namespace", .oneOf ":=", .many .space, .group 2 resourceName])

def firstGroup (groups : List Nat) (m : Regex.Match) : String :=
  ((groups.filterMap m.group).find? (· ≠ "")).getD ""

/-- A text that is one name, neither a word of agreement nor a scope; a namespace has no
dots. -/
def isBareName (dots : Bool) (stripped : String) : Bool :=
  (match stripped.toList with
    | [] => false
    | c :: cs => isAsciiAlnum c && cs.all fun d => isNameChar d && (dots || d != '.')) &&
  !(executionKeywords.any fun kw => hasSub kw (lower stripped)) &&
  !scopeKeywordExclusions.contains (lower stripped)

def extractNamespace (text : String) : String :=
  match namespacePattern.search text with
  | some m => firstGroup [1, 2] m
  | none =>
    match (ackPattern [.lit "命名空间", .word "namespace"]).search text with
    | some m => firstGroup [1] m
    | none => if isBareName false (strip text) then strip text else ""

inductive Speaker where
  | human
  | ai

def nameLabels : List Regex :=
  [.lit "目标节点", .lit "节点名", .all [.word "node", .oneOrMore .space, .word "name"],
   .seq (.word "pod") (.lit "名"), .all [.word "target", .oneOrMore .space, .word "node"]]

variable (db : CharDb)

def nodePattern : Regex :=
  let part : Regex := .seq (.lit ".") (.oneOrMore (.digit db))
  .all [.lit "cn-", .oneOrMore (.char Char.isLower), part, part, part, .opt part]

def addNew (names : List String) (n : String) : List String :=
  if n ∈ names then names else names ++ [n]

def extractNames (text : String) (source : Speaker) : List String :=
  let acked := (((ackPattern nameLabels).search text).bind (·.group 1)).toList
  match source with
  | .ai => acked
  | .human =>
    let found := ((nodePattern db).finditer (strip text)).map Regex.Match.text
    let names := found.foldl addNew acked
    if names.isEmpty && isBareName true (strip text) then [strip text] else names

/-- The patterns of `_extract_params_from_text`, with the number in one of four groups. -/
def percentPattern : Regex :=
  let number : Regex := .oneOrMore (.digit db)
  [Regex.seq (.group 1 number) (.lit "%"),
   .all [.word "percent", .oneOrMore .space, .group 2 number],
   .all [.lit "强度", .oneOrMore .space, .group 3 number],
   .all [.lit "占用", .oneOrMore .space, .group 4 number]].foldr .alt (.oneOf "")

def timeoutPattern : Regex :=
  let number : Regex := .oneOrMore (.digit db)
  [Regex.all [.group 1 number, .many .space, .alt (.word "s") (.alt (.lit "秒") (.word "seconds"))],
   .all [.word "timeout", .oneOrMore .space, .group 2 number],
   .all [.lit "时间", .oneOrMore .space, .group 3 number],
   .all [.word "duration", .oneOrMore .space, .group 4 number]].foldr .alt (.oneOf "")

def numberIn (pattern : Regex) (text : String) : Option String :=
  (pattern.search text).map (firstGroup [1, 2, 3, 4])

def extractParamsFromText (text : String) : List (String × String) :=
  ((numberIn (percentPattern db) text).map fun v => ("percent", v)).toList ++
    ((numberIn (timeoutPattern db) text).map fun v => ("timeout", v)).toList

/-! ## Merging -/

def mergeSlot (old value : String) (isOverride : Bool) : String :=
  if value ≠ "" ∧ (old = "" ∨ isOverride) then value else old

def mergeParam (isOverride : Bool) (params : Dict Json) (p : String × String) : Dict Json :=
  if (params.get? p.1).isNone ∨ isOverride then params.set p.1 (.str p.2) else params

def mergeName (ns : String) (names : List String) (n : String) : List String :=
  if n = ns then names else addNew names n

def mergeText (intent : FaultIntent) (source : Speaker) (text : String) : FaultIntent :=
  let isOverride := overrideSignals.any fun s => hasSub s text
  let target := mergeSlot intent.target (extractTargetKeyword text) isOverride
  let ns := mergeSlot intent.ns (extractNamespace text) isOverride
  { scope := mergeSlot intent.scope (extractScope text) isOverride
    target
    action := if target ≠ "" ∧ intent.action = "" then (actionMap.lookup target).getD ""
      else intent.action
    ns
    names := (extractNames db text source).foldl (mergeName ns) intent.names
    params := (extractParamsFromText db text).foldl (mergeParam isOverride) intent.params }

def mergeSaid (intent : FaultIntent) (source : Speaker) (content : String) : FaultIntent :=
  if strip content = "" then intent else mergeText db intent source (strip content)

def mergeMessage (intent : FaultIntent) : Message → Except PyError FaultIntent
  | .human content => .ok (mergeSaid db intent .human content)
  | .ai msg =>
    match msg.content with
    | .str content => .ok (mergeSaid db intent .ai content)
    | v => .error (attributeError v "strip")
  | .tool _ | .system _ => .ok intent

def mergeKnownParamsIntoFaultIntent (messages : List Message)
    (faultIntent : FaultIntent) : Except PyError FaultIntent :=
  messages.reverse.foldlM (mergeMessage db) faultIntent

end ChaosBlade.Nodes
