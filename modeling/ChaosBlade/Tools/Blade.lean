/-
Tools.Blade: the command line `tools/blade.py` builds for
`blade_create`, and what it selects.

The tool writes its own options first, leaves out the namespace and the
labels for a node, appends the free-form `flags`, and sets the timeout.
`readBlade` reads a `blade create k8s` command line back: the last
`--namespace`, `--names` and `--labels` count. Their values are read as
the classifier reads the fields of the call, so that only the choice of
the value can make a difference.
-/
import ChaosBlade.Cli.Pflag
import ChaosBlade.TargetGuard.Classifier
import ChaosBlade.Tools.FaultType

namespace ChaosBlade.Tools

open Py TargetGuard

/-- The arguments of `blade_create`; `task_id` does not reach the command. -/
structure BladeArgs where
  scope : String
  target : String
  action : String
  ns : String := ""
  names : String := ""
  labels : String := ""
  kubeconfig : String := ""
  evictCount : String := ""
  evictPercent : String := ""
  flags : String := ""

def BladeArgs.toCall (r : BladeArgs) : List (String × Json) :=
  [("scope", .str r.scope), ("target", .str r.target), ("action", .str r.action),
   ("namespace", .str r.ns), ("names", .str r.names), ("labels", .str r.labels),
   ("kubeconfig", .str r.kubeconfig), ("evict_count", .str r.evictCount),
   ("evict_percent", .str r.evictPercent), ("flags", .str r.flags)]

/-! ## The command -/

def buildKubeconfigArg (kubeconfigPath kubeconfig : String) : List (String × String) :=
  let kc := if kubeconfig = "" then kubeconfigPath else kubeconfig
  if kc = "" then [] else [("--kubeconfig", kc)]

def ownOptions (kubeconfigPath : String) (r : BladeArgs) : List (String × String) :=
  (if r.ns ≠ "" ∧ r.scope ≠ "node" then [("--namespace", r.ns)] else []) ++
  (if r.names ≠ "" then [("--names", r.names)] else []) ++
  (if r.labels ≠ "" ∧ r.scope ≠ "node" then [("--labels", r.labels)] else []) ++
  buildKubeconfigArg kubeconfigPath r.kubeconfig ++
  (if r.evictCount ≠ "" then [("--evict-count", r.evictCount)] else []) ++
  (if r.evictPercent ≠ "" then [("--evict-percent", r.evictPercent)] else [])

def ownTokens (kubeconfigPath : String) (r : BladeArgs) : List String :=
  ["create", "k8s", r.scope ++ "-" ++ r.target, r.action] ++
    (ownOptions kubeconfigPath r).flatMap fun o => [o.1, o.2]

def raiseTimeout (db : CharDb) (scope target action : String) :
    List String → Except PyError (List String)
  | [] => .ok []
  | a :: rest =>
    if a = "--timeout" then
      match rest with
      | [] => .ok [a]
      | current :: more =>
        let effective := ensureMinDuration db (some current) scope target action
        match pyInt db current with
        | none => .error (pyIntError db current)
        | some n =>
          if effective ≠ n then .ok (a :: toString effective :: more)
          else .ok (a :: current :: more)
    else (raiseTimeout db scope target action rest).map (a :: ·)

def bladeCreate (db : CharDb) (bladePath kubeconfigPath : String) (r : BladeArgs) :
    Except PyError (List String) :=
  let cmd := bladePath :: (ownTokens kubeconfigPath r ++ Shlex.splitArgs r.flags)
  if "--timeout" ∉ cmd then
    .ok (cmd ++ ["--timeout", toString (ensureMinDuration db none r.scope r.target r.action)])
  else raiseTimeout db r.scope r.target r.action cmd

/-! ## What a command selects -/

structure Selector where
  scope : String
  ns : String
  names : List String
  labels : Labels

/-- The same selection: names as a set, labels as a mapping. -/
structure Selector.Same (a b : Selector) : Prop where
  scope : a.scope = b.scope
  ns : a.ns = b.ns
  names : ∀ n, n ∈ a.names ↔ n ∈ b.names
  labels : a.labels.Same b.labels

def screenedSelector (e : EffectiveTarget) : Selector := ⟨e.scope, e.ns, e.names, e.labels⟩

def bladeNamespace (scope value : String) : String :=
  if strip value = "" ∧ scope ≠ "node" then "default" else strip value

def optionValue (option : String) (chunks : List Cli.Chunk) : String :=
  (Cli.lastValue [option] chunks).getD ""

/-- What `blade create k8s SCOPE-TARGET ...` selects; `none` if the command line
does not read. A container experiment selects pods. -/
def readBlade (T : Cli.FlagTable) (args : List String) : Option Selector :=
  (Cli.read T args).bind fun chunks =>
    match Cli.words chunks with
    | "create" :: "k8s" :: experiment :: _ =>
      let scope := beforeChar '-' experiment
      some { scope := if scope = "container" then "pod" else scope
             ns := bladeNamespace scope (optionValue "--namespace" chunks)
             names := csv (optionValue "--names" chunks)
             labels := parseLabelString (optionValue "--labels" chunks) }
    | _ => none

def bladeFlags : Cli.FlagTable where
  long f := ["--namespace", "--names", "--labels", "--kubeconfig", "--evict-count",
    "--evict-percent", "--timeout", "--cpu-percent", "--mem-percent", "--interface",
    "--container-names", "--path", "--size"].contains f
  short _ := false

end ChaosBlade.Tools
