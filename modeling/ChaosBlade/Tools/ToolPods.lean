/-
Tools.ToolPods: the global flags of a kubectl call, and the
running tool pods of `nodes/_injection_detection.py`, read off the table
that `kubectl get pods -o wide` prints.

The names alone are read by words, the nodes by columns: a column ends at
two or more blanks, so that a restart count such as `1 (20d ago)` is one.
-/
import ChaosBlade.Py.Text
import ChaosBlade.Tools.Guard

namespace ChaosBlade.Tools

open Py

structure Paths where
  kubectlPath : String := "kubectl"
  bladePath : String := "blade"
  kubeconfigPath : String := ""
  kubeContext : String := ""

def buildKubectlGlobalArgs (paths : Paths) (kubeconfig : String) : List String :=
  let kc := if kubeconfig = "" then paths.kubeconfigPath else kubeconfig
  (if kc = "" then [] else ["--kubeconfig", kc]) ++
    (if paths.kubeContext = "" then [] else ["--context", paths.kubeContext])

def kubectlCommand (paths : Paths) (kubeconfig : String) (args : List String) : List String :=
  paths.kubectlPath :: buildKubectlGlobalArgs paths kubeconfig ++ args

def toolPodNamespace : String := "chaosblade"

def listToolPods : List String :=
  ["get", "pods", "-n", toolPodNamespace, "-l", "app=otel-c-tool", "-o", "wide"]

/-! ## Reading the table -/

def tableRows (text : String) : List String := ((splitlines (strip text)).drop 1).map strip

def discoverToolPods (kubectlOutput : String) : List String :=
  (tableRows kubectlOutput).filterMap fun line =>
    match splitWs line with
    | pod :: _ :: status :: _ => if status = "Running" then some pod else none
    | _ => none

/-- The call `re.split(r"\s{2,}", line)`: the column and the blanks read so far,
both reversed. -/
def columnsGo : List Char → List Char → List Char → List (List Char)
  | col, blanks, [] =>
    if 2 ≤ blanks.length then [col.reverse, []] else [(blanks ++ col).reverse]
  | col, blanks, c :: cs =>
    if isSpace c then columnsGo col (c :: blanks) cs
    else if 2 ≤ blanks.length then col.reverse :: columnsGo [c] [] cs
    else columnsGo (c :: blanks ++ col) [] cs

def columns (line : String) : List String := (columnsGo [] [] line.toList).map String.ofList

def discoverToolPodsWithNodes (kubectlOutput : String) : List (String × String) :=
  (tableRows kubectlOutput).filterMap fun line =>
    match columns line with
    | pod :: _ :: status :: _ :: _ :: _ :: node :: _ =>
      if status = "Running" then some (pod, node) else none
    | _ => none

def toolPodOn (nodes : List String) (kubectlOutput : String) : Option String :=
  ((discoverToolPodsWithNodes kubectlOutput).find? fun p => nodes.contains p.2).map Prod.fst

end ChaosBlade.Tools
