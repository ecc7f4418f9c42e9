/-
Tools.Kubectl: the command line `tools/kubectl.py` builds.

The tool edits the argument string with regular expressions, cuts it into
tokens, and sets the timeout of a `blade create` run through `exec`: it
adds one where there is none and raises one that is below the minimum.
-/
import ChaosBlade.Tools.FaultType

namespace ChaosBlade.Tools

open Py

/-! ## Patterns -/

def kubeconfigPattern (_prev : Option Char) (cs : List Char) : Option (List Char) :=
  Re.flagValue "--kubeconfig".toList cs

def selectorFlag (cs : List Char) : Option (List Char) :=
  (Re.flagValue "-l".toList cs).or (Re.flagValue "--selector".toList cs)

def selectorPattern (prev : Option Char) (cs : List Char) : Option (List Char) :=
  (if prev.isNone then selectorFlag cs else none).or
    (match cs with
      | c :: rest => if isSpace c then selectorFlag rest else none
      | [] => none)

variable (db : CharDb)

def bladeCreatePattern (prev : Option Char) (cs : List Char) : Option Unit := do
  if !Re.wordBoundary db prev cs.head? then none
  let cs ← Re.lit "blade".toList cs
  let cs ← Re.spaces cs
  let cs ← Re.lit "create".toList cs
  if Re.wordBoundary db (some 'e') cs.head? then some () else none

def faultScope (cs : List Char) : Option (String × List Char) :=
  ["pod", "node", "container"].findSome? fun scope =>
    (Re.lit (scope ++ "-").toList cs).map fun rest => (scope, rest)

/-- The pattern `blade\s+create\s+k8s\s+(pod|node|container)-(\w+)\s+(\w+)`. -/
def faultPattern (_prev : Option Char) (cs : List Char) :
    Option (String × String × String) := do
  let cs ← Re.lit "blade".toList cs
  let cs ← Re.spaces cs
  let cs ← Re.lit "create".toList cs
  let cs ← Re.spaces cs
  let cs ← Re.lit "k8s".toList cs
  let cs ← Re.spaces cs
  let (scope, cs) ← faultScope cs
  let (target, cs) ← Re.run db.isWord cs
  let cs ← Re.spaces cs
  let (action, _) ← Re.run db.isWord cs
  return (scope, String.ofList target, String.ofList action)

def timeoutPattern (_prev : Option Char) (cs : List Char) : Option String := do
  let cs ← Re.lit "--timeout".toList cs
  let cs ← Re.spaces cs
  let (digits, _) ← Re.run db.isDigit cs
  return String.ofList digits

/-! ## The command line -/

def editArgs (subcommand vArgs : String) : String :=
  let vArgs :=
    if hasSub "--kubeconfig" vArgs then strip (Re.remove kubeconfigPattern vArgs) else vArgs
  if subcommand = "exec" ∧ (Re.search selectorPattern none vArgs.toList).isSome then
    strip (Re.remove selectorPattern vArgs)
  else vArgs

def setTimeout (current new : String) : List String → List String
  | a :: b :: rest =>
    if a = "--timeout" ∧ b = current then a :: new :: rest
    else a :: setTimeout current new (b :: rest)
  | tokens => tokens

def boostTimeout (vArgs : String) (tokens : List String) : List String :=
  if (Re.search (bladeCreatePattern db) none vArgs.toList).isNone then tokens
  else
    let (scope, target, action) :=
      (Re.search (faultPattern db) none vArgs.toList).getD ("", "", "")
    if !hasSub "--timeout" vArgs then
      tokens ++ ["--timeout", toString (ensureMinDuration db none scope target action)]
    else
      match Re.search (timeoutPattern db) none vArgs.toList with
      | none => tokens
      | some current =>
        let effective := ensureMinDuration db (some current) scope target action
        match pyInt db current with
        -- a number too long for `int` raises `ValueError`, which is swallowed
        | none => tokens
        | some n =>
          if effective = n then tokens else setTimeout current (toString effective) tokens

def kubectlTokens (subcommand vArgs : String) : List String :=
  let edited := editArgs subcommand vArgs
  let tokens := Shlex.splitArgs edited
  subcommand :: if subcommand = "exec" then boostTimeout db edited tokens else tokens

end ChaosBlade.Tools
