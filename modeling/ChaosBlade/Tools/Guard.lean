/-
Tools.Guard: `tools/guard.py` and `tools/guard_parser.py`: the
check every command passes before `run_command` starts it.

The guard looks at the program, at the kubectl subcommand, and at the
tokens the host reads. What a flag carries as data and what stands behind
the `--` of an `exec` are no such tokens, so the guard says nothing about
the command that is run in a container.
-/
import ChaosBlade.Process.Traced
import ChaosBlade.Py.Regex

namespace ChaosBlade.Tools

open Py Process

/-! ## Parsing -/

structure ParsedCommand where
  binary : String
  subcommand : Option String := none
  positionalArgs : List String := []
  flags : List (String × Option String) := []
  dataPayloadValues : List String := []
  containerCommand : List String := []

namespace ParsedCommand

variable (p : ParsedCommand)

def addWord (token : String) : ParsedCommand :=
  match p.subcommand with
  | none => { p with subcommand := some token }
  | some _ => { p with positionalArgs := p.positionalArgs ++ [token] }

def addFlag (name : String) (value : Option String) : ParsedCommand :=
  { p with flags := p.flags ++ [(name, value)] }

def addValue (payloadFlags : List String) (name value : String) : ParsedCommand :=
  let p := p.addFlag name (some value)
  if payloadFlags.contains name then
    { p with dataPayloadValues := p.dataPayloadValues ++ [value] }
  else p

def hostRelevantTokens : List String :=
  p.binary :: (p.subcommand.filter (· ≠ "")).toList ++ p.positionalArgs ++
    p.flags.flatMap fun f => f.1 :: (f.2.filter fun v => !p.dataPayloadValues.contains v).toList

end ParsedCommand

/-- What the parser of a program knows of its flags. `doubleDash` are the
subcommands that hand on what follows a `--`; without any, `--` is a flag. -/
structure GuardSchema where
  booleanFlags : List String
  payloadFlags : List String := []
  doubleDash : List String := []

def kubectlSchema : GuardSchema where
  booleanFlags := ["-h", "--help", "--version", "-A", "--all-namespaces", "--all", "-w", "--watch",
    "--watch-only", "-R", "--recursive", "--no-headers", "--show-labels", "--show-kind",
    "--show-managed-fields", "--server-print", "--insecure-skip-tls-verify", "-q", "--quiet",
    "--ignore-not-found", "--force", "--cascade", "--prune", "--validate", "--dry-run", "-i",
    "--stdin", "-t", "--tty", "--previous", "--prefix", "--timestamps", "--show-events",
    "--allow-missing-template-keys"]
  payloadFlags := ["-p", "--patch", "-f", "--filename", "--from-literal", "--from-file",
    "--from-env-file", "--annotation", "--annotations", "--labels", "--label", "--data",
    "--data-binary", "-l", "--selector", "--field-selector", "--overrides", "--kubeconfig",
    "--context", "--cluster", "--user", "--server", "--token", "--certificate-authority",
    "--client-certificate", "--client-key", "--as", "--as-group", "--as-uid"]
  doubleDash := ["exec", "run", "attach", "debug"]

def bladeSchema : GuardSchema where
  booleanFlags := ["-h", "--help", "-d", "--debug", "-v", "--version", "--no-color"]

def splitFlagEq (token : String) : String × Option String :=
  if hasChar '=' token then (beforeChar '=' token, some (afterChar '=' token)) else (token, none)

def GuardSchema.parse (schema : GuardSchema) : ParsedCommand → List String → ParsedCommand
  | p, [] => p
  | p, token :: rest =>
    if token = "--" ∧ schema.doubleDash ≠ [] then
      if p.subcommand.any schema.doubleDash.contains then { p with containerCommand := rest }
      else schema.parse (p.addWord token) rest
    else if startsWith token "-" && token ≠ "-" then
      let (name, eqVal) := splitFlagEq token
      match eqVal with
      | some value => schema.parse (p.addValue schema.payloadFlags name value) rest
      | none =>
        if schema.booleanFlags.contains name then schema.parse (p.addFlag name none) rest
        else match rest with
          | [] => p.addFlag name none
          | value :: more =>
            if startsWith value "-" then schema.parse (p.addFlag name none) (value :: more)
            else schema.parse (p.addValue schema.payloadFlags name value) more
    else schema.parse (p.addWord token) rest

def pathName (path : String) : String :=
  ((splitChar '/' path).filter fun part => part ≠ "" && part ≠ ".").getLast?.getD ""

def parseCommand : List String → ParsedCommand
  | [] => { binary := "" }
  | program :: args =>
    match pathName program with
    | "kubectl" => kubectlSchema.parse { binary := "kubectl" } args
    | "blade" => bladeSchema.parse { binary := "blade" } args
    | binary => { binary, positionalArgs := args }

/-! ## The check -/

def allowedCommands : List String := ["blade", "kubectl", "df", "ping", "sleep"]

def kubectlAllowedSubcommands : List String :=
  ["get", "describe", "delete", "exec", "logs", "top", "patch", "set", "scale", "debug", "wait",
   "cordon", "uncordon", "taint", "apply", "create", "rollout"]

def suspiciousSoloTokens : List String := [";", "|", "&", "||", "&&", ">", "<", ">>", "<<", "<<<"]

def paramBlacklistPatterns : List Regex :=
  [.all [.lit "rm", .oneOrMore .space, .lit "-rf"], .all [.lit ">", .many .space, .lit "/dev/"],
   .all [.lit ";", .many .space, .lit "rm"],
   .all [.lit "|", .many .space, .lit "bash"],
   .all [.lit "|", .many .space, .lit "sh"],
   .all [.lit "\x60", .many .dot, .lit "\x60"],
   .lit "$("]

def isDangerous (token : String) : Bool :=
  suspiciousSoloTokens.contains token ||
    paramBlacklistPatterns.any fun pattern => (pattern.search token).isSome

def guardCheck (cmd : List String) : Bool × String :=
  match cmd with
  | [] => (false, "Empty command")
  | program :: _ =>
    let binary := pathName program
    let parsed := parseCommand cmd
    let subcommand := parsed.subcommand.getD ""
    if !allowedCommands.contains binary then (false, "Command not allowed: " ++ binary)
    else if binary = "kubectl" ∧ subcommand ≠ "" ∧
        !kubectlAllowedSubcommands.contains subcommand then
      (false, "kubectl subcommand not allowed: " ++ subcommand)
    else if parsed.hostRelevantTokens.any isDangerous then
      (false, "Dangerous pattern detected in command")
    else (true, "OK")

/-! ## Running a command -/

/-- The class `CommandResult`, but for the duration. -/
structure CommandResult where
  exitCode : Int := 0
  stdout : String := ""
  stderr : String := ""

def runCommand (cmd : List String) (answer : Except PyError CommandResult) :
    Traced (List String) CommandResult :=
  if (guardCheck cmd).1 then .start cmd answer
  else .ofExcept (.error ⟨.toolGuardError, (guardCheck cmd).2⟩)

theorem mem_started_runCommand {cmd c : List String} {answer : Except PyError CommandResult}
    (h : c ∈ (runCommand cmd answer).started) : c = cmd := by
  unfold runCommand at h
  split at h
  · simpa using h
  · simp at h

end ChaosBlade.Tools
