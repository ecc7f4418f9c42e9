/-
Nodes.Phase1Screener: `nodes/phase1_screener.py`: the gate
between the planner and its tools.

Planning is read-only: a batch passes if every call is classified as
read-only, else every call of the batch is answered and the batch goes
back to the model. A call the classifier raises on passes, and so does
everything in log-only mode.
-/
import ChaosBlade.Nodes.ToolScreener
import ChaosBlade.TargetGuard.ReadonlyTheorems
import ChaosBlade.TargetGuard.TotalityTheorems

namespace ChaosBlade.Nodes

open Py Agent TargetGuard

/-! ## Texts -/

def violationReason (effective : EffectiveTarget) : String :=
  if effective.scope = scopeBanned then
    let reasonStr := if effective.rawCommand = "" then
        "operation classified as banned (e.g. exec ... blade " ++
          "create, apply -f chaosblade.yaml, ...)"
      else effective.rawCommand
    "banned operation — " ++ String.ofList (reasonStr.toList.take 200)
  else if effective.scope = scopeUnknown then
    "unclassifiable call (defensive reject — Phase 1 cannot " ++
      "verify the call is read-only without classifier signal)"
  else
    "call would mutate " ++ effective.scope ++ " resources (classifier verdict: destructive)"

def makeViolationMessage (toolName reason tcId : String) : ToolMessage :=
  { content :=
      "Error: phase1_readonly_violation\n\n" ++
      "Tool '" ++ toolName ++ "' would mutate cluster state in this call.\n" ++
      "Reason: " ++ reason ++ "\n\n" ++
      "Phase 1 (planning) is read-only by runtime enforcement. " ++
      "Mutation tools (blade_create, blade_destroy, full kubectl " ++
      "with exec/delete/patch/...) are bound automatically in " ++
      "Phase 2 after your plan is approved by the user.\n\n" ++
      "DO NOT retry with `kubectl exec ... blade create` or any " ++
      "other equivalent path — all mutation paths are blocked " ++
      "here by the same classifier.\n\n" ++
      "To advance to Phase 2: finish your planning observations, " ++
      "then emit a final summary text WITHOUT any tool_calls. The " ++
      "system runs safety_check → confirmation_gate → " ++
      "execute_loop automatically once you stop calling tools."
    toolCallId := tcId, name := toolName, status := .error }

def makeSkippedMessage (toolName tcId : String) : ToolMessage :=
  { content :=
      "(skipped — a sibling tool_call in this batch violated " ++
      "Phase 1 read-only enforcement; resolve the violation and " ++
      "re-issue this call alone in the next turn if still needed)"
    toolCallId := tcId, name := toolName }

/-! ## The node -/

def phase1Args (tc : ToolCall) : Json :=
  match tc.args with
  | .null => .obj []
  | args => args

def phase1Violation (depth : Nat) (settings : Settings) (tc : ToolCall) : Option ToolMessage :=
  match inferEffectiveTarget depth tc.name (phase1Args tc) settings.skillScriptDefaultAllow with
  -- fail open: the call passes through
  | .error _ => none
  | .ok effective =>
    if effective.scope = scopeReadonly then none
    else some (makeViolationMessage tc.name (violationReason effective) tc.id)

def phase1Screener (depth : Nat) (settings : Settings) (state : AgentState) : Delta :=
  let calls := state.pendingCalls
  let rejections := calls.filterMap (phase1Violation depth settings)
  if rejections = [] then { screenerRoute := .pass }
  else if settings.phase1ScreenerEnforcing = false then { screenerRoute := .pass }
  else
    let legitimate := calls.filter fun tc => (phase1Violation depth settings tc).isNone
    let skipped :=
        legitimate.filter fun tc => !(rejections.map ToolMessage.toolCallId).contains tc.id
    { screenerRoute := .retry
      messages := rejections ++ skipped.map fun tc => makeSkippedMessage tc.name tc.id }

def routeAfterPhase1Screener (screenerRoute : Option String) : String :=
  screenerRoute.getD Route.pass.value

open List

section

variable {depth : Nat} {settings : Settings} {state : AgentState}

theorem phase1_pass_legitimate (henf : settings.phase1ScreenerEnforcing = true)
    (h : (phase1Screener depth settings state).screenerRoute = .pass) :
    ∀ tc ∈ state.pendingCalls, phase1Violation depth settings tc = none := by
  intro tc htc
  unfold phase1Screener at h
  dsimp only at h
  split at h
  · next hnone => exact List.filterMap_eq_nil_iff.mp hnone tc htc
  · rw [henf] at h
    simp at h

end

/-! ## `exec` -/

def ReadOnlyExec (pre rest : List String) : Prop :=
  hasHelpFlag (propagateNamespace pre rest) = true ∨
  (∃ words, extractAfterDoubleDash (propagateNamespace pre rest) = "blade" :: words ∧
    words.head? ≠ some "create") ∨
  (∃ words, extractAfterDoubleDash (propagateNamespace pre rest) = "kubectl" :: words ∧
    ReadOnlyCommand words)

def kubectlTools : List String := ["kubectl", "kubectl_verify"]

section

variable {depth : Nat} {toolName : String} {toolArgs : Json} {allowed : Bool}
  {pre rest : List String} (htool : toolName ∈ kubectlTools)
  (hargs : coerceArgsList toolArgs = pre ++ "exec" :: rest)
  (hverb : findSubcommandIndex (pre ++ "exec" :: rest) = some pre.length)
include htool hargs hverb

variable (depth allowed) in
theorem inferEffectiveTarget_exec :
    ∃ raw, inferEffectiveTarget (depth + 1) toolName toolArgs allowed =
      if hasHelpFlag (propagateNamespace pre rest) then .ok (.readonly raw)
      else classifyKubectlExec (fun inner => classifyKubectl depth inner raw none)
        (propagateNamespace pre rest) raw := by
  have hall : ∀ t ∈ kubectlTools, readonlyTools.contains t = false ∧
      ["_execute_skill_script", "execute_skill_script"].contains t = false ∧
      t ≠ "blade_create" ∧ ["kubectl", "kubectl_verify"].contains t = true := by decide
  obtain ⟨h1, h2, h3, h4⟩ := hall toolName htool
  refine ⟨formatRawCommand toolName toolArgs, ?_⟩
  unfold inferEffectiveTarget
  simp only [h1, h2, h3, h4, if_true, if_false, Bool.false_eq_true]
  rw [hargs, classifyKubectl_at hverb]
  have hb : bannedKubectlSubs.contains "exec" = false := by decide
  have hf : fileInputSubs.contains "exec" = false := by decide
  have hr : readonlyKubectlSubs.contains "exec" = false := by decide
  have hroll : ¬ "exec" = "rollout" := by decide
  have hconf : ¬ "exec" = "config" := by decide
  simp only [classifyVerb, hb, hf, hr, Bool.false_and, Bool.false_eq_true, if_false, dispatchVerb,
    hroll, hconf, if_true]

theorem exec_readonly_reason (hspell : NoSentinel (pre ++ "exec" :: rest)) {e : EffectiveTarget}
    (h : inferEffectiveTarget (depth + 1) toolName toolArgs allowed = .ok e)
    (he : e.scope = scopeReadonly) : ReadOnlyExec pre rest := by
  obtain ⟨raw, hinfer⟩ := inferEffectiveTarget_exec depth allowed htool hargs hverb
  rw [hinfer] at h
  have hinner : NoSentinel (extractAfterDoubleDash (propagateNamespace pre rest)) :=
    (hspell.mono (List.Subset.trans (subset_cons_self _ _) (subset_append_right _ _))).mono
      inner_subset_rest
  split at h
  · next hhelp => exact Or.inl hhelp
  rcases classifyKubectlExec_readonly hinner.unspelled h he with
    hhelp | hblade | ⟨words, e', hw, h', he'⟩
  · exact Or.inl hhelp
  · exact Or.inr (Or.inl hblade)
  · rw [hw] at hinner
    exact Or.inr (Or.inr ⟨words, hw, readonly_sound depth
      (hinner.mono (subset_cons_self _ _)) h' he'⟩)

variable (depth allowed) in
theorem exec_blade_classified {words : List String}
    (hinner : extractAfterDoubleDash (propagateNamespace pre rest) = "blade" :: words) :
    ∃ e, inferEffectiveTarget (depth + 1) toolName toolArgs allowed = .ok e := by
  obtain ⟨raw, hinfer⟩ := inferEffectiveTarget_exec depth allowed htool hargs hverb
  rw [hinfer]
  split
  · exact ⟨_, rfl⟩
  unfold classifyKubectlExec
  simp only [hinner]
  split
  · exact ⟨_, rfl⟩
  split
  · exact ⟨_, rfl⟩
  · rw [if_pos trivial]
    exact ⟨_, rfl⟩

end

/-- Why an `exec` is read-only, and what the planner's gate makes of it. An
`exec` is read-only only if a help token stands among its arguments, its inner
command is a blade command other than `create`, or its inner command is a
kubectl command that is read-only itself. An enforcing gate does not pass a
batch with an `exec` whose inner command is `blade create` without a help
token. -/
theorem exec_readonly_sound {depth : Nat} {toolName : String} {toolArgs : Json}
    {pre rest : List String} (htool : toolName ∈ kubectlTools)
    (hargs : coerceArgsList toolArgs = pre ++ "exec" :: rest)
    (hverb : findSubcommandIndex (pre ++ "exec" :: rest) = some pre.length)
    (hspell : NoSentinel (pre ++ "exec" :: rest)) :
    (∀ allowed e, inferEffectiveTarget (depth + 1) toolName toolArgs allowed = .ok e →
      e.scope = scopeReadonly → ReadOnlyExec pre rest) ∧
    (∀ (settings : Settings) (state : AgentState) (tc : ToolCall) (words : List String),
      settings.phase1ScreenerEnforcing = true → tc ∈ state.pendingCalls →
      tc.name = toolName → phase1Args tc = toolArgs →
      hasHelpFlag (propagateNamespace pre rest) = false →
      extractAfterDoubleDash (propagateNamespace pre rest) = "blade" :: "create" :: words →
      (phase1Screener (depth + 1) settings state).screenerRoute ≠ .pass) := by
  refine ⟨fun allowed e h he => exec_readonly_reason htool hargs hverb hspell h he, ?_⟩
  intro settings state tc words henf htc hname htcargs hhelp hinner hpass
  obtain ⟨e, he⟩ := exec_blade_classified depth settings.skillScriptDefaultAllow htool hargs hverb
    hinner
  have hlegit := phase1_pass_legitimate henf hpass tc htc
  unfold phase1Violation at hlegit
  rw [hname, htcargs, he] at hlegit
  dsimp only at hlegit
  split at hlegit
  · next hro =>
    rcases exec_readonly_reason htool hargs hverb hspell he hro with hh | ⟨ws, hw, hne⟩ | ⟨ws, hw,
        -⟩
    · rw [hhelp] at hh
      cases hh
    · rw [hinner, cons.injEq] at hw
      rw [← hw.2] at hne
      exact hne rfl
    · rw [hinner, cons.injEq] at hw
      exact absurd hw.1 (by decide)
  · cases hlegit

def plannerTurn (argv : List String) : AgentState :=
  { messages := [.ai { toolCalls := [{ name := "kubectl", args := strList argv, id := "c1" }] }] }

/-- Destroying an experiment through `exec` passes as read-only, and so does any
program with a help token. -/
theorem exec_destroy_passes :
    (phase1Screener 1 {} (plannerTurn ["exec", "tool", "-n", "chaosblade", "--", "blade",
      "destroy", "98f7"])).screenerRoute = .pass ∧
    (phase1Screener 1 {} (plannerTurn ["exec", "web", "--", "rm", "-rf", "/data",
      "-h"])).screenerRoute = .pass := by decide

theorem exec_create_held_back :
    (phase1Screener 1 {} (plannerTurn ["exec", "tool", "--", "blade", "create", "k8s", "pod-cpu",
      "fullload"])).screenerRoute ≠ .pass :=
  have hargs : coerceArgsList (strList ["exec", "tool", "--", "blade", "create", "k8s", "pod-cpu",
      "fullload"]) = [] ++ "exec" :: ["tool", "--", "blade", "create", "k8s", "pod-cpu",
      "fullload"] := strList_map_toStr _
  have htool : "kubectl" ∈ kubectlTools := by decide
  (exec_readonly_sound htool hargs (by decide) (by
      unfold NoSentinel SpellsReadonly
      decide)).2 {} _ _ ["k8s", "pod-cpu", "fullload"] rfl mem_cons_self rfl rfl
    (by decide) (by decide)

end ChaosBlade.Nodes
