/-
Nodes.BaselineTextTheorems: the commands of the model, from
the check of a template to the tokens kubectl reads.

The check of a command reads the word behind the first dashes of its
template, kubectl runs a token of what the template has become.
-/
import ChaosBlade.Cli.Pflag
import ChaosBlade.Nodes.BaselineCapture

namespace ChaosBlade.Nodes

open Py Process Option

variable {text : String} {c : BaselineCommand}

/-! ## Reading -/

def dashTail : List Cli.Chunk → Option (List String)
  | [] => none
  | .tail ws :: _ => some ws
  | _ :: cs => dashTail cs

/-- The tokens `kubectl exec` runs in the container: those behind the dashes, or
without dashes all words but the pod. -/
def containerCommand (T : Cli.FlagTable) (args : List String) : List String :=
  ((Cli.read T args).map fun chunks => (dashTail chunks).getD ((Cli.words chunks).drop 1)).getD []

def ReadOnly (T : Cli.FlagTable) (site : CaptureSite) (argv : List String) : Prop :=
  ∃ subcommand args, argv = site.argv (subcommand :: args) ∧
    (subcommand ∈ ["get", "top", "describe"] ∨
      subcommand = "exec" ∧ ∃ w ∈ (containerCommand T args).head?, w ∈ allowedExecCommands)

/-- The word that the check of a text looks at. -/
def wordBehind (text : String) : Option String :=
  (splitOnce "--" text).map fun r => firstWord r.2

/-- The word that is checked in the template is the one that is run: it still stands behind the
dashes of the text, and kubectl reads it there, also in the texts that replace a missing
`iostat`. -/
structure RunsWhatIsChecked (T : Cli.FlagTable) (template : String) (pre : List String)
    (text : String) : Prop where
  kept : ∃ w, wordBehind template = some w ∧ wordBehind text = some w
  run : (containerCommand T (pre ++ Shlex.splitArgs text)).head? = wordBehind text
  fallback : ∀ stderr, ∀ fb ∈ getIostatFallbackChain text stderr,
    (containerCommand T (pre ++ Shlex.splitArgs fb)).head? = wordBehind fb

/-- The first dashes of a text stay the first when what follows them is replaced. -/
theorem splitAt_replaced {sep : List Char} (after' : List Char) :
    ∀ {cs before after : List Char}, splitAt sep cs = some (before, after) → sep ≠ [] →
      splitAt sep (before ++ sep ++ after') = some (before, after')
  | [], _, _, h, _ => by cases h
  | c :: cs, before, after, h, hne => by
    have htext := splitAt_eq h
    rw [splitAt] at h
    split at h
    · cases h
      exact splitAt_append_self hne after'
    · next hpre =>
      obtain ⟨⟨b, a⟩, hba, heq⟩ := map_eq_some_iff.mp h
      cases heq
      have hno : ¬ sep <+: c :: (b ++ sep ++ after') := by
        intro hprefix
        have hlen : sep.length ≤ (c :: b ++ sep).length := by
          rw [List.length_append]
          omega
        have hfront : sep <+: c :: b ++ sep :=
          List.prefix_of_prefix_length_le hprefix ⟨after', by simp⟩ hlen
        apply hpre
        rw [htext, List.isPrefixOf_iff_prefix]
        exact hfront.trans (List.prefix_append _ _)
      rw [List.cons_append, List.cons_append, splitAt, if_neg (by simpa using hno),
        splitAt_replaced after' hba hne]
      rfl

theorem wordBehind_fallback {stderr fb : String} (h : fb ∈ getIostatFallbackChain text stderr) :
    ∃ w ∈ allowedExecCommands, wordBehind fb = some w := by
  unfold getIostatFallbackChain at h
  split at h
  · cases h
  next front after hsplit =>
  simp only [List.mem_map, List.mem_filter] at h
  obtain ⟨cmd, ⟨hmem, -⟩, rfl⟩ := h
  have hcmd : ∀ cmd ∈ (iostatFallbackChain.lookup (strip after)).getD [],
      firstWord (" " ++ cmd) ∈ allowedExecCommands := by
    cases hlookup : iostatFallbackChain.lookup (strip after) with
    | none => simp
    | some fallbacks =>
      have hall : ∀ e ∈ iostatFallbackChain, ∀ cmd ∈ e.2,
          firstWord (" " ++ cmd) ∈ allowedExecCommands := by decide
      obtain ⟨before, behind, heq, -⟩ := List.lookup_eq_some_iff.mp hlookup
      exact hall (strip after, fallbacks) (by simp [heq])
  refine ⟨_, hcmd cmd hmem, ?_⟩
  obtain ⟨⟨b, a⟩, hba, heq⟩ := map_eq_some_iff.mp hsplit
  cases heq
  have htext : (String.ofList b ++ "-- " ++ cmd).toList = b ++ "--".toList ++
      (" " ++ cmd).toList := by
    simp
  rw [wordBehind, splitOnce, htext, splitAt_replaced _ hba (by decide)]
  simp

/-! ## Validation -/

structure Accepted (c : BaselineCommand) : Prop where
  subcommand : c.subcommand ∈ ["get", "top", "describe", "exec"]
  exec : c.subcommand = "exec" → ∀ s front back, c.vArgsTemplate = .str s →
    splitOnce "--" s = some (front, back) → firstWord back ∈ allowedExecCommands

theorem checkExec_ok {s front back : String} (h : checkExec (.str s) = .ok true)
    (hsplit : splitOnce "--" s = some (front, back)) : firstWord back ∈ allowedExecCommands := by
  have hsub : hasSub "--" s = true := by
    unfold hasSub
    rw [hasSubList_iff, splitOnce_eq hsplit]
    exact ⟨front.toList, back.toList, by simp⟩
  simpa [checkExec, Json.contains, hsub, hsplit, bind, Except.bind] using h

theorem validateFields_ok {fs : List (String × Json)} {subcommand : String}
    (h : validateFields fs subcommand = .ok (some c)) : c.subcommand = subcommand ∧
      (subcommand = "exec" → checkExec c.vArgsTemplate = .ok true) := by
  obtain ⟨passes, hpasses, h⟩ := bind_eq_ok.mp h
  cases passes with
  | false => cases h
  | true =>
    obtain ⟨inDebugPod, -, h⟩ := bind_eq_ok.mp h
    cases h
    exact ⟨rfl, fun hexec => by simpa [passesCheck, hexec] using hpasses⟩

theorem validateCommand_ok {cmd : Json} (h : validateCommand cmd = .ok (some c)) :
    c.subcommand ∈ baselineSubcommands ∧
      (c.subcommand = "exec" → checkExec c.vArgsTemplate = .ok true) := by
  unfold validateCommand at h
  split at h
  · split at h
    · split at h
      · next hmem =>
        obtain ⟨hsub, hexec⟩ := validateFields_ok h
        rw [hsub]
        exact ⟨by simpa using hmem, hexec⟩
      · cases h
    · cases h
    · cases h
    · cases h
  · cases h

theorem strip_space (text : String) : strip (" " ++ text) = strip text := by
  have hspace : (" " ++ text).toList = ' ' :: text.toList := by simp
  unfold strip
  rw [hspace, List.dropWhile_cons_of_pos (by decide)]

theorem convertDebug_ok {cmd : BaselineCommand} (h : convertDebug cmd = .ok (some c)) :
    Accepted c := by
  unfold convertDebug at h
  obtain ⟨hasDashes, -, h⟩ := bind_eq_ok.mp h
  cases hasDashes with
  | false => cases h
  | true =>
    simp only [if_true] at h
    split at h
    · next s hs =>
      obtain ⟨after, hafter, rfl⟩ := map_eq_some_iff.mp (Except.ok.inj h)
      obtain ⟨-, hallowed⟩ := filter_eq_some_iff.mp hafter
      refine ⟨by simp, fun _ t front back ht hsplit => ?_⟩
      -- the dashes that were written in are the first ones
      have htext : t.toList = (debugPodVar ++ " -n " ++ Tools.toolPodNamespace ++ " ").toList ++
          '-' :: '-' :: (" " ++ strip after).toList := by
        rw [← Json.str.inj ht]
        simp
      have hno : ¬ ['-', '-'] <:+: (debugPodVar ++ " -n " ++ Tools.toolPodNamespace ++ " ").toList := by
        rw [← hasSubList_iff]
        decide
      have hat := splitAt_dashes (" " ++ strip after).toList hno (by decide)
      have hback : back = " " ++ strip after := by
        have hsome : splitOnce "--" t = some (debugPodVar ++ " -n " ++ Tools.toolPodNamespace ++ " ",
            " " ++ strip after) := by
          unfold splitOnce
          rw [htext, show "--".toList = ['-', '-'] from rfl, hat, map_some,
            String.ofList_toList, String.ofList_toList]
        rw [hsome] at hsplit
        exact (congrArg Prod.snd (some.inj hsplit)).symm
      rw [hback, firstWord, strip_space, strip_strip]
      simpa [firstWord] using hallowed
    · cases h

theorem convertCommand_ok {b : Bool} {cmd : BaselineCommand}
    (hcmd : cmd.subcommand ∈ baselineSubcommands)
    (hexec : cmd.subcommand = "exec" → checkExec cmd.vArgsTemplate = .ok true)
    (h : convertCommand b cmd = .ok (some c)) : Accepted c := by
  unfold convertCommand at h
  split at h
  · next hdebug =>
    split at h
    · cases h
    · exact convertDebug_ok h
  · next hdebug =>
    cases h
    refine ⟨?_, fun hsub s front back hs hsplit => ?_⟩
    · simp only [baselineSubcommands, List.mem_cons, List.not_mem_nil, or_false] at hcmd
      rcases hcmd with hc | hc | hc | hc | hc
      · simp [hc]
      · simp [hc]
      · simp [hc]
      · simp [hc]
      · exact absurd hc hdebug
    · exact checkExec_ok (hs ▸ hexec hsub) hsplit

theorem mem_of_mapM {ε α β : Type} {f : α → Except ε (Option β)} {xs : List α}
    {ys : List (Option β)} (h : xs.mapM f = .ok ys) {y : β} (hy : y ∈ ys.filterMap id) :
    ∃ x ∈ xs, f x = .ok (some y) := by
  have hforall := mapM_eq_ok.mp h
  have hsome : some y ∈ ys := by simpa using hy
  clear h hy
  induction hforall with
  | nil => cases hsome
  | cons hx _ ih =>
    rcases List.mem_cons.mp hsome with rfl | hmem
    · exact ⟨_, List.mem_cons_self, hx⟩
    · obtain ⟨x, hmem, hfx⟩ := ih hmem
      exact ⟨x, List.mem_cons_of_mem _ hmem, hfx⟩

theorem accepted_of_mem {answer : List Json} (h : c ∈ llmCommands answer) :
    Accepted c := by
  unfold llmCommands at h
  cases hv : validateAndFilterCommands answer with
  | error e => simp [hv, Except.toOption] at h
  | ok cs =>
    have hmem : c ∈ cs := by simpa [hv, Except.toOption] using h
    obtain ⟨first, hfirst, hv⟩ := bind_eq_ok.mp hv
    obtain ⟨second, hsecond, hv⟩ := bind_eq_ok.mp hv
    cases hv
    obtain ⟨cmd, hcmd, hconvert⟩ := mem_of_mapM hsecond hmem
    obtain ⟨json, -, hjson⟩ := mem_of_mapM hfirst hcmd
    obtain ⟨hsub, hexec⟩ := validateCommand_ok hjson
    exact convertCommand_ok hsub hexec hconvert

end ChaosBlade.Nodes
