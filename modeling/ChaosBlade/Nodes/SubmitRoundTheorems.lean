/-
Nodes.SubmitRoundTheorems: whether a verdict is made from the
arguments submitted in the latest round.

A round begins with a prompt of the node that makes the verdict.
-/
import ChaosBlade.Log.Entries
import ChaosBlade.Nodes.VerifierParse

namespace ChaosBlade.Nodes

open Py Agent

inductive VerdictNode where
  | inject
  | recover

def VerdictNode.submitted : VerdictNode → Message → Option Json
  | .inject => submittedVerification
  | .recover => submittedArgs

def VerdictNode.extract : VerdictNode → List Message → Option Json
  | .inject => extractSubmitArgs
  | .recover => extractRecoverSubmitArgs

def VerdictNode.marked : VerdictNode → Message → Bool
  | .inject => startsReverify
  | .recover => startsRound

inductive VerdictNode.Prompt : VerdictNode → Message → Prop
  | reverify (gaps : List String) : Prompt .inject (.human (reverifyText gaps))
  | guard : Prompt .recover (.human guardText)
  | retryExecuted (output : String) : Prompt .recover (.human (retryExecutedText output))
  | retryRequired : Prompt .recover (.human retryRequiredText)

theorem hasSub_append_left {p s : String} (h : hasSub p s = true) (t : String) :
    hasSub p (s ++ t) = true := by
  rw [hasSub, hasSubList_iff] at *
  rw [String.toList_append]
  exact h.trans (List.prefix_append _ _).isInfix

variable {node : VerdictNode}

theorem marked_foldl {s : String} (h : node.marked (.human s) = true)
    (ts : List String) : node.marked (.human (ts.foldl (· ++ ·) s)) = true := by
  induction ts generalizing s with
  | nil => exact h
  | cons t ts ih =>
    refine ih ?_
    cases node <;> exact Bool.or_eq_true_iff.mpr
      ((Bool.or_eq_true_iff.mp h).imp (hasSub_append_left · t) (hasSub_append_left · t))

-- each prompt has its phrase in front, so only that much of it is evaluated
theorem VerdictNode.Prompt.marked {p : Message} (h : node.Prompt p) : node.marked p = true := by
  have hretry : VerdictNode.recover.marked (.human ("**" ++ retryMarker)) = true :=
      by decide
  cases h with
  | reverify gaps =>
    exact marked_foldl (s := "Verification gaps detected:\n") (by decide) [_, _, _]
  | guard => exact marked_foldl (s := "⚠️ " ++ guardMarker) (by decide) [_, _, _, _, _, _]
  | retryExecuted output => exact marked_foldl hretry [_, _, _, _, _, _]
  | retryRequired => exact marked_foldl hretry [_, _, _, _]

theorem extract_eq_inLast (node : VerdictNode) (messages : List Message) :
    node.extract messages = Log.inLast node.marked node.submitted messages := by
  cases node with
  | inject => rfl
  | recover =>
    have hround : extractRecoverSubmitArgs messages =
        (messages.reverse.takeWhile fun m => !startsRound m).findSome? submittedArgs := by
      rw [extractRecoverSubmitArgs, lastRound, List.reverse_reverse]
    exact hround

theorem submitted_eq_none_of_marked {m : Message} (h : node.marked m = true) :
    node.submitted m = none := by
  cases m with
  | human content => cases node <;> rfl
  | _ => cases node <;> simp [VerdictNode.marked, startsReverify, startsRound, hasPhrase] at h

/-- The arguments used are from the round after the last prompt, and the latest submitted in
it are used. -/
structure FromLatestRound (node : VerdictNode) (after : List Message)
    (used : Option Json) : Prop where
  fresh : ∀ args, used = some args → ∃ m ∈ after, node.submitted m = some args
  latest : ∀ args, Log.latest node.submitted after = some args → used = some args

def SubmitsAgain (node : VerdictNode) (after : List Message) : Prop :=
  ∀ earlier m later, after = earlier ++ m :: later → node.marked m = true →
    (∃ x ∈ earlier, (node.submitted x).isSome = true) → ∃ x ∈ later,
        (node.submitted x).isSome = true

/-- A verdict is made from the latest round exactly if nothing in the round hides what was
submitted. -/
theorem fromLatestRound_iff (node : VerdictNode) (before after : List Message) (prompt : Message)
    (hprompt : node.Prompt prompt) :
    FromLatestRound node after (node.extract (before ++ prompt :: after)) ↔
        SubmitsAgain node after := by
  rw [extract_eq_inLast, Log.inLast_append_cons hprompt.marked]
  have hagain : SubmitsAgain node after ↔
      Log.inLast node.marked node.submitted after = Log.latest node.submitted after := by
    rw [Log.inLast_eq_latest_iff]
    refine forall_congr' fun earlier => forall_congr' fun m => forall_congr' fun later =>
      forall_congr' fun _ => forall_congr' fun hm => ?_
    simp [submitted_eq_none_of_marked hm]
  rw [hagain]
  constructor
  · intro h
    cases hlatest : Log.latest node.submitted after with
    | some args => exact h.latest args hlatest
    | none =>
      cases hused : Log.inLast node.marked node.submitted after with
      | none => rfl
      | some args =>
        obtain ⟨m, hm, hargs⟩ := h.fresh args hused
        have hsome : ∃ m ∈ after, (node.submitted m).isSome = true := ⟨m, hm, by rw [hargs]; rfl⟩
        rw [← Log.isSome_latest, hlatest] at hsome
        cases hsome
  · intro h
    exact ⟨fun args hused => Log.inLast_eq_some hused, fun args hlatest => h.trans hlatest⟩

def submitTurn (tool : String) (overall : String) : Message :=
  .ai { toolCalls := [⟨tool, .obj [("overall", .str overall)], "a"⟩] }

def askedRound : List Message :=
  [submitTurn "submit_verification" "partial", .human "why partial?"]

def requestedRound : List Message :=
  [submitTurn "submit_verification" "partial", .human "schedule a re-verification for tomorrow"]

theorem askedRound_used : VerdictNode.inject.Prompt (.human (reverifyText ["- baseline"])) ∧
    FromLatestRound .inject askedRound (VerdictNode.inject.extract
      ([submitTurn "submit_verification" "verified"] ++
          .human (reverifyText ["- baseline"]) :: askedRound)) := by
  refine ⟨.reverify _, (fromLatestRound_iff _ _ _ _ (.reverify _)).mpr ?_⟩
  have hmarked : askedRound.map VerdictNode.inject.marked = [false, false] := by decide
  intro earlier m later hsplit hm
  have hmem : m ∈ askedRound := by simp [hsplit]
  have := List.mem_map_of_mem (f := VerdictNode.inject.marked) hmem
  simp [hmarked, hm] at this

/-- A request that has the phrase in it hides the verdict. -/
theorem requestedRound_hidden : VerdictNode.inject.Prompt (.human (reverifyText ["- baseline"])) ∧
    VerdictNode.inject.extract (.human (reverifyText ["- baseline"]) :: requestedRound) = none ∧
    ¬ FromLatestRound .inject requestedRound
      (VerdictNode.inject.extract (.human (reverifyText ["- baseline"]) :: requestedRound)) := by
  have hnone : VerdictNode.inject.extract (.human (reverifyText ["- baseline"]) :: requestedRound) =
      none := by
    decide
  have hlatest : Log.latest VerdictNode.inject.submitted requestedRound =
      some (.obj [("overall", .str "partial")]) := by decide
  refine ⟨.reverify _, hnone, fun h => ?_⟩
  rw [hnone] at h
  cases h.latest _ hlatest

end ChaosBlade.Nodes
