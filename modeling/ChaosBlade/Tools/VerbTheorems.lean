/-
Tools.VerbTheorems: the verb of a kubectl command, as the
classifier and the tool guard find it.

Both skip the flags in front of the verb, with tables of their own and with
different rules for the token behind a flag.
-/
import ChaosBlade.TargetGuard.Classifier
import ChaosBlade.Tools.GuardTheorems

namespace ChaosBlade.Tools

open Py TargetGuard List Option

def wordAt : List Piece → Option Nat
  | [] => none
  | .word _ :: _ => some 0
  | piece :: ps => (wordAt ps).map (· + piece.tokens.length)

def guardVerbAt (args : List String) : Option Nat := wordAt (kubectlSchema.pieces none args)

def isGuardFlag (a : String) : Bool := startsWith a "-" && a ≠ "-" && a ≠ "--"

def standsAlone (a : String) : Bool := hasChar '=' a || kubectlSchema.booleanFlags.contains a

def onlyFlags : List String → Bool
  | [] => true
  | [a] => isGuardFlag a && standsAlone a
  | a :: b :: rest => isGuardFlag a &&
      if standsAlone a || startsWith b "-" then onlyFlags (b :: rest) else onlyFlags rest

section

variable {a : String}

theorem pieces_word (h : isGuardFlag a = false) (rest : List String) :
    kubectlSchema.pieces none (a :: rest) = .word a :: kubectlSchema.pieces (some a) rest := by
  rw [GuardSchema.pieces]
  split
  · rfl
  · next hdash =>
    have hne : a ≠ "--" := fun heq => hdash ⟨heq, by decide⟩
    have hflag : (startsWith a "-" && a ≠ "-") = false := by simpa [isGuardFlag, hne] using h
    rw [hflag]
    rfl

theorem pieces_flag (h : isGuardFlag a = true) (rest : List String) :
    kubectlSchema.pieces none (a :: rest) = match (splitFlagEq a).2 with
      | some value => .joined (splitFlagEq a).1 value :: kubectlSchema.pieces none rest
      | none =>
        if kubectlSchema.booleanFlags.contains (splitFlagEq a).1 then
          .flag (splitFlagEq a).1 :: kubectlSchema.pieces none rest
        else match rest with
          | [] => [.flag (splitFlagEq a).1]
          | value :: more =>
            if startsWith value "-" then
              .flag (splitFlagEq a).1 :: kubectlSchema.pieces none (value :: more)
            else .valued (splitFlagEq a).1 value :: kubectlSchema.pieces none more := by
  obtain ⟨hflag, hne⟩ : (startsWith a "-" && a ≠ "-") = true ∧ a ≠ "--" := by
    simpa [isGuardFlag] using h
  rewrite [GuardSchema.pieces, if_neg fun hdash => hne hdash.1, if_pos hflag]
  rfl

theorem wordAt_alone (h : isGuardFlag a = true) (hone : standsAlone a = true) (rest : List String) :
    guardVerbAt (a :: rest) = (guardVerbAt rest).map (· + 1) := by
  unfold guardVerbAt
  rw [pieces_flag h]
  cases heq : hasChar '=' a with
  | true => simp [splitFlagEq, heq, wordAt, Piece.tokens]
  | false =>
    have hbool : kubectlSchema.booleanFlags.contains a = true :=
        by simpa [standsAlone, heq] using hone
    simp only [splitFlagEq, heq, Bool.false_eq_true, if_false, hbool]
    rfl

theorem wordAt_behind (h : isGuardFlag a = true) (hone : standsAlone a = false) (b : String)
    (rest : List String) : guardVerbAt (a :: b :: rest) =
      if startsWith b "-" then (guardVerbAt (b :: rest)).map (· + 1)
      else (guardVerbAt rest).map (· + 2) := by
  obtain ⟨heq, hbool⟩ : hasChar '=' a = false ∧ kubectlSchema.booleanFlags.contains a = false := by
    simpa [standsAlone] using hone
  unfold guardVerbAt
  rw [pieces_flag h]
  simp only [splitFlagEq, heq, Bool.false_eq_true, if_false, hbool]
  split <;> rfl

end

theorem guardVerbAt_iff {verb : String} (hverb : startsWith verb "-" = false)
    (front rest : List String) :
    guardVerbAt (front ++ verb :: rest) = some front.length ↔ onlyFlags front = true := by
  have hword : isGuardFlag verb = false := by simp [isGuardFlag, hverb]
  have hzero : ∀ {a : String} {more : List String}, isGuardFlag a = false →
      guardVerbAt (a :: more) = some 0 := by
    intro a more ha
    rw [guardVerbAt, pieces_word ha, wordAt]
  fun_induction onlyFlags front with
  | case1 => simp [hzero hword]
  | case2 a =>
    cases ha : isGuardFlag a with
    | false => simp [hzero ha]
    | true =>
      cases hone : standsAlone a with
      | true => simp [wordAt_alone ha hone, hzero hword]
      | false =>
        have hlate : guardVerbAt (a :: verb :: rest) = (guardVerbAt rest).map (· + 2) := by
          simp [wordAt_behind ha hone, hverb]
        simp only [cons_append, nil_append, hlate]
        cases guardVerbAt rest <;> simp
  | case3 a b more ihFlag ihValue =>
    cases ha : isGuardFlag a with
    | false => simp [hzero ha]
    | true =>
      cases hone : standsAlone a with
      | true =>
        rw [cons_append, wordAt_alone ha hone]
        simpa using ihFlag
      | false =>
        rw [cons_append, cons_append, wordAt_behind ha hone]
        cases hb : startsWith b "-" with
        | true => simpa using ihFlag
        | false => simpa using ihValue

theorem findSubcommandIndex_split {args : List String} {i : Nat}
    (h : findSubcommandIndex args = some i) :
    ∃ front verb rest, args = front ++ verb :: rest ∧ front.length = i ∧
        startsWith verb "-" = false := by
  fun_induction findSubcommandIndex args generalizing i with
  | case1 => cases h
  | case2 a rest hverb =>
    cases h
    exact ⟨[], a, rest, rfl, rfl, by simpa using hverb⟩
  | case3 a rest hflag hone ih =>
    obtain ⟨j, hj, rfl⟩ := map_eq_some_iff.mp h
    obtain ⟨front, verb, more, rfl, rfl, hverb⟩ := ih hj
    exact ⟨a :: front, verb, more, rfl, rfl, hverb⟩
  | case4 a hflag hone => cases h
  | case5 a hflag hone b rest ih =>
    obtain ⟨j, hj, rfl⟩ := map_eq_some_iff.mp h
    obtain ⟨front, verb, more, rfl, rfl, hverb⟩ := ih hj
    exact ⟨a :: b :: front, verb, more, rfl, rfl, hverb⟩

/-! ## The parsed subcommand -/

theorem subcommand_foldl (schema : GuardSchema) (ps : List Piece) (p : ParsedCommand) :
    (ps.foldl (Piece.addTo schema) p).subcommand =
        p.subcommand.or (ps.flatMap Piece.words).head? := by
  induction ps generalizing p with
  | nil => simp
  | cons piece ps ih =>
    rw [foldl_cons, ih]
    cases piece with
    | word token => simp [Piece.addTo, Piece.words, (addWord_keeps p token).1]
    | flag name => rfl
    | valued name value | joined name value =>
      simp [Piece.addTo, Piece.words, (addValue_keeps ..).1]

theorem head_words_of_wordAt {ps : List Piece} {i : Nat} (h : wordAt ps = some i)
    (tail : List String) :
    (ps.flatMap Piece.words).head? = (ps.flatMap Piece.tokens ++ tail)[i]? := by
  fun_induction wordAt ps generalizing i with
  | case1 => cases h
  | case2 token ps =>
    cases h
    rfl
  | case3 piece ps hpiece ih =>
    obtain ⟨j, hj, rfl⟩ := map_eq_some_iff.mp h
    have hwords : piece.words = [] := by
      cases piece with
      | word token => exact absurd rfl (hpiece token)
      | flag name => rfl
      | valued name value => rfl
      | joined name value => rfl
    rw [flatMap_cons, flatMap_cons, hwords, append_assoc,
      List.getElem?_append_right (by omega), Nat.add_sub_cancel]
    exact ih hj

theorem subcommand_of_guardVerbAt {args : List String} {i : Nat} (h : guardVerbAt args = some i) :
    (parseCommand ("kubectl" :: args)).subcommand = args[i]? := by
  have hparse : parseCommand ("kubectl" :: args) =
      kubectlSchema.parse { binary := "kubectl" } args := by
    have hname : pathName "kubectl" = "kubectl" := by decide
    simp [parseCommand, hname]
  obtain ⟨rest, tail, hspec, hcover, -⟩ := parse_spec kubectlSchema { binary := "kubectl" } args
  rw [hparse, hspec, ParsedCommand.handOn, subcommand_foldl, none_or, head_words_of_wordAt h tail,
    ← hcover]

/-- The classifier's verb is the token that the guard takes for the subcommand exactly if the
guard reads only flags and their values in front of it. -/
theorem sameVerb_iff (args : List String) (i : Nat) (h : findSubcommandIndex args = some i) :
    (guardVerbAt args = some i ∧ (parseCommand ("kubectl" :: args)).subcommand = args[i]?) ↔
      onlyFlags (args.take i) = true := by
  obtain ⟨front, verb, rest, rfl, rfl, hverb⟩ := findSubcommandIndex_split h
  rw [take_left, ← guardVerbAt_iff hverb front rest]
  exact ⟨And.left, fun hsame => ⟨hsame, subcommand_of_guardVerbAt hsame⟩⟩

theorem sameVerb_get : findSubcommandIndex ["--context", "prod", "-A", "get", "pods"] = some 3 ∧
    (parseCommand ["kubectl", "--context", "prod", "-A", "get", "pods"]).subcommand = some "get" :=
  ⟨by decide, ((sameVerb_iff ["--context", "prod", "-A", "get", "pods"] 3
    (by decide)).mpr (by decide)).2⟩

/-- `--dry-run` takes a value for the classifier only: it screens a `get`, and the guard passes a
`delete`. -/
theorem dryRun_delete :
    findSubcommandIndex ["--dry-run", "delete", "get", "pods"] = some 2 ∧
    ((classifyKubectl 1 ["--dry-run", "delete", "get", "pods"] "" none).map (·.scope)
      = .ok scopeReadonly) ∧
    (parseCommand ["kubectl", "--dry-run", "delete", "get", "pods"]).subcommand = some "delete" ∧
    guardCheck ["kubectl", "--dry-run", "delete", "get", "pods"] = (true, "OK") := by
  decide

end ChaosBlade.Tools
