/-
Tools.GuardTheorems: which tokens of a command line the guard
looks at.

A command line is cut into pieces as the parser reads it (`pieces`), and
the parsed command is put together from them.
-/
import ChaosBlade.Py.RegexTheorems
import ChaosBlade.Tools.Guard

namespace ChaosBlade.Tools

open Py List ParsedCommand GuardSchema

/-! ## Pieces -/

inductive Piece where
  | word (token : String)
  | flag (name : String)
  /-- `--name value` -/
  | valued (name value : String)
  /-- `--name=value` -/
  | joined (name value : String)

def Piece.tokens : Piece → List String
  | .word token => [token]
  | .flag name => [name]
  | .valued name value => [name, value]
  | .joined name value => [name ++ "=" ++ value]

def Piece.words : Piece → List String
  | .word token => [token]
  | _ => []

def GuardSchema.pieces (schema : GuardSchema) : Option String → List String → List Piece
  | _, [] => []
  | sub, token :: rest =>
    if token = "--" ∧ schema.doubleDash ≠ [] then
      if sub.any schema.doubleDash.contains then []
      else .word token :: schema.pieces (sub.or (some token)) rest
    else if startsWith token "-" && token ≠ "-" then
      let (name, eqVal) := splitFlagEq token
      match eqVal with
      | some value => .joined name value :: schema.pieces sub rest
      | none =>
        if schema.booleanFlags.contains name then .flag name :: schema.pieces sub rest
        else match rest with
          | [] => [.flag name]
          | value :: more =>
            if startsWith value "-" then .flag name :: schema.pieces sub (value :: more)
            else .valued name value :: schema.pieces sub more
    else .word token :: schema.pieces (sub.or (some token)) rest

theorem eq_of_splitFlagEq_some {token name value : String}
    (h : splitFlagEq token = (name, some value)) :
    token = name ++ "=" ++ value := by
  unfold splitFlagEq at h
  split at h
  · next hmem =>
    obtain ⟨rfl, hvalue⟩ := Prod.mk.inj h
    cases hvalue
    refine String.toList_inj.mp ?_
    rw [toList_eq_cut hmem, String.toList_append, String.toList_append]
    simp
  · cases h

theorem eq_of_splitFlagEq_none {token name : String} (h : splitFlagEq token = (name, none)) :
    token = name := by
  unfold splitFlagEq at h
  split at h
  · cases h
  · exact (Prod.mk.inj h).1

def Piece.addTo (schema : GuardSchema) (p : ParsedCommand) : Piece → ParsedCommand
  | .word token => p.addWord token
  | .flag name => p.addFlag name none
  | .valued name value => p.addValue schema.payloadFlags name value
  | .joined name value => p.addValue schema.payloadFlags name value

theorem addWord_keeps (p : ParsedCommand) (token : String) :
    (p.addWord token).subcommand = p.subcommand.or (some token) ∧
      (p.addWord token).containerCommand = p.containerCommand := by
  unfold addWord
  cases p.subcommand <;> simp

theorem addValue_keeps (p : ParsedCommand) (payloadFlags : List String) (name value : String) :
    (p.addValue payloadFlags name value).subcommand = p.subcommand ∧
      (p.addValue payloadFlags name value).containerCommand = p.containerCommand := by
  unfold addValue addFlag
  split <;> exact ⟨rfl, rfl⟩

def ParsedCommand.handOn (p : ParsedCommand) (rest : List String) : ParsedCommand :=
  { p with containerCommand := rest }

/-- How a command line ends behind its pieces: at its end, or at a `--` behind one of the
schema's subcommands, which hands on the rest. -/
def GuardSchema.Ends (schema : GuardSchema) (sub : Option String) (ps : List Piece)
    (before tail rest : List String) : Prop :=
  tail = [] ∧ rest = before ∨ tail = "--" :: rest ∧
    ∃ name ∈ schema.doubleDash, sub.or (ps.flatMap Piece.words).head? = some name

attribute [local simp] Piece.words

theorem parse_spec (schema : GuardSchema) (p : ParsedCommand) (args : List String) :
    ∃ rest tail, schema.parse p args =
        ((schema.pieces p.subcommand args).foldl (Piece.addTo schema) p).handOn rest ∧
      args = (schema.pieces p.subcommand args).flatMap Piece.tokens ++ tail ∧
      schema.Ends p.subcommand (schema.pieces p.subcommand args) p.containerCommand tail rest := by
  fun_induction parse schema p args with
  | case1 p => exact ⟨p.containerCommand, [], rfl, rfl, .inl ⟨rfl, rfl⟩⟩
  | case2 p token rest hdash hsub =>
    obtain ⟨name, hname, hmem⟩ := (Option.any_eq_true ..).mp hsub
    rw [pieces, if_pos hdash, if_pos hsub, hdash.1]
    exact ⟨rest, "--" :: rest, rfl, rfl, .inr ⟨rfl, name, by simpa using hmem, by simp [hname]⟩⟩
  | case3 p token rest hdash hsub ih =>
    rw [pieces, if_pos hdash, if_neg hsub]
    rw [(addWord_keeps p token).1, (addWord_keeps p token).2] at ih
    obtain ⟨more, tail, hparse, hcover, hends⟩ := ih
    refine ⟨more, tail, hparse, congrArg (token :: ·) hcover, hends.imp_right ?_⟩
    simp
  | case4 p token rest hdash hflag name value hsplit ih =>
    rw [pieces, if_neg hdash, if_pos hflag, hsplit]
    rw [(addValue_keeps ..).1, (addValue_keeps ..).2] at ih
    obtain ⟨more, tail, hparse, hcover, hends⟩ := ih
    refine ⟨more, tail, hparse, ?_, hends⟩
    rw [eq_of_splitFlagEq_some hsplit]
    exact congrArg ((name ++ "=" ++ value) :: ·) hcover
  | case5 p token rest hdash hflag name hbool hsplit ih =>
    rw [pieces, if_neg hdash, if_pos hflag, hsplit]
    dsimp only
    rw [if_pos hbool]
    obtain rfl := eq_of_splitFlagEq_none hsplit
    obtain ⟨more, tail, hparse, hcover, hends⟩ := ih
    exact ⟨more, tail, hparse, congrArg (token :: ·) hcover, hends⟩
  | case6 p token hdash hflag name hbool hsplit =>
    rw [pieces, if_neg hdash, if_pos hflag, hsplit]
    dsimp only
    rw [if_neg hbool]
    obtain rfl := eq_of_splitFlagEq_none hsplit
    exact ⟨p.containerCommand, [], rfl, rfl, .inl ⟨rfl, rfl⟩⟩
  | case7 p token hdash hflag name hbool value more hvalue hsplit ih =>
    rw [pieces, if_neg hdash, if_pos hflag, hsplit]
    dsimp only
    rw [if_neg hbool, if_pos hvalue]
    obtain rfl := eq_of_splitFlagEq_none hsplit
    obtain ⟨rest, tail, hparse, hcover, hends⟩ := ih
    exact ⟨rest, tail, hparse, congrArg (token :: ·) hcover, hends⟩
  | case8 p token hdash hflag name hbool value more hvalue hsplit ih =>
    rw [pieces, if_neg hdash, if_pos hflag, hsplit]
    dsimp only
    rw [if_neg hbool, if_neg hvalue]
    rw [(addValue_keeps ..).1, (addValue_keeps ..).2] at ih
    obtain rfl := eq_of_splitFlagEq_none hsplit
    obtain ⟨rest, tail, hparse, hcover, hends⟩ := ih
    exact ⟨rest, tail, hparse, congrArg (token :: value :: ·) hcover, hends⟩
  | case9 p token rest hdash hflag ih =>
    rw [pieces, if_neg hdash, if_neg hflag]
    rw [(addWord_keeps p token).1, (addWord_keeps p token).2] at ih
    obtain ⟨more, tail, hparse, hcover, hends⟩ := ih
    refine ⟨more, tail, hparse, congrArg (token :: ·) hcover, hends.imp_right ?_⟩
    simp

def Piece.flags : Piece → List (String × Option String)
  | .word _ => []
  | .flag name => [(name, none)]
  | .valued name value | .joined name value => [(name, some value)]

def Piece.payloads (schema : GuardSchema) : Piece → List String
  | .word _ | .flag _ => []
  | .valued name value | .joined name value =>
      if schema.payloadFlags.contains name then [value] else []

def ParsedCommand.words (p : ParsedCommand) : List String := p.subcommand.toList ++ p.positionalArgs

structure Collects (schema : GuardSchema) (p r : ParsedCommand) (ps : List Piece) : Prop where
  binary : r.binary = p.binary
  words : r.words = p.words ++ ps.flatMap Piece.words
  flags : r.flags = p.flags ++ ps.flatMap Piece.flags
  data : r.dataPayloadValues = p.dataPayloadValues ++ ps.flatMap (Piece.payloads schema)

def ParsedCommand.Ordered (p : ParsedCommand) : Prop := p.subcommand = none → p.positionalArgs = []

variable {p : ParsedCommand}

attribute [local simp] Piece.flags Piece.payloads ParsedCommand.addFlag

theorem collects_value (schema : GuardSchema) {name value : String} {piece : Piece}
    (hpiece : piece = .valued name value ∨ piece = .joined name value) (h : p.Ordered) :
    (p.addValue schema.payloadFlags name value).Ordered ∧
      Collects schema p (p.addValue schema.payloadFlags name value) [piece] := by
  unfold addValue addFlag
  cases hdata : schema.payloadFlags.contains name
  all_goals
    refine ⟨h, ⟨rfl, ?_, ?_, ?_⟩⟩ <;> rcases hpiece with rfl | rfl <;>
      simp_all [words]

theorem collects_piece (schema : GuardSchema) (h : p.Ordered) (piece : Piece) :
    (piece.addTo schema p).Ordered ∧ Collects schema p (piece.addTo schema p) [piece] := by
  cases piece with
  | word token =>
    cases hsub : p.subcommand with
    | none =>
      simp only [Piece.addTo, addWord, hsub]
      exact ⟨fun hnone => by simp at hnone, rfl, by simp [words, hsub, h hsub], by simp, by simp⟩
    | some sub =>
      simp only [Piece.addTo, addWord, hsub]
      exact ⟨fun hnone => by simp at hnone, rfl, by simp [words, hsub], by simp, by simp⟩
  | flag name =>
    exact ⟨h, rfl, by simp [Piece.addTo, words], by simp [Piece.addTo], by simp [Piece.addTo]⟩
  | valued name value => exact collects_value schema (.inl rfl) h
  | joined name value => exact collects_value schema (.inr rfl) h

theorem collects_foldl (schema : GuardSchema) (ps : List Piece) (h : p.Ordered) :
    Collects schema p (ps.foldl (Piece.addTo schema) p) ps := by
  induction ps generalizing p with
  | nil => exact ⟨rfl, by simp, by simp, by simp⟩
  | cons piece ps ih =>
    obtain ⟨hordered, hpiece⟩ := collects_piece schema h piece
    have hrest := ih hordered
    refine ⟨hrest.binary.trans hpiece.binary, ?_, ?_, ?_⟩
    · simp [hrest.words, hpiece.words]
    · simp [hrest.flags, hpiece.flags]
    · simp [hrest.data, hpiece.data]

def schemaOf (program : String) : Option GuardSchema :=
  match pathName program with
  | "kubectl" => some kubectlSchema
  | "blade" => some bladeSchema
  | _ => none

theorem safe_of_host (h : ∀ t ∈ p.hostRelevantTokens, isDangerous t = false) :
    (∀ t ∈ p.words, isDangerous t = false) ∧ ∀ f ∈ p.flags, isDangerous f.1 = false ∧
      ∀ v ∈ f.2, v ∉ p.dataPayloadValues → isDangerous v = false := by
  have hflag : ∀ f ∈ p.flags,
      ∀ t ∈ f.1 :: (f.2.filter fun v => !p.dataPayloadValues.contains v).toList,
      isDangerous t = false := by
    intro f hf t ht
    exact h t (mem_append_right _ (List.mem_flatMap.mpr ⟨f, hf, ht⟩))
  constructor
  · intro t ht
    rcases mem_append.mp ht with hsub | hpos
    · by_cases hempty : t = ""
      · rw [hempty]
        decide
      · refine h t (mem_append_left _ (mem_append_left _ (mem_cons_of_mem _ ?_)))
        simpa [hempty] using hsub
    · exact h t (mem_append_left _ (mem_append_right _ hpos))
  · intro f hf
    refine ⟨hflag f hf f.1 mem_cons_self, fun v hv hdata => ?_⟩
    refine hflag f hf v (mem_cons_of_mem _ ?_)
    simpa [hdata] using hv

def payloadValues (schema : GuardSchema) (args : List String) : List String :=
  (schema.pieces none args).flatMap (Piece.payloads schema)

section

variable {schema : GuardSchema} {program : String} (args : List String)

structure Parses (schema : GuardSchema) (program : String) (args tail : List String) : Prop where
  collects : Collects schema { binary := pathName program } (parseCommand (program :: args))
    (schema.pieces none args)
  cover : args = (schema.pieces none args).flatMap Piece.tokens ++ tail
  ends : schema.Ends none (schema.pieces none args) [] tail (parseCommand (program ::
      args)).containerCommand

theorem parseCommand_spec (h : schemaOf program = some schema) :
    ∃ tail, Parses schema program args tail := by
  have hschema : parseCommand (program :: args) =
      schema.parse { binary := pathName program } args := by
    unfold schemaOf at h
    split at h
    · next hname =>
      cases h
      simp [parseCommand, hname]
    · next hname =>
      cases h
      simp [parseCommand, hname]
    · cases h
  obtain ⟨rest, tail, hparse, hcover, hends⟩ :=
      parse_spec schema { binary := pathName program } args
  have hfold :=
      collects_foldl schema (schema.pieces none args) (p := { binary := pathName program })
    fun _ => rfl
  rw [← hschema] at hparse
  exact ⟨tail, ⟨by rw [hparse]; exact ⟨hfold.binary, hfold.words, hfold.flags, hfold.data⟩, hcover,
    by rw [hparse]; exact hends⟩⟩

theorem host_safe (hok : (guardCheck (program :: args)).1 = true) :
    ∀ t ∈ (parseCommand (program :: args)).hostRelevantTokens, isDangerous t = false := by
  unfold guardCheck at hok
  dsimp only at hok
  split at hok
  · cases hok
  · split at hok
    · cases hok
    · split at hok
      · cases hok
      · next hnone => simpa using hnone

theorem guardCheck_spec (h : schemaOf program = some schema)
    (hok : (guardCheck (program :: args)).1 = true) :
    (∀ t ∈ (schema.pieces none args).flatMap Piece.words, isDangerous t = false) ∧
    ∀ f ∈ (schema.pieces none args).flatMap Piece.flags, isDangerous f.1 = false ∧
      ∀ v ∈ f.2, v ∉ payloadValues schema args → isDangerous v = false := by
  obtain ⟨tail, hparses⟩ := parseCommand_spec args h
  obtain ⟨hword, hflag⟩ := safe_of_host (host_safe args hok)
  rw [hparses.collects.words] at hword
  rw [hparses.collects.flags, hparses.collects.data] at hflag
  exact ⟨hword, hflag⟩

end

/-! ### Nothing is lost -/

def Spells (f : String × Option String) (tokens : List String) : Prop :=
  match f.2 with
  | none => tokens = [f.1]
  | some value => tokens = [f.1 ++ "=" ++ value] ∨ tokens = [f.1, value]

/-- The parsed command, put together again, is the command line: the tokens of each part are in
their order, and the data values are those of the data flags. -/
structure Conserves (p : ParsedCommand) (payloadFlags args : List String)
    (spelled : List (List String))
    (dash : List String) : Prop where
  spells : List.Forall₂ Spells p.flags spelled
  separator : dash = [] ∧ p.containerCommand = [] ∨ dash = ["--"]
  tokens : (p.words ++ spelled.flatten ++ dash ++ p.containerCommand).Perm args
  words : p.words.Sublist args
  flags : spelled.flatten.Sublist args
  container : p.containerCommand <:+ args
  data : p.dataPayloadValues = p.flags.filterMap fun f =>
    if payloadFlags.contains f.1 then f.2 else none

def Piece.spelled : Piece → List (List String)
  | .word _ => []
  | piece => [piece.tokens]

theorem pieces_conserved (schema : GuardSchema) (ps : List Piece) :
    List.Forall₂ Spells (ps.flatMap Piece.flags) (ps.flatMap Piece.spelled) ∧
    (ps.flatMap Piece.words ++ (ps.flatMap Piece.spelled).flatten).Perm (ps.flatMap Piece.tokens) ∧
    (ps.flatMap Piece.words).Sublist (ps.flatMap Piece.tokens) ∧
    (ps.flatMap Piece.spelled).flatten.Sublist (ps.flatMap Piece.tokens) ∧
    ps.flatMap (Piece.payloads schema) = (ps.flatMap Piece.flags).filterMap fun f =>
      if schema.payloadFlags.contains f.1 then f.2 else none := by
  induction ps with
  | nil => simp
  | cons piece ps ih =>
    obtain ⟨hspells, hperm, hwords, hflags, hdata⟩ := ih
    simp only [flatMap_cons, hdata]
    cases piece with
    | word token =>
      exact ⟨hspells, hperm.cons token, hwords.cons_cons token, hflags.cons token, rfl⟩
    | flag name =>
      exact ⟨.cons rfl hspells, (perm_append_comm_assoc ..).trans (hperm.cons name),
        hwords.cons name, hflags.cons_cons name, by simp⟩
    | valued name value =>
      exact ⟨.cons (.inr rfl) hspells,
        (perm_append_comm_assoc ..).trans ((hperm.cons value).cons name),
        (hwords.cons value).cons name, (hflags.cons_cons value).cons_cons name,
        by simp only [Piece.payloads, Piece.flags]; split <;> simp_all⟩
    | joined name value =>
      exact ⟨.cons (.inl rfl) hspells, (perm_append_comm_assoc ..).trans (hperm.cons _),
        hwords.cons _, hflags.cons_cons _,
        by simp only [Piece.payloads, Piece.flags]; split <;> simp_all⟩

/-- The parser loses nothing. -/
theorem parseCommand_conserves (cmd : List String) :
    (parseCommand cmd).binary = pathName (cmd.headD "") ∧
      ∃ spelled dash, Conserves (parseCommand cmd)
        (((schemaOf (cmd.headD "")).map GuardSchema.payloadFlags).getD []) cmd.tail spelled dash := by
  cases cmd with
  | nil =>
    exact ⟨by decide, [], [], .nil, .inl ⟨rfl, rfl⟩, .refl _, .refl _, .refl _, suffix_rfl,
      rfl⟩
  | cons program args =>
    cases hschema : schemaOf program with
    | none =>
      have hparse : parseCommand (program :: args) =
          { binary := pathName program, positionalArgs := args } := by
        unfold schemaOf at hschema
        split at hschema
        · cases hschema
        · cases hschema
        · next hkubectl hblade =>
          rw [parseCommand]
          split
          · next hname => exact absurd hname hkubectl
          · next hname => exact absurd hname hblade
          · rfl
      rw [hparse]
      exact ⟨rfl, [], [], .nil, .inl ⟨rfl, rfl⟩, by simp [words],
        by simp [words], by simp, by simp, rfl⟩
    | some schema =>
      obtain ⟨tail, hparses⟩ := parseCommand_spec args hschema
      obtain ⟨hspells, hperm, hwords, hflags, hdata⟩ :=
        pieces_conserved schema (schema.pieces none args)
      have hc := hparses.collects
      have hcover : (schema.pieces none args).flatMap Piece.tokens ++ tail = args :=
          hparses.cover.symm
      have hpre := sublist_append_left ((schema.pieces none args).flatMap Piece.tokens) tail
      rw [hcover] at hpre
      obtain ⟨dash, hdash, htail⟩ : ∃ dash, (dash = [] ∧
          (parseCommand (program :: args)).containerCommand = [] ∨ dash = ["--"]) ∧
          tail = dash ++ (parseCommand (program :: args)).containerCommand := by
        rcases hparses.ends with ⟨rfl, hrest⟩ | ⟨rfl, -⟩
        · exact ⟨[], .inl ⟨rfl, hrest⟩, by rw [hrest]; rfl⟩
        · exact ⟨["--"], .inr rfl, rfl⟩
      refine ⟨hc.binary, _, dash, ⟨hc.flags ▸ hspells, hdash, ?_, ?_, hflags.trans hpre, ?_, ?_⟩⟩
      · rw [hc.words, append_assoc, append_assoc, ← htail, ← append_assoc, tail_cons]
        conv_rhs => rw [← hcover]
        exact hperm.append_right tail
      · rw [hc.words]
        exact hwords.trans hpre
      · refine ⟨(schema.pieces none args).flatMap Piece.tokens ++ dash, ?_⟩
        rw [append_assoc, ← htail]
        exact hcover
      · rw [hc.data, hc.flags, headD_cons, hschema]
        exact hdata

/-! ## Patterns -/

def matchesBlacklist (text : String) : Bool :=
  paramBlacklistPatterns.any fun pattern => (pattern.search text).isSome

def backquotePattern : Regex := .all [.lit "\x60", .many .dot, .lit "\x60"]

theorem free_of_mem_patterns {pattern : Regex} (h : pattern ∈ paramBlacklistPatterns) :
    pattern.Free := by
  simp only [paramBlacklistPatterns, mem_cons, not_mem_nil, or_false] at h
  rcases h with rfl | rfl | rfl | rfl | rfl | rfl | rfl
  all_goals first
    | exact Regex.free_lit _
    | exact Regex.free_all (by simp [Regex.free_lit, Regex.Free, Regex.many, Regex.oneOrMore,
        Regex.space, Regex.dot])

theorem rejects_of_mem_patterns {pattern : Regex} (h : pattern ∈ paramBlacklistPatterns) :
    pattern.rejects '=' = true ∨ pattern = backquotePattern := by
  simp only [paramBlacklistPatterns, mem_cons, not_mem_nil, or_false] at h
  rcases h with rfl | rfl | rfl | rfl | rfl | rfl | rfl
  all_goals first
    | exact .inr rfl
    | exact .inl (by decide)

theorem mem_lang_backquote {w : List Char} : w ∈ backquotePattern.lang ↔
    ∃ d, '\n' ∉ d ∧ w = '\x60' :: (d ++ ['\x60']) := by
  have hdot : ∀ d : List Char, d ∈ (Regex.many .dot).lang ↔ '\n' ∉ d := by
    intro d
    rw [Regex.many, Regex.dot, Regex.mem_lang_star_char]
    constructor
    · intro h hmem
      simpa using h _ hmem
    · intro h c hc
      simpa using fun heq : c = '\n' => h (heq ▸ hc)
  simp only [backquotePattern, Regex.all, foldr_cons, Regex.mem_lang_seq, Regex.mem_lang_lit, hdot]
  constructor
  · rintro ⟨_, rfl, _, ⟨d, hd, _, ⟨_, rfl, _, rfl, rfl⟩, rfl⟩, rfl⟩
    exact ⟨d, hd, by simp⟩
  · rintro ⟨d, hd, rfl⟩
    exact ⟨_, rfl, _, ⟨d, hd, _, ⟨_, rfl, _, rfl, rfl⟩, rfl⟩, by simp⟩

def BackquotesAcross (name value : String) : Prop :=
  (∃ x, '\n' ∉ x ∧ '\x60' :: x <:+ name.toList) ∧ ∃ y, '\n' ∉ y ∧ y ++ ['\x60'] <+: value.toList

theorem backquote_reaches_iff {name value : String} :
    (∃ w ∈ backquotePattern.lang, ∃ x y, w = x ++ '=' :: y ∧ x <:+ name.toList ∧
        y <+: value.toList) ↔
      BackquotesAcross name value := by
  constructor
  · rintro ⟨w, hw, x, y, hxy, hx, hy⟩
    obtain ⟨d, hd, rfl⟩ := mem_lang_backquote.mp hw
    cases x with
    | nil => cases (cons.inj hxy).1
    | cons c x =>
      obtain ⟨rfl, hd'⟩ := cons.inj hxy
      rcases eq_nil_or_concat' y with rfl | ⟨y, e, rfl⟩
      · cases List.singleton_inj.mp (append_inj' hd' rfl).2
      · have hsplit : d ++ ['\x60'] = (x ++ '=' :: y) ++ [e] := by rw [hd']; simp
        obtain ⟨rfl, he⟩ := append_inj' hsplit rfl
        obtain rfl := List.singleton_inj.mp he
        exact ⟨⟨x, fun h => hd (by simp [h]), hx⟩, y, fun h => hd (by simp [h]), hy⟩
  · rintro ⟨⟨x, hx, hname⟩, y, hy, hvalue⟩
    refine ⟨'\x60' :: (x ++ '=' :: y ++ ['\x60']), mem_lang_backquote.mpr ⟨x ++ '=' :: y, ?_, rfl⟩,
      '\x60' :: x, y ++ ['\x60'], by simp, hname, hvalue⟩
    simp [hx, hy]

variable (name value : String)

theorem matchesBlacklist_joined :
    matchesBlacklist (name ++ "=" ++ value) = true ↔
      matchesBlacklist name = true ∨ matchesBlacklist value = true ∨
          BackquotesAcross name value := by
  have htext : (name ++ "=" ++ value).toList = name.toList ++ '=' :: value.toList := by simp
  have hback : backquotePattern ∈ paramBlacklistPatterns :=
      by simp [paramBlacklistPatterns, backquotePattern]
  have hpiece : ∀ {pattern}, pattern ∈ paramBlacklistPatterns →
      (((pattern.search (name ++ "=" ++ value)).isSome = true) ↔
        (pattern.search name).isSome = true ∨ (pattern.search value).isSome = true ∨
          ∃ w ∈ pattern.lang, ∃ x y, w = x ++ '=' :: y ∧ x <:+ name.toList ∧
              y <+: value.toList) := by
    intro pattern hmem
    have hfree := free_of_mem_patterns hmem
    rw [Regex.search_isSome_iff hfree, Regex.search_isSome_iff hfree, Regex.search_isSome_iff hfree,
        htext,
      ← exists_or, ← exists_or]
    refine exists_congr fun w => ?_
    rw [← and_or_left, ← and_or_left, infix_append_cons]
  unfold matchesBlacklist
  rw [any_eq_true, any_eq_true, any_eq_true]
  constructor
  · rintro ⟨pattern, hmem, hfound⟩
    rcases (hpiece hmem).mp hfound with hname | hvalue | ⟨w, hw, x, y, rfl, hx, hy⟩
    · exact .inl ⟨pattern, hmem, hname⟩
    · exact .inr (.inl ⟨pattern, hmem, hvalue⟩)
    · rcases rejects_of_mem_patterns hmem with hreject | rfl
      · exact absurd (by simp) (Regex.not_mem_of_rejects hreject hw)
      · exact .inr (.inr (backquote_reaches_iff.mp ⟨_, hw, x, y, rfl, hx, hy⟩))
  · rintro (⟨pattern, hmem, hname⟩ | ⟨pattern, hmem, hvalue⟩ | hacross)
    · exact ⟨pattern, hmem, (hpiece hmem).mpr (.inl hname)⟩
    · exact ⟨pattern, hmem, (hpiece hmem).mpr (.inr (.inl hvalue))⟩
    · exact ⟨backquotePattern, hback,
        (hpiece hback).mpr (.inr (.inr (backquote_reaches_iff.mpr hacross)))⟩

theorem not_mem_solo : name ++ "=" ++ value ∉ suspiciousSoloTokens := by
  have hsolo : ∀ token ∈ suspiciousSoloTokens, '=' ∉ token.toList := by decide
  exact fun h => hsolo _ h (by simp)

theorem isDangerous_joined :
    isDangerous (name ++ "=" ++ value) = matchesBlacklist (name ++ "=" ++ value) := by
  have hsolo : suspiciousSoloTokens.contains (name ++ "=" ++ value) = false := by
    simpa using not_mem_solo name value
  rw [isDangerous, hsolo, Bool.false_or, matchesBlacklist]

theorem matchesBlacklist_of_safe {text : String} (h : isDangerous text = false) :
    matchesBlacklist text = false := (Bool.or_eq_false_iff.mp h).2

/-! ## The check -/

/-- The tokens of a piece that are not data: the values of data flags are, and a flag that is
joined to its data is looked at by its name only. -/
def Piece.inspected (schema : GuardSchema) : Piece → List String
  | .word token => [token]
  | .flag name => [name]
  | .valued name value => if schema.payloadFlags.contains name then [name] else [name, value]
  | .joined name value => if schema.payloadFlags.contains name then [name]
      else [name ++ "=" ++ value]

def InspectsAll (schema : GuardSchema) (program : String) (args : List String) : Prop :=
  isDangerous program = false ∧
    ∀ t ∈ (schema.pieces none args).flatMap (Piece.inspected schema), isDangerous t = false

instance (schema : GuardSchema) (program : String) (args : List String) :
    Decidable (InspectsAll schema program args) :=
  inferInstanceAs (Decidable (_ ∧ _))

/-- A namespace that equals the selector is not searched. -/
theorem selector_hides_namespace :
    guardCheck ["kubectl", "get", "pods", "-l", "$(reboot)", "-n", "$(reboot)"] = (true, "OK") ∧
      ¬ InspectsAll kubectlSchema "kubectl" ["get", "pods", "-l", "$(reboot)", "-n",
          "$(reboot)"] := by
  decide

structure HidesNothing (schema : GuardSchema) (program : String) (args : List String) : Prop where
  /-- The path of the program is safe. -/
  program : isDangerous program = false
  /-- A value that equals data of another flag is safe. -/
  valued : ∀ name value, .valued name value ∈ schema.pieces none args → name ∉ schema.payloadFlags →
    value ∈ payloadValues schema args → isDangerous value = false
  /-- A joined value that equals data of another flag has no match in it. -/
  joined : ∀ name value, .joined name value ∈ schema.pieces none args → name ∉ schema.payloadFlags →
    value ∈ payloadValues schema args → matchesBlacklist value = false
  /-- No two backquotes stand across the `=` of a joined flag. -/
  across : ∀ name value, .joined name value ∈ schema.pieces none args → name ∉ schema.payloadFlags →
    ¬ BackquotesAcross name value

attribute [local simp] Piece.inspected

/-- In a command line that passes, every token of the host is safe exactly if nothing is
hidden where the guard does not look. -/
theorem inspectsAll_iff (schema : GuardSchema) (program : String) (args : List String)
    (hschema : schemaOf program = some schema) (hok : (guardCheck (program :: args)).1 = true) :
    InspectsAll schema program args ↔ HidesNothing schema program args := by
  obtain ⟨hwords, hflags⟩ := guardCheck_spec args hschema hok
  constructor
  · rintro ⟨hprogram, htokens⟩
    have hpiece : ∀ piece ∈ schema.pieces none args, ∀ t ∈ piece.inspected schema,
        isDangerous t = false :=
      fun piece hp t ht => htokens t (List.mem_flatMap.mpr ⟨piece, hp, ht⟩)
    refine ⟨hprogram, ?_, ?_, ?_⟩
    · intro name value hmem hname _
      exact hpiece _ hmem value (by simp [hname])
    · intro name value hmem hname _
      have hsafe := hpiece _ hmem (name ++ "=" ++ value) (by simp [hname])
      rw [isDangerous_joined] at hsafe
      by_contra hfound
      simp [(matchesBlacklist_joined name value).mpr (.inr (.inl (by simpa using hfound)))] at hsafe
    · intro name value hmem hname hacross
      have hsafe := hpiece _ hmem (name ++ "=" ++ value) (by simp [hname])
      rw [isDangerous_joined,
          (matchesBlacklist_joined name value).mpr (.inr (.inr hacross))] at hsafe
      cases hsafe
  · intro h
    refine ⟨h.program, fun t ht => ?_⟩
    obtain ⟨piece, hp, ht⟩ := List.mem_flatMap.mp ht
    have hflag : ∀ f ∈ piece.flags, isDangerous f.1 = false ∧
        ∀ v ∈ f.2, v ∉ payloadValues schema args → isDangerous v = false :=
      fun f hf => hflags f (List.mem_flatMap.mpr ⟨piece, hp, hf⟩)
    cases piece with
    | word token => exact hwords t (List.mem_flatMap.mpr ⟨_, hp, ht⟩)
    | flag name =>
      obtain rfl := mem_singleton.mp ht
      exact (hflag (t, none) (by simp)).1
    | valued name value =>
      have hthis := hflag (name, some value) (by simp)
      by_cases hname : name ∈ schema.payloadFlags
      · obtain rfl : t = name := by simpa [hname] using ht
        exact hthis.1
      · obtain rfl | rfl : t = name ∨ t = value := by simpa [hname] using ht
        · exact hthis.1
        · by_cases hdata : t ∈ payloadValues schema args
          · exact h.valued name t hp hname hdata
          · exact hthis.2 t rfl hdata
    | joined name value =>
      have hthis := hflag (name, some value) (by simp)
      by_cases hname : name ∈ schema.payloadFlags
      · obtain rfl : t = name := by simpa [hname] using ht
        exact hthis.1
      · obtain rfl : t = name ++ "=" ++ value := by simpa [hname] using ht
        rw [isDangerous_joined]
        by_contra hfound
        rcases (matchesBlacklist_joined name value).mp (by simpa using hfound) with hn | hv |
            hacross
        · simp [matchesBlacklist_of_safe hthis.1] at hn
        · by_cases hdata : value ∈ payloadValues schema args
          · simp [h.joined name value hp hname hdata] at hv
          · simp [matchesBlacklist_of_safe (hthis.2 value rfl hdata)] at hv
        · exact h.across name value hp hname hacross

theorem schemaOf_kubectl : schemaOf "kubectl" = some kubectlSchema := by
  have hname : pathName "kubectl" = "kubectl" := by decide
  simp [schemaOf, hname]

theorem getPods_hidesNothing :
    guardCheck ["kubectl", "get", "pods", "-l", "app=web", "-n=prod"] = (true, "OK") ∧
      HidesNothing kubectlSchema "kubectl" ["get", "pods", "-l", "app=web", "-n=prod"] :=
  ⟨by decide, (inspectsAll_iff kubectlSchema "kubectl" ["get", "pods", "-l", "app=web",
      "-n=prod"]
    schemaOf_kubectl (by decide)).mp (by decide)⟩

end ChaosBlade.Tools
