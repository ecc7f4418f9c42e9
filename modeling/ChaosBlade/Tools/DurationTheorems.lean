/-
Tools.DurationTheorems: how long an experiment runs that
`blade_create` or a `kubectl exec` starts.

Both tools want a `--timeout` of at least the recommended duration on the
command line.
-/
import ChaosBlade.Tools.BladeTheorems
import ChaosBlade.Tools.Guard
import ChaosBlade.Tools.KubectlTheorems

namespace ChaosBlade.Tools

open Py List Option Cli

variable {front : List String} {current value : String}

/-! ## Lines -/

def createArgs : List String → Option (List String)
  | program :: verb :: rest =>
    if pathName program = "blade" ∧ verb = "create" then some rest else createArgs (verb :: rest)
  | _ => none

/-- How a command line is read once it is run: the integers of `blade`, and the `blade create` in a
text that is handed to a shell. -/
structure Reader (db : CharDb) where
  int : String → Option Int
  /-- What the tools write is read as it is meant. -/
  int_written : int "600" = some 600
  /-- An integer is one for Python as well. -/
  int_agrees : ∀ {text n}, int text = some n → pyInt db text = some n
  inner : String → Option (List String)
  /-- A plain word runs nothing. -/
  inner_plain : ∀ {text}, (∀ c ∈ text.toList, db.isDigit c = true ∨ c.isAlpha = true ∨ c = '-') →
    inner text = none

def Reader.bladeArgs {db : CharDb} (reader : Reader db)
    (tokens : List String) : Option (List String) :=
  (createArgs tokens).or (tokens.findSome? reader.inner)

def createLine (kubeconfigPath : String) (r : BladeArgs) : List String :=
  (ownTokens kubeconfigPath r ++ Shlex.splitArgs r.flags).drop 1

inductive Call where
  | create (bladePath kubeconfigPath : String) (r : BladeArgs)
  | exec (vArgs : String)

section

variable {db : CharDb} (reader : Reader db)

def Call.line : Call → Option (List String)
  | .create _ kubeconfigPath r => some (createLine kubeconfigPath r)
  | .exec vArgs => reader.bladeArgs (Shlex.splitArgs vArgs)

def Call.run : Call → Except PyError (Option (List String))
  | .create bladePath kubeconfigPath r =>
    (bladeCreate db bladePath kubeconfigPath r).map fun argv => some (argv.drop 2)
  | .exec vArgs => .ok (reader.bladeArgs (kubectlTokens db "exec" vArgs))

def lineRecommended : List String → Int
  | "k8s" :: experiment :: action :: _ =>
    getRecommendedDuration (beforeChar '-' experiment) (afterChar '-' experiment) action
  | _ => defaultMinDuration

def Call.recommended : Call → List String → Int
  | .create _ _ r, _ => getRecommendedDuration r.scope r.target r.action
  | .exec _, line => lineRecommended line

def timeouts (line : List String) : List String := Cli.given "--timeout" false line

def Suits (floor : Int) (asked values : List String) : Prop :=
  ∃ value n, values.getLast? = some value ∧ reader.int value = some n ∧ floor ≤ n ∧
    ∀ m ∈ asked.filterMap reader.int, m ≤ n

def KeepsDuration (call : Call) : Prop :=
  ∀ line, call.line reader = some line → ∃ ran, call.run reader = .ok (some ran) ∧
    Suits reader (call.recommended line) (timeouts line) (timeouts ran)

theorem lineRecommended_eq (line : List String) : lineRecommended line = 600 := by
  unfold lineRecommended
  split
  · exact getRecommendedDuration_eq ..
  · rfl

theorem Call.recommended_eq (call : Call) (line : List String) : call.recommended line = 600 := by
  cases call with
  | create _ _ r => exact getRecommendedDuration_eq ..
  | exec _ => exact lineRecommended_eq line

/-! ## Timeouts -/

def NoneAbove (asked : List String) : Prop := ∀ m ∈ asked.filterMap reader.int, m ≤ 600

variable {reader}

theorem suits_written {asked : List String} :
    Suits reader 600 asked (front ++ ["600"]) ↔ NoneAbove reader asked := by
  constructor
  · rintro ⟨value, n, hlast, hint, -, hasked⟩
    rw [List.getLast?_concat] at hlast
    cases hlast
    rw [reader.int_written] at hint
    cases hint
    exact hasked
  · intro h
    exact ⟨"600", 600, List.getLast?_concat, reader.int_written, Int.le_refl _, h⟩

theorem suits_behind {asked back : List String} (h : back ≠ []) :
    Suits reader 600 asked (front ++ back) ↔ Suits reader 600 asked back := by
  unfold Suits
  rw [List.getLast?_append_of_ne_nil _ h]

theorem int_flag : reader.int "--timeout" = none := by
  have hpy : pyInt db "--timeout" = none :=
    pyInt_none_of_head '-' "timeout".toList (by decide +kernel) (by decide) (by decide)
  cases hint : reader.int "--timeout" with
  | none => rfl
  | some n =>
    rw [reader.int_agrees hint] at hpy
    cases hpy

theorem suits_appended {asked line : List String} :
    Suits reader 600 asked (timeouts (line ++ ["--timeout", "600"])) ↔
      Cli.waits "--timeout" false line = false ∧ NoneAbove reader asked := by
  unfold timeouts
  rw [given_append]
  cases waits "--timeout" false line with
  | false =>
    rw [given_flag]
    exact suits_written.trans (by simp)
  | true =>
    have hflag : given "--timeout" true ["--timeout", "600"] = ["--timeout"] := by decide +kernel
    rw [hflag]
    constructor
    · rintro ⟨value, n, hlast, hint, -⟩
      rw [List.getLast?_concat] at hlast
      cases hlast
      rw [int_flag] at hint
      cases hint
    · rintro ⟨h, -⟩
      cases h

theorem suits_raised {asked back : List String} (current : String)
    (hwaits : Cli.waits "--timeout" false front = false) :
    Suits reader 600 asked (timeouts (front ++ "--timeout" :: "600" :: back)) ↔
      if timeouts back = [] then NoneAbove reader asked
      else Suits reader 600 asked (timeouts (front ++ "--timeout" :: current :: back)) := by
  unfold timeouts
  rw [given_append, given_append, hwaits, given_flag, given_flag]
  split
  · next hback =>
    rw [hback]
    exact suits_written
  · next hback =>
    have hcons : ∀ value : String, given "--timeout" false front ++
        value :: given "--timeout" false back =
          (given "--timeout" false front ++ [value]) ++ given "--timeout" false back := by
      intro value
      simp
    rw [hcons, hcons, suits_behind hback, suits_behind hback]

/-! ## `blade_create` -/

/-- What `blade_create` needs of its line: with no token `--timeout` nothing above the minimum is
asked for; else a number stands behind the first one, and it is the last timeout, below the
minimum, and nothing above the minimum is asked for, or the last timeout suits as it is. -/
def CreateMeets (reader : Reader db) (bladePath : String) (line : List String) : Prop :=
  bladePath ≠ "--timeout" ∧
    if "--timeout" ∈ line then
      match (line.dropWhile (· != "--timeout")).drop 1 with
      | [] => Suits reader 600 (timeouts line) (timeouts line)
      | current :: more => ∃ n, pyInt db current = some n ∧
          if n < 600 ∧ timeouts more = [] then NoneAbove reader (timeouts line)
          else Suits reader 600 (timeouts line) (timeouts line)
    else NoneAbove reader (timeouts line)

section

variable {scope target action : String}

theorem raiseTimeout_at (h : "--timeout" ∉ front) (back : List String) :
    raiseTimeout db scope target action (front ++ "--timeout" :: back) =
      (raiseTimeout db scope target action ("--timeout" :: back)).map (front ++ ·) := by
  induction front with
  | nil =>
    rw [nil_append]
    cases raiseTimeout db scope target action ("--timeout" :: back) <;> rfl
  | cons a front ih =>
    obtain ⟨hne, hfront⟩ := ne_and_not_mem_of_not_mem_cons h
    rw [cons_append, raiseTimeout_skip hne.symm, ih hfront]
    cases raiseTimeout db scope target action ("--timeout" :: back) <;> rfl

theorem raiseTimeout_unreadable (h : pyInt db current = none) (more : List String) :
    raiseTimeout db scope target action ("--timeout" :: current :: more) =
      .error (pyIntError db current) := by simp [raiseTimeout, h]

theorem raiseTimeout_value {n : Int} (h : pyInt db current = some n) (more : List String) :
    raiseTimeout db scope target action ("--timeout" :: current :: more) =
      .ok ("--timeout" :: (if n < 600 then "600" else current) :: more) := by
  have hmin : ensureMinDuration db (some current) scope target action = max 600 n :=
    ensureMinDuration_of_pyInt h
  have htext : toString (600 : Int) = "600" := by decide +kernel
  by_cases hn : n < 600
  · have hmax : max 600 n = 600 := by omega
    have hne : ¬ 600 = n := by omega
    simp [raiseTimeout, h, hmin, hmax, hne, hn, htext]
  · have hmax : max 600 n = n := by omega
    simp [raiseTimeout, h, hmin, hmax, hn]

end

theorem bladeCreate_eq (bladePath kubeconfigPath : String) (r : BladeArgs) :
    bladeCreate db bladePath kubeconfigPath r =
      if "--timeout" ∉ bladePath :: "create" :: createLine kubeconfigPath r then
        .ok (bladePath :: "create" :: (createLine kubeconfigPath r ++ ["--timeout", "600"]))
      else raiseTimeout db r.scope r.target r.action
        (bladePath :: "create" :: createLine kubeconfigPath r) := by
  have hmin : ensureMinDuration db none r.scope r.target r.action = 600 := by
    rw [ensureMinDuration_eq]
    rfl
  have htext : toString (600 : Int) = "600" := by decide +kernel
  have hcmd : ownTokens kubeconfigPath r ++ Shlex.splitArgs r.flags =
      "create" :: createLine kubeconfigPath r := by simp [ownTokens, createLine]
  unfold bladeCreate
  simp only [hcmd, hmin, htext, cons_append]

attribute [local simp] Except.map

theorem create_keeps_iff (bladePath kubeconfigPath : String) (r : BladeArgs) :
    (∃ ran, (Call.create bladePath kubeconfigPath r).run reader = .ok (some ran) ∧
        Suits reader 600 (timeouts (createLine kubeconfigPath r)) (timeouts ran)) ↔
      CreateMeets reader bladePath (createLine kubeconfigPath r) := by
  have hcreate : ¬ "--timeout" = "create" := by decide
  simp only [Call.run, CreateMeets, bladeCreate_eq]
  generalize createLine kubeconfigPath r = line
  by_cases hpath : bladePath = "--timeout"
  · subst hpath
    rw [if_neg (by simp), raiseTimeout_unreadable pyInt_create]
    simp
  by_cases hmem : "--timeout" ∈ line
  · obtain ⟨front, back, rfl, hfront⟩ := eq_append_cons_of_mem hmem
    have hhead : "--timeout" ∉ bladePath :: "create" :: front := by
      simp [Ne.symm hpath, hcreate, hfront]
    have hdrop : ((front ++ "--timeout" :: back).dropWhile (· != "--timeout")).drop 1 = back := by
      have hkeep : ∀ t ∈ front, (t != "--timeout") = true := fun t ht => by
        simpa using fun heq : t = "--timeout" => hfront (heq ▸ ht)
      rw [dropWhile_append_of_pos hkeep, dropWhile_cons_of_neg (by simp), drop_one, tail_cons]
    rw [if_neg (by simp), if_pos hmem, hdrop, ← cons_append, ← cons_append, raiseTimeout_at hhead]
    cases back with
    | nil => simp [hpath, raiseTimeout]
    | cons current more =>
      cases hn : pyInt db current with
      | none =>
        rw [raiseTimeout_unreadable hn]
        simp [hn]
      | some n =>
        have hfirst := waits_of_not_mem hfront
        rw [raiseTimeout_value hn]
        by_cases hlow : n < 600
        · simp [hpath, hn, hlow, suits_raised current hfirst]
        · simp [hpath, hn, hlow]
  · rw [if_pos (by simp [Ne.symm hpath, hcreate, hmem]), if_neg hmem]
    simp [hpath, suits_appended, waits_of_not_mem hmem]

/-! ## `kubectl exec` -/

inductive Treatment where
  | leaves
  | appends
  | raises (current : String)

/-- The tests on the text: does it name `blade create`, does it name `--timeout`, and is the number
found behind it below the minimum? -/
def treatment (db : CharDb) (text : String) : Treatment :=
  if (Re.search (bladeCreatePattern db) none text.toList).isNone then .leaves
  else if !hasSub "--timeout" text then .appends
  else
    match Re.search (timeoutPattern db) none text.toList with
    | none => .leaves
    | some current => if (pyInt db current).any (· < 600) then .raises current else .leaves

def cutTimeout (current : String) : List String → Option (List String × List String)
  | a :: b :: rest =>
    if a = "--timeout" ∧ b = current then some ([], rest)
    else (cutTimeout current (b :: rest)).map fun cut => (a :: cut.1, cut.2)
  | _ => none

/-- What an `exec` needs of its text and of the timeouts asked for. Where the tool writes the last
timeout, nothing above the minimum is asked for; elsewhere the last timeout suits as it is. -/
def ExecMeets (reader : Reader db) (text : String) (asked : List String) : Prop :=
  ∃ line, reader.bladeArgs (Shlex.splitArgs text) = some line ∧
    match treatment db text with
    | .leaves => Suits reader 600 asked (timeouts line)
    | .appends =>
      if (createArgs (Shlex.splitArgs text)).isSome then
        Cli.waits "--timeout" false line = false ∧ NoneAbove reader asked
      else Suits reader 600 asked (timeouts line)
    | .raises current =>
      match cutTimeout current (Shlex.splitArgs text) with
      | none => Suits reader 600 asked (timeouts line)
      | some (front, back) =>
        if (createArgs front).any (fun args => !Cli.waits "--timeout" false args) ∧
            timeouts back = [] then NoneAbove reader asked
        else Suits reader 600 asked (timeouts line)

theorem setTimeout_none {new : String} {tokens : List String}
    (h : cutTimeout current tokens = none) : setTimeout current new tokens = tokens := by
  fun_induction cutTimeout current tokens with
  | case1 a b rest hflag => cases h
  | case2 a b rest hne ih => rw [setTimeout, if_neg hne, ih (map_eq_none_iff.mp h)]
  | case3 tokens hshort =>
    rw [setTimeout]
    exact hshort

theorem setTimeout_some (new : String) {tokens back : List String}
    (h : cutTimeout current tokens = some (front, back)) :
    tokens = front ++ "--timeout" :: current :: back ∧
      setTimeout current new tokens = front ++ "--timeout" :: new :: back := by
  fun_induction cutTimeout current tokens generalizing front with
  | case1 a b rest hflag =>
    obtain ⟨rfl, rfl⟩ := hflag
    cases h
    simp [setTimeout]
  | case2 a b rest hne ih =>
    obtain ⟨⟨front', back'⟩, hcut, hmk⟩ := map_eq_some_iff.mp h
    cases hmk
    obtain ⟨htokens, hset⟩ := ih hcut
    rw [setTimeout, if_neg hne, hset, htokens]
    exact ⟨rfl, rfl⟩
  | case3 tokens hshort => cases h

def Treatment.edit : Treatment → List String → List String
  | .leaves, tokens => tokens
  | .appends, tokens => tokens ++ ["--timeout", "600"]
  | .raises current, tokens => setTimeout current "600" tokens

theorem boostTimeout_eq (text : String) (tokens : List String) :
    boostTimeout db text tokens = (treatment db text).edit tokens := by
  have htext : toString (600 : Int) = "600" := by decide +kernel
  unfold boostTimeout treatment
  split
  · rfl
  dsimp only
  generalize (Re.search (faultPattern db) none text.toList).getD ("", "", "") = fault
  obtain ⟨scope, target, action⟩ := fault
  dsimp only
  split
  · have hmin : ensureMinDuration db none scope target action = 600 := by
      rw [ensureMinDuration_eq]
      rfl
    rw [hmin, htext]
    rfl
  cases Re.search (timeoutPattern db) none text.toList with
  | none => rfl
  | some current =>
    dsimp only
    cases hn : pyInt db current with
    | none => rfl
    | some n =>
      rw [ensureMinDuration_of_pyInt hn]
      by_cases hlow : n < 600
      · have hmax : max 600 n = 600 := by omega
        have hne : ¬ 600 = n := by omega
        simp [hmax, hne, hlow, htext, Treatment.edit]
      · have hmax : max 600 n = n := by omega
        simp [hmax, hlow, Treatment.edit]

def Digits (db : CharDb) (text : String) : Prop := ∀ c ∈ text.toList, db.isDigit c = true

section

variable {text : String}

theorem Digits.not_mem (h : Digits db text) {c : Char} (hascii : c.toNat < 128)
    (hdigit : c.isDigit = false) : c ∉ text.toList := by
  intro hmem
  have hdec := h c hmem
  rw [CharDb.isDigit, db.decimal_ascii c hascii, hdigit] at hdec
  cases hdec

theorem Digits.pathName_ne (h : Digits db text) : pathName text ≠ "blade" := by
  have hslash : hasChar '/' text = false := by
    simpa [hasChar] using h.not_mem (c := '/') (by decide) (by decide)
  have hb := h.not_mem (c := 'b') (by decide) (by decide)
  unfold pathName
  rw [splitChar_of_not_hasChar hslash]
  by_cases hkeep : text ≠ "" ∧ text ≠ "."
  · have htext : text ≠ "blade" := by
      rintro rfl
      exact hb (by decide)
    simpa [hkeep] using htext
  · have hdrop : List.filter (fun part => part ≠ "" && part ≠ ".") [text] = [] := by
      simpa [or_iff_not_imp_left] using hkeep
    rw [hdrop]
    decide

theorem Digits.pass (h : Digits db text) (rest : List String) :
    Cli.given "--timeout" false (text :: rest) = Cli.given "--timeout" false rest := by
  have hdash := h.not_mem (c := '-') (by decide) (by decide)
  refine given_pass ?_ ?_ rest
  · rintro rfl
    exact hdash (by decide)
  · have hstart : startsWith text ("--timeout" ++ "=") = false := by
      rw [Bool.eq_false_iff, Ne, startsWith_iff]
      exact fun hpre => hdash (hpre.subset (by decide))
    rw [joinedValue, hstart, if_neg Bool.false_ne_true]

theorem digits_600 (db : CharDb) : Digits db "600" := by
  have hall : ∀ c ∈ "600".toList, c.toNat < 128 ∧ c.isDigit = true := by decide
  intro c hc
  obtain ⟨hascii, hdigit⟩ := hall c hc
  rw [CharDb.isDigit, db.decimal_ascii c hascii, hdigit]
  rfl

theorem digits_of_search {cs : List Char}
    (h : Re.search (timeoutPattern db) none cs = some text) : Digits db text := by
  obtain ⟨pre, post, -, hmatch, -⟩ := Re.search_eq_some_iff.mp h
  simp only [bind_eq_bind, bind_eq_some_iff] at hmatch
  obtain ⟨rest, -, rest', -, ⟨digits, more⟩, hrun, htext⟩ := hmatch
  cases htext
  intro c hc
  exact (Re.run_eq_some.mp hrun).2.2.1 c (by simpa using hc)

end

theorem digits_of_treatment {text : String} (h : treatment db text = .raises current) :
    Digits db current := by
  unfold treatment at h
  split at h
  · cases h
  split at h
  · cases h
  split at h
  · cases h
  next found hsearch =>
  split at h
  · cases h
    exact digits_of_search hsearch
  · cases h

attribute [local simp] createArgs

theorem createArgs_append (x : List String) {y : List String} (h : y.head? ≠ some "create") :
    createArgs (x ++ y) = ((createArgs x).map (· ++ y)).or (createArgs y) := by
  fun_induction createArgs x with
  | case1 program verb rest hblade => simp [hblade]
  | case2 program verb rest hblade ih =>
    rw [cons_append, cons_append, createArgs, if_neg hblade]
    exact ih
  | case3 x hshort =>
    cases x with
    | nil => simp
    | cons a x =>
      cases x with
      | cons b x => exact absurd rfl (hshort a b x)
      | nil =>
        cases y with
        | nil => simp
        | cons b y =>
          have hne : ¬ (pathName a = "blade" ∧ b = "create") := fun hab => h (by simp [hab.2])
          simp [hne]

theorem createArgs_cons {a : String} (h : pathName a ≠ "blade") (rest : List String) :
    createArgs (a :: rest) = createArgs rest := by
  cases rest with
  | nil => rfl
  | cons b rest => rw [createArgs, if_neg fun hab => h hab.1]

theorem inner_flag : reader.inner "--timeout" = none := reader.inner_plain (by
  have hall : ∀ c ∈ "--timeout".toList, c.isAlpha = true ∨ c = '-' := by decide
  exact fun c hc => .inr (hall c hc))

theorem inner_digits {text : String} (h : Digits db text) : reader.inner text = none :=
  reader.inner_plain fun c hc => .inl (h c hc)

theorem createArgs_timeout (h : Digits db value) (front back : List String) :
    createArgs (front ++ "--timeout" :: value :: back) =
      ((createArgs front).map (· ++ "--timeout" :: value :: back)).or (createArgs back) := by
  have hflag : pathName "--timeout" ≠ "blade" := by decide +kernel
  rw [createArgs_append front (by simp), createArgs_cons hflag, createArgs_cons h.pathName_ne]

theorem findSome?_timeout (h : Digits db value) (front back : List String) :
    (front ++ "--timeout" :: value :: back).findSome? reader.inner =
      (front.findSome? reader.inner).or (back.findSome? reader.inner) := by
  rw [List.findSome?_append, List.findSome?_cons, inner_flag, List.findSome?_cons, inner_digits h]

theorem bladeArgs_timeout_front (hfront : createArgs front = none) (h : Digits db value)
    (back : List String) :
    reader.bladeArgs (front ++ "--timeout" :: value :: back) = reader.bladeArgs
      (front ++ "--timeout" :: "600" :: back) := by
  unfold Reader.bladeArgs
  rw [createArgs_timeout h, createArgs_timeout (digits_600 db), findSome?_timeout h,
    findSome?_timeout (digits_600 db), hfront]
  rfl

theorem bladeArgs_timeout_behind {args : List String} (hfront : createArgs front = some args)
    (h : Digits db value) (back : List String) :
    reader.bladeArgs (front ++ "--timeout" :: value :: back) =
      some (args ++ "--timeout" :: value :: back) := by
  unfold Reader.bladeArgs
  rw [createArgs_timeout h, hfront]
  rfl

theorem timeouts_of_waits {args : List String} (hwaits : Cli.waits "--timeout" false args = true)
    (h : Digits db value) (back : List String) :
    timeouts (args ++ "--timeout" :: value :: back) =
      timeouts args ++ "--timeout" :: timeouts back := by
  unfold timeouts
  rw [given_append, hwaits, given, h.pass]

theorem exec_keeps_iff (vArgs : String) (asked : List String) :
    (∃ ran, (Call.exec vArgs).run reader = .ok (some ran) ∧ Suits reader 600 asked (timeouts ran)) ↔
      ExecMeets reader (editArgs "exec" vArgs) asked := by
  have hexec : ∀ tokens, reader.bladeArgs ("exec" :: tokens) = reader.bladeArgs tokens := by
    intro tokens
    have hplain : ∀ c ∈ "exec".toList, c.isAlpha = true ∨ c = '-' := by decide
    have hinner : reader.inner "exec" = none := reader.inner_plain fun c hc => .inr (hplain c hc)
    have hpath : pathName "exec" ≠ "blade" := by decide +kernel
    unfold Reader.bladeArgs
    rw [createArgs_cons hpath, List.findSome?_cons, hinner]
  simp only [Call.run, kubectlTokens, if_true, hexec, boostTimeout_eq, ExecMeets, Except.ok.injEq]
  generalize editArgs "exec" vArgs = text
  generalize Shlex.splitArgs text = tokens
  cases htreat : treatment db text with
  | leaves => rfl
  | appends =>
    simp only [Treatment.edit]
    cases hargs : createArgs tokens with
    | none =>
      have hsame : reader.bladeArgs (tokens ++ ["--timeout", "600"]) = reader.bladeArgs tokens := by
        unfold Reader.bladeArgs
        rw [createArgs_timeout (digits_600 db), findSome?_timeout (digits_600 db), hargs]
        simp
      simp [hsame]
    | some args =>
      rw [bladeArgs_timeout_behind hargs (digits_600 db)]
      simp [Reader.bladeArgs, hargs, suits_appended]
  | raises current =>
    have hdigits := digits_of_treatment htreat
    simp only [Treatment.edit]
    cases hcut : cutTimeout current tokens with
    | none => simp [setTimeout_none hcut]
    | some cut =>
      obtain ⟨front, back⟩ := cut
      obtain ⟨rfl, hset⟩ := setTimeout_some "600" hcut
      rw [hset]
      cases hfront : createArgs front with
      | none => simp [hfront, bladeArgs_timeout_front hfront hdigits]
      | some args =>
        rw [bladeArgs_timeout_behind hfront hdigits,
            bladeArgs_timeout_behind hfront (digits_600 db)]
        cases hwaits : waits "--timeout" false args with
        | false => simp [hfront, hwaits, suits_raised current hwaits]
        | true =>
          simp [hfront, hwaits, timeouts_of_waits hwaits hdigits,
              timeouts_of_waits hwaits (digits_600 db)]

/-! ## Both -/

def Call.Meets (reader : Reader db) : Call → Prop
  | .create bladePath kubeconfigPath r => CreateMeets reader bladePath (createLine kubeconfigPath r)
  | .exec vArgs => ∀ line, reader.bladeArgs (Shlex.splitArgs vArgs) = some line →
      ExecMeets reader (editArgs "exec" vArgs) (timeouts line)

/-- The line that is run has a suitable timeout exactly if the tool writes the last one and
nothing above the minimum is asked for, or leaves one alone that suits. -/
theorem keepsDuration_iff (reader : Reader db) (call : Call) :
    KeepsDuration reader call ↔ call.Meets reader := by
  unfold KeepsDuration
  simp only [Call.recommended_eq]
  cases call with
  | create bladePath kubeconfigPath r =>
    rw [Call.Meets, ← create_keeps_iff]
    constructor
    · exact fun h => h _ rfl
    · rintro h line hline
      cases hline
      exact h
  | exec vArgs => exact forall₂_congr fun line _ => exec_keeps_iff vArgs (timeouts line)

end

def plainReader : Reader asciiDb where
  int := pyInt asciiDb
  int_written := by decide +kernel
  int_agrees h := h
  inner _ := none
  inner_plain _ := rfl

def twentyMinutes : BladeArgs :=
  { scope := "pod", target := "cpu", action := "fullload", names := "web"
    flags := "--timeout=1200" }

def thirtySeconds : String :=
  "tool -n chaosblade -- blade create k8s pod-cpu fullload --timeout=30"

/-- The caller's twenty minutes become ten, and their thirty seconds stay. -/
theorem joined_timeout_missed : ¬ KeepsDuration plainReader (.create "blade" "" twentyMinutes) ∧
    ¬ KeepsDuration plainReader (.exec thirtySeconds) := by
  constructor
  · intro h
    obtain ⟨ran, hran, value, n, hlast, hint, -, hasked⟩ := h _ rfl
    have hrun : (Call.create "blade" "" twentyMinutes).run plainReader =
        .ok (some ["k8s", "pod-cpu",
        "fullload", "--names", "web", "--timeout=1200", "--timeout", "600"]) := by decide +kernel
    rw [hrun] at hran
    cases hran
    obtain rfl : "600" = value := some.inj (Eq.trans (by decide +kernel) hlast)
    obtain rfl : 600 = n := some.inj (plainReader.int_written.symm.trans hint)
    exact absurd (hasked 1200 (by decide +kernel)) (by decide)
  · intro h
    obtain ⟨ran, hran, value, n, hlast, hint, hfloor, -⟩ :=
      h ["k8s", "pod-cpu", "fullload", "--timeout=30"] (by decide +kernel)
    have hrun : (Call.exec thirtySeconds).run plainReader =
        .ok (some ["k8s", "pod-cpu", "fullload", "--timeout=30"]) := by decide +kernel
    rw [hrun] at hran
    cases hran
    obtain rfl : "30" = value := some.inj (Eq.trans (by decide +kernel) hlast)
    obtain rfl : 30 = n := some.inj (Eq.trans (by decide +kernel) hint)
    exact absurd hfloor (by decide +kernel)

end ChaosBlade.Tools
