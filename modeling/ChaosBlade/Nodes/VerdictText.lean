/-
Nodes.VerdictText: what the two verifiers share in reading a
verdict from a text: `nodes/_verifier_shared.py` and the checklist
patterns of both parsers.

A status is looked for as a word on a line, negated or not. The words are
tried in a fixed order over the whole line, so one in the details can be
read instead of the status. A checklist is found by three patterns, tried
one after the other over the whole section; a step number that has been
seen is not taken again.
-/
import ChaosBlade.Py.JsonDecode
import ChaosBlade.Py.Regex
import ChaosBlade.Py.Text
import Mathlib.Data.List.Find

namespace ChaosBlade.Nodes

open Py

/-! ## Status words -/

def hasNegativePrefix (text keyword : String) : Bool :=
  match splitOnce keyword text with
  | none => false
  | some (before, _) => before ≠ "" && (endsWith (rstrip before) "not" ||
      endsWith (rstrip before) "un")

def statusKeywords : List String :=
  ["recovered_before_observation", "passed", "failed", "skipped", "partial"]

def statusMeaning (text keyword : String) : String :=
  if hasNegativePrefix text keyword then
    if keyword = "passed" ∨ keyword = "skipped" then "failed" else "passed"
  else keyword

def parseStatusKeyword (text : String) : String :=
  match statusKeywords.find? (hasSub · text) with
  | some keyword => statusMeaning text keyword
  | none => "unknown"

def lineAfter (sep text : String) : Option String :=
  (splitOnce sep text).map fun r => beforeChar '\n' r.2

def statusDetails (keywords : List String) (line : String) : String :=
  match keywords.findSome? fun keyword => splitOnce keyword line with
  | some (_, after) => lstripChars "-: " (strip after)
  | none => ""

def saidLayer2 (low : String) : String :=
  ((lineAfter "layer2" low).map parseStatusKeyword).getD "unknown"

def declaredFlag (label text : String) : Option Bool := (lineAfter label text).map (hasSub "true")

/-! ### What a verdict declares

The parsers look for the word `true` on the line of a flag, and the arguments of a tool call are
judged by their truth. A reader goes by the value: what stands first behind the label, and a text
such as `'false'` for the value false. -/

def denials : List String := ["false", "no", "not", "n", "f", "off", "0"]

def saysNo (text : String) : Bool :=
  denials.contains (String.ofList
    (((lower text).toList.dropWhile fun c => !c.isAlphanum).takeWhile Char.isAlphanum))

def deniedValue : Json → Bool
  | .bool b => !b
  | .str text => saysNo text
  | v => v.eqInt 0

def deniesEvidence (content : String) : Bool :=
  (lineAfter "primaryevidenceobserved:" (lower content)).any fun line =>
    !hasSub "true" line || saysNo line

def hasWarningsLine (text : String) : Bool :=
  (splitChar '\n' text).any fun line =>
    startsWith (strip line) "warnings:" && !hasSub "none" (strip line)

/-! ## Checklists -/

structure StepItem where
  step : Int
  status : String
  evidence : Option String := none

def StepItem.toJson (item : StepItem) : Json :=
  .obj ([("step", .int item.step), ("status", .str item.status)] ++
    match item.evidence with
    | some text => [("evidence", .str text)]
    | none => [])

open Regex in
def statusMark (statuses : List String) : Regex :=
  all [many space, opt (lit "["), group 2 (words statuses), opt (lit "]")]

open Regex in
/-- The three patterns, for the status words and what may follow a status: `Step N: status`,
`[SKIPPED] Step N` and `N. status`. -/
def checklistPatterns (db : CharDb) (statuses : List String) (tail : Regex) : List Regex :=
  [all [alt (word "step") (word "check"), many space, group 1 (oneOrMore (digit db)), many space,
      oneOf ":.)", statusMark statuses, tail],
    all [notBehind [isSpace, (".:)".toList.contains ·), db.isDigit], word "[skipped]", many space,
      opt (seq (word "step") (many space)), opt (group 1 (oneOrMore (digit db)))],
    all [lineStart, many space, group 1 (oneOrMore (digit db)), many space, oneOf ".:)",
      statusMark statuses, tail]]

/-- The steps found so far, and the texts of their numbers. -/
structure Checked where
  seen : List String := []
  items : List StepItem := []

def Checked.add (db : CharDb) (c : Checked) (m : Regex.Match) : Checked :=
  let skipped := hasSub "[skipped]" (lower m.text)
  let number := match m.group 1 with
    | some text => text
    | none => toString (c.seen.length + 1)
  if c.seen.contains number then c
  else
    { seen := c.seen ++ [number]
      items := c.items ++ [{
        step := (pyInt db number).getD (c.items.length + 1)
        status := if skipped then "skipped" else lower ((m.group 2).getD "")
        evidence := (m.group 3).map strip }] }

def checklistSection (label stop text : String) : String :=
  match splitOnce label text with
  | none => text
  | some (_, remainder) => match splitOnce stop remainder with
    | some (sect, _) => sect
    | none => remainder

def checklistItems (db : CharDb) (patterns : List Regex) (sect : String) : List StepItem :=
  (patterns.foldl (fun c r => (Regex.finditer r sect).foldl (Checked.add db) c) {}).items

/-! ## Reading a verification -/

def layerOf (layer : String) (v : Json) : Option Json := (v.field? layer).bind (·.field? "status")

def asList : Json → List Json
  | .arr items => items
  | _ => []

def listField (v : Json) (k : String) : List Json := asList ((v.field? k).getD .null)

open List Option

def statusLine (label : Option String) (status details : String) : String :=
  (label.map (· ++ ": ")).getD "" ++ status ++ " - " ++ details

def lead (label : Option String) : List Char := (label.map fun p => p.toList ++ [':', ' ']).getD []

theorem statusLine_toList (label : Option String) (status details : String) :
    (statusLine label status details).toList =
      lead label ++ status.toList ++ [' ', '-'] ++ ' ' :: details.toList := by
  cases label <;> simp [statusLine, lead]

def Plain (label : Option String) : Prop :=
  ∀ p ∈ label, ∀ keyword ∈ statusKeywords, hasSub keyword p = false

theorem blank_not_mem : ∀ keyword ∈ statusKeywords, ' ' ∉ keyword.toList := by decide

theorem colon_not_mem : ∀ keyword ∈ statusKeywords, ':' ∉ keyword.toList := by decide

theorem not_infix_dash : ∀ keyword ∈ statusKeywords, hasSubList keyword.toList ['-'] = false :=
  by decide

theorem statusKeyword_ne_nil : ∀ keyword ∈ statusKeywords, keyword.toList ≠ [] := by decide

theorem infix_statusKeyword_iff : ∀ keyword ∈ statusKeywords, ∀ status ∈ statusKeywords,
    keyword.toList <:+: status.toList ↔ keyword = status := by
  intro keyword hk status hs
  rw [← hasSubList_iff]
  revert keyword status
  decide

section

variable {label : Option String} {status keyword : String}

theorem not_infix_lead (hlabel : Plain label) (hk : keyword ∈ statusKeywords) :
    ¬ keyword.toList <:+: lead label := by
  have hne := statusKeyword_ne_nil keyword hk
  cases label with
  | none => simpa [lead] using hne
  | some p =>
    have hp : ¬ keyword.toList <:+: p.toList := hasSub_eq_false_iff.mp (hlabel p rfl keyword hk)
    rw [lead, map_some, getD_some, infix_seam (colon_not_mem keyword hk)]
    rintro (h | h)
    · exact hp h
    · rw [show [' '] = [] ++ ' ' :: [] from rfl, infix_seam (blank_not_mem keyword hk)] at h
      simp [hne] at h

theorem infix_front_iff (hlabel : Plain label) (hs : status ∈ statusKeywords)
    (hk : keyword ∈ statusKeywords) :
    keyword.toList <:+: lead label ++ status.toList ++ [' ', '-'] ↔ keyword = status := by
  have hblank := blank_not_mem keyword hk
  have hdash : ¬ keyword.toList <:+: ['-'] := by
    rw [← hasSubList_iff, not_infix_dash keyword hk]
    decide
  rw [infix_seam hblank, or_iff_left hdash, ← infix_statusKeyword_iff keyword hk status hs]
  cases label with
  | none => simp [lead]
  | some p =>
    have hlead := not_infix_lead hlabel hk
    rw [lead, map_some, getD_some] at hlead ⊢
    have hsplit : p.toList ++ [':', ' '] ++ status.toList = (p.toList ++ [':']) ++
        ' ' :: status.toList := by
      simp
    rw [hsplit, infix_seam hblank]
    refine or_iff_right fun h => hlead (h.trans ?_)
    exact ⟨[], [' '], by simp⟩

theorem hasSub_statusLine (hlabel : Plain label) (hs : status ∈ statusKeywords)
    (hk : keyword ∈ statusKeywords) (details : String) :
    hasSub keyword (statusLine label status details) = true ↔
      keyword = status ∨ hasSub keyword details = true := by
  unfold hasSub
  rw [hasSubList_iff, hasSubList_iff, statusLine_toList, infix_seam (blank_not_mem keyword hk),
    infix_front_iff hlabel hs hk]

/-! ## Negation -/

def endsNegated (cs : List Char) : Bool :=
  ["not".toList, "un".toList].any fun w => w.isSuffixOf (cs.rdropWhile isSpace)

theorem hasNegativePrefix_eq (text keyword : String) : hasNegativePrefix text keyword =
      (splitAt keyword.toList text.toList).any fun r => endsNegated r.1 := by
  unfold hasNegativePrefix splitOnce
  cases splitAt keyword.toList text.toList with
  | none => rfl
  | some r =>
    obtain ⟨before, after⟩ := r
    cases before with
    | nil => rfl
    | cons c before => simp [endsNegated, endsWith, rstrip]

theorem endsNegated_mark {c : Char} (hc : c = ':' ∨ c = '-') (front cs : List Char) :
    endsNegated (front ++ c :: ' ' :: cs) = endsNegated cs := by
  have hspace : isSpace c = false := by rcases hc with rfl | rfl <;> decide
  have hword : ∀ w ∈ ["not".toList, "un".toList], c ∉ w ∧ ' ' ∉ w := by
    rcases hc with rfl | rfl <;> decide
  unfold endsNegated
  rw [Bool.eq_iff_iff, List.any_eq_true, List.any_eq_true]
  refine exists_congr fun w => and_congr_right fun hw => ?_
  rw [isSuffixOf_iff_suffix, isSuffixOf_iff_suffix,
    suffix_rdropWhile_mark hspace (hword w hw).1 (hword w hw).2]

theorem hasNegativePrefix_status (hlabel : Plain label) (hs : status ∈ statusKeywords)
    (details : String) :
    hasNegativePrefix (statusLine label status details) status = false := by
  have hne := statusKeyword_ne_nil status hs
  rw [hasNegativePrefix_eq, statusLine_toList, append_assoc, append_assoc]
  cases label with
  | none =>
    rw [lead, map_none, getD_none, nil_append, splitAt_append_self hne]
    rfl
  | some p =>
    have hlead : ¬ status.toList <:+: p.toList ++ [':'] := fun h =>
      not_infix_lead hlabel hs (h.trans ⟨[], [' '], by simp [lead]⟩)
    have hsplit : lead (some p) ++ (status.toList ++ ([' ', '-'] ++ ' ' :: details.toList)) =
        (p.toList ++ [':']) ++ ' ' :: (status.toList ++ ([' ', '-'] ++ ' ' :: details.toList)) := by
      simp [lead]
    rw [hsplit, splitAt_seam (blank_not_mem status hs) hne _ hlead, splitAt_append_self hne]
    have hmark := endsNegated_mark (.inl rfl) p.toList []
    rw [show endsNegated [] = false by decide] at hmark
    simpa using hmark

theorem hasNegativePrefix_details (hlabel : Plain label) (hs : status ∈ statusKeywords)
    (hk : keyword ∈ statusKeywords) (hne : keyword ≠ status) (details : String) :
    hasNegativePrefix (statusLine label status details) keyword =
        hasNegativePrefix details keyword := by
  have hfront := mt (infix_front_iff hlabel hs hk).mp hne
  rw [hasNegativePrefix_eq, hasNegativePrefix_eq, statusLine_toList,
    splitAt_seam (blank_not_mem keyword hk) (statusKeyword_ne_nil keyword hk) _ hfront]
  cases splitAt keyword.toList details.toList with
  | none => rfl
  | some r => simpa using endsNegated_mark (.inr rfl) (lead label ++ (status.toList ++ [' '])) r.1

/-! ## The status -/

def SameInDetails (status details : String) : Prop :=
  (∀ keyword ∈ statusKeywords.takeWhile (· ≠ status), hasSub keyword details = false) ∨
  status = "passed" ∧ hasSub "recovered_before_observation" details = true ∧
    hasNegativePrefix details "recovered_before_observation" = true ∨
  status = "failed" ∧ hasSub "recovered_before_observation" details = false ∧
    hasSub "passed" details = true ∧ hasNegativePrefix details "passed" = true

theorem find?_or_eq {s : String} {q : String → Bool} : ∀ {l : List String}, s ∈ l →
    l.find? (fun k => k == s || q k) = some (((l.takeWhile (· ≠ s)).find? q).getD s)
  | k :: l, h => by
    by_cases hk : k = s
    · simp [hk]
    · have hrest : s ∈ l := (mem_cons.mp h).resolve_left fun heq => hk heq.symm
      rw [List.find?_cons, takeWhile_cons_of_pos (by simpa using hk), List.find?_cons]
      cases hq : q k with
      | true => simp
      | false => simpa [beq_eq_false_iff_ne.mpr hk] using find?_or_eq hrest

def readWord (status details : String) : String :=
  ((statusKeywords.takeWhile (· ≠ status)).find? (hasSub · details)).getD status

theorem parseStatusKeyword_statusLine (hlabel : Plain label) (hs : status ∈ statusKeywords)
    (details : String) : parseStatusKeyword (statusLine label status details) =
      statusMeaning (statusLine label status details) (readWord status details) := by
  have hfind : statusKeywords.find? (hasSub · (statusLine label status details)) =
      some (readWord status details) := by
    rw [readWord, ← find?_or_eq hs]
    refine List.find?_congr fun keyword hk => ?_
    rw [Bool.eq_iff_iff, hasSub_statusLine hlabel hs hk, Bool.or_eq_true, beq_iff_eq]
  rw [parseStatusKeyword, hfind]

theorem statusMeaning_eq_iff (hlabel : Plain label) (hs : status ∈ statusKeywords)
    (hk : keyword ∈ statusKeywords) (hne : keyword ≠ status) (details : String) :
    statusMeaning (statusLine label status details) keyword = status ↔
      hasNegativePrefix details keyword = true ∧
        status = if keyword = "passed" ∨ keyword = "skipped" then "failed" else "passed" := by
  rw [statusMeaning, hasNegativePrefix_details hlabel hs hk hne]
  cases hasNegativePrefix details keyword with
  | true => simp [eq_comm]
  | false => simp [hne]

theorem sameInDetails_iff {details : String} (hs : status ∈ statusKeywords)
    (hfind : (statusKeywords.takeWhile (· ≠ status)).find? (fun k => hasSub k details) =
        some keyword) :
    SameInDetails status details ↔ hasNegativePrefix details keyword = true ∧
      status = if keyword = "passed" ∨ keyword = "skipped" then "failed" else "passed" := by
  have hsome : ¬ ∀ k ∈ statusKeywords.takeWhile (· ≠ status), hasSub k details = false :=
      fun hnone => by
    simpa [hnone keyword (List.mem_of_find?_eq_some hfind)] using List.find?_some hfind
  rw [SameInDetails, or_iff_right hsome]
  clear hsome
  simp only [statusKeywords, mem_cons, not_mem_nil, or_false] at hs
  -- the words that are looked for before the status
  rcases hs with rfl | rfl | rfl | rfl | rfl
  · have hbefore : statusKeywords.takeWhile (· ≠ "recovered_before_observation") = [] := by decide
    rw [hbefore] at hfind
    cases hfind
  · have hbefore : statusKeywords.takeWhile (· ≠ "passed") = ["recovered_before_observation"] :=
      by decide
    rw [hbefore] at hfind
    cases h1 : hasSub "recovered_before_observation" details <;> simp [h1] at hfind
    subst hfind
    simp
  · have hbefore : statusKeywords.takeWhile (· ≠ "failed") =
        ["recovered_before_observation", "passed"] := by decide
    rw [hbefore] at hfind
    cases h1 : hasSub "recovered_before_observation" details <;>
      cases h2 : hasSub "passed" details <;> simp [h1, h2] at hfind
    all_goals
      subst hfind
      simp
  · split <;> simp
  · split <;> simp

theorem parseStatusKeyword_eq_iff (hlabel : Plain label) (hs : status ∈ statusKeywords)
    (details : String) :
    parseStatusKeyword (statusLine label status details) = status ↔
        SameInDetails status details := by
  rw [parseStatusKeyword_statusLine hlabel hs, readWord]
  cases hfind : (statusKeywords.takeWhile (· ≠ status)).find? (fun k => hasSub k details) with
  | none =>
    rw [getD_none, statusMeaning, hasNegativePrefix_status hlabel hs]
    refine iff_of_true (by simp) (.inl fun keyword hk => ?_)
    simpa using List.find?_eq_none.mp hfind keyword hk
  | some keyword =>
    have hbefore := List.mem_of_find?_eq_some hfind
    have hk : keyword ∈ statusKeywords := (takeWhile_sublist _).subset hbefore
    have hne : keyword ≠ status := by simpa using mem_takeWhile_imp hbefore
    rw [getD_some, statusMeaning_eq_iff hlabel hs hk hne, sameInDetails_iff hs hfind]

end

/-- The status of a line is the one that is read, by the reader of words and by both
parsers of verdicts on their Layer 2 line. -/
structure StatusDecides (label : Option String) (status details : String) : Prop where
  word : parseStatusKeyword (statusLine label status details) = status
  parsers : ∀ text, lineAfter "layer2" (lower text) = some (statusLine label status details) →
    saidLayer2 (lower text) = status

/-- The status of a line decides exactly if the details say nothing else. -/
theorem statusDecides_iff (label : Option String) (status details : String) (hlabel : Plain label)
    (hs : status ∈ statusKeywords) :
    StatusDecides label status details ↔ SameInDetails status details := by
  rw [← parseStatusKeyword_eq_iff hlabel hs]
  refine ⟨StatusDecides.word, fun hword => ⟨hword, fun text hline => ?_⟩⟩
  rw [saidLayer2, hline, map_some, getD_some, hword]

theorem passed_decides : Plain (some "") ∧ "passed" ∈ statusKeywords ∧
    StatusDecides (some "") "passed" "1 step skipped, the others not failed" := by
  have hlabel : Plain (some "") := by
    intro p hp
    obtain rfl := some.inj hp
    decide
  have hs : "passed" ∈ statusKeywords := by decide
  exact ⟨hlabel, hs, (statusDecides_iff _ _ _ hlabel hs).mpr (.inl (by decide))⟩

/-- A failure is read as a success if its details name one. -/
theorem failed_read_as_passed :
    parseStatusKeyword (statusLine (some "") "failed" "2 of 3 checks passed") = "passed" ∧
    saidLayer2 (lower "Layer2: failed - 2 of 3 checks passed") = "passed" ∧
    ¬ StatusDecides (some "") "failed" "2 of 3 checks passed" := by
  have hword : parseStatusKeyword (statusLine (some "") "failed" "2 of 3 checks passed") =
      "passed" := by
    decide
  refine ⟨hword, by decide, fun h => ?_⟩
  exact absurd (hword.symm.trans h.word) (by decide)

end ChaosBlade.Nodes
