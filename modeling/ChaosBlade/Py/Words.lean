/-
Py.Words: text made of plain words and blanks, and what
tokenising and stripping do to it.

`Words cs ws` says that the text `cs` is the words `ws` separated by
blanks, with no quote and no backslash anywhere. On such a text the shell
lexer returns the words.
-/
import ChaosBlade.Py.Re
import ChaosBlade.Py.Shlex
import ChaosBlade.Py.StrTheorems

namespace ChaosBlade.Py

open List Option Re

open Shlex (isBlank)

variable {w : List Char} {s : String}

structure PlainWord (w : List Char) : Prop where
  ne_nil : w ≠ []
  noSpace : ∀ c ∈ w, isSpace c = false
  noQuote : ∀ c ∈ w, c ≠ '\'' ∧ c ≠ '"' ∧ c ≠ '\\'

def AtBlank (cs : List Char) : Prop := ∀ c ∈ cs.head?, isBlank c = true

inductive Words : List Char → List (List Char) → Prop
  | nil : Words [] []
  | blank {c : Char} {cs : List Char} {ws : List (List Char)} (hc : isBlank c = true)
      (h : Words cs ws) : Words (c :: cs) ws
  | word {w cs : List Char} {ws : List (List Char)} (hw : PlainWord w) (hcs : AtBlank cs)
      (h : Words cs ws) : Words (w ++ cs) (w :: ws)

variable {c : Char}

theorem isSpace_of_isBlank (h : isBlank c = true) : isSpace c = true := by
  have hc : c = ' ' ∨ c = '\t' ∨ c = '\r' ∨ c = '\n' := by simpa [isBlank] using h
  rcases hc with rfl | rfl | rfl | rfl <;> decide

theorem atBlank_cons (hc : isBlank c = true) (cs : List Char) : AtBlank (c :: cs) := by
  intro d hd
  rw [List.head?_cons, mem_some_iff] at hd
  rw [← hd]
  exact hc

variable {ws : List (List Char)} {cs : List Char}

/-! ## The shell lexer -/

theorem isBlank_eq_false (h : isSpace c = false) : isBlank c = false := by
  rw [Bool.eq_false_iff]
  intro hb
  rw [isSpace_of_isBlank hb] at h
  cases h

theorem lex_word_append (hs : ∀ c ∈ w, isBlank c = false)
    (hq : ∀ c ∈ w, c ≠ '\'' ∧ c ≠ '"' ∧ c ≠ '\\') (tok cs : List Char) :
    Shlex.lex .word tok false (w ++ cs) = Shlex.lex .word (w.reverse ++ tok) false cs := by
  induction w generalizing tok with
  | nil => rfl
  | cons c w ih =>
    obtain ⟨h1, h2, h3⟩ := hq c mem_cons_self
    rw [cons_append, Shlex.lex]
    simp only [hs c mem_cons_self, h1, h2, h3]
    rw [ih (fun d hd => hs d (mem_cons_of_mem _ hd)) (fun d hd => hq d (mem_cons_of_mem _ hd))]
    simp

theorem atBlank_nil : AtBlank [] := fun c hc => by cases hc

variable {r : List Char}

theorem AtBlank.append (hcs : AtBlank cs) (hr : AtBlank r) : AtBlank (cs ++ r) := by
  cases cs with
  | nil => exact hr
  | cons c cs => exact hcs

theorem lex_words_append (h : Words cs ws) (hr : AtBlank r) :
    Shlex.lex .blank [] false (cs ++ r) = (Shlex.lex .blank [] false r).map (ws ++ ·) := by
  induction h with
  | nil => simp
  | blank hc _ ih =>
    rw [cons_append, Shlex.lex]
    simp only [hc]
    exact ih
  | @word w cs ws hw hcs _ ih =>
    obtain ⟨c, w, rfl⟩ := exists_cons_of_ne_nil hw.ne_nil
    have hb : isBlank c = false := isBlank_eq_false (hw.noSpace c mem_cons_self)
    obtain ⟨h1, h2, h3⟩ := hw.noQuote c mem_cons_self
    rw [cons_append, cons_append, Shlex.lex]
    simp only [hb, h1, h2, h3]
    rw [append_assoc, lex_word_append
      (fun d hd => isBlank_eq_false (hw.noSpace d (mem_cons_of_mem _ hd)))
      (fun d hd => hw.noQuote d (mem_cons_of_mem _ hd))]
    have hemit : Shlex.emit (w.reverse ++ [c]) false = ((c :: w) :: ·) := by
      funext more
      simp [Shlex.emit]
    have hrest : AtBlank (cs ++ r) := hcs.append hr
    cases hcr : cs ++ r with
    | nil =>
      rw [hcr] at ih
      have hws : ws = [] ∧ r = [] := by
        obtain ⟨-, rfl⟩ := append_eq_nil_iff.mp hcr
        simpa [Shlex.lex] using ih
      simp [Shlex.lex, hemit, hws.1, hws.2]
    | cons b more =>
      have hbb : isBlank b = true := hrest b (by simp [hcr])
      rw [hcr, Shlex.lex] at ih
      simp only [hbb, if_true] at ih
      rw [Shlex.lex]
      simp only [hbb, ih, hemit, Option.map_map]
      rfl

theorem lex_words (h : Words cs ws) : Shlex.lex .blank [] false cs = some ws := by
  simpa [Shlex.lex] using lex_words_append h atBlank_nil

theorem splitArgs_words (h : Words s.toList ws) : Shlex.splitArgs s = ws.map String.ofList := by
  unfold Shlex.splitArgs Shlex.split
  rw [lex_words h]
  rfl

/-! ## A front of words -/

theorem splitWsGo_word (hw : ∀ c ∈ w, isSpace c = false) (cur r : List Char) :
    splitWsGo (w ++ r) cur = splitWsGo r (w.reverse ++ cur) := by
  induction w generalizing cur with
  | nil => rfl
  | cons c w ih =>
    have hc : isSpace c = false := hw c mem_cons_self
    have hstep : splitWsGo (c :: (w ++ r)) cur = splitWsGo (w ++ r) (c :: cur) := by
      cases cur <;> simp [splitWsGo, hc]
    rw [cons_append, hstep, ih fun d hd => hw d (mem_cons_of_mem _ hd)]
    simp

theorem splitWsGo_word_append (hne : w ≠ []) (hw : ∀ c ∈ w, isSpace c = false)
    (hr : ∀ c ∈ r.head?, isSpace c = true) : splitWsGo (w ++ r) [] = w :: splitWsGo r [] := by
  rw [splitWsGo_word hw, append_nil]
  obtain ⟨c, cs, hrev⟩ := exists_cons_of_ne_nil (List.reverse_ne_nil_iff.mpr hne)
  have hback : (c :: cs).reverse = w := by rw [← hrev, reverse_reverse]
  rw [hrev]
  cases r with
  | nil => simp [splitWsGo, hback]
  | cons b r =>
    have hb : isSpace b = true := hr b (by simp)
    simp [splitWsGo, hb, hback]

/-! ## Joining words -/

instance (w : List Char) : Decidable (PlainWord w) :=
  decidable_of_iff (w ≠ [] ∧ (∀ c ∈ w, isSpace c = false) ∧ ∀ c ∈ w, c ≠ '\'' ∧ c ≠ '"' ∧ c ≠ '\\')
    ⟨fun h => ⟨h.1, h.2.1, h.2.2⟩, fun h => ⟨h.ne_nil, h.noSpace, h.noQuote⟩⟩

theorem toList_join_cons (w v : String) (ws : List String) :
    (join " " (w :: v :: ws)).toList = w.toList ++ ' ' :: (join " " (v :: ws)).toList := by
  simp [join]

theorem words_join : ∀ {ws : List String}, (∀ w ∈ ws, PlainWord w.toList) →
    Words (join " " ws).toList (ws.map String.toList)
  | [], _ => .nil
  | [w], h => by
    have hword : Words (w.toList ++ []) [w.toList] :=
      .word (h w mem_cons_self) (fun c hc => by cases hc) .nil
    simpa [join, List.intercalate] using hword
  | w :: v :: ws, h => by
    obtain ⟨hw, hrest⟩ := forall_mem_cons.mp h
    rw [toList_join_cons]
    exact .word hw (atBlank_cons (by decide) _) (.blank (by decide) (words_join hrest))

theorem splitArgs_join {ws : List String} (h : ∀ w ∈ ws, PlainWord w.toList) :
    Shlex.splitArgs (join " " ws) = ws := by
  rw [splitArgs_words (words_join h), List.map_map]
  simp

theorem hasSub_join_of_mem {w : String} : ∀ {ws : List String}, w ∈ ws →
    hasSub w (join " " ws) = true
  | [], h => by cases h
  | [v], h => by
    rw [mem_singleton.mp h]
    simp [hasSub, hasSubList_iff, join, List.intercalate]
  | v :: u :: ws, h => by
    unfold hasSub
    rw [hasSubList_iff, toList_join_cons]
    rcases mem_cons.mp h with rfl | h
    · exact infix_append [] _ _
    · have hrest := hasSub_join_of_mem h
      unfold hasSub at hrest
      rw [hasSubList_iff] at hrest
      exact hrest.trans ⟨v.toList ++ [' '], [], by simp⟩

/-! ## The first word -/

theorem emit_of_ne {tok : List Char} (h : tok ≠ []) (quoted : Bool) (more : List (List Char)) :
    Shlex.emit tok quoted more = tok.reverse :: more := by simp [Shlex.emit, h]

def StartsNext (tok : List Char) (ts : List (List Char)) : Prop :=
  ∃ t more, ts = t :: more ∧ tok.reverse <+: t

theorem StartsNext.of_longer (extra : List Char) {tok : List Char} {ts : List (List Char)}
    (h : StartsNext (extra ++ tok) ts) : StartsNext tok ts := by
  obtain ⟨t, more, rfl, hpre⟩ := h
  rw [reverse_append] at hpre
  exact ⟨t, more, rfl, (prefix_append _ _).trans hpre⟩

theorem lex_starts : ∀ {st : Shlex.LexState} {tok : List Char} {quoted : Bool}
    {ts : List (List Char)}, st ≠ .blank → tok ≠ [] → Shlex.lex st tok quoted cs = some ts →
      StartsNext tok ts := by
  induction cs with
  | nil =>
    intro st tok quoted ts hst htok h
    cases st with
    | blank => exact absurd rfl hst
    | word =>
      rw [Shlex.lex, emit_of_ne htok] at h
      cases h
      exact ⟨tok.reverse, [], rfl, prefix_refl _⟩
    | _ => cases h
  | cons c cs ih =>
    intro st tok quoted ts hst htok h
    have hlonger : ∀ (extra : List Char) {st' q}, st' ≠ Shlex.LexState.blank →
        Shlex.lex st' (extra ++ tok) q cs = some ts → StartsNext tok ts := fun extra _ _ hst' h' =>
      (ih hst' (by simp [htok]) h').of_longer extra
    cases st with
    | blank => exact absurd rfl hst
    | word =>
      rw [Shlex.lex] at h
      split at h
      · obtain ⟨more, -, hts⟩ := map_eq_some_iff.mp h
        rw [emit_of_ne htok] at hts
        exact ⟨tok.reverse, more, hts.symm, prefix_refl _⟩
      split at h
      · exact ih (by simp) htok h
      split at h
      · exact ih (by simp) htok h
      split at h
      · exact ih (by simp) htok h
      · exact hlonger [c] (by simp) h
    | singleQuote =>
      rw [Shlex.lex] at h
      split at h
      · exact ih (by simp) htok h
      · exact hlonger [c] (by simp) h
    | doubleQuote =>
      rw [Shlex.lex] at h
      split at h
      · exact ih (by simp) htok h
      split at h
      · exact ih (by simp) htok h
      · exact hlonger [c] (by simp) h
    | escape back =>
      cases back with
      | word => exact hlonger [c] (by simp) h
      | doubleQuote =>
        rw [Shlex.lex] at h
        split at h
        · exact hlonger [c] (by simp) h
        · exact hlonger [c, '\\'] (by simp) h

theorem splitWsGo_starts : ∀ {cur : List Char}, cur ≠ [] → StartsNext cur (splitWsGo cs cur) := by
  induction cs with
  | nil =>
    intro cur hcur
    cases cur with
    | nil => exact absurd rfl hcur
    | cons c cur => exact ⟨(c :: cur).reverse, [], rfl, prefix_refl _⟩
  | cons d cs ih =>
    intro cur hcur
    cases cur with
    | nil => exact absurd rfl hcur
    | cons c cur =>
      simp only [splitWsGo]
      split
      · exact ⟨_, _, rfl, prefix_refl _⟩
      · exact (ih (cons_ne_nil d (c :: cur))).of_longer [d]

theorem splitArgs_dashes (hs : s.toList = '-' :: '-' :: cs) :
    ∃ t more, Shlex.splitArgs s = t :: more ∧ startsWith t "--" = true := by
  have hfirst : ∀ {ts : List (List Char)}, StartsNext ['-', '-'] ts →
      ∃ t more, ts.map String.ofList = t :: more ∧ startsWith t "--" = true := by
    rintro ts ⟨t, more, rfl, hpre⟩
    refine ⟨String.ofList t, more.map String.ofList, rfl, ?_⟩
    rw [startsWith_iff]
    simpa using hpre
  unfold Shlex.splitArgs
  cases hsplit : Shlex.split s with
  | none =>
    have hws : splitWsGo s.toList [] = splitWsGo cs ['-', '-'] := by rw [hs]; rfl
    rw [getD_none, splitWs, hws]
    exact hfirst (splitWsGo_starts (by simp))
  | some words =>
    rw [Shlex.split, hs] at hsplit
    obtain ⟨ts, hts, rfl⟩ := map_eq_some_iff.mp hsplit
    have hword : Shlex.lex .word ['-', '-'] false cs = some ts := hts
    exact hfirst (lex_starts (by simp) (by simp) hword)

/-! ## Stripping -/

theorem rdropWhile_append (hw : ∀ c ∈ w, isSpace c = false) :
    (w ++ cs).rdropWhile isSpace = w ++ cs.rdropWhile isSpace := by
  unfold List.rdropWhile
  rw [reverse_append, dropWhile_append]
  have hkeep : w.reverse.dropWhile isSpace = w.reverse := by
    rw [dropWhile_eq_self_iff]
    intro hlen hsp
    rw [hw _ (List.mem_reverse.mp (getElem_mem _))] at hsp
    cases hsp
  split
  · next hempty =>
    rw [hkeep, List.isEmpty_iff.mp hempty]
    simp
  · simp

end ChaosBlade.Py
