/-
Py.Text: `str.replace` and `str.split` with a separator of
several characters, and the lines of a text.

All of them look for occurrences from the left and do not let two
overlap, `rsplit` apart, which looks for the last one. The text to look
for is never empty in the source. `rstrip`, `lstrip` and `endswith` cut or
look at one side.
-/
import ChaosBlade.Py.StrTheorems
import Mathlib.Data.List.Induction

namespace ChaosBlade.Py

/-- Replace every occurrence from a position on; `skip` characters of the
current occurrence are left. -/
def replaceFrom (old new : List Char) : Nat → List Char → List Char
  | _, [] => []
  | skip + 1, _ :: cs => replaceFrom old new skip cs
  | 0, c :: cs =>
    if old.isPrefixOf (c :: cs) then new ++ replaceFrom old new (old.length - 1) cs
    else c :: replaceFrom old new 0 cs

def replace (old new s : String) : String :=
  String.ofList (replaceFrom old.toList new.toList 0 s.toList)

def splitAt (sep : List Char) : List Char → Option (List Char × List Char)
  | [] => none
  | c :: cs =>
    if sep.isPrefixOf (c :: cs) then some ([], (c :: cs).drop sep.length)
    else (splitAt sep cs).map fun r => (c :: r.1, r.2)

def splitOnce (sep s : String) : Option (String × String) :=
  (splitAt sep.toList s.toList).map fun r => (String.ofList r.1, String.ofList r.2)

def afterLast (sep s : String) : Option String :=
  (splitAt sep.toList.reverse s.toList.reverse).map fun r => String.ofList r.1.reverse

def replaceFirst (old new s : String) : String :=
  match splitOnce old s with
  | some (before, after) => before ++ new ++ after
  | none => s

def rstrip (s : String) : String := String.ofList (s.toList.rdropWhile isSpace)

def lstripChars (chars s : String) : String :=
  String.ofList (s.toList.dropWhile chars.toList.contains)

def isLineBreak (c : Char) : Bool :=
  ['\n', '\r', '\x0b', '\x0c', '\x1c', '\x1d', '\x1e', '\u0085', '\u2028', '\u2029'].contains c

def splitlinesGo : List Char → List Char → List (List Char)
  | [], [] => []
  | [], cur => [cur.reverse]
  | '\r' :: '\n' :: cs, cur => cur.reverse :: splitlinesGo cs []
  | c :: cs, cur =>
    if isLineBreak c then cur.reverse :: splitlinesGo cs [] else splitlinesGo cs (c :: cur)

def splitlines (s : String) : List String := (splitlinesGo s.toList []).map String.ofList

def endsWith (s p : String) : Bool := p.toList.isSuffixOf s.toList

open List Option

variable {c : Char} {front : List Char}

/-! ## Searching -/

variable {old : List Char}

theorem prefix_seam (cs : List Char) (hc : c ∉ old) : old <+: front ++ c :: cs ↔ old <+: front := by
  refine ⟨fun h => ?_, fun h => h.trans (prefix_append _ _)⟩
  rcases List.prefix_or_prefix_of_prefix h (prefix_append front _) with h' | ⟨rest, rfl⟩
  · exact h'
  · cases rest with
    | nil => simp
    | cons d rest =>
      have hd : d = c := (cons_prefix_cons.mp ((prefix_append_right_inj front).mp h)).1
      simp [hd] at hc

theorem infix_append_cons {w back : List Char} :
    w <:+: front ++ c :: back ↔ w <:+: front ∨ w <:+: back ∨
      ∃ x y, w = x ++ c :: y ∧ x <:+ front ∧ y <+: back := by
  constructor
  · rintro ⟨s, t, h⟩
    rw [append_assoc] at h
    rcases List.append_eq_append_iff.mp h with ⟨x, rfl, hx⟩ | ⟨x, rfl, hx⟩
    · rcases List.append_eq_append_iff.mp hx with ⟨y, rfl, -⟩ | ⟨y, rfl, hy⟩
      · exact .inl ⟨s, y, by simp⟩
      · cases y with
        | nil => exact .inl ⟨s, [], by simp⟩
        | cons d y =>
          obtain ⟨rfl, rfl⟩ := cons.inj hy
          exact .inr (.inr ⟨x, y, rfl, ⟨s, rfl⟩, ⟨t, rfl⟩⟩)
    · cases x with
      | nil =>
        cases w with
        | nil => exact .inl nil_infix
        | cons d w =>
          obtain ⟨rfl, rfl⟩ := cons.inj hx
          exact .inr (.inr ⟨[], w, rfl, nil_suffix, ⟨t, rfl⟩⟩)
      | cons d x =>
        obtain ⟨rfl, rfl⟩ := cons.inj hx
        exact .inr (.inl ⟨x, t, by simp⟩)
  · rintro (h | h | ⟨x, y, rfl, ⟨s, rfl⟩, ⟨t, rfl⟩⟩)
    · exact h.trans (prefix_append _ _).isInfix
    · exact h.trans ((suffix_cons c back).trans (suffix_append _ _)).isInfix
    · exact ⟨s, t, by simp⟩

theorem infix_seam (hc : c ∉ old) (front back : List Char) :
    old <:+: front ++ c :: back ↔ old <:+: front ∨ old <:+: back := by
  rw [infix_append_cons]
  refine or_congr_right (or_iff_left ?_)
  rintro ⟨x, y, rfl, -⟩
  exact hc (by simp)

theorem suffix_seam (hc : c ∉ old) (front back : List Char) :
    old <:+ front ++ c :: back ↔ old <:+ back := by
  have hseam : old.reverse <+: back.reverse ++ c :: front.reverse ↔ old.reverse <+: back.reverse :=
    prefix_seam front.reverse (List.mem_reverse.not.mpr hc)
  rw [← reverse_prefix, ← reverse_prefix, ← hseam]
  simp

theorem suffix_rdropWhile_mark {w : List Char} (hspace : isSpace c = false) (hc : c ∉ w)
    (hblank : ' ' ∉ w) (front cs : List Char) :
    w <:+ (front ++ c :: ' ' :: cs).rdropWhile isSpace ↔ w <:+ cs.rdropWhile isSpace := by
  induction cs using List.reverseRecOn with
  | nil =>
    have hstrip : (front ++ [c, ' ']).rdropWhile isSpace = front ++ [c] := by
      rw [show front ++ [c, ' '] = (front ++ [c]) ++ [' '] by simp,
        rdropWhile_concat_pos _ _ _ (by decide), rdropWhile_concat_neg _ _ _ (by simp [hspace])]
    rw [hstrip, suffix_seam hc, rdropWhile_nil]
  | append_singleton cs x ih =>
    have hsplit : front ++ c :: ' ' :: (cs ++ [x]) = (front ++ c :: ' ' :: cs) ++ [x] := by simp
    by_cases hx : isSpace x = true
    · rw [hsplit, rdropWhile_concat_pos _ _ _ hx, rdropWhile_concat_pos _ _ _ hx, ih]
    · rw [hsplit, rdropWhile_concat_neg _ _ _ hx, rdropWhile_concat_neg _ _ _ hx, ← hsplit,
        suffix_seam hc, ← nil_append (' ' :: _), suffix_seam hblank]

variable {sep : List Char}

theorem splitAt_seam (hc : c ∉ sep) (hne : sep ≠ []) (back : List Char) :
    ∀ {front : List Char}, ¬ sep <:+: front →
      splitAt sep (front ++ c :: back) = (splitAt sep back).map fun r => (front ++ c :: r.1, r.2)
  | [], _ => by
    have hpre : ¬ sep <+: [] ++ c :: back := fun h =>
      hne (List.prefix_nil.mp ((prefix_seam back hc).mp h))
    rw [nil_append] at hpre ⊢
    rw [splitAt, if_neg (by simpa using hpre)]
    rfl
  | d :: front, h => by
    rw [infix_cons_iff, not_or] at h
    have hpre : ¬ sep <+: d :: front ++ c :: back := fun hp => h.1 ((prefix_seam back hc).mp hp)
    rw [cons_append] at hpre ⊢
    rw [splitAt, if_neg (by simpa using hpre), splitAt_seam hc hne back h.2, Option.map_map]
    rfl

theorem splitAt_append_self (hne : sep ≠ []) (back : List Char) :
    splitAt sep (sep ++ back) = some ([], back) := by
  obtain ⟨d, sep, rfl⟩ := exists_cons_of_ne_nil hne
  rw [cons_append, splitAt, if_pos (by simp)]
  simp

/-! ## Splitting at dashes -/

theorem splitAt_eq : ∀ {cs before after : List Char},
    splitAt sep cs = some (before, after) → cs = before ++ sep ++ after
  | [], _, _, h => by cases h
  | c :: cs, before, after, h => by
    rw [splitAt] at h
    split at h
    · next hpre =>
      obtain ⟨rest, hrest⟩ := isPrefixOf_iff_prefix.mp hpre
      cases h
      simp [← hrest]
    · obtain ⟨⟨b, a⟩, hba, heq⟩ := map_eq_some_iff.mp h
      cases heq
      rw [splitAt_eq hba]
      simp

theorem splitOnce_eq {sep s before after : String} (h : splitOnce sep s = some (before, after)) :
    s = before ++ sep ++ after := by
  obtain ⟨⟨b, a⟩, hba, heq⟩ := map_eq_some_iff.mp h
  cases heq
  apply String.toList_injective
  simpa using splitAt_eq hba

theorem splitAt_dashes (after : List Char) : ∀ {front : List Char}, ¬ ['-', '-'] <:+: front →
    front.getLast? ≠ some '-' →
      splitAt ['-', '-'] (front ++ '-' :: '-' :: after) = some (front, after)
  | [], _, _ => by simp [splitAt]
  | c :: front, hinfix, hlast => by
    have hpre : ¬ ['-', '-'] <+: c :: (front ++ '-' :: '-' :: after) := by
      intro h
      obtain ⟨rfl, h'⟩ := cons_prefix_cons.mp h
      cases front with
      | nil => simp at hlast
      | cons d front =>
        obtain ⟨rfl, -⟩ := cons_prefix_cons.mp h'
        exact hinfix ⟨[], front, rfl⟩
    have hrest : front.getLast? ≠ some '-' := by
      cases front with
      | nil => simp
      | cons d front => simpa using hlast
    rw [cons_append, splitAt, if_neg (by simpa using hpre),
      splitAt_dashes after (fun h => hinfix (h.trans (suffix_cons c front).isInfix)) hrest]
    rfl

end ChaosBlade.Py
