/-
Tui.Cursor: `tui/src/utils/cursorMath.ts`: cursors, lines and columns.

`List.take` clamps a cursor as the source does, `Int.toNat` a negative one.
-/
import Mathlib.Data.List.DropRight

namespace ChaosBlade.Tui.Cursor

open List

structure LineCol where
  line : Nat
  col : Nat

def plain (cp : String) : Bool := cp ≠ "\n"

def advance (p : LineCol) (cp : String) : LineCol :=
  if cp = "\n" then ⟨p.line + 1, 0⟩ else { p with col := p.col + 1 }

def cursorToLineCol (cps : List String) (cursor : Int) : LineCol :=
  (cps.take cursor.toNat).foldl advance ⟨0, 0⟩

/-- The text from the start of the `n`-th line on, if there is such a line. -/
def fromLine : Nat → List String → Option (List String)
  | 0, cps => some cps
  | _ + 1, [] => none
  | n + 1, cp :: cps => if cp = "\n" then fromLine n cps else fromLine (n + 1) cps

/-- The index of the next newline from `i` on, or the end. -/
def newlineFrom (cps : List String) (i : Nat) : Nat :=
  cps.length - ((cps.drop i).dropWhile plain).length

def lineColToCursor (cps : List String) (line col : Int) : Nat :=
  if line < 0 then 0
  else match fromLine line.toNat cps with
    | none => cps.length
    | some rest =>
      let lineStart := cps.length - rest.length
      min (lineStart + col.toNat) (newlineFrom cps lineStart)

def lineStartIdx (cps : List String) (cursor : Int) : Nat :=
  ((cps.take cursor.toNat).rdropWhile plain).length

def lineEndIdx (cps : List String) (cursor : Int) : Nat := newlineFrom cps cursor.toNat

/-! ## Lines -/

theorem foldl_advance (cps : List String) :
    cps.foldl advance ⟨0, 0⟩ = ⟨cps.count "\n", (cps.rtakeWhile plain).length⟩ := by
  induction cps using reverseRecOn with
  | nil => rfl
  | append_singleton cps cp ih =>
    by_cases h : cp = "\n" <;> simp [ih, advance, plain, h]

theorem fromLine_lead (cps rest : List String) :
    fromLine (cps.count "\n" + 1) (cps ++ "\n" :: rest) = some rest := by
  induction cps with
  | nil => simp [fromLine]
  | cons cp cps ih => by_cases h : cp = "\n" <;> simp [fromLine, h, ih]

/-- A line of a text, with what comes before and after it. -/
structure Line where
  lead : List String
  body : List String
  after : List String
  lead_ends : lead.rdropWhile plain = lead
  body_plain : ∀ cp ∈ body, plain cp = true
  after_starts : after.dropWhile plain = after

namespace Line

def text (l : Line) : List String := l.lead ++ (l.body ++ l.after)

variable {l : Line} {k : Nat}

section

variable (h : k ≤ l.body.length)
include h

theorem take_text : l.text.take (l.lead.length + k) = l.lead ++ l.body.take k := by
  rw [text, take_length_add_append, take_append_of_le_length h]

theorem rdropWhile_take : (l.text.take (l.lead.length + k)).rdropWhile plain = l.lead := by
  have hbody : ∀ cp ∈ (l.body.take k).reverse, plain cp = true := fun cp hcp =>
    l.body_plain cp (mem_of_mem_take (mem_reverse.mp hcp))
  rw [take_text h, rdropWhile, reverse_append, dropWhile_append_of_pos hbody]
  exact l.lead_ends

theorem count_take : (l.text.take (l.lead.length + k)).count "\n" = l.lead.count "\n" := by
  have hbody : (l.body.take k).count "\n" = 0 := count_eq_zero.mpr fun hn =>
    absurd (l.body_plain _ (mem_of_mem_take hn)) (by decide)
  rw [take_text h, count_append, hbody, Nat.add_zero]

theorem cursorToLineCol_text :
    cursorToLineCol l.text (l.lead.length + k : Nat) = ⟨l.lead.count "\n", k⟩ := by
  have hparts := rdropWhile_append_rtakeWhile (p := plain) (l := l.text.take (l.lead.length + k))
  rw [rdropWhile_take h, take_text h, append_cancel_left_eq, ← take_text h] at hparts
  rw [cursorToLineCol, Int.toNat_natCast, foldl_advance, count_take h, hparts, length_take_of_le h]

theorem newlineFrom_text :
    newlineFrom l.text (l.lead.length + k) = l.lead.length + l.body.length := by
  rw [newlineFrom, text, drop_length_add_append, drop_append_of_le_length h,
    dropWhile_append_of_pos fun cp hcp => l.body_plain cp (mem_of_mem_drop hcp), l.after_starts]
  simp
  omega

theorem lineStartIdx_text : lineStartIdx l.text (l.lead.length + k : Nat) = l.lead.length :=
  congrArg length (rdropWhile_take h)

end

theorem lineColToCursor_text (col : Int) : lineColToCursor l.text (l.lead.count "\n") col =
    l.lead.length + min col.toNat l.body.length := by
  have hfrom : fromLine (l.lead.count "\n") l.text = some (l.body ++ l.after) := by
    rcases eq_nil_or_concat l.lead with hlead | ⟨cps, cp, hlead⟩
    · simp [text, hlead, fromLine]
    · have hends := l.lead_ends
      obtain rfl : cp = "\n" := by simpa [hlead, plain] using hends
      simp [text, hlead, fromLine_lead]
  have hstart : l.text.length - (l.body ++ l.after).length = l.lead.length := by simp [text]
  have hnext : newlineFrom l.text l.lead.length = _ := newlineFrom_text (Nat.zero_le _)
  rw [lineColToCursor, if_neg (by simp), Int.toNat_natCast, hfrom]
  simp only [hstart, hnext, Nat.add_min_add_left]

end Line

theorem exists_line {cps : List String} {c : Nat} (h : c ≤ cps.length) :
    ∃ (l : Line) (k : Nat), k ≤ l.body.length ∧ l.text = cps ∧ l.lead.length + k = c := by
  refine ⟨⟨(cps.take c).rdropWhile plain,
    (cps.take c).rtakeWhile plain ++ (cps.drop c).takeWhile plain, (cps.drop c).dropWhile plain,
    rdropWhile_idempotent .., forall_mem_append.mpr ⟨fun _ => mem_rtakeWhile_imp,
      fun _ => mem_takeWhile_imp⟩, dropWhile_idempotent ..⟩,
    ((cps.take c).rtakeWhile plain).length, by simp, ?_, ?_⟩
  · rw [Line.text, append_assoc, takeWhile_append_dropWhile, ← append_assoc,
      rdropWhile_append_rtakeWhile, take_append_drop]
  · rw [← length_append, rdropWhile_append_rtakeWhile, length_take_of_le h]

theorem exists_count {cps : List String} {n : Nat} (h : n ≤ cps.count "\n") :
    ∃ c ≤ cps.length, (cps.take c).count "\n" = n := by
  induction cps using reverseRecOn with
  | nil => exact ⟨0, le_rfl, (Nat.le_zero.mp h).symm⟩
  | append_singleton cps cp ih =>
    by_cases hn : n ≤ cps.count "\n"
    · obtain ⟨c, hc, hcount⟩ := ih hn
      exact ⟨c, by simp; omega, by rw [take_append_of_le_length hc, hcount]⟩
    · refine ⟨_, le_rfl, ?_⟩
      have hone : [cp].count "\n" ≤ 1 := count_le_length
      rw [take_length]
      rw [count_append] at h ⊢
      omega

/-- For every text and every cursor in it: line and column lead back to the cursor, the start of
the line is its column 0 and the end its last column. A line that exists is the one that is
reached, whatever the column. -/
theorem cursor_round_trip (cps : List String) :
    (∀ c : Nat, c ≤ cps.length →
      let p := cursorToLineCol cps c
      lineColToCursor cps p.line p.col = c ∧
      lineStartIdx cps c ≤ c ∧ cursorToLineCol cps (lineStartIdx cps c) = ⟨p.line, 0⟩ ∧
      lineEndIdx cps c ≤ cps.length ∧ (cursorToLineCol cps (lineEndIdx cps c)).line = p.line ∧
      ∀ d : Nat, d ≤ cps.length → (cursorToLineCol cps d).line = p.line →
        d ≤ lineEndIdx cps c) ∧
    ∀ line col : Int, 0 ≤ line → line ≤ cps.count "\n" →
      (cursorToLineCol cps (lineColToCursor cps line col)).line = line := by
  constructor
  · intro c hc
    obtain ⟨l, k, hk, rfl, rfl⟩ := exists_line hc
    have hend : lineEndIdx l.text (l.lead.length + k : Nat) = _ := Line.newlineFrom_text hk
    have hstart := Line.cursorToLineCol_text (l := l) (Nat.zero_le _)
    simp only [Line.cursorToLineCol_text hk, Line.lineStartIdx_text hk, hend,
      Line.lineColToCursor_text, Line.cursorToLineCol_text le_rfl]
    refine ⟨by simp [hk], by simp, hstart, by simp [Line.text], trivial, fun d hd hline => ?_⟩
    obtain ⟨m, j, hj, hm, rfl⟩ := exists_line hd
    rw [← hm, Line.cursorToLineCol_text hj] at hline
    have hback := Line.lineColToCursor_text (l := m) j
    rw [hm, show m.lead.count "\n" = _ from hline, Line.lineColToCursor_text, Int.toNat_natCast,
      min_eq_left hj] at hback
    exact hback ▸ Nat.add_le_add_left (min_le_right _ _) _
  · intro line col hpos hle
    obtain ⟨n, rfl⟩ := Int.eq_ofNat_of_zero_le hpos
    obtain ⟨c, hc, rfl⟩ := exists_count (Int.ofNat_le.mp hle)
    obtain ⟨l, k, hk, rfl, rfl⟩ := exists_line hc
    rw [Line.count_take hk, Line.lineColToCursor_text, Line.cursorToLineCol_text (min_le_right _ _)]

theorem cursor_round_trip_second_line : lineColToCursor ["a", "\n", "b"] 1 1 = 3 :=
  ((cursor_round_trip ["a", "\n", "b"]).1 3 (by decide)).1

end ChaosBlade.Tui.Cursor
