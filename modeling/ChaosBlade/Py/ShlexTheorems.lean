/-
Py.ShlexTheorems: which lists of tokens survive being joined
with spaces and split again.
-/
import ChaosBlade.Py.Words

namespace ChaosBlade.Py.Shlex

open List Option

def isQuoting (c : Char) : Bool := c = '\'' || c = '"' || c = '\\'

def isClean (w : List Char) : Bool := !w.isEmpty && w.all fun c => !isBlank c && !isQuoting c

def slack : LexState → Nat
  | .escape .doubleQuote => 2
  | _ => 1

theorem size_emit (tok : List Char) (quoted : Bool) (more : List (List Char)) :
    (emit tok quoted more).flatten.length + (emit tok quoted more).length ≤
      tok.length + 1 + (more.flatten.length + more.length) := by
  unfold emit
  split
  · omega
  · simp
    omega

variable {tok : List Char}

theorem lex_size {st : LexState} {quoted : Bool} {cs : List Char}
    {out : List (List Char)} (h : lex st tok quoted cs = some out) :
    out.flatten.length + out.length ≤ tok.length + cs.length + slack st := by
  fun_induction lex st tok quoted cs generalizing out <;>
    simp only [slack, some.injEq, reduceCtorEq, map_eq_some_iff, length_cons, length_nil] at *
  case case1 =>
    subst h
    simp
  case case2 tok quoted =>
    subst h
    have := size_emit tok quoted []
    simp only [flatten_nil] at this
    omega
  case case11 tok quoted c cs hblank ih =>
    obtain ⟨more, hmore, rfl⟩ := h
    have := ih hmore
    have := size_emit tok quoted more
    omega
  all_goals
    rename_i ih
    have := ih h
    omega

theorem isClean_reverse (w : List Char) : isClean w.reverse = isClean w := by simp [isClean]

theorem emit_clean (h : isClean tok = true) (quoted : Bool) (more : List (List Char)) :
    emit tok quoted more = tok.reverse :: more := by
  have hne : tok.isEmpty = false := by
    simp only [isClean, Bool.and_eq_true, Bool.not_eq_true'] at h
    exact h.1
  simp [emit, hne]

theorem lex_tight {st : LexState} {quoted : Bool} {cs : List Char}
    {out : List (List Char)} (h : lex st tok quoted cs = some out)
    (hst : st = .blank ∧ tok = [] ∨ st = .word ∧ isClean tok = true)
    (hsize : out.flatten.length + out.length = tok.length + cs.length + 1) :
    ∀ t ∈ out, isClean t = true := by
  fun_induction lex st tok quoted cs generalizing out <;>
    simp only [reduceCtorEq, false_and, true_and, or_false, false_or, some.injEq,
      map_eq_some_iff] at hst h
  case case1 =>
    subst h
    simp
  case case2 tok quoted =>
    subst h
    simpa [emit_clean hst, isClean_reverse] using hst
  case case10 c cs hblank hback hsingle hdouble ih =>
    refine ih h (.inr ⟨rfl, ?_⟩) (by simpa [hst, Nat.add_comm] using hsize)
    simp [isClean, isQuoting, *]
  case case11 tok quoted c cs hblank ih =>
    obtain ⟨more, hmore, rfl⟩ := h
    rw [emit_clean hst] at hsize ⊢
    refine forall_mem_cons.mpr ⟨by simpa [isClean_reverse] using hst, ih hmore (.inl ⟨rfl, rfl⟩) ?_⟩
    simp at hsize ⊢
    omega
  case case15 tok quoted c cs hblank hsingle hdouble hback ih =>
    refine ih h (.inr ⟨rfl, ?_⟩) (by simpa [Nat.add_comm, Nat.add_left_comm] using hsize)
    simp_all [isClean, isQuoting]
  -- a quote, a backslash or a second blank would be missing
  all_goals
    have := lex_size h
    simp only [slack, hst, length_cons] at this hsize
    omega

/-! ## Joined tokens -/

theorem lex_clean {w : List Char} (h : isClean w = true) (rest : List Char) :
    lex .blank [] false (w ++ rest) = lex .word w.reverse false rest := by
  obtain ⟨hne, hall⟩ : w ≠ [] ∧ ∀ c ∈ w, isBlank c = false ∧ isQuoting c = false := by
    simpa [isClean] using h
  have hquote : ∀ c ∈ w, c ≠ '\'' ∧ c ≠ '"' ∧ c ≠ '\\' := by
    intro c hc
    simpa [isQuoting, and_assoc] using (hall c hc).2
  obtain ⟨c, w, rfl⟩ := exists_cons_of_ne_nil hne
  obtain ⟨hsingle, hdouble, hback⟩ := hquote c mem_cons_self
  rw [cons_append, lex]
  simp only [(hall c mem_cons_self).1, hsingle, hdouble, hback, if_false, Bool.false_eq_true]
  rw [lex_word_append (fun d hd => (hall d (mem_cons_of_mem _ hd)).1)
    (fun d hd => hquote d (mem_cons_of_mem _ hd)), reverse_cons]

theorem lex_join : ∀ {ts : List String}, (∀ t ∈ ts, isClean t.toList = true) →
    lex .blank [] false (join " " ts).toList = some (ts.map String.toList)
  | [], _ => rfl
  | [t], h => by
    have ht := h t mem_cons_self
    have hword := lex_clean ht []
    rw [append_nil, lex, emit_clean (by rwa [isClean_reverse]), reverse_reverse] at hword
    simpa [join, List.intercalate] using hword
  | t :: u :: ts, h => by
    obtain ⟨ht, hrest⟩ := forall_mem_cons.mp h
    rw [toList_join_cons, lex_clean ht, lex, if_pos (by decide), lex_join hrest, map_some,
      emit_clean (by rwa [isClean_reverse]), reverse_reverse]
    rfl

theorem length_join : ∀ {ts : List String}, ts ≠ [] →
    (join " " ts).toList.length + 1 = (ts.map String.toList).flatten.length + ts.length
  | [], h => absurd rfl h
  | [t], _ => by simp [join, List.intercalate]
  | t :: u :: ts, _ => by
    have ih := length_join (cons_ne_nil u ts)
    rw [toList_join_cons, length_append, length_cons, map_cons, flatten_cons,
      length_append, length_cons]
    omega

theorem split_join_iff (ts : List String) :
    split (join " " ts) = some ts ↔ ∀ t ∈ ts, isClean t.toList = true := by
  constructor
  · intro h
    obtain ⟨out, hlex, hout⟩ := map_eq_some_iff.mp h
    have hmap : out = ts.map String.toList := by simp [← hout]
    intro t ht
    refine lex_tight hlex (.inl ⟨rfl, rfl⟩) ?_ t.toList (hmap ▸ List.mem_map_of_mem ht)
    have hlength := length_join (ne_nil_of_mem ht)
    rw [hmap, length_map, length_nil]
    omega
  · intro h
    rw [split, lex_join h, map_some, List.map_map]
    simp

def isWord (w : List Char) : Bool := !w.isEmpty && w.all fun c => !isSpace c

theorem splitWsGo_isWord {cs cur : List Char} (hcur : ∀ c ∈ cur, isSpace c = false) :
    ∀ t ∈ splitWsGo cs cur, isWord t = true := by
  fun_induction splitWsGo cs cur with
  | case1 => simp
  | case2 cur hne => simpa [isWord] using ⟨hne, hcur⟩
  | case3 c cs hspace ih => exact ih (by simp)
  | case4 c cs cur hspace hne ih =>
    exact forall_mem_cons.mpr ⟨by simpa [isWord] using ⟨hne, hcur⟩, ih (by simp)⟩
  | case5 c cs cur hspace ih => exact ih (forall_mem_cons.mpr ⟨by simpa using hspace, hcur⟩)

theorem splitWsGo_join : ∀ {ts : List String}, (∀ t ∈ ts, isWord t.toList = true) →
    splitWsGo (join " " ts).toList [] = ts.map String.toList
  | [], _ => rfl
  | [t], h => by
    obtain ⟨hne, hall⟩ : t.toList ≠ [] ∧ ∀ c ∈ t.toList, isSpace c = false := by
      simpa [isWord] using h t mem_cons_self
    have hword := splitWsGo_word_append (r := []) hne hall (by simp)
    simpa [join, List.intercalate, splitWsGo] using hword
  | t :: u :: ts, h => by
    obtain ⟨ht, hrest⟩ := forall_mem_cons.mp h
    obtain ⟨hne, hall⟩ : t.toList ≠ [] ∧ ∀ c ∈ t.toList, isSpace c = false := by
      simpa [isWord] using ht
    have hspace : isSpace ' ' = true := by decide
    rw [toList_join_cons, splitWsGo_word_append hne hall (by simp [hspace]), splitWsGo,
        if_pos hspace]
    exact congrArg (_ :: ·) (splitWsGo_join hrest)

theorem splitArgs_join_iff (ts : List String) : splitArgs (join " " ts) = ts ↔
    (∀ t ∈ ts, isClean t.toList = true) ∨
      split (join " " ts) = none ∧ ∀ t ∈ ts, isWord t.toList = true := by
  rw [← split_join_iff, splitArgs]
  cases split (join " " ts) with
  | some out => simp
  | none =>
    simp only [getD_none, reduceCtorEq, false_or, true_and]
    constructor
    · intro h t ht
      have hmap : splitWsGo (join " " ts).toList [] = ts.map String.toList := by
        rw [← List.map_id (splitWsGo _ _), ← congrArg (List.map String.toList) h, splitWs,
            List.map_map]
        simp
      exact splitWsGo_isWord (by simp) _ (hmap ▸ List.mem_map_of_mem ht)
    · intro h
      rw [splitWs, splitWsGo_join h, List.map_map]
      simp

end ChaosBlade.Py.Shlex
