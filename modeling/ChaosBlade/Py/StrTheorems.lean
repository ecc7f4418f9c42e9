/-
Py.StrTheorems: laws of the string methods.
-/
import ChaosBlade.Py.Str

namespace ChaosBlade.Py

open List List Char

/-! ## Prefixes -/

theorem startsWith_iff {s p : String} : startsWith s p = true ↔ p.toList <+: s.toList := by
  unfold startsWith
  rw [ isPrefixOf_iff_prefix]

theorem startsWith_trans {s p q : String} (h : startsWith s p = true)
    (hp : startsWith p q = true) : startsWith s q = true := by
  rw [startsWith_iff] at *
  exact hp.trans h

theorem startsWith_false_of {s q : String} (h : startsWith s q = false) {p : String}
    (hp : startsWith p q = true) : startsWith s p = false := by
  rw [Bool.eq_false_iff] at h ⊢
  exact fun hs => h (startsWith_trans hs hp)

theorem ne_of_not_startsWith {s q : String} (h : startsWith s q = false) {p : String}
    (hp : startsWith p q = true) : s ≠ p := by
  rintro rfl
  rw [h] at hp
  cases hp

/-! ## Substrings -/

theorem hasSubList_iff {p : List Char} : ∀ {cs : List Char}, hasSubList p cs = true ↔ p <:+: cs
  | [] => by simp [hasSubList]
  | c :: cs => by
    rw [hasSubList, Bool.or_eq_true, isPrefixOf_iff_prefix, hasSubList_iff, infix_cons_iff]

theorem hasSub_eq_false_iff {p s : String} : hasSub p s = false ↔ ¬ p.toList <:+: s.toList := by
  unfold hasSub
  rw [← hasSubList_iff, Bool.not_eq_true]

/-! ## Stripping -/

theorem dropWhile_rdropWhile_of_head {cs : List Char} (h : cs.dropWhile isSpace = cs) :
    (cs.rdropWhile isSpace).dropWhile isSpace = cs.rdropWhile isSpace := by
  rw [dropWhile_eq_self_iff] at h ⊢
  intro hlen
  have hpre : cs.rdropWhile isSpace <+: cs := rdropWhile_prefix isSpace cs
  have hcs : 0 < cs.length := lt_of_lt_of_le hlen hpre.length_le
  rw [hpre.getElem hlen]
  exact h hcs

theorem strip_strip (s : String) : strip (strip s) = strip s := by
  unfold strip
  rw [String.toList_ofList, dropWhile_rdropWhile_of_head (dropWhile_idempotent isSpace _),
    rdropWhile_idempotent]

theorem strip_blanks (s : String) :
    ∃ a b, s.toList = a ++ (strip s).toList ++ b ∧ (∀ c ∈ a, isSpace c = true) ∧
      ∀ c ∈ b, isSpace c = true := by
  refine ⟨s.toList.takeWhile isSpace, (s.toList.dropWhile isSpace).rtakeWhile isSpace, ?_,
    fun c hc => mem_takeWhile_imp hc, fun c hc => mem_rtakeWhile_imp hc⟩
  rw [strip, String.toList_ofList, append_assoc, rdropWhile_append_rtakeWhile,
    takeWhile_append_dropWhile]

theorem strip_parts (s : String) : ∃ a b, s.toList = a ++ (strip s).toList ++ b := by
  obtain ⟨a, b, h, -, -⟩ := strip_blanks s
  exact ⟨a, b, h⟩

variable {s : String}

theorem strip_eq_self (hhead : ∀ c ∈ s.toList.head?, isSpace c = false)
    (hlast : ∀ c ∈ s.toList.getLast?, isSpace c = false) : strip s = s := by
  have hl : s.toList.dropWhile isSpace = s.toList := by
    cases hs : s.toList with
    | nil => rfl
    | cons c cs =>
      rw [hs] at hhead
      rw [dropWhile_cons_of_neg (by simpa using hhead)]
  have hr : s.toList.rdropWhile isSpace = s.toList := by
    rw [rdropWhile_eq_self_iff]
    intro hne
    rw [getLast?_eq_getLast_of_ne_nil hne] at hlast
    simpa using hlast
  rw [strip, hl, hr, String.ofList_toList]

theorem strip_head : ∀ c ∈ (strip s).toList.head?, isSpace c = false := by
  intro c hc
  have h := dropWhile_rdropWhile_of_head (dropWhile_idempotent isSpace s.toList)
  rw [strip, String.toList_ofList] at hc
  cases hs : (s.toList.dropWhile isSpace).rdropWhile isSpace with
  | nil => simp [hs] at hc
  | cons d ds =>
    rw [hs] at h hc
    cases hc
    rw [dropWhile_eq_self_iff] at h
    exact Bool.eq_false_iff.mpr (h (Nat.succ_pos _))

theorem strip_last : ∀ c ∈ (strip s).toList.getLast?, isSpace c = false := by
  intro c hc
  rw [strip, String.toList_ofList] at hc
  obtain ⟨hne, rfl⟩ := mem_getLast?_eq_getLast hc
  simpa using rdropWhile_last_not isSpace _ hne

theorem dropWhile_rdropWhile (cs : List Char) :
    (cs.rdropWhile isSpace).dropWhile isSpace = (cs.dropWhile isSpace).rdropWhile isSpace := by
  induction cs with
  | nil => rfl
  | cons c cs ih =>
    by_cases hc : isSpace c = true
    · rw [dropWhile_cons_of_pos hc, ← ih]
      by_cases hcs : cs.rdropWhile isSpace = []
      · have hall : ∀ d ∈ c :: cs, isSpace d = true :=
          forall_mem_cons.mpr ⟨hc, rdropWhile_eq_nil_iff.mp hcs⟩
        rw [hcs, rdropWhile_eq_nil_iff.mpr hall]
      · have hcons : (c :: cs).rdropWhile isSpace = c :: cs.rdropWhile isSpace := by
          unfold rdropWhile at hcs ⊢
          have hne : (cs.reverse.dropWhile isSpace).isEmpty = false := by simpa using hcs
          rw [reverse_cons, dropWhile_append, hne]
          simp
        rw [hcons, dropWhile_cons_of_pos hc]
    · have hself : (c :: cs).dropWhile isSpace = c :: cs := dropWhile_cons_of_neg hc
      rw [hself, dropWhile_rdropWhile_of_head hself]

/-! ## Lowercase -/

theorem lowerFrom_ascii {before cs : List Char} (h : ∀ c ∈ cs, c.toNat < 128) :
    lowerFrom before cs = cs.map Char.toLower := by
  induction cs generalizing before with
  | nil => rfl
  | cons c cs ih =>
    obtain ⟨hc, hcs⟩ := forall_mem_cons.mp h
    have hsigma : c ≠ capitalSigma := by
      rintro rfl
      exact absurd hc (by decide)
    rw [lowerFrom, ih hcs, lowerAt, if_neg (fun hend => hsigma hend.1), lowerChar, if_pos hc]
    rfl

theorem toList_lower (s : String) : (lower s).toList = lowerFrom [] s.toList := by
  unfold lower
  rw [String.toList_ofList]
  split
  · next hascii =>
    refine (lowerFrom_ascii fun c hc => ?_).symm
    have hblt := all_eq_true.mp hascii c hc
    rwa [Nat.blt_eq] at hblt
  · rfl

theorem lowerChar_ne_nil (c : Char) : lowerChar c ≠ [] := by
  unfold lowerChar
  split
  · simp
  split
  · simp
  split <;> simp

theorem flatMap_lowerChar_eq_nil {cs : List Char} : cs.flatMap lowerChar = [] ↔ cs = [] := by
  rw [flatMap_eq_nil_iff]
  constructor
  · intro h
    cases cs with
    | nil => rfl
    | cons c cs => exact absurd (h c mem_cons_self) (lowerChar_ne_nil c)
  · rintro rfl c hc
    cases hc

theorem lowerAt_cases (before : List Char) (c : Char) (after : List Char) :
    lowerAt before c after = lowerChar c ∨
      c = capitalSigma ∧ lowerAt before c after = [finalSigma] := by
  unfold lowerAt
  split
  · next h => exact .inr ⟨h.1, rfl⟩
  · exact .inl rfl

theorem lowerChar_capitalSigma : lowerChar capitalSigma = [Char.ofNat 0x3C3] := by decide

theorem length_lowerFrom (before cs : List Char) :
    (lowerFrom before cs).length = (cs.flatMap lowerChar).length := by
  induction cs generalizing before with
  | nil => rfl
  | cons c cs ih =>
    rw [lowerFrom, flatMap_cons, length_append, length_append, ih]
    rcases lowerAt_cases before c cs with h | ⟨rfl, h⟩
    · rw [h]
    · rw [h, lowerChar_capitalSigma]
      rfl

@[simp] theorem lower_eq_empty_iff : lower s = "" ↔ s = "" := by
  rw [← String.toList_inj, ← String.toList_inj, toList_lower]
  change lowerFrom [] s.toList = [] ↔ s.toList = []
  rw [← length_eq_zero_iff, length_lowerFrom, length_eq_zero_iff]
  exact flatMap_lowerChar_eq_nil

def spaceCodes : List Nat :=
  [9, 10, 11, 12, 13, 28, 29, 30, 31, 32, 0x85, 0xA0, 0x1680,
    0x2000, 0x2001, 0x2002, 0x2003, 0x2004, 0x2005, 0x2006, 0x2007, 0x2008,
    0x2009, 0x200A, 0x2028, 0x2029, 0x202F, 0x205F, 0x3000]

variable {c : Char}

theorem isSpace_iff : isSpace c = true ↔ c.toNat ∈ spaceCodes := by
  unfold isSpace
  exact decide_eq_true_iff

def InRange (n : Nat) (r : Nat × Nat × Nat × Int) : Prop :=
  r.1 ≤ n ∧ n ≤ r.2.1 ∧ (n - r.1) % r.2.2.1 = 0

theorem lowerChar_cases (c : Char) : lowerChar c = [c] ∨
    (∃ k < 26, lowerChar c = [Char.ofNat (97 + k)]) ∨
    lowerChar c = ['i', Char.ofNat 0x307] ∨ ∃ r ∈ lowerRanges, InRange c.toNat r ∧
      lowerChar c = [Char.ofNat ((c.toNat : Int) + r.2.2.2).toNat] := by
  have hascii : ∀ n < 128, (ofNat n).toLower = ofNat n ∨
      ∃ k < 26, (ofNat n).toLower = ofNat (97 + k) := by decide +kernel
  unfold lowerChar
  split
  · next hc =>
    have hcase := hascii _ hc
    rw [ofNat_toNat] at hcase
    rcases hcase with hself | ⟨k, hk, hlow⟩
    · exact .inl (by rw [hself])
    · exact .inr (.inl ⟨k, hk, by rw [hlow]⟩)
  split
  · exact .inr (.inr (.inl rfl))
  split
  · next lo hi step off hfind =>
    have hin := find?_some hfind
    simp only [Bool.and_eq_true, decide_eq_true_eq, beq_iff_eq, and_assoc] at hin
    exact .inr (.inr (.inr ⟨_, mem_of_find?_eq_some hfind, hin, rfl⟩))
  · exact .inl rfl

/-- The codes from `a` on in steps of `step`, or only `a`, are not in the range `r`: they lie
beside it, or between its codes. -/
def apart (a b step : Nat) (r : Nat × Nat × Nat × Int) : Bool :=
  Nat.blt b r.1 || Nat.blt r.2.1 a ||
    (step == 2 || a == b) && (r.2.2.1 == 2 || r.1 == r.2.1) && (a + r.1) % 2 == 1

def staysLow (a b step : Nat) : Bool :=
  Nat.ble 128 a && (Nat.blt b 0xD800 || Nat.ble 0xE000 a && Nat.blt b 0x110000) &&
    (0x130 :: spaceCodes).all (fun n => Nat.blt n a || Nat.blt b n) &&
        lowerRanges.all (apart a b step)

def kelvinRange : Nat × Nat × Nat × Int := (8490, 8490, 1, -8383)

theorem lowerRanges_staysLow : (lowerRanges.all fun r => r == kelvinRange ||
    staysLow (r.1 + r.2.2.2).toNat (r.2.1 + r.2.2.2).toNat r.2.2.1) = true := by decide +kernel

theorem toNat_ofNat {n : Nat} (h : n.isValidChar) : (Char.ofNat n).toNat = n := by
  unfold ofNat
  rw [dif_pos h]
  rfl

structure Low (d : Char) : Prop where
  fixed : lowerChar d = [d]
  noSpace : isSpace d = false
  noDot : d ≠ '.'

theorem low_of_range {n : Nat} {r : Nat × Nat × Nat × Int} (hr : r ∈ lowerRanges)
    (hn : InRange n r) :
    Low (Char.ofNat ((n : Int) + r.2.2.2).toNat) := by
  obtain ⟨hlo, hhi, hmod⟩ := hn
  have hspec := all_eq_true.mp lowerRanges_staysLow r hr
  rw [Bool.or_eq_true] at hspec
  rcases hspec with hkelvin | hlow
  · obtain rfl := beq_iff_eq.mp hkelvin
    obtain rfl : n = 8490 := Nat.le_antisymm hhi hlo
    exact ⟨by decide, by decide, by decide⟩
  simp only [staysLow, Bool.and_eq_true, Bool.or_eq_true, Nat.ble_eq, Nat.blt_eq,
      all_eq_true] at hlow
  obtain ⟨⟨⟨hascii, hvalid⟩, hcodes⟩, hapart⟩ := hlow
  have hpar : r.2.2.1 = 2 → (((n : Int) + r.2.2.2).toNat - (r.1 + r.2.2.2).toNat) % 2 = 0 := by
    intro htwo
    rw [htwo] at hmod
    omega
  have hbounds : (r.1 + r.2.2.2).toNat ≤ ((n : Int) + r.2.2.2).toNat ∧
      ((n : Int) + r.2.2.2).toNat ≤ (r.2.1 + r.2.2.2).toNat := by omega
  generalize ((n : Int) + r.2.2.2).toNat = m at hpar hbounds ⊢
  generalize (r.1 + r.2.2.2).toNat = a at *
  generalize (r.2.1 + r.2.2.2).toNat = b at *
  have htoNat : (ofNat m).toNat = m := toNat_ofNat (by unfold Nat.isValidChar; omega)
  have hcode : ∀ k ∈ 0x130 :: spaceCodes, m ≠ k := by
    intro k hk
    have := hcodes k hk
    omega
  refine ⟨?_, ?_, ?_⟩
  · unfold lowerChar
    rw [htoNat, if_neg (by omega), if_neg (hcode _ mem_cons_self)]
    split
    · next lo hi step off hfind =>
      have hin := find?_some hfind
      simp only [Bool.and_eq_true, decide_eq_true_eq, beq_iff_eq] at hin
      have hbeside := hapart _ (mem_of_find?_eq_some hfind)
      simp only [apart, Bool.or_eq_true, Bool.and_eq_true, Nat.blt_eq, beq_iff_eq] at hbeside
      rcases hbeside with hbeside | ⟨⟨hstep, hstep'⟩, hparity⟩
      · omega
      · -- both are in steps of two, from codes of different parity
        have heven : (m - a) % 2 = 0 := by
          rcases hstep with htwo | heq
          · exact hpar htwo
          · omega
        have heven' : (m - lo) % 2 = 0 := by
          rcases hstep' with htwo | heq
          · rw [← htwo]
            exact hin.2
          · omega
        omega
    · rfl
  · rw [← Bool.not_eq_true, isSpace_iff, htoNat]
    exact fun hmem => hcode m (mem_cons_of_mem _ hmem) rfl
  · intro hdot
    have := congrArg toNat hdot
    rw [htoNat, show '.'.toNat = 46 from rfl] at this
    omega

theorem low_letter {k : Nat} (hk : k < 26) : Low (ofNat (97 + k)) := by
  have hletters : ∀ k < 26, lowerChar (ofNat (97 + k)) = [ofNat (97 + k)] ∧
      isSpace (ofNat (97 + k)) = false ∧ ofNat (97 + k) ≠ '.' := by decide
  obtain ⟨hfixed, hspace, hdot⟩ := hletters k hk
  exact ⟨hfixed, hspace, hdot⟩

theorem mem_lowerChar {d : Char} (h : d ∈ lowerChar c) : lowerChar c = [c] ∧ d = c ∨ Low d := by
  rcases lowerChar_cases c with hc | ⟨k, hk, hc⟩ | hc | ⟨r, hr, hn, hc⟩
  · rw [hc] at h
    exact .inl ⟨hc, mem_singleton.mp h⟩
  · rw [hc] at h
    obtain rfl := mem_singleton.mp h
    exact .inr (low_letter hk)
  · rw [hc] at h
    rcases mem_pair.mp h with rfl | rfl
    · exact .inr ⟨by decide, by decide, by decide⟩
    · exact .inr ⟨by decide, by decide +kernel, by decide +kernel⟩
  · rw [hc] at h
    obtain rfl := mem_singleton.mp h
    exact .inr (low_of_range hr hn)

theorem mem_lowerAt {before after : List Char} {d : Char} (h : d ∈ lowerAt before c after) :
    lowerChar c = [c] ∧ d = c ∨ Low d := by
  rcases lowerAt_cases before c after with hc | ⟨-, hc⟩ <;> rw [hc] at h
  · exact mem_lowerChar h
  · obtain rfl := mem_singleton.mp h
    exact .inr ⟨by decide, by decide, by decide⟩

theorem mem_lowerFrom {before cs : List Char} {d : Char} (h : d ∈ lowerFrom before cs) :
    ∃ c ∈ cs, lowerChar c = [c] ∧ d = c ∨ Low d := by
  induction cs generalizing before with
  | nil => cases h
  | cons c cs ih =>
    rcases mem_append.mp h with h | h
    · exact ⟨c, mem_cons_self, mem_lowerAt h⟩
    · obtain ⟨c', hc', hd⟩ := ih h
      exact ⟨c', mem_cons_of_mem _ hc', hd⟩

theorem lowerChar_of_mem_lower {d : Char} (h : d ∈ (lower s).toList) : lowerChar d = [d] := by
  rw [toList_lower] at h
  obtain ⟨c, -, ⟨hc, rfl⟩ | hd⟩ := mem_lowerFrom h
  · exact hc
  · exact hd.fixed

theorem isSpace_lowerAt {before after : List Char} (h : isSpace c = false) :
    ∀ d ∈ lowerAt before c after, isSpace d = false := by
  intro d hd
  rcases mem_lowerAt hd with ⟨-, rfl⟩ | hd
  · exact h
  · exact hd.noSpace

theorem lowerFrom_eq_self {before cs : List Char} (h : ∀ c ∈ cs, lowerChar c = [c]) :
    lowerFrom before cs = cs := by
  induction cs generalizing before with
  | nil => rfl
  | cons c cs ih =>
    obtain ⟨hc, hcs⟩ := forall_mem_cons.mp h
    have hsigma : c ≠ capitalSigma := by
      rintro rfl
      rw [lowerChar_capitalSigma] at hc
      exact absurd hc (by decide)
    rw [lowerFrom, ih hcs, lowerAt, if_neg (fun hend => hsigma hend.1), hc, singleton_append]

theorem lower_eq_self {t : String} (h : s.toList ⊆ (lower t).toList) : lower s = s := by
  rw [← String.toList_inj, toList_lower]
  exact lowerFrom_eq_self fun c hc => lowerChar_of_mem_lower (h hc)

theorem lower_lower (s : String) : lower (lower s) = lower s :=
  lower_eq_self (List.Subset.refl _)

theorem lower_lower_strip_eq_iff : lower (lower (strip s)) = lower (lower s) ↔ strip s = s := by
  rw [lower_lower, lower_lower]
  constructor
  · intro h
    obtain ⟨a, b, hab⟩ := strip_parts s
    have hlen := congrArg (fun t => t.toList.length) h
    simp only [toList_lower, length_lowerFrom, hab, flatMap_append, length_append] at hlen
    have ha : a = [] := flatMap_lowerChar_eq_nil.mp (length_eq_zero_iff.mp (by omega))
    have hb : b = [] := flatMap_lowerChar_eq_nil.mp (length_eq_zero_iff.mp (by omega))
    rw [ha, hb, nil_append, append_nil] at hab
    exact (String.toList_inj.mp hab).symm
  · intro h
    rw [h]

theorem lowerFrom_concat (before cs : List Char) (c : Char) :
    ∃ front back, lowerFrom before (cs ++ [c]) = front ++ lowerAt back c [] := by
  induction cs generalizing before with
  | nil => exact ⟨[], before, append_nil _⟩
  | cons d cs ih =>
    obtain ⟨front, back, h⟩ := ih (d :: before)
    rw [cons_append, lowerFrom, h, ← append_assoc]
    exact ⟨_, back, rfl⟩

theorem lowerAt_ne_nil (before : List Char) (c : Char) (after : List Char) :
    lowerAt before c after ≠ [] := by
  rcases lowerAt_cases before c after with h | ⟨-, h⟩ <;> rw [h]
  · exact lowerChar_ne_nil c
  · exact cons_ne_nil _ _

theorem strip_lower_strip (s : String) : strip (lower (strip s)) = lower (strip s) := by
  apply strip_eq_self
  · intro d hd
    rw [toList_lower] at hd
    cases hs : (strip s).toList with
    | nil => simp [hs, lowerFrom] at hd
    | cons c cs =>
      have hc : isSpace c = false := strip_head c (by rw [hs]; rfl)
      rw [hs, lowerFrom, head?_append_of_ne_nil _ (lowerAt_ne_nil _ c _)] at hd
      exact isSpace_lowerAt hc d (mem_of_mem_head? hd)
  · intro d hd
    rw [toList_lower] at hd
    rcases eq_nil_or_concat' (strip s).toList with hs | ⟨cs, c, hs⟩
    · simp [hs, lowerFrom] at hd
    · have hc : isSpace c = false := strip_last c (by rw [hs]; simp)
      obtain ⟨front, back, hlow⟩ := lowerFrom_concat [] cs c
      rw [hs, hlow, getLast?_append_of_ne_nil _ (lowerAt_ne_nil _ c _)] at hd
      exact isSpace_lowerAt hc d (mem_of_mem_getLast? hd)

/-! ### Words of small letters -/

def isPlain (s : String) : Bool :=
  s.toList.all fun c => Nat.ble 97 c.toNat && Nat.ble c.toNat 122

theorem low_of_isPlain (h : isPlain s = true) : ∀ c ∈ s.toList, Low c := by
  intro c hc
  have hrange := all_eq_true.mp h c hc
  rw [Bool.and_eq_true, Nat.ble_eq, Nat.ble_eq] at hrange
  have hlow := low_letter (k := c.toNat - 97) (by omega)
  rwa [Nat.add_sub_cancel' hrange.1, ofNat_toNat] at hlow

theorem lower_of_isPlain (h : isPlain s = true) : lower s = s := by
  rw [← String.toList_inj, toList_lower]
  exact lowerFrom_eq_self fun c hc => (low_of_isPlain h c hc).fixed

theorem strip_of_isPlain (h : isPlain s = true) : strip s = s :=
  strip_eq_self (fun c hc => (low_of_isPlain h c (mem_of_mem_head? hc)).noSpace)
    fun c hc => (low_of_isPlain h c (mem_of_mem_getLast? hc)).noSpace

theorem beforeChar_of_isPlain (h : isPlain s = true) : beforeChar '.' s = s := by
  unfold beforeChar
  rw [List.takeWhile_eq_self_iff.mpr, String.ofList_toList]
  intro c hc
  simpa using (low_of_isPlain h c hc).noDot

/-! ## Splitting -/

theorem splitChar_join {xs : List String} (h : xs ≠ []) :
    splitChar ',' (join "," xs) = xs.flatMap (splitChar ',') := by
  unfold splitChar join
  rw [String.toList_ofList]
  induction xs with
  | nil => exact absurd rfl h
  | cons x rest ih =>
    cases rest with
    | nil => simp
    | cons y rest =>
      have hcons : ",".toList.intercalate (((x :: y :: rest)).map String.toList) =
          x.toList ++ ',' :: ",".toList.intercalate ((y :: rest).map String.toList) := by simp
      have hsplit : ∀ a b : List Char, (a ++ ',' :: b).splitOn ',' = a.splitOn ',' ++
          b.splitOn ',' :=
        fun a b => splitOnP_append_cons a b rfl
      rw [hcons, hsplit, map_append, flatMap_cons, ← ih (cons_ne_nil y rest)]

theorem csv_join (xs : List String) : csv (join "," xs) = xs.flatMap csv := by
  cases xs with
  | nil => decide
  | cons x rest =>
    unfold csv
    rw [splitChar_join (cons_ne_nil x rest), map_flatMap, filter_flatMap]

theorem splitChar_of_not_hasChar (h : hasChar c s = false) : splitChar c s = [s] := by
  have hc : ∀ l ∈ [s.toList], c ∉ l := by
    intro l hl hmem
    rw [mem_singleton.mp hl] at hmem
    rw [hasChar, contains_iff_mem.mpr hmem] at h
    cases h
  have hsplit := splitOn_intercalate c hc (cons_ne_nil _ _)
  rw [intercalate_singleton] at hsplit
  rw [splitChar, hsplit, map_singleton, String.ofList_toList]

/-! ## Pairs -/

theorem strip_pair {k v : String} (hk : strip k = k) :
    (strip (k ++ "=" ++ v)).toList = k.toList ++ '=' :: v.toList.rdropWhile isSpace := by
  have hhead : ∀ c ∈ k.toList.head?, isSpace c = false := by
    rw [← hk]
    exact strip_head
  have hdrop : (k.toList ++ '=' :: v.toList).dropWhile isSpace = k.toList ++ '=' :: v.toList := by
    cases hkl : k.toList with
    | nil => exact dropWhile_cons_of_neg (by decide)
    | cons c cs =>
      rw [hkl] at hhead
      exact dropWhile_cons_of_neg (by simpa using hhead)
  have hpair : (k ++ "=" ++ v).toList = k.toList ++ '=' :: v.toList := by simp
  rw [strip, String.toList_ofList, hpair, hdrop]
  unfold rdropWhile
  rw [reverse_append, reverse_cons, append_assoc, dropWhile_append]
  split
  · next hv =>
    have hnil : v.toList.reverse.dropWhile isSpace = [] := isEmpty_iff.mp hv
    rw [hnil, singleton_append, dropWhile_cons_of_neg (by decide)]
    simp
  · simp

theorem before_after_pair {k v : String} (hk : hasChar '=' k = false) :
    beforeChar '=' (String.ofList (k.toList ++ '=' :: v.toList)) = k ∧
    afterChar '=' (String.ofList (k.toList ++ '=' :: v.toList)) = v := by
  have hne : ∀ c ∈ k.toList, (c != '=') = true := by
    intro c hc
    rw [bne_iff_ne]
    rintro rfl
    rw [hasChar, contains_iff_mem.mpr hc] at hk
    cases hk
  unfold beforeChar afterChar
  rw [String.toList_ofList, takeWhile_append_of_pos hne, dropWhile_append_of_pos hne]
  simp

/-! ## Numbers -/

theorem toList_toString_ofNat (n : Nat) : (toString (n : Int)).toList = Nat.toDigits 10 n := by
  simp [Int.repr]

theorem toList_toString_negSucc (n : Nat) :
    (toString (Int.negSucc n)).toList = '-' :: Nat.toDigits 10 (n + 1) := by simp [Int.repr]

theorem isDigit_of_mem_toString {n : Int} (h : c ∈ (toString n).toList) :
    c.isDigit = true ∨ c = '-' := by
  cases n with
  | ofNat n =>
    rw [Int.ofNat_eq_natCast, toList_toString_ofNat] at h
    exact .inl (Nat.isDigit_of_mem_toDigits (by decide) (by decide) h)
  | negSucc n =>
    rw [toList_toString_negSucc] at h
    rcases mem_cons.mp h with rfl | h
    · exact .inr rfl
    · exact .inl (Nat.isDigit_of_mem_toDigits (by decide) (by decide) h)

theorem toDigits_injective {m n : Nat} (h : Nat.toDigits 10 m = Nat.toDigits 10 n) : m = n := by
  rw [← Nat.ofDigitChars_ten_toDigits (n := m), h, Nat.ofDigitChars_ten_toDigits]

theorem toString_int_injective {m n : Int} (h : toString m = toString n) : m = n := by
  have hl := congrArg String.toList h
  have hsign : ∀ a b : Nat, Nat.toDigits 10 a ≠ '-' :: Nat.toDigits 10 b := by
    intro a b heq
    have hd := Nat.isDigit_of_mem_toDigits (b := 10) (n := a) (by decide) (by decide)
      (heq ▸ mem_cons_self)
    exact absurd hd (by decide)
  cases m with
  | ofNat m =>
    cases n with
    | ofNat n =>
      rw [Int.ofNat_eq_natCast, Int.ofNat_eq_natCast, toList_toString_ofNat,
        toList_toString_ofNat] at hl
      rw [toDigits_injective hl]
    | negSucc n =>
      rw [Int.ofNat_eq_natCast, toList_toString_ofNat, toList_toString_negSucc] at hl
      exact absurd hl (hsign _ _)
  | negSucc m =>
    cases n with
    | ofNat n =>
      rw [Int.ofNat_eq_natCast, toList_toString_ofNat, toList_toString_negSucc] at hl
      exact absurd hl.symm (hsign _ _)
    | negSucc n =>
      rw [toList_toString_negSucc, toList_toString_negSucc] at hl
      have hdigits := toDigits_injective (cons.inj hl).2
      rw [Nat.succ.inj hdigits]

theorem toList_eq_cut (h : hasChar c s = true) :
    s.toList = (beforeChar c s).toList ++ c :: (afterChar c s).toList := by
  obtain ⟨front, back, hs, hfront⟩ := eq_append_cons_of_mem (contains_iff_mem.mp h)
  have hkeep : ∀ d ∈ front, (d != c) = true := fun d hd => by
    simpa using fun heq : d = c => hfront (heq ▸ hd)
  rw [beforeChar, afterChar, String.toList_ofList, String.toList_ofList, hs,
    takeWhile_append_of_pos hkeep, dropWhile_append_of_pos hkeep,
    takeWhile_cons_of_neg (by simp), dropWhile_cons_of_neg (by simp), append_nil,
    drop_one, tail_cons]

end ChaosBlade.Py
