/-
Py.RegexTheorems: the language of a pattern.

A pattern that asserts nothing about its surroundings has a language, and
from any place it can consume exactly the words of the language that
follow (`Free.sound`, `Free.complete`).
-/
import ChaosBlade.Py.Regex
import ChaosBlade.Py.Text
import Mathlib.Computability.Language

namespace ChaosBlade.Py.Regex

open List Language

open scoped Computability

def Free : Regex → Prop
  | .eps | .char _ => True
  | .seq r s | .alt r s => r.Free ∧ s.Free
  | .star r _ | .group _ r => r.Free
  | .lineStart | .lineEnd | .notBehind _ => False

theorem free_lit (s : String) : (lit s).Free := by
  unfold lit
  induction s.toList with
  | nil => trivial
  | cons c cs ih => exact ⟨trivial, ih⟩

theorem free_all : ∀ {rs : List Regex}, (∀ r ∈ rs, r.Free) → (all rs).Free
  | [], _ => trivial
  | r :: rs, h => ⟨h r (by simp), free_all fun s hs => h s (by simp [hs])⟩

/-! ## Languages -/

def lang : Regex → Language Char
  | .eps => 1
  | .char f => {w | ∃ c, f c = true ∧ w = [c]}
  | .seq r s => r.lang * s.lang
  | .alt r s => r.lang + s.lang
  | .star r _ => r.lang∗
  | .group _ r => r.lang
  | .lineStart | .lineEnd | .notBehind _ => 0

variable {w : List Char}

@[simp] theorem mem_lang_eps : w ∈ (Regex.eps).lang ↔ w = [] := mem_one w

@[simp] theorem mem_lang_char {f : Char → Bool} :
    w ∈ (Regex.char f).lang ↔ ∃ c, f c = true ∧ w = [c] := Iff.rfl

@[simp] theorem mem_lang_seq {r s : Regex} :
    w ∈ (Regex.seq r s).lang ↔ ∃ u ∈ r.lang, ∃ v ∈ s.lang, u ++ v = w := mem_mul

variable {greedy : Bool}

theorem mem_lang_star_char {f : Char → Bool} :
    w ∈ (Regex.star (.char f) greedy).lang ↔ ∀ c ∈ w, f c = true := by
  constructor
  · rintro ⟨S, rfl, hS⟩ c hc
    obtain ⟨u, hu, hcu⟩ := mem_flatten.mp hc
    obtain ⟨d, hd, rfl⟩ := hS u hu
    rwa [mem_singleton.mp hcu]
  · intro h
    refine ⟨w.map fun c => [c], by simp [← flatMap_def], ?_⟩
    intro u hu
    obtain ⟨c, hc, rfl⟩ := mem_map.mp hu
    exact ⟨c, h c hc, rfl⟩

theorem mem_lang_lit {s : String} : w ∈ (lit s).lang ↔ w = s.toList := by
  unfold lit
  induction s.toList generalizing w with
  | nil => simp
  | cons c cs ih =>
    constructor
    · rintro ⟨u, ⟨d, hd, rfl⟩, v, hv, rfl⟩
      rw [ih.mp hv, beq_iff_eq.mp hd]
      rfl
    · rintro rfl
      exact ⟨[c], ⟨c, by simp, rfl⟩, cs, ih.mpr rfl, rfl⟩

def rejects (c : Char) : Regex → Bool
  | .char f => !f c
  | .seq r s | .alt r s => r.rejects c && s.rejects c
  | .star r _ | .group _ r => r.rejects c
  | .eps | .lineStart | .lineEnd | .notBehind _ => true

theorem not_mem_of_rejects {c : Char} : ∀ {r : Regex} {w : List Char}, r.rejects c = true →
    w ∈ r.lang → c ∉ w
  | .eps, w, _, hw => by simp [mem_lang_eps.mp hw]
  | .char f, w, h, hw => by
    obtain ⟨d, hd, rfl⟩ := mem_lang_char.mp hw
    rintro hc
    obtain rfl := mem_singleton.mp hc
    simp [rejects, hd] at h
  | .seq r s, w, h, hw => by
    obtain ⟨hr, hs⟩ := Bool.and_eq_true_iff.mp h
    obtain ⟨u, hu, v, hv, rfl⟩ := mem_lang_seq.mp hw
    rw [mem_append, not_or]
    exact ⟨not_mem_of_rejects hr hu, not_mem_of_rejects hs hv⟩
  | .alt r s, w, h, hw => by
    obtain ⟨hr, hs⟩ := Bool.and_eq_true_iff.mp h
    exact hw.elim (not_mem_of_rejects hr) (not_mem_of_rejects hs)
  | .star r _, w, h, hw => by
    obtain ⟨S, rfl, hS⟩ := mem_kstar.mp hw
    intro hc
    obtain ⟨u, hu, hcu⟩ := mem_flatten.mp hc
    exact not_mem_of_rejects (r := r) h (hS u hu) hcu
  | .group _ r, w, h, hw => not_mem_of_rejects (r := r) h hw
  | .lineStart, w, _, hw => hw.elim
  | .lineEnd, w, _, hw => hw.elim
  | .notBehind _, w, _, hw => hw.elim

/-! ## Places -/

theorem mem_iterate_self (step : Place → List Place) (greedy : Bool) (fuel : Nat) (p : Place) :
    p ∈ iterate step greedy fuel p := by
  cases fuel with
  | zero => simp [iterate]
  | succ fuel => cases greedy <;> simp [iterate]

variable {step : Place → List Place}

theorem mem_iterate_succ {fuel : Nat} {p q : Place} :
    q ∈ iterate step greedy (fuel + 1) p ↔
      q = p ∨ ∃ m ∈ step p, m.rest.length < p.rest.length ∧ q ∈ iterate step greedy fuel m := by
  cases greedy <;> simp [iterate, and_assoc, or_comm]

theorem sound_iterate {L : Language Char}
    (hstep : ∀ p, ∀ q ∈ step p, ∃ w ∈ L, p.rest = w ++ q.rest) :
    ∀ {fuel : Nat} {p q : Place}, q ∈ iterate step greedy fuel p → ∃ w ∈ L∗, p.rest = w ++ q.rest
  | 0, p, q, h => by
    obtain rfl : q = p := by simpa [iterate] using h
    exact ⟨[], nil_mem_kstar L, rfl⟩
  | fuel + 1, p, q, h => by
    rcases mem_iterate_succ.mp h with rfl | ⟨m, hm, -, hq⟩
    · exact ⟨[], nil_mem_kstar L, rfl⟩
    · obtain ⟨u, hu, hp⟩ := hstep p m hm
      obtain ⟨v, hv, hrest⟩ := sound_iterate hstep hq
      have huv : u ++ v ∈ 1 + L * L∗ := .inr (mem_mul.mpr ⟨u, hu, v, hv, rfl⟩)
      rw [one_add_self_mul_kstar_eq_kstar] at huv
      exact ⟨u ++ v, huv, by rw [hp, hrest, append_assoc]⟩

theorem sound : ∀ {r : Regex}, r.Free → ∀ p, ∀ q ∈ ends r p, ∃ w ∈ r.lang, p.rest = w ++ q.rest
  | .eps, _, p, q, hq => by
    obtain rfl : q = p := by simpa [ends] using hq
    exact ⟨[], by simp, rfl⟩
  | .char f, _, p, q, hq => by
    cases hrest : p.rest with
    | nil => simp [ends, hrest] at hq
    | cons c cs =>
      obtain ⟨hc, rfl⟩ : f c = true ∧ q = { p with before := c :: p.before, rest := cs } := by
        simpa [ends, hrest] using hq
      exact ⟨[c], ⟨c, hc, rfl⟩, rfl⟩
  | .seq r s, h, p, q, hq => by
    obtain ⟨m, hm, hq⟩ := mem_flatMap.mp hq
    obtain ⟨u, hu, hp⟩ := sound h.1 p m hm
    obtain ⟨v, hv, hrest⟩ := sound h.2 m q hq
    exact ⟨u ++ v, mem_lang_seq.mpr ⟨u, hu, v, hv, rfl⟩, by rw [hp, hrest, append_assoc]⟩
  | .alt r s, h, p, q, hq => by
    rcases mem_append.mp hq with hq | hq
    · obtain ⟨w, hw, hp⟩ := sound h.1 p q hq
      exact ⟨w, .inl hw, hp⟩
    · obtain ⟨w, hw, hp⟩ := sound h.2 p q hq
      exact ⟨w, .inr hw, hp⟩
  | .star r _, h, p, q, hq => sound_iterate (sound (r := r) h) hq
  | .group _ r, h, p, q, hq => by
    obtain ⟨m, hm, rfl⟩ := mem_map.mp hq
    exact sound (r := r) h p m hm

theorem complete_iterate {L : Language Char}
    (hstep : ∀ p, ∀ w ∈ L, ∀ rest, p.rest = w ++ rest → ∃ q ∈ step p, q.rest = rest)
    {rest : List Char} : ∀ {S : List (List Char)} {fuel : Nat} {p : Place}, p.rest.length ≤ fuel →
      (∀ u ∈ S, u ∈ L ∧ u ≠ []) → p.rest = S.flatten ++ rest →
        ∃ q ∈ iterate step greedy fuel p, q.rest = rest
  | [], fuel, p, _, _, hp => ⟨p, mem_iterate_self step greedy fuel p, hp⟩
  | u :: S, fuel, p, hfuel, hS, hp => by
    obtain ⟨hu, hne⟩ := hS u List.mem_cons_self
    rw [List.flatten_cons, List.append_assoc] at hp
    obtain ⟨m, hm, hmrest⟩ := hstep p u hu _ hp
    have hlen : p.rest.length = u.length + m.rest.length := by rw [hp, hmrest, length_append]
    have hpos : 0 < u.length := length_pos_iff.mpr hne
    have hlt : m.rest.length < p.rest.length := by omega
    obtain ⟨fuel, rfl⟩ : ∃ k, fuel = k + 1 := ⟨fuel - 1, by omega⟩
    have hfuel' : m.rest.length ≤ fuel := by omega
    obtain ⟨q, hq, hrest⟩ := complete_iterate hstep hfuel'
      (fun v hv => hS v (mem_cons_of_mem u hv)) hmrest
    exact ⟨q, mem_iterate_succ.mpr (.inr ⟨m, hm, hlt, hq⟩), hrest⟩

theorem complete : ∀ {r : Regex}, r.Free → ∀ p, ∀ w ∈ r.lang, ∀ rest, p.rest = w ++ rest →
    ∃ q ∈ ends r p, q.rest = rest
  | .eps, _, p, w, hw, rest, hp => by
    obtain rfl := mem_lang_eps.mp hw
    exact ⟨p, by simp [ends], hp⟩
  | .char f, _, p, w, hw, rest, hp => by
    obtain ⟨c, hc, rfl⟩ := mem_lang_char.mp hw
    rw [singleton_append] at hp
    exact ⟨{ p with before := c :: p.before, rest }, by simp [ends, hp, hc], rfl⟩
  | .seq r s, h, p, w, hw, rest, hp => by
    obtain ⟨u, hu, v, hv, rfl⟩ := mem_lang_seq.mp hw
    obtain ⟨m, hm, hmrest⟩ := complete h.1 p u hu (v ++ rest) (by rw [hp, append_assoc])
    obtain ⟨q, hq, hrest⟩ := complete h.2 m v hv rest hmrest
    exact ⟨q, mem_flatMap.mpr ⟨m, hm, hq⟩, hrest⟩
  | .alt r s, h, p, w, hw, rest, hp => by
    rcases hw with hw | hw
    · obtain ⟨q, hq, hrest⟩ := complete h.1 p w hw rest hp
      exact ⟨q, mem_append_left _ hq, hrest⟩
    · obtain ⟨q, hq, hrest⟩ := complete h.2 p w hw rest hp
      exact ⟨q, mem_append_right _ hq, hrest⟩
  | .star r _, h, p, w, hw, rest, hp => by
    obtain ⟨S, rfl, hS⟩ := mem_kstar_iff_exists_nonempty.mp hw
    exact complete_iterate (complete (r := r) h) (Nat.le_refl _) hS hp
  | .group n r, h, p, w, hw, rest, hp => by
    obtain ⟨m, hm, hrest⟩ := complete (r := r) h p w hw rest hp
    exact ⟨_, mem_map.mpr ⟨m, hm, rfl⟩, hrest⟩

/-! ## Searching -/

theorem searchFrom_isSome {r : Regex} : ∀ {rest before : List Char},
    (searchFrom r before rest).isSome ↔
      ∃ front back, rest = front ++ back ∧ ends r ⟨front.reverse ++ before, back, []⟩ ≠ []
  | [], before => by
    have hsearch : (searchFrom r before []).isSome ↔ ends r ⟨before, [], []⟩ ≠ [] := by
      cases h : ends r ⟨before, [], []⟩ <;> simp [searchFrom, h]
    rw [hsearch]
    constructor
    · exact fun h => ⟨[], [], rfl, h⟩
    · rintro ⟨front, back, hsplit, hends⟩
      obtain ⟨rfl, rfl⟩ := append_eq_nil_iff.mp hsplit.symm
      exact hends
  | c :: cs, before => by
    cases h : ends r ⟨before, c :: cs, []⟩ with
    | cons q qs =>
      have hsome : (searchFrom r before (c :: cs)).isSome := by simp [searchFrom, h]
      exact iff_of_true hsome ⟨[], c :: cs, rfl, by simp [h]⟩
    | nil =>
      have hnext : searchFrom r before (c :: cs) = searchFrom r (c :: before) cs := by
        simp [searchFrom, h]
      rw [hnext, searchFrom_isSome]
      constructor
      · rintro ⟨front, back, rfl, hends⟩
        exact ⟨c :: front, back, rfl, by simpa using hends⟩
      · rintro ⟨front, back, hsplit, hends⟩
        cases front with
        | nil =>
          cases hsplit
          exact absurd h hends
        | cons d front =>
          obtain ⟨rfl, rfl⟩ : c = d ∧ cs = front ++ back := by simpa using hsplit
          exact ⟨front, back, rfl, by simpa using hends⟩

theorem search_isSome_iff {r : Regex} (hr : r.Free) {text : String} :
    (r.search text).isSome = true ↔ ∃ w ∈ r.lang, w <:+: text.toList := by
  unfold search
  rw [searchFrom_isSome]
  constructor
  · rintro ⟨front, back, hsplit, hends⟩
    obtain ⟨q, hq⟩ := exists_mem_of_ne_nil _ hends
    obtain ⟨w, hw, hback⟩ := sound hr _ q hq
    exact ⟨w, hw, front, q.rest, by rw [hsplit, show back = w ++ q.rest from hback, append_assoc]⟩
  · rintro ⟨w, hw, front, back, hsplit⟩
    obtain ⟨q, hq, -⟩ := complete hr ⟨front.reverse ++ [], w ++ back, []⟩ w hw back rfl
    exact ⟨front, w ++ back, by rw [← hsplit, append_assoc], ne_nil_of_mem hq⟩

theorem search_of_infix {r : Regex} (hr : r.Free) {piece text : String}
    (hpiece : piece.toList <:+: text.toList) (h : (r.search piece).isSome = true) :
    (r.search text).isSome = true := by
  obtain ⟨w, hw, hinfix⟩ := (search_isSome_iff hr).mp h
  exact (search_isSome_iff hr).mpr ⟨w, hw, hinfix.trans hpiece⟩

end ChaosBlade.Py.Regex
