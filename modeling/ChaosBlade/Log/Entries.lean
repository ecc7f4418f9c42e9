/-
Log.Entries: logs of calls and answers, and of sections.

An entry of a log makes calls, each under an id, or answers one. In a log
that is paired every answer comes after its call and every call has its
answer later on.

Some entries start a new section. `inLast` looks from the end, and only as
far as the last of them. It finds the latest entry of the whole log unless
one stands before such a start and none after it (`inLast_eq_latest_iff`).
-/
import Mathlib.Data.List.Induction
import Mathlib.Data.List.TakeWhile

namespace ChaosBlade.Log

open List

variable {M I : Type}

section

variable (calls : M → List I) (answers : M → Option I)

def CalledAfter (made : List I) : List M → Prop
  | [] => True
  | m :: ms => (∀ i ∈ answers m, i ∈ made) ∧ CalledAfter (made ++ calls m) ms

/-- Every call has an answer behind it; `given` are the answers behind the log. -/
def AnsweredBefore (given : List I) : List M → Prop
  | [] => True
  | m :: ms => (∀ i ∈ calls m, i ∈ ms.filterMap answers ++ given) ∧ AnsweredBefore given ms

instance decidableCalledAfter [DecidableEq I] : ∀ (made : List I) (ms : List M),
    Decidable (CalledAfter calls answers made ms)
  | _, [] => .isTrue trivial
  | made, m :: ms =>
    have := decidableCalledAfter (made ++ calls m) ms
    inferInstanceAs (Decidable (_ ∧ _))

instance decidableAnsweredBefore [DecidableEq I] (given : List I) : ∀ ms : List M,
    Decidable (AnsweredBefore calls answers given ms)
  | [] => .isTrue trivial
  | _ :: ms =>
    have := decidableAnsweredBefore given ms
    inferInstanceAs (Decidable (_ ∧ _))

structure Paired (ms : List M) : Prop where
  called : CalledAfter calls answers [] ms
  answered : AnsweredBefore calls answers [] ms

structure Answers (ms : List M) (a t : M) : Prop where
  before : [a, t].Sublist ms
  call : ∃ i ∈ calls a, answers t = some i

end

variable {calls : M → List I} {answers : M → Option I}

theorem calledAfter_append {made : List I} {ms ms' : List M} :
    CalledAfter calls answers made (ms ++ ms') ↔ CalledAfter calls answers made ms ∧
        CalledAfter calls answers (made ++ ms.flatMap calls) ms' := by
  induction ms generalizing made with
  | nil => simp [CalledAfter]
  | cons m ms ih => simp [CalledAfter, ih, and_assoc]

theorem answeredBefore_append {given : List I} {ms ms' : List M} :
    AnsweredBefore calls answers given (ms ++ ms') ↔
      AnsweredBefore calls answers (ms'.filterMap answers ++ given) ms ∧
        AnsweredBefore calls answers given ms' := by
  induction ms with
  | nil => simp [AnsweredBefore]
  | cons m ms ih => simp [AnsweredBefore, ih, and_assoc]

theorem Paired.append_iff {ms loose recent : List M} (h : Paired calls answers (ms ++ recent)) :
    Paired calls answers (loose ++ recent) ↔
      CalledAfter calls answers (loose.flatMap calls) recent ∧ CalledAfter calls answers [] loose ∧
      AnsweredBefore calls answers (recent.filterMap answers) loose := by
  have hrecent := (answeredBefore_append.mp h.answered).2
  constructor
  · intro hpaired
    obtain ⟨hloose, hcalled⟩ := calledAfter_append.mp hpaired.called
    have hanswered := (answeredBefore_append.mp hpaired.answered).1
    rw [append_nil] at hanswered
    exact ⟨hcalled, hloose, hanswered⟩
  · rintro ⟨hcalled, hloose, hanswered⟩
    refine ⟨calledAfter_append.mpr ⟨hloose, hcalled⟩, answeredBefore_append.mpr ⟨?_, hrecent⟩⟩
    rwa [append_nil]

variable {ms : List M}

theorem paired_concat {m : M} (hcalls : calls m = []) (hanswers : answers m = none) :
    Paired calls answers (ms ++ [m]) ↔ Paired calls answers ms := by
  constructor
  · intro h
    have hanswered := (answeredBefore_append.mp h.answered).1
    rw [filterMap_cons_none hanswers] at hanswered
    exact ⟨(calledAfter_append.mp h.called).1, hanswered⟩
  · intro h
    refine ⟨calledAfter_append.mpr ⟨h.called, ?_⟩, answeredBefore_append.mpr ⟨?_, ?_⟩⟩
    · simp [CalledAfter, hanswers]
    · rw [filterMap_cons_none hanswers]
      exact h.answered
    · simp [AnsweredBefore, hcalls]

/-! ## Order -/

theorem Answers.left_mem {a t : M} (h : Answers calls answers ms a t) : a ∈ ms :=
  h.before.subset (by simp)

theorem Answers.right_mem {a t : M} (h : Answers calls answers ms a t) : t ∈ ms :=
  h.before.subset (by simp)

theorem pair_sublist_iff {a b : M} :
    [a, b].Sublist ms ↔ ∃ front mid back, ms = front ++ a :: (mid ++ b :: back) := by
  constructor
  · intro h
    obtain ⟨l, l', rfl, ha, hb⟩ := List.cons_sublist_iff.mp h
    obtain ⟨front, mid, rfl⟩ := append_of_mem ha
    obtain ⟨mid', back, rfl⟩ := append_of_mem (List.singleton_sublist.mp hb)
    exact ⟨front, mid ++ mid', back, by simp⟩
  · rintro ⟨front, mid, back, rfl⟩
    have hb : [b].Sublist (mid ++ b :: back) := List.singleton_sublist.mpr (by simp)
    exact (hb.cons_cons a).trans (sublist_append_right _ _)

theorem not_pair_sublist_swap {a b : M} (hms : ms.Nodup) (h : [a, b].Sublist ms) :
    ¬ [b, a].Sublist ms := by
  intro h'
  induction ms with
  | nil => cases h
  | cons x ms ih =>
    obtain ⟨hx, hms⟩ := nodup_cons.mp hms
    cases h with
    | cons _ h =>
      cases h' with
      | cons _ h' => exact ih hms h h'
      | cons_cons _ _ => exact hx (h.subset (by simp))
    | cons_cons _ h =>
      cases h' with
      | cons _ h' | cons_cons _ h' => exact hx (h'.subset (by simp))

variable {M A : Type}

def latest (f : M → Option A) (ms : List M) : Option A := ms.reverse.findSome? f

def inLast (starts : M → Bool) (f : M → Option A) (ms : List M) : Option A :=
  (ms.reverse.takeWhile fun m => !starts m).findSome? f

variable {starts : M → Bool} {f : M → Option A}

theorem latest_append (ms ms' : List M) : latest f (ms ++ ms') =
    (latest f ms').or (latest f ms) := by
  rw [latest, reverse_append, List.findSome?_append]
  rfl

variable {ms : List M}

theorem isSome_latest : (latest f ms).isSome = true ↔ ∃ m ∈ ms, (f m).isSome = true := by
  simp [latest]

theorem inLast_append_cons {p : M} (hp : starts p = true) (before after : List M) :
    inLast starts f (before ++ p :: after) = inLast starts f after := by
  unfold inLast
  have hstop : (p :: before.reverse).takeWhile (fun m => !starts m) = [] :=
    takeWhile_cons_of_neg (by simp [hp])
  rw [reverse_append, reverse_cons, append_assoc, singleton_append, takeWhile_append]
  split
  · rw [hstop, append_nil]
    next h => rw [(takeWhile_sublist _).eq_of_length h]
  · rfl

theorem inLast_of_no_start (h : ∀ m ∈ ms, starts m = false) : inLast starts f ms = latest f ms := by
  have hall : ms.reverse.takeWhile (fun m => !starts m) = ms.reverse :=
    List.takeWhile_eq_self_iff.mpr fun m hm => by simp [h m (List.mem_reverse.mp hm)]
  rw [inLast, hall, latest]

theorem exists_last_start (starts : M → Bool) (ms : List M) : (∀ m ∈ ms, starts m = false) ∨
    ∃ before p after, ms = before ++ p :: after ∧ starts p = true ∧ ∀ m ∈ after,
        starts m = false := by
  induction ms using List.reverseRecOn with
  | nil => exact .inl (by simp)
  | append_singleton ms m ih =>
    cases hm : starts m with
    | true => exact .inr ⟨ms, m, [], by simp, hm, by simp⟩
    | false =>
      rcases ih with hnone | ⟨before, p, after, rfl, hp, hafter⟩
      · exact .inl (by simpa [or_imp, forall_and, hm] using hnone)
      · exact .inr ⟨before, p, after ++ [m], by simp, hp,
          by simpa [or_imp, forall_and, hm] using hafter⟩

theorem inLast_eq_some {a : A} (h : inLast starts f ms = some a) : ∃ m ∈ ms, f m = some a := by
  obtain ⟨m, hm, hf⟩ := List.exists_of_findSome?_eq_some h
  exact ⟨m, List.mem_reverse.mp ((takeWhile_sublist _).subset hm), hf⟩

theorem inLast_eq_latest_iff : inLast starts f ms = latest f ms ↔
    ∀ before p after, ms = before ++ p :: after → starts p = true →
      (∃ m ∈ before ++ [p], (f m).isSome = true) → ∃ m ∈ after, (f m).isSome = true := by
  have hlatest : ∀ before p after, latest f (before ++ p :: after) =
      (latest f after).or (latest f (before ++ [p])) := by
    intro before p after
    rw [← latest_append, append_assoc]
    rfl
  constructor
  · rintro h before p after rfl hp hbefore
    rw [inLast_append_cons hp, hlatest] at h
    rw [← isSome_latest] at hbefore
    have hsome : (inLast starts f after).isSome = true := by
      rw [h]
      simp [hbefore]
    obtain ⟨a, ha⟩ := Option.isSome_iff_exists.mp hsome
    obtain ⟨m, hm, hf⟩ := inLast_eq_some ha
    exact ⟨m, hm, by simp [hf]⟩
  · intro h
    rcases exists_last_start starts ms with hnone | ⟨before, p, after, rfl, hp, hafter⟩
    · exact inLast_of_no_start hnone
    · have hor := h before p after rfl hp
      rw [← isSome_latest, ← isSome_latest] at hor
      rw [inLast_append_cons hp, inLast_of_no_start hafter, hlatest]
      cases hvalue : latest f after with
      | some a => rfl
      | none =>
        cases hold : latest f (before ++ [p]) with
        | none => rfl
        | some a => simp [hvalue, hold] at hor

end ChaosBlade.Log
