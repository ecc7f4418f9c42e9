/-
Graph.Messages: the reducer `add_messages` of a graph's state.

A message that comes back under an identity the list has replaces the one
there; any other one goes to the end. A removal names an identity.
-/
import Mathlib.Data.List.Basic

namespace ChaosBlade.Graph

open List

variable {M I : Type} [DecidableEq I] (idOf : M → Option I)

inductive MessageUpdate (M I : Type) where
  | remove (id : I)
  | add (m : M)

def MessageUpdate.apply (messages : List M) : MessageUpdate M I → List M
  | .remove id => messages.filter fun m => idOf m ≠ some id
  | .add m =>
    if ∃ old ∈ messages, idOf m ≠ none ∧ idOf old = idOf m then
      messages.map fun old => if idOf old = idOf m then m else old
    else messages ++ [m]

def addMessages (messages : List M) (updates : List (MessageUpdate M I)) : List M :=
  updates.foldl (MessageUpdate.apply idOf) messages

theorem addMessages_append (messages : List M) (us us' : List (MessageUpdate M I)) :
    addMessages idOf messages (us ++ us') =
      addMessages idOf (addMessages idOf messages us) us' := foldl_append

theorem addMessages_remove (messages : List M) (ids : List I) :
    addMessages idOf messages (ids.map .remove) =
      messages.filter fun m => decide (∀ i ∈ ids, idOf m ≠ some i) := by
  induction ids generalizing messages with
  | nil => simp [addMessages]
  | cons i ids ih =>
    have hstep : addMessages idOf messages ((i :: ids).map .remove) =
        addMessages idOf (messages.filter fun m => idOf m ≠ some i) (ids.map .remove) := rfl
    rw [hstep, ih, List.filter_filter]
    refine filter_congr fun m _ => ?_
    rw [Bool.eq_iff_iff, Bool.and_eq_true, decide_eq_true_iff, decide_eq_true_iff,
        decide_eq_true_iff,
      forall_mem_cons, and_comm]

theorem addMessages_unnamed (messages : List M) {m : M} (h : idOf m = none) :
    addMessages idOf messages [.add m] = messages ++ [m] := by
  simp [addMessages, MessageUpdate.apply, h]

/-- Updates of messages the list has, each under an identity of its own, change
the list in place. -/
theorem addMessages_replace {messages us : List M} (hnamed : ∀ u ∈ us, idOf u ≠ none)
    (hknown : ∀ u ∈ us, ∃ old ∈ messages, idOf old = idOf u)
    (hdistinct : us.Pairwise fun u v => idOf u ≠ idOf v) :
    addMessages idOf messages (us.map .add) =
      messages.map fun m => (us.find? fun u => idOf u = idOf m).getD m := by
  induction us generalizing messages with
  | nil => simp [addMessages]
  | cons u us ih =>
    obtain ⟨hu, hus⟩ := forall_mem_cons.mp hnamed
    obtain ⟨⟨old, hold, heq⟩, hknown⟩ := forall_mem_cons.mp hknown
    obtain ⟨hfresh, hdistinct⟩ := pairwise_cons.mp hdistinct
    have hstep : addMessages idOf messages ((u :: us).map .add) =
        addMessages idOf (messages.map fun old => if idOf old = idOf u then u else old)
          (us.map .add) := by
      rw [map_cons, addMessages, foldl_cons, MessageUpdate.apply, if_pos ⟨old, hold, hu, heq⟩]
      rfl
    have hsame : ∀ m, idOf (if idOf m = idOf u then u else m) = idOf m := by
      intro m
      split
      · next h => exact h.symm
      · rfl
    rw [hstep, ih hus ?_ hdistinct, map_map]
    · refine map_congr_left fun m _ => ?_
      simp only [Function.comp_apply, hsame, find?_cons]
      by_cases hm : idOf u = idOf m
      · have hnone : us.find? (fun v => idOf v = idOf m) = none := by
          simp only [find?_eq_none, decide_eq_true_eq]
          exact fun v hv hvm => hfresh v hv (hm.trans hvm.symm)
        simp [hm, hnone]
      · simp [hm, Ne.symm hm]
    · intro v hv
      obtain ⟨w, hw, hwv⟩ := hknown v hv
      exact ⟨_, mem_map_of_mem hw, (hsame w).trans hwv⟩

end ChaosBlade.Graph
