/-
Py.Dict: string-keyed Python dictionaries.

A `Dict` keeps its entries in insertion order and carries the proof that
no key occurs twice, so a lookup never depends on which of two equal keys
is met first. `set` is `d[k] = v`: it overwrites in place or appends at
the end. Two dictionaries are equal in Python when they agree on every
lookup, whatever the order of their entries: that is `Dict.Same`.
-/
import Mathlib.Data.List.Nodup

namespace ChaosBlade.Py

open List

structure Dict (α : Type) where
  entries : List (String × α)
  nodup : (entries.map Prod.fst).Nodup
  deriving DecidableEq

namespace Dict

variable {α : Type}

def empty : Dict α := ⟨[], nodup_nil⟩

instance : EmptyCollection (Dict α) := ⟨empty⟩

def isEmpty (d : Dict α) : Bool := d.entries.isEmpty

def get? (d : Dict α) (k : String) : Option α := d.entries.lookup k

def setEntry (k : String) (v : α) : List (String × α) → List (String × α)
  | [] => [(k, v)]
  | (k', v') :: rest => if k' = k then (k, v) :: rest else (k', v') :: setEntry k v rest

theorem map_fst_setEntry (k : String) (v : α) (es : List (String × α)) :
    (setEntry k v es).map Prod.fst =
      if k ∈ es.map Prod.fst then es.map Prod.fst else es.map Prod.fst ++ [k] := by
  induction es with
  | nil => simp [setEntry]
  | cons e rest ih =>
    obtain ⟨k', v'⟩ := e
    by_cases hk : k' = k
    · subst hk; simp [setEntry]
    · have hk' : ¬ k = k' := fun h => hk h.symm
      simp only [setEntry, hk, if_false, map_cons, ih, mem_cons, hk', false_or]
      split <;> simp

theorem setEntry_nodup (k : String) (v : α) {es : List (String × α)}
    (h : (es.map Prod.fst).Nodup) : ((setEntry k v es).map Prod.fst).Nodup := by
  rw [map_fst_setEntry]
  split
  · exact h
  · next hk => exact nodup_append.mpr ⟨h, by simp, by
      rintro a ha b hb rfl
      simp only [mem_singleton] at hb
      exact hk (hb ▸ ha)⟩

def set (d : Dict α) (k : String) (v : α) : Dict α :=
  ⟨setEntry k v d.entries, setEntry_nodup k v d.nodup⟩

def update (d : Dict α) (ps : List (String × α)) : Dict α :=
  ps.foldl (fun d p => d.set p.1 p.2) d

def ofPairs (ps : List (String × α)) : Dict α := update ∅ ps

def mapValues {β : Type} (f : α → β) (d : Dict α) : Dict β :=
  ⟨d.entries.map fun e => (e.1, f e.2), by
    rw [map_map]
    exact d.nodup⟩

def Same (d e : Dict α) : Prop := ∀ k, d.get? k = e.get? k

def beq [DecidableEq α] (d e : Dict α) : Bool :=
  ((d.entries ++ e.entries).map Prod.fst).all (fun k => d.get? k == e.get? k)

/-! ## Lookups -/

@[simp] theorem get?_empty (k : String) : (∅ : Dict α).get? k = none := rfl

@[simp] theorem isEmpty_empty : (∅ : Dict α).isEmpty = true := rfl

theorem lookup_cons_eq_if (k j : String) (w : α) (es : List (String × α)) :
    ((j, w) :: es).lookup k = if k = j then some w else es.lookup k := by
  by_cases h : k = j
  · subst h; simp
  · have hb : (k == j) = false := by simpa using h
    simp [lookup_cons, hb, h]

theorem lookup_setEntry (k k' : String) (v : α) (es : List (String × α)) :
    (setEntry k v es).lookup k' = if k' = k then some v else es.lookup k' := by
  induction es with
  | nil => simp [setEntry, lookup_cons_eq_if]
  | cons e rest ih =>
    obtain ⟨j, w⟩ := e
    by_cases hj : j = k
    · subst hj
      by_cases h : k' = j <;> simp [setEntry, lookup_cons_eq_if, h]
    · simp only [setEntry, hj, if_false, lookup_cons_eq_if, ih]
      by_cases h : k' = j
      · subst h; simp [hj]
      · simp [h]

variable {k : String}

theorem lookup_eq_none_of_notMem : ∀ {es : List (String × α)},
    k ∉ es.map Prod.fst → es.lookup k = none
  | [], _ => rfl
  | (j, w) :: rest, h => by
    simp only [map_cons, mem_cons, not_or] at h
    rw [lookup_cons_eq_if, if_neg h.1, lookup_eq_none_of_notMem h.2]

@[simp] theorem get?_set (d : Dict α) (k k' : String) (v : α) :
    (d.set k v).get? k' = if k' = k then some v else d.get? k' :=
  lookup_setEntry k k' v d.entries

variable {d : Dict α}

theorem get?_of_mem {v : α} (h : (k, v) ∈ d.entries) : d.get? k = some v := by
  obtain ⟨es, hnodup⟩ := d
  show es.lookup k = some v
  induction es with
  | nil => cases h
  | cons e rest ih =>
    obtain ⟨j, w⟩ := e
    obtain ⟨hj, hrest⟩ := nodup_cons.mp hnodup
    rw [lookup_cons_eq_if]
    rcases mem_cons.mp h with heq | hmem
    · cases heq
      rw [if_pos rfl]
    · have hne : k ≠ j := by
        rintro rfl
        exact hj (mem_map.mpr ⟨(k, v), hmem, rfl⟩)
      rw [if_neg hne]
      exact ih hrest hmem

theorem setEntry_of_notMem (v : α) : ∀ {es : List (String × α)},
    k ∉ es.map Prod.fst → setEntry k v es = es ++ [(k, v)]
  | [], _ => rfl
  | (j, w) :: rest, h => by
    rw [map_cons, mem_cons, not_or] at h
    rw [setEntry, if_neg (fun hj => h.1 hj.symm), setEntry_of_notMem v h.2]
    rfl

theorem entries_update : ∀ (ps : List (String × α)) (d : Dict α),
    ((d.entries ++ ps).map Prod.fst).Nodup → (d.update ps).entries = d.entries ++ ps
  | [], d, _ => (append_nil d.entries).symm
  | (k, v) :: ps, d, h => by
    have hk : k ∉ d.entries.map Prod.fst := by
      intro hmem
      rw [map_append, nodup_append] at h
      exact h.2.2 k hmem k mem_cons_self rfl
    have hset : (d.set k v).entries = d.entries ++ [(k, v)] := setEntry_of_notMem v hk
    have hstep := entries_update ps (d.set k v) (by
      rw [hset, append_assoc]
      exact h)
    rw [hset, append_assoc] at hstep
    exact hstep

theorem ofPairs_entries (d : Dict α) : ofPairs d.entries = d := by
  have h := entries_update d.entries ∅ d.nodup
  obtain ⟨es, hnodup⟩ := d
  unfold ofPairs
  cases hd : update ∅ es with
  | mk es' h' =>
    rw [hd] at h
    have hes : es' = es := h
    subst hes
    rfl

theorem eq_empty_of_entries (h : d.entries = []) : d = ∅ := by
  obtain ⟨es, hnodup⟩ := d
  cases h
  rfl

theorem isEmpty_eq_false_iff : d.isEmpty = false ↔ d.entries ≠ [] := by simp [isEmpty]

theorem get?_mapValues_of_mem {β : Type} (f : α → β) {v : α}
    (h : (k, v) ∈ d.entries) : (d.mapValues f).get? k = some (f v) :=
  get?_of_mem (mem_map.mpr ⟨(k, v), h, rfl⟩)

theorem Same.symm {e : Dict α} (h : d.Same e) : e.Same d := fun k => (h k).symm

theorem beq_iff_same [DecidableEq α] (d e : Dict α) : d.beq e = true ↔ d.Same e := by
  simp only [beq, all_eq_true, map_append, mem_append, beq_iff_eq]
  constructor
  · intro h k
    by_cases hk : k ∈ d.entries.map Prod.fst ∨ k ∈ e.entries.map Prod.fst
    · exact h k hk
    · rw [not_or] at hk
      rw [get?, get?, lookup_eq_none_of_notMem hk.1, lookup_eq_none_of_notMem hk.2]
  · intro h k _; exact h k

end Dict

end ChaosBlade.Py
