/-
Tools.CreateFlagsTheorems: what becomes of the flags of
`build_blade_create_args` when they are split again.
-/
import ChaosBlade.Py.ShlexTheorems
import ChaosBlade.Tools.FaultType

namespace ChaosBlade.Tools

open Py List

theorem keyOf_flag (k : String) : keyOf ("--" ++ k) = if keyParams.contains k then some k
    else none := by
  have hstarts : startsWith ("--" ++ k) "--" = true := by simp [startsWith]
  have hdrop : String.ofList (("--" ++ k).toList.drop 2) = k := by simp
  unfold keyOf
  dsimp only
  rw [hdrop, hstarts, Bool.true_and]

/-! ## Which pair the scan keeps

A flag of a key parameter takes the token behind it as its value, so of a run of such flags only
every second one is read as a flag. -/

def keyRun (front : List String) : Nat := (front.reverse.takeWhile fun t => (keyOf t).isSome).length

theorem keyRun_pass {token : String} (h : keyOf token = none) (front : List String) :
    keyRun (token :: front) = keyRun front := by
  simp only [keyRun, reverse_cons, takeWhile_append, takeWhile_cons, h, Option.isSome_none,
    Bool.false_eq_true, if_false, append_nil]
  split
  · rename_i hall
    rw [hall]
  · rfl

theorem keyRun_pair {token key : String} (h : keyOf token = some key) (value : String)
    (front : List String) : keyRun (token :: value :: front) % 2 = keyRun front % 2 := by
  simp only [keyRun, reverse_cons, append_assoc, takeWhile_append, takeWhile_cons, singleton_append,
      h,
    Option.isSome_some, if_true, takeWhile_nil]
  split
  · rename_i hall
    rw [hall]
    cases (keyOf value).isSome <;> simp
  · rfl

/-- The scan reads `--k v` behind `front`. -/
def ReadsAt (tokens : List String) (k v : String) (front back : List String) : Prop :=
  tokens = front ++ ("--" ++ k) :: v :: back ∧ keyRun front % 2 = 0

def NotRead (k : String) (tokens : List String) : Prop :=
  ∀ front v back, ¬ ReadsAt tokens k v front back

def LastRead (tokens : List String) (k v : String) : Prop :=
  ∃ front back, ReadsAt tokens k v front back ∧ NotRead k back

variable {k v token value key : String} {rest : List String}

theorem readsAt_pass (h : keyOf token = none) (hk : keyParams.contains k = true)
    {front back : List String} :
    ReadsAt (token :: rest) k v front back ↔ ∃ front', front = token :: front' ∧
        ReadsAt rest k v front' back := by
  constructor
  · rintro ⟨heq, heven⟩
    cases front with
    | nil =>
      obtain ⟨rfl, -⟩ := cons.inj heq
      rw [keyOf_flag, hk] at h
      cases h
    | cons t front =>
      obtain ⟨rfl, hrest⟩ := cons.inj heq
      exact ⟨front, rfl, hrest, by rwa [keyRun_pass h] at heven⟩
  · rintro ⟨front, rfl, rfl, heven⟩
    exact ⟨rfl, by rwa [keyRun_pass h]⟩

/-- Behind a pair that is read the scan starts afresh. -/
theorem readsAt_pair (h : keyOf token = some key) {front back : List String} :
    ReadsAt (token :: value :: rest) k v front back ↔
      (front = [] ∧ token = "--" ++ k ∧ value = v ∧ rest = back) ∨
        ∃ front', front = token :: value :: front' ∧ ReadsAt rest k v front' back := by
  constructor
  · rintro ⟨heq, heven⟩
    match front with
    | [] =>
      obtain ⟨htoken, hvalue, hback⟩ : token = "--" ++ k ∧ value = v ∧ rest = back :=
          by simpa using heq
      exact .inl ⟨rfl, htoken, hvalue, hback⟩
    | [t] =>
      -- the flag itself is the value of the flag in front of it
      obtain ⟨rfl, -⟩ := cons.inj heq
      simp [keyRun, h] at heven
    | t :: t' :: front =>
      obtain ⟨rfl, rfl, hrest⟩ : token = t ∧ value = t' ∧ rest = front ++
          ("--" ++ k) :: v :: back := by
        simpa using heq
      exact .inr ⟨front, rfl, hrest, by rwa [keyRun_pair h] at heven⟩
  · rintro (⟨rfl, rfl, rfl, rfl⟩ | ⟨front, rfl, rfl, heven⟩)
    · exact ⟨rfl, rfl⟩
    · exact ⟨rfl, by rwa [keyRun_pair h]⟩

theorem keyOf_eq_some (h : keyOf token = some key) :
    token = "--" ++ key ∧ keyParams.contains key = true := by
  unfold keyOf at h
  dsimp only at h
  split at h
  · rename_i hcond
    obtain ⟨hstarts, hkey⟩ := Bool.and_eq_true_iff.mp hcond
    cases h
    obtain ⟨tail, htail⟩ := List.isPrefixOf_iff_prefix.mp hstarts
    refine ⟨String.toList_inj.mp ?_, hkey⟩
    rw [String.toList_append, String.toList_ofList, ← htail]
    simp
  · cases h

theorem notRead_pass (h : keyOf token = none) (hk : keyParams.contains k = true) :
    NotRead k (token :: rest) ↔ NotRead k rest := by
  constructor
  · intro hnot front v back hread
    exact hnot _ v back ((readsAt_pass h hk).mpr ⟨front, rfl, hread⟩)
  · intro hnot front v back hread
    obtain ⟨front', -, hread'⟩ := (readsAt_pass h hk).mp hread
    exact hnot front' v back hread'

theorem lastRead_pass (h : keyOf token = none) (hk : keyParams.contains k = true) :
    LastRead (token :: rest) k v ↔ LastRead rest k v := by
  constructor
  · rintro ⟨front, back, hread, hnot⟩
    obtain ⟨front', -, hread'⟩ := (readsAt_pass h hk).mp hread
    exact ⟨front', back, hread', hnot⟩
  · rintro ⟨front, back, hread, hnot⟩
    exact ⟨token :: front, back, (readsAt_pass h hk).mpr ⟨front, rfl, hread⟩, hnot⟩

theorem notRead_pair (h : keyOf token = some key) :
    NotRead k (token :: value :: rest) ↔ token ≠ "--" ++ k ∧ NotRead k rest := by
  constructor
  · intro hnot
    refine ⟨fun htoken => ?_, fun front v back hread => ?_⟩
    · exact hnot [] value rest ((readsAt_pair h).mpr (.inl ⟨rfl, htoken, rfl, rfl⟩))
    · exact hnot _ v back ((readsAt_pair h).mpr (.inr ⟨front, rfl, hread⟩))
  · rintro ⟨htoken, hnot⟩ front v back hread
    rcases (readsAt_pair h).mp hread with ⟨-, heq, -⟩ | ⟨front', -, hread'⟩
    · exact htoken heq
    · exact hnot front' v back hread'

theorem lastRead_pair (h : keyOf token = some key) :
    LastRead (token :: value :: rest) k v ↔
      LastRead rest k v ∨ NotRead k rest ∧ token = "--" ++ k ∧ value = v := by
  constructor
  · rintro ⟨front, back, hread, hnot⟩
    rcases (readsAt_pair h).mp hread with ⟨-, htoken, hvalue, rfl⟩ | ⟨front', -, hread'⟩
    · exact .inr ⟨hnot, htoken, hvalue⟩
    · exact .inl ⟨front', back, hread', hnot⟩
  · rintro (⟨front, back, hread, hnot⟩ | ⟨hnot, htoken, hvalue⟩)
    · exact ⟨_, back, (readsAt_pair h).mpr (.inr ⟨front, rfl, hread⟩), hnot⟩
    · exact ⟨[], rest, (readsAt_pair h).mpr (.inl ⟨rfl, htoken, hvalue, rfl⟩), hnot⟩

theorem notRead_of_length {tokens : List String} (h : tokens.length < 2) : NotRead k tokens := by
  rintro front v back ⟨rfl, -⟩
  simp only [length_append, length_cons] at h
  omega

theorem flag_inj {a b : String} : "--" ++ a = "--" ++ b ↔ a = b := by
  constructor
  · intro h
    have hlists := congrArg String.toList h
    rw [String.toList_append, String.toList_append] at hlists
    exact String.toList_inj.mp (List.append_cancel_left hlists)
  · exact congrArg _

/-- A key parameter has the value of the last pair that reads it, or else the one it had. -/
theorem scanKeys_get? (hk : keyParams.contains k = true) (tokens : List String)
    (found : Dict String) :
    (scanKeys found tokens).get? k = some v ↔
      LastRead tokens k v ∨ NotRead k tokens ∧ found.get? k = some v := by
  fun_induction scanKeys found tokens with
  | case1 found token value rest key hkey ih =>
    rw [ih, lastRead_pair hkey, notRead_pair hkey, Dict.get?_set]
    obtain ⟨rfl, -⟩ := keyOf_eq_some hkey
    by_cases heq : k = key
    · subst heq
      simp
    · have hflag : "--" ++ key ≠ "--" ++ k := fun h => heq (flag_inj.mp h).symm
      simp [heq, hflag]
  | case2 found token value rest hnone ih =>
    rw [ih, lastRead_pass hnone hk, notRead_pass hnone hk]
  | case3 tokens found hshort =>
    have hlength : tokens.length < 2 := by
      match tokens, hshort with
      | [], _ => decide
      | [_], _ => exact Nat.one_lt_two
      | token :: value :: rest, hshort => exact (hshort token value rest rfl).elim
    have hnot : NotRead k tokens := notRead_of_length hlength
    have hlast : ¬ LastRead tokens k v := fun ⟨front, back, hread, _⟩ => hnot front v back hread
    simp [hnot, hlast]

/-! ## The round trip -/

def allPairs (params : Dict String) (duration : Int) : List (String × String) :=
  flagPairs params duration ++ addedTimeout params duration

theorem allPairs_nodup (params : Dict String) (duration : Int) :
    ((allPairs params duration).map Prod.fst).Nodup := by
  unfold allPairs flagPairs addedTimeout
  by_cases hd : 0 < duration
  · cases ht : (params.get? "timeout").isSome with
    | true => simpa [hd] using (params.set "timeout" (toString duration)).nodup
    | false =>
      have hnot : "timeout" ∉ params.entries.map Prod.fst := by
        intro hmem
        obtain ⟨e, he, hkey⟩ := mem_map.mp hmem
        have hget := Dict.get?_of_mem (k := e.1) (v := e.2) he
        rw [hkey] at hget
        rw [hget] at ht
        cases ht
      simp only [hd, map_append]
      exact nodup_append.mpr ⟨params.nodup, by simp, by
        intro a ha b hb
        rw [mem_singleton.mp hb]
        rintro rfl
        exact hnot ha⟩
  · simpa [hd] using params.nodup

structure FlagsReadBack (params : Dict String) (paramsFlags : List String)
    (duration : Int) : Prop where
  tokens : Shlex.splitArgs (join " " (createFlags params paramsFlags duration)) =
    createFlags params paramsFlags duration
  keys : ∀ e ∈ allPairs params duration, keyParams.contains e.1 = true →
    (parseBladeFlags (join " " (createFlags params paramsFlags duration))).get? e.1 = some e.2
  timeout : 0 < duration →
    (allPairs params duration).filter (·.1 == "timeout") = [("timeout", toString duration)]

theorem timeout_once (params : Dict String) {duration : Int} (hd : 0 < duration) :
    (allPairs params duration).filter (·.1 == "timeout") = [("timeout", toString duration)] := by
  have hmem : ("timeout", toString duration) ∈ allPairs params duration := by
    unfold allPairs flagPairs addedTimeout
    cases ht : (params.get? "timeout").isSome with
    | true =>
      have hget : (params.set "timeout" (toString duration)).get? "timeout" =
          some (toString duration) := by
        rw [Dict.get?_set, if_pos rfl]
      obtain ⟨before, after, heq, -⟩ := List.lookup_eq_some_iff.mp hget
      rw [if_pos hd, if_pos rfl, heq]
      exact mem_append_left _ (mem_append_right _ mem_cons_self)
    | false => simp [hd]
  have hone : ∀ {pairs : List (String × String)} {e : String × String}, (pairs.map Prod.fst).Nodup →
      e ∈ pairs → pairs.filter (·.1 == e.1) = [e] := by
    intro pairs e hnodup he
    obtain ⟨before, after, rfl⟩ := append_of_mem he
    rw [map_append, map_cons, nodup_middle, nodup_cons, mem_append] at hnodup
    have hdrop : ∀ {es : List (String × String)}, e.1 ∉ es.map Prod.fst →
        es.filter (·.1 == e.1) = [] := by
      intro es hes
      rw [filter_eq_nil_iff]
      intro x hx heq
      exact hes (mem_map.mpr ⟨x, hx, beq_iff_eq.mp heq⟩)
    rw [filter_append, filter_cons, hdrop fun h => hnodup.1 (.inl h),
      hdrop fun h => hnodup.1 (.inr h)]
    simp
  exact hone (allPairs_nodup params duration) hmem

/-- The tokens need no quoting and each key parameter is read last with its own value; or the
quoting is malformed, no token has a blank, and there is no key parameter to read. -/
def Survives (params : Dict String) (paramsFlags : List String) (duration : Int) : Prop :=
  let tokens := createFlags params paramsFlags duration
  (∀ t ∈ tokens, Shlex.isClean t.toList = true) ∧
      (∀ e ∈ allPairs params duration, keyParams.contains e.1 = true → LastRead tokens e.1 e.2) ∨
    Shlex.split (join " " tokens) = none ∧ (∀ t ∈ tokens, Shlex.isWord t.toList = true) ∧
      ∀ e ∈ allPairs params duration, keyParams.contains e.1 = false

theorem parseBladeFlags_clean {tokens : List String}
    (h : ∀ t ∈ tokens, Shlex.isClean t.toList = true)
    (hk : keyParams.contains k = true) :
    (parseBladeFlags (join " " tokens)).get? k = some v ↔ LastRead tokens k v := by
  rw [parseBladeFlags, (Shlex.split_join_iff _).mpr h]
  dsimp only
  rw [scanKeys_get? hk]
  simp [Dict.get?_empty]

/-- The tokens survive exactly if they need no quoting, or if the quoting is malformed and they
have no blanks; the parameters are read back exactly if, besides, the last flag of each key
parameter that the scan reads has its value. -/
theorem createFlags_readBack_iff (params : Dict String) (paramsFlags : List String)
    (duration : Int) :
    (FlagsReadBack params paramsFlags duration ↔ Survives params paramsFlags duration) ∧
    (Shlex.splitArgs (join " " (createFlags params paramsFlags duration)) =
        createFlags params paramsFlags duration ↔
      (∀ t ∈ createFlags params paramsFlags duration, Shlex.isClean t.toList = true) ∨
        Shlex.split (join " " (createFlags params paramsFlags duration)) = none ∧
          ∀ t ∈ createFlags params paramsFlags duration, Shlex.isWord t.toList = true) := by
  refine ⟨⟨fun h => ?_, fun h => ?_⟩, Shlex.splitArgs_join_iff _⟩
  · rcases (Shlex.splitArgs_join_iff _).mp h.tokens with hclean | ⟨hnone, hword⟩
    · exact .inl ⟨hclean,
        fun e he hkey => (parseBladeFlags_clean hclean hkey).mp (h.keys e he hkey)⟩
    · refine .inr ⟨hnone, hword, fun e he => ?_⟩
      -- nothing is read where `shlex` raises
      by_contra hkey
      have hread := h.keys e he (by simpa using hkey)
      rw [parseBladeFlags, hnone] at hread
      cases hread
  · rcases h with ⟨hclean, hlast⟩ | ⟨hnone, hword, hkeys⟩
    · refine ⟨(Shlex.splitArgs_join_iff _).mpr (.inl hclean), fun e he hkey => ?_,
        timeout_once params⟩
      exact (parseBladeFlags_clean hclean hkey).mpr (hlast e he hkey)
    · refine ⟨(Shlex.splitArgs_join_iff _).mpr (.inr ⟨hnone, hword⟩), fun e he hkey => ?_,
        timeout_once params⟩
      rw [hkeys e he] at hkey
      cases hkey

/-- A bare `path` at the very end has no token behind it and is passed over. -/
example : (parseBladeFlags (join " " (createFlags (Dict.ofPairs [("size",
    "10")]) ["path"] 0))).get? "size" =
    some "10" := by decide

/-- A blank in a value makes two tokens, quotes and backslashes are dropped, an empty value
disappears, and a bare flag `path` is read with the flag behind it as its value. -/
theorem flags_not_readBack :
    let params (v : String) : Dict String := Dict.ofPairs [("path", v), ("size", "10")]
    (∀ v ∈ ["/tmp/a b", "'/tmp'", "", "C:\\tmp"],
        Shlex.splitArgs (join " " (createFlags (params v) [] 0)) ≠
      createFlags (params v) [] 0) ∧
    (parseBladeFlags (join " " (createFlags (params "/tmp") ["path"] 600))).get? "path" =
      some "--timeout" := by
  decide +kernel

end ChaosBlade.Tools
