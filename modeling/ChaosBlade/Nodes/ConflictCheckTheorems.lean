/-
Nodes.ConflictCheckTheorems: which overlapping experiments the
conflict check reports.

What an experiment works on is said by the options of its command line.
-/
import ChaosBlade.Nodes.ConflictCheck

namespace ChaosBlade.Nodes

open Py Agent Process Except List Option Traced

/-! ## Values -/

/-- At the start of a text stands a flag with a value, joined by `=` or by blanks; the
value goes up to the next blank. -/
def ValueAt (key : String) (cs v : List Char) : Prop :=
  ∃ sep rest, cs = ("--".toList ++ key.toList) ++ (sep ++ (v ++ rest)) ∧
    (sep = ['='] ∨ sep ≠ [] ∧ ∀ c ∈ sep, isSpace c = true) ∧
    v ≠ [] ∧ (∀ c ∈ v, isSpace c = false) ∧ ∀ c ∈ rest.head?, isSpace c = true

def FirstValue (key : String) (cs v : List Char) : Prop :=
  ∃ pre post, cs = pre ++ post ∧ ValueAt key post v ∧
    ∀ pre' post', cs = pre' ++ post' → pre'.length < pre.length → ∀ w, ¬ ValueAt key post' w

theorem nonBlanks_eq_some {cs v rest : List Char} :
    nonBlanks cs = some (v, rest) ↔ cs = v ++ rest ∧ v ≠ [] ∧ (∀ c ∈ v, isSpace c = false) ∧
      ∀ c ∈ rest.head?, isSpace c = true := by
  unfold nonBlanks
  rw [Re.run_eq_some]
  simp [Re.EndsRun]

theorem map_fst_eq_some {α β : Type} {x : Option (α × β)} {a : α} :
    x.map Prod.fst = some a ↔ ∃ b, x = some (a, b) := by
  cases x with
  | none => simp
  | some p => simp [Prod.ext_iff]

theorem paramAt_eq_some {bare : String} {cs v : List Char} :
    paramAt bare cs = some v ↔ ValueAt bare cs v := by
  unfold paramAt
  rw [map_fst_eq_some]
  constructor
  · rintro ⟨rest, h⟩
    rcases Option.or_eq_some_iff.mp h with hjoined | ⟨-, hapart⟩
    · obtain ⟨cs', hlit, hrun⟩ := bind_eq_some_iff.mp hjoined
      obtain ⟨rfl, hne, hv, hrest⟩ := nonBlanks_eq_some.mp hrun
      obtain rfl := Re.lit_eq_some.mp hlit
      exact ⟨['='], rest, by simp, .inl rfl, hne, hv, hrest⟩
    · obtain ⟨cs'', hspaces, hrun⟩ := bind_eq_some_iff.mp hapart
      obtain ⟨cs', hlit, hspaces⟩ := bind_eq_some_iff.mp hspaces
      obtain ⟨rfl, hne, hv, hrest⟩ := nonBlanks_eq_some.mp hrun
      obtain ⟨sp, rfl, hsp, hblank, -⟩ := Re.spaces_eq_some.mp hspaces
      obtain rfl := Re.lit_eq_some.mp hlit
      exact ⟨sp, rest, rfl, .inr ⟨hsp, hblank⟩, hne, hv, hrest⟩
  · rintro ⟨sep, rest, rfl, hsep, hne, hv, hrest⟩
    have hrun : nonBlanks (v ++ rest) = some (v, rest) :=
      nonBlanks_eq_some.mpr ⟨rfl, hne, hv, hrest⟩
    refine ⟨rest, Option.or_eq_some_iff.mpr ?_⟩
    rcases hsep with rfl | ⟨hsp, hblank⟩
    · refine .inl (bind_eq_some_iff.mpr ⟨v ++ rest, Re.lit_eq_some.mpr ?_, hrun⟩)
      simp
    · refine .inr ⟨?_, ?_⟩
      · -- a blank is no equals sign
        rw [bind_eq_none_iff]
        intro cs' hlit
        have heq := Re.lit_eq_some.mp hlit
        simp only [append_assoc, append_cancel_left_eq] at heq
        obtain ⟨c, sp, rfl⟩ := exists_cons_of_ne_nil hsp
        have hc : isSpace c = true := hblank c mem_cons_self
        rw [(cons.inj heq).1] at hc
        exact absurd hc (by decide)
      · have hspaces : Re.spaces (sep ++ (v ++ rest)) = some (v ++ rest) := by
          refine Re.spaces_eq_some.mpr ⟨sep, rfl, hsp, hblank, fun c hc => ?_⟩
          obtain ⟨d, v, rfl⟩ := exists_cons_of_ne_nil hne
          obtain rfl := some.inj hc
          exact hv d mem_cons_self
        refine bind_eq_some_iff.mpr ⟨v ++ rest, ?_, hrun⟩
        exact bind_eq_some_iff.mpr ⟨_, Re.lit_eq_some.mpr rfl, hspaces⟩

theorem extractParam_eq_iff {flag paramName v : String} (hv : v ≠ "") :
    extractParamFromFlag flag paramName = v ↔
      FirstValue (lstripChars "-" paramName) flag.toList v.toList := by
  have hfound : extractParamFromFlag flag paramName = v ↔
      Re.search (fun _ => paramAt (lstripChars "-" paramName)) none flag.toList =
        some v.toList := by
    unfold extractParamFromFlag
    dsimp only
    cases Re.search (fun _ => paramAt (lstripChars "-" paramName)) none flag.toList with
    | none => simp [Ne.symm hv]
    | some w =>
      constructor
      · rintro rfl
        simp
      · intro h
        simp [some.inj h]
  rw [hfound, Re.search_eq_some_iff]
  unfold FirstValue
  simp [paramAt_eq_some, ← not_isSome_iff_eq_none, isSome_iff_exists]

/-! ## Experiments -/

structure FlagOption where
  key : String
  value : String
  joined : Bool := false

def FlagOption.tokens (o : FlagOption) : List String :=
  if o.joined then ["--" ++ o.key ++ "=" ++ o.value] else ["--" ++ o.key, o.value]

/-- The command line of an experiment: its words, such as `k8s pod-disk burn`, and its
options. -/
structure CommandLine where
  words : List String := []
  options : List FlagOption

def CommandLine.text (line : CommandLine) : String :=
  join " " (line.words ++ line.options.flatMap FlagOption.tokens)

def CommandLine.value (line : CommandLine) (key : String) : String :=
  (((line.options.filter fun o => o.key = key).getLast?).map FlagOption.value).getD ""

structure Experiment where
  fields : List (String × Json)
  uid : String
  line : CommandLine
  uid_ne : uid ≠ ""
  uid_get : Json.get? fields "Uid" = some (.str uid)
  flag_get : Json.get? fields "Flag" = some (.str line.text)
  active : ∀ s ∈ endedStatuses, Json.get? fields "Status" ≠ some (.str s)

structure StatusReply where
  experiments : List Experiment
  raw : String
  reads : experimentList raw = some (experiments.map fun e => .obj e.fields)

def SharesName (spec : FaultSpec) (line : CommandLine) : Prop :=
  ∃ n ∈ csv (line.value "names"), n ∈ spec.names

def SharesLabel (spec : FaultSpec) (line : CommandLine) : Prop :=
  ∃ l ∈ csv (line.value "labels"), ∃ e ∈ spec.labels.entries, l = e.1 ++ "=" ++ e.2

def Overlaps (spec : FaultSpec) (line : CommandLine) : Prop :=
  line.value "namespace" = spec.ns ∧ (SharesName spec line ∨ SharesLabel spec line) ∨
    spec.scope = "node" ∧ line.value "namespace" = "" ∧ SharesName spec line

/-! ## Reports -/

/-- What is searched for in the text of a command line is found there: the namespace of
the request, and one of its labels if it has any, else one of its names. -/
def Found (spec : FaultSpec) (line : CommandLine) : Prop :=
  spec.ns ≠ "" ∧ FirstValue "namespace" line.text.toList spec.ns.toList ∧
    if spec.labels.entries = [] then
      ∃ v, FirstValue "names" line.text.toList v ∧ ∃ n ∈ csv (String.ofList v),
        n ∈ spec.names.flatMap csv
    else
      ∃ v, FirstValue "labels" line.text.toList v ∧ ∃ l ∈ csv (String.ofList v),
        l ∈ (spec.labels.entries.map fun e => e.1 ++ "=" ++ e.2).flatMap csv

def Meets (a b : String) : Prop := ∃ n ∈ csv a, n ∈ csv b

theorem csv_empty : csv "" = [] := by decide +kernel

variable {a b : String}

theorem meets_comm : Meets a b ↔ Meets b a :=
  ⟨fun ⟨n, ha, hb⟩ => ⟨n, hb, ha⟩, fun ⟨n, ha, hb⟩ => ⟨n, hb, ha⟩⟩

theorem Meets.ne_empty (h : Meets a b) : a ≠ "" := by
  rintro rfl
  obtain ⟨n, hn, -⟩ := h
  cases hn

theorem shared_isEmpty : (shared a b).isEmpty = false ↔ Meets a b := by
  unfold shared Meets
  simp

theorem reasons_isEmpty {p q : Prop} [Decidable p] [Decidable q] (x y : String) :
    ((if p then [x] else []) ++ (if q then [y] else [])).isEmpty = false ↔ p ∨ q := by
  by_cases hp : p <;> by_cases hq : q <;> simp [hp]

variable {conflict : ConflictInfo}

theorem overlapsTarget_iff {req : ConflictRequest}
    (h : conflict.overlapsTarget = false) : (analyzeOverlap req conflict).overlapsTarget = true ↔
      conflict.ns = req.ns ∧ req.ns ≠ "" ∧
        (Meets conflict.names req.targetNames ∨ Meets conflict.labels req.labels) := by
  have hmeets : ∀ a b, ((a ≠ "" ∧ b ≠ "") ∧ (shared a b).isEmpty = false) ↔ Meets a b := by
    intro a b
    rw [shared_isEmpty]
    exact ⟨fun h => h.2, fun h => ⟨⟨h.ne_empty, (meets_comm.mp h).ne_empty⟩, h⟩⟩
  simp only [analyzeOverlap, h, Bool.false_or, Bool.and_eq_true, decide_eq_true_eq,
    Bool.not_eq_true']
  rw [reasons_isEmpty, ← hmeets, ← hmeets]
  constructor
  · rintro (⟨⟨⟨⟨⟨-, hns⟩, heq⟩, ha⟩, hb⟩, hs⟩ | ⟨⟨⟨⟨⟨-, hns⟩, heq⟩, ha⟩, hb⟩, hs⟩)
    · exact ⟨heq, hns, .inl ⟨⟨ha, hb⟩, hs⟩⟩
    · exact ⟨heq, hns, .inr ⟨⟨ha, hb⟩, hs⟩⟩
  · rintro ⟨heq, hns, ⟨⟨ha, hb⟩, hs⟩ | ⟨⟨ha, hb⟩, hs⟩⟩
    · exact .inl ⟨⟨⟨⟨⟨heq ▸ hns, hns⟩, heq⟩, ha⟩, hb⟩, hs⟩
    · exact .inr ⟨⟨⟨⟨⟨heq ▸ hns, hns⟩, heq⟩, ha⟩, hb⟩, hs⟩

theorem mem_intercalate {α : Type} {sep : List α} {a : α} : ∀ {parts : List (List α)},
    a ∈ sep.intercalate parts → a ∈ sep ∨ ∃ part ∈ parts, a ∈ part
  | [], h => by simp at h
  | [part], h => by
    rw [intercalate_singleton] at h
    exact .inr ⟨part, mem_cons_self, h⟩
  | part :: part' :: parts, h => by
    have hcons : sep.intercalate (part :: part' :: parts) =
        part ++ (sep ++ sep.intercalate (part' :: parts)) := by simp
    rw [hcons, mem_append, mem_append] at h
    rcases h with h | h | h
    · exact .inr ⟨part, mem_cons_self, h⟩
    · exact .inl h
    · rcases mem_intercalate h with h | ⟨p, hp, hap⟩
      · exact .inl h
      · exact .inr ⟨p, mem_cons_of_mem _ hp, hap⟩

theorem csv_ne_nil {s : String} {c : Char} (hc : c ∈ s.toList) (hcomma : c ≠ ',')
    (hspace : isSpace c = false) : csv s ≠ [] := by
  intro hnil
  have hblank : ∀ part ∈ s.toList.splitOn ',', ∀ d ∈ part, isSpace d = true := by
    intro part hpart
    have hstrip : strip (String.ofList part) = "" := by
      by_contra hne
      have hmem : strip (String.ofList part) ∈ csv s :=
        mem_filter.mpr ⟨List.mem_map_of_mem (List.mem_map_of_mem hpart), by simpa using hne⟩
      rw [hnil] at hmem
      cases hmem
    have hdrop : ((part.dropWhile isSpace).rdropWhile isSpace) = [] := by
      simpa [strip] using congrArg String.toList hstrip
    intro d hd
    rw [rdropWhile_eq_nil_iff] at hdrop
    rw [← takeWhile_append_dropWhile (p := isSpace) (l := part), mem_append] at hd
    rcases hd with hd | hd
    · exact mem_takeWhile_imp hd
    · exact hdrop d hd
  have hmem : c ∈ [','].intercalate (s.toList.splitOn ',') := by
    rw [intercalate_splitOn]
    exact hc
  rcases mem_intercalate hmem with hsep | ⟨part, hpart, hcp⟩
  · exact hcomma (mem_singleton.mp hsep)
  · rw [hblank part hpart c hcp] at hspace
    cases hspace

theorem csv_pair_ne_nil (k v : String) : csv (k ++ "=" ++ v) ≠ [] :=
  csv_ne_nil (c := '=') (by simp) (by decide) (by decide)

section

variable {spec : FaultSpec} {e : Experiment}

theorem csv_labels_eq_nil : csv (conflictRequest spec).labels = [] ↔ spec.labels.entries = [] := by
  rw [conflictRequest, csv_join]
  constructor
  · intro h
    cases hentries : spec.labels.entries with
    | nil => rfl
    | cons p ps =>
      rw [hentries] at h
      simp only [map_cons, flatMap_cons, append_eq_nil_iff] at h
      exact absurd h.1 (csv_pair_ne_nil p.1 p.2)
  · intro h
    rw [h]
    rfl

theorem labels_eq_empty : (conflictRequest spec).labels = "" ↔ spec.labels.entries = [] := by
  constructor
  · intro h
    rw [← csv_labels_eq_nil, h, csv_empty]
  · intro h
    rw [conflictRequest, h]
    rfl

def reportOf (req : ConflictRequest) (e : Experiment) : Option ConflictInfo :=
  let conflict := conflictOf (.str e.uid) e.line.text
  if passesFilters req conflict then
    if req.targetNames ≠ "" ∨ req.labels ≠ "" then some (analyzeOverlap req conflict)
    else some conflict
  else none

variable (req : ConflictRequest)

theorem readExperiment_eq (e : Experiment) :
    readExperiment req (.obj e.fields) = .ok (reportOf req e) := by
  have hstatus : (endedStatuses.any fun s => (Json.get? e.fields "Status").any (Json.isStr · s)) =
      false := by
    rw [List.any_eq_false]
    intro s hs hany
    cases hget : Json.get? e.fields "Status" with
    | none => simp [hget] at hany
    | some v =>
      rw [hget, any_some, Json.isStr_iff] at hany
      exact e.active s hs (by rw [hget, hany])
  unfold readExperiment reportOf
  simp only [e.uid_get, e.flag_get, hstatus, getD_some, Json.truthy_str]
  simp only [ne_eq, e.uid_ne, not_false_eq_true, decide_true, Bool.not_true, Bool.false_eq_true,
    if_false, Bool.not_eq_true']
  cases passesFilters req (conflictOf (.str e.uid) e.line.text) with
  | false => rfl
  | true =>
    simp only [Bool.true_eq_false, if_false, if_true]
    split <;> rfl

theorem passesFilters_iff : passesFilters (conflictRequest spec) conflict = true ↔
      (spec.ns = "" ∨ conflict.ns = spec.ns) ∧
        (spec.labels.entries = [] ∨ Meets conflict.labels (conflictRequest spec).labels) := by
  have hshared : (shared (conflictRequest spec).labels conflict.labels).isEmpty = false ↔
      Meets conflict.labels (conflictRequest spec).labels := shared_isEmpty.trans meets_comm
  simp only [passesFilters, Bool.and_eq_true, Bool.or_eq_true, decide_eq_true_eq, Bool.not_eq_true',
    labels_eq_empty, hshared]
  refine and_congr Iff.rfl ⟨?_, fun h => h.imp_left .inl⟩
  rintro ((hnil | heq) | hmeets)
  · exact .inl hnil
  · by_cases hnil : spec.labels.entries = []
    · exact .inl hnil
    · obtain ⟨l, hl⟩ := exists_mem_of_ne_nil _ (mt csv_labels_eq_nil.mp hnil)
      exact .inr ⟨l, heq ▸ hl, hl⟩
  · exact .inr hmeets

theorem reportOf_overlaps (e : Experiment) :
    (∃ conflict ∈ reportOf req e, conflict.overlapsTarget = true) ↔
      passesFilters req (conflictOf (.str e.uid) e.line.text) = true ∧
        (analyzeOverlap req (conflictOf (.str e.uid) e.line.text)).overlapsTarget = true := by
  unfold reportOf
  by_cases hpass : passesFilters req (conflictOf (.str e.uid) e.line.text) = true
  · rw [if_pos hpass]
    by_cases hreq : req.targetNames ≠ "" ∨ req.labels ≠ ""
    · rw [if_pos hreq]
      simp [hpass]
    · -- without names and labels nothing can be shared
      rw [not_or, not_not, not_not] at hreq
      rw [if_neg (by simp [hreq]), overlapsTarget_iff rfl]
      constructor
      · rintro ⟨conflict, hmem, hover⟩
        cases hmem
        cases hover
      · rintro ⟨-, -, -, h | h⟩
        · exact absurd hreq.1 (meets_comm.mp h).ne_empty
        · exact absurd hreq.2 (meets_comm.mp h).ne_empty
  · simp [hpass]

theorem reportOf_overlaps_iff :
    (∃ conflict ∈ reportOf (conflictRequest spec) e, conflict.overlapsTarget = true) ↔
      spec.ns ≠ "" ∧ extractParamFromFlag e.line.text "--namespace" = spec.ns ∧
        if spec.labels.entries = [] then
          Meets (extractParamFromFlag e.line.text "--names") (conflictRequest spec).targetNames
        else Meets (extractParamFromFlag e.line.text "--labels") (conflictRequest spec).labels := by
  rw [reportOf_overlaps, passesFilters_iff, overlapsTarget_iff rfl]
  simp only [conflictOf]
  by_cases hentries : spec.labels.entries = []
  · have hnone : ¬ Meets (extractParamFromFlag e.line.text "--labels")
      (conflictRequest spec).labels := by
      rw [labels_eq_empty.mpr hentries]
      exact fun h => (meets_comm.mp h).ne_empty rfl
    simp only [hentries, and_true, hnone, or_false]
    constructor
    · rintro ⟨-, heq, hne, hmeets⟩
      exact ⟨hne, heq, hmeets⟩
    · rintro ⟨hne, heq, hmeets⟩
      exact ⟨.inr heq, heq, hne, hmeets⟩
  · simp only [hentries, false_or]
    constructor
    · rintro ⟨⟨-, hmeets⟩, heq, hne, -⟩
      exact ⟨hne, heq, hmeets⟩
    · rintro ⟨hne, heq, hmeets⟩
      exact ⟨⟨.inr heq, hmeets⟩, heq, hne, .inr hmeets⟩

theorem meets_iff_firstValue {flag paramName b : String} {entries : List String}
    (hb : csv b = entries) : Meets (extractParamFromFlag flag paramName) b ↔
      ∃ v, FirstValue (lstripChars "-" paramName) flag.toList v ∧
        ∃ n ∈ csv (String.ofList v), n ∈ entries := by
  subst hb
  constructor
  · intro h
    refine ⟨(extractParamFromFlag flag paramName).toList, (extractParam_eq_iff h.ne_empty).mp rfl,
        ?_⟩
    rw [String.ofList_toList]
    exact h
  · rintro ⟨v, hv, n, hn, hmem⟩
    have hne : String.ofList v ≠ "" := by
      intro h
      rw [h, csv_empty] at hn
      cases hn
    rw [(extractParam_eq_iff hne).mpr (by simpa using hv)]
    exact ⟨n, hn, hmem⟩

theorem reportOf_overlaps_iff_found :
    (∃ conflict ∈ reportOf (conflictRequest spec) e, conflict.overlapsTarget = true) ↔
      Found spec e.line := by
  have hkeys : lstripChars "-" "--namespace" = "namespace" ∧ lstripChars "-" "--names" = "names" ∧
      lstripChars "-" "--labels" = "labels" := by decide +kernel
  rw [reportOf_overlaps_iff, Found]
  refine and_congr_right fun hns => and_congr ?_ ?_
  · rw [extractParam_eq_iff hns, hkeys.1]
  · split
    · rw [← hkeys.2.1]
      exact meets_iff_firstValue (csv_join _)
    · rw [← hkeys.2.2]
      exact meets_iff_firstValue (csv_join _)

theorem readExperiments_eq (exps : List Experiment) :
    readExperiments req (exps.map fun e => .obj e.fields) = exps.filterMap (reportOf req) := by
  induction exps with
  | nil => rfl
  | cons e exps ih =>
    rw [map_cons, readExperiments, readExperiment_eq, filterMap_cons]
    cases reportOf req e with
    | none => exact ih
    | some conflict => exact congrArg (conflict :: ·) ih

theorem reportOf_source {req : ConflictRequest} (h : reportOf req e = some conflict) :
    conflict.uid = .str e.uid ∧ conflict.flag = e.line.text := by
  unfold reportOf at h
  dsimp only at h
  split at h
  · split at h
    · cases h
      exact ⟨rfl, rfl⟩
    · cases h
      exact ⟨rfl, rfl⟩
  · cases h

end

/-! ### The check -/

structure ConflictCheck.Asks (x : ConflictCheck) (spec : FaultSpec) (reply : StatusReply) :
    Prop where
  request : x.request = conflictRequest spec
  discover : (Tools.guardCheck x.discoverCmd).1 = true
  answers : ∃ listing pod rest status, x.listing = .ok listing ∧
    Tools.discoverToolPods listing.stdout = pod :: rest ∧
    (Tools.guardCheck (x.statusCmd pod)).1 = true ∧ x.status = .ok status ∧
    status.stdout = reply.raw

theorem checkBladeConflicts_eq {x : ConflictCheck} {spec : FaultSpec} {reply : StatusReply}
    (hx : x.Asks spec reply) : (checkBladeConflicts x).result =
      .ok (reply.experiments.filterMap (reportOf (conflictRequest spec))) := by
  obtain ⟨listing, pod, rest, status, hlisting, hpods, hguard, hstatus, hraw⟩ := hx.answers
  have hdiscover : Tools.runCommand x.discoverCmd x.listing =
      .start x.discoverCmd (.ok listing) := by
    rw [Tools.runCommand, if_pos hx.discover, hlisting]
  have hask : Tools.runCommand (x.statusCmd pod) x.status =
      .start (x.statusCmd pod) (.ok status) := by
    rw [Tools.runCommand, if_pos hguard, hstatus]
  have hreply : conflictsOf x.request status.stdout =
      reply.experiments.filterMap (reportOf (conflictRequest spec)) := by
    rw [conflictsOf, hraw, reply.reads, hx.request]
    exact readExperiments_eq _ _
  refine result_recover_of_ok ?_ _
  rw [result_bind, hdiscover]
  refine bind_eq_ok.mpr ⟨listing, result_start _ _, ?_⟩
  rw [hpods, ConflictCheck.askStatus, result_bind, hask]
  refine bind_eq_ok.mpr ⟨status, result_start _ _, ?_⟩
  rw [result_pure, hreply]

def MissesNone (x : ConflictCheck) (spec : FaultSpec) (reply : StatusReply) : Prop :=
  ∀ e ∈ reply.experiments, Overlaps spec e.line →
    ∃ details, (checkBladeConflicts x).result = .ok details ∧ ∃ conflict ∈ details,
      conflict.uid = .str e.uid ∧ conflict.flag = e.line.text ∧ conflict.overlapsTarget = true

/-- The check misses no overlapping experiment exactly if each of them has, in its text,
the namespace of the request and something of the kind that is compared. -/
theorem missesNone_iff (x : ConflictCheck) (spec : FaultSpec) (reply : StatusReply)
    (hx : x.Asks spec reply) :
    MissesNone x spec reply ↔ ∀ e ∈ reply.experiments, Overlaps spec e.line →
        Found spec e.line := by
  refine forall₂_congr fun e he => imp_congr_right fun _ => ?_
  constructor
  · rintro ⟨details, hdetails, conflict, hmem, -, hflag, hover⟩
    rw [checkBladeConflicts_eq hx] at hdetails
    cases hdetails
    obtain ⟨e', -, hreport⟩ := List.mem_filterMap.mp hmem
    -- what is found depends on the text alone
    have hfound := reportOf_overlaps_iff_found.mp ⟨conflict, hreport, hover⟩
    have htext : e'.line.text = e.line.text := (reportOf_source hreport).2.symm.trans hflag
    unfold Found at hfound ⊢
    rwa [htext] at hfound
  · intro hfound
    obtain ⟨conflict, hreport, hover⟩ := reportOf_overlaps_iff_found.mpr hfound
    obtain ⟨huid, hflag⟩ := reportOf_source hreport
    exact ⟨_, checkBladeConflicts_eq hx, conflict, List.mem_filterMap.mpr ⟨e, he, hreport⟩, huid,
      hflag, hover⟩

def runningExperiment (line : CommandLine) : Experiment where
  fields := [("Uid", .str "a1"), ("Flag", .str line.text)]
  uid := "a1"
  line := line
  uid_ne := by decide
  uid_get := rfl
  flag_get := rfl
  active := fun s _ h => by cases h

def burnLine : CommandLine where
  words := ["k8s", "pod-disk", "burn"]
  options := [{ key := "namespace", value := "prod" }, { key := "names", value := "web,db" }]

def burnReply : StatusReply where
  experiments := [runningExperiment burnLine]
  raw := "\x7b\"success\": true, \"result\": [\x7b\"Uid\": \"a1\", \"Flag\": " ++
    "\"k8s pod-disk burn --namespace prod --names web,db\"\x7d]\x7d"
  reads := by decide +kernel

def loadLine : CommandLine where
  words := ["k8s", "node-cpu", "fullload"]
  options := [{ key := "names", value := "n1", joined := true }]

def loadReply : StatusReply where
  experiments := [runningExperiment loadLine]
  raw := "\x7b\"success\": true, \"result\": [\x7b\"Uid\": \"a1\", \"Flag\": " ++
    "\"k8s node-cpu fullload --names=n1\"\x7d]\x7d"
  reads := by decide +kernel

def checkOf (spec : FaultSpec) (reply : StatusReply) : ConflictCheck where
  kubeconfig := "/root/.kube/config"
  listing := .ok
    { stdout := "NAME    READY  STATUS   RESTARTS  AGE\n" ++
        "tool-a  1/1    Running  0         1d" }
  status := .ok { stdout := reply.raw }
  request := conflictRequest spec

theorem checkOf_asks (spec : FaultSpec)
    (reply : StatusReply) : (checkOf spec reply).Asks spec reply where
  request := rfl
  discover := by
    have h : (checkOf spec reply).discoverCmd = (checkOf {} burnReply).discoverCmd := rfl
    rw [h]
    decide +kernel
  answers := by
    refine ⟨_, "tool-a", [], _, rfl, by decide +kernel, ?_, rfl, rfl⟩
    have h : (checkOf spec reply).statusCmd = (checkOf {} burnReply).statusCmd := rfl
    rw [h]
    decide +kernel

def podSpec : FaultSpec := { ns := "prod", scope := "pod", names := ["db"] }

def labelledSpec : FaultSpec := { podSpec with labels := .ofPairs [("app", "db")] }

def nodeSpec : FaultSpec := { scope := "node", names := ["n1"] }

theorem burn_reported : (checkOf podSpec burnReply).Asks podSpec burnReply ∧
    Overlaps podSpec burnLine ∧ MissesNone (checkOf podSpec burnReply) podSpec burnReply := by
  have hasks := checkOf_asks podSpec burnReply
  refine ⟨hasks, .inl ⟨by decide +kernel, .inl ⟨"db", by decide +kernel, by decide⟩⟩, ?_⟩
  refine (missesNone_iff _ _ _ hasks).mpr fun e he _ => reportOf_overlaps_iff_found.mp ?_
  obtain rfl := mem_singleton.mp he
  have hany : (reportOf (conflictRequest podSpec) (runningExperiment burnLine)).any
      ConflictInfo.overlapsTarget = true := by decide +kernel
  cases hreport : reportOf (conflictRequest podSpec) (runningExperiment burnLine) with
  | none => simp [hreport] at hany
  | some conflict => exact ⟨conflict, rfl, by simpa [hreport] using hany⟩

/-- A request with a label passes over an experiment on its pod, and one for a node does
not compare the names. -/
theorem overlaps_missed : ¬ MissesNone (checkOf labelledSpec burnReply) labelledSpec burnReply ∧
      ¬ MissesNone (checkOf nodeSpec loadReply) nodeSpec loadReply := by
  constructor
  · intro h
    obtain ⟨details, hdetails, conflict, hmem, -, -, hover⟩ := h (runningExperiment burnLine)
      mem_cons_self (.inl ⟨by decide +kernel, .inl ⟨"db", by decide +kernel, by decide⟩⟩)
    have hnone : burnReply.experiments.filterMap (reportOf (conflictRequest labelledSpec)) =
        [] := by
      decide +kernel
    rw [checkBladeConflicts_eq (checkOf_asks labelledSpec burnReply), hnone] at hdetails
    obtain rfl := ok.inj hdetails
    cases hmem
  · intro h
    obtain ⟨details, hdetails, conflict, hmem, -, -, hover⟩ := h (runningExperiment loadLine)
      mem_cons_self (.inr ⟨rfl, by decide +kernel, "n1", by decide +kernel, by decide⟩)
    have hone : loadReply.experiments.filterMap (reportOf (conflictRequest nodeSpec)) =
        [{ uid := .str "a1", flag := "k8s node-cpu fullload --names=n1", names := "n1"
           scopeTargetAction := "node-cpu-fullload" }] := by decide +kernel
    rw [checkBladeConflicts_eq (checkOf_asks nodeSpec loadReply), hone] at hdetails
    obtain rfl := ok.inj hdetails
    obtain rfl := mem_singleton.mp hmem
    cases hover

end ChaosBlade.Nodes
