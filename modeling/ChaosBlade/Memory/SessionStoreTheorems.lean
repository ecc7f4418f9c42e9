/-
Memory.SessionStoreTheorems: what is left of a task's messages
after a crash.

`Keeps done current` is what a read has to return: the messages of the
completed calls, in order and once, and then any of the interrupted one.
-/
import ChaosBlade.Memory.SessionStore
import Mathlib.Data.List.Infix

namespace ChaosBlade.Memory

open List Option List.Sublist Call

variable {es pending : List Entry}

/-! ## Keys -/

def Distinct (es : List Entry) : Prop := (es.map Entry.id).Nodup ∧ ∀ e ∈ es, e.id ≠ ""

instance (es : List Entry) : Decidable (Distinct es) := inferInstanceAs (Decidable (_ ∧ _))

theorem messageDedupKey_inj {e e' : Entry} (he : e.id ≠ "") (he' : e'.id ≠ "")
    (h : messageDedupKey e = messageDedupKey e') : e.id = e'.id := by
  simp only [messageDedupKey, he, he', ne_eq] at h
  have := congrArg String.toList h
  simpa [String.toList_inj] using this

theorem Distinct.key_ne {es₁ es₂ : List Entry} (h : Distinct (es₁ ++ es₂)) {e e' : Entry}
    (he : e ∈ es₁) (he' : e' ∈ es₂) : messageDedupKey e ≠ messageDedupKey e' := by
  intro hk
  have hid := messageDedupKey_inj (h.2 e (by simp [he])) (h.2 e' (by simp [he'])) hk
  have hnd := h.1
  rw [map_append, nodup_append] at hnd
  exact hnd.2.2 _ (List.mem_map_of_mem he) _ (List.mem_map_of_mem he') hid

theorem Distinct.sublist {es' : List Entry} (h : Distinct es) (hs : es'.Sublist es) :
    Distinct es' :=
  ⟨h.1.sublist (hs.map _), fun e he => h.2 e (hs.subset he)⟩

theorem freshEntries_eq_self {seen : List String} (h : Distinct es)
    (hseen : ∀ e ∈ es, messageDedupKey e ∉ seen) : freshEntries seen es = es := by
  induction es generalizing seen with
  | nil => rfl
  | cons e es ih =>
    have htail : Distinct es := h.sublist (sublist_cons_self e es)
    rw [freshEntries, if_neg (hseen e (by simp)), ih htail]
    intro e' he' hmem
    rcases mem_cons.mp hmem with heq | hmem
    · have hsplit : Distinct ([e] ++ es) := h
      exact hsplit.key_ne (by simp) he' heq.symm
    · exact hseen e' (by simp [he']) hmem

theorem freshEntries_eq_nil {seen : List String}
    (h : ∀ e ∈ es, messageDedupKey e ∈ seen) : freshEntries seen es = [] := by
  induction es with
  | nil => rfl
  | cons e es ih =>
    rw [freshEntries, if_pos (h e (by simp))]
    exact ih fun e' he' => h e' (by simp [he'])

theorem freshEntries_append_known {es' : List Entry} (h : Distinct es) (hsub : es' ⊆ es) :
    freshEntries [] (es ++ es') = es := by
  -- over the keys seen so far, every key of `es'` is seen already or still to come in `es`
  have general : ∀ (es : List Entry) (seen : List String), Distinct es →
      (∀ e ∈ es, messageDedupKey e ∉ seen) →
      (∀ e ∈ es', messageDedupKey e ∈ seen ∨ e ∈ es) → freshEntries seen (es ++ es') = es := by
    intro es
    induction es with
    | nil =>
      intro seen _ _ hknown
      exact freshEntries_eq_nil fun e he => (hknown e he).resolve_right (by simp)
    | cons e es ih =>
      intro seen hes hnew hknown
      have htail : Distinct es := hes.sublist (sublist_cons_self e es)
      rw [cons_append, freshEntries, if_neg (hnew e (by simp))]
      congr 1
      apply ih _ htail
      · intro e' he' hmem
        rcases mem_cons.mp hmem with heq | hmem
        · have hsplit : Distinct ([e] ++ es) := hes
          exact hsplit.key_ne (by simp) he' heq.symm
        · exact hnew e' (by simp [he']) hmem
      · intro e' he'
        rcases hknown e' he' with hseen | hin
        · exact .inl (by simp [hseen])
        · rcases mem_cons.mp hin with rfl | hin
          · exact .inl (by simp)
          · exact .inr hin
  exact general es [] h (by simp) fun e he => .inr (hsub he)

/-! ## Shapes -/

def Keeps (done current messages : List Entry) : Prop :=
  ∃ extra, extra.Sublist current ∧ messages = done ++ extra

/-- The files at a crash: `pending` is what the log held before the
interrupted call, `last` the last operation performed by it. -/
inductive Shape (pending done current : List Entry) (last : Option FileOp) (d : Disk) : Prop
  /-- No session has been created. -/
  | absent : d.json = none → done = [] → Shape pending done current last d
  /-- The snapshot, and the rest in the log. -/
  | logged (snapshot extra : List Entry) : d.json = some snapshot → d.compacted = none →
      snapshot ++ d.log.getD [] = done ++ extra → extra.Sublist current →
      Shape pending done current last d
  /-- The log is rotated, its messages are not in the snapshot yet. -/
  | rotated (snapshot : List Entry) : last = some .rotate → d.json = some snapshot →
      d.log = none → d.compacted = some (pending ++ current) → snapshot ++ pending = done →
      Shape pending done current last d
  /-- The snapshot has taken the messages in, the rotated log is still there. -/
  | replaced (orphan : List Entry) : d.json = some (done ++ current) → d.log = none →
      d.compacted = some orphan → orphan ⊆ done ++ current → Shape pending done current last d

theorem Shape.after {done current : List Entry} {ops : List FileOp} {d : Disk}
    (h : Shape pending done current ops.getLast? d) (before : List FileOp) :
    Shape pending done current (before ++ ops).getLast? d := by
  cases h with
  | absent hjson hdone => exact .absent hjson hdone
  | logged snapshot extra hjson hcompacted hall hextra =>
    exact .logged snapshot extra hjson hcompacted hall hextra
  | rotated snapshot hlast hjson hlog hcompacted hpending =>
    refine .rotated snapshot ?_ hjson hlog hcompacted hpending
    rw [List.getLast?_append, hlast, some_or]
  | replaced orphan hjson hlog hcompacted hsub => exact .replaced orphan hjson hlog hcompacted hsub

section

variable {done current : List Entry} {d : Disk}

attribute [local simp] reads

theorem reads_absent (hjson : d.json = none) (n : Nat) : ∀ ms ∈ reads n d, ms = [] := by
  induction n with
  | zero => simp
  | succ n ih => simpa [readSession, hjson] using ih

theorem readSession_json {snapshot : List Entry} (hjson : d.json = some snapshot) :
    readSession d = (some (freshEntries [] (snapshot ++ d.compacted.getD [] ++ d.log.getD [])),
      { d with compacted := none }) := by simp [readSession, hjson]

theorem reads_logged {snapshot messages : List Entry} (hjson : d.json = some snapshot)
    (hcompacted : d.compacted = none) (hall : snapshot ++ d.log.getD [] = messages)
    (hids : Distinct messages) (n : Nat) : ∀ ms ∈ reads n d, ms = messages := by
  have hsame : { d with compacted := none } = d := by rw [← hcompacted]
  have hread : readSession d = (some messages, d) := by
    rw [readSession_json hjson, hsame, hcompacted, getD_none, append_nil, hall,
      freshEntries_eq_self hids (by simp)]
  induction n with
  | zero => simp
  | succ n ih => simpa [hread] using ih

theorem Shape.reads_keep {last : Option FileOp} {n : Nat}
    (h : Shape pending done current last d) (hids : Distinct (done ++ current))
    (hsafe : n ≤ 1 ∨ last ≠ some .rotate ∨ pending = []) :
    ∀ ms ∈ reads n d, Keeps done current ms := by
  intro ms hms
  cases h with
  | absent hjson hdone => exact ⟨[], nil_sublist _, by simp [reads_absent hjson n ms hms, hdone]⟩
  | logged snapshot extra hjson hcompacted hall hextra =>
    have hids' : Distinct (done ++ extra) := hids.sublist (hextra.append_left done)
    exact ⟨extra, hextra, reads_logged hjson hcompacted hall hids' n ms hms⟩
  | replaced orphan hjson hlog hcompacted hsub =>
    -- the first read drops the orphan as known, the later ones do not see it
    cases n with
    | zero => simp at hms
    | succ n =>
      simp only [reads, readSession_json hjson, hlog, hcompacted, getD_none, append_nil,
        mem_cons] at hms
      refine ⟨current, refl _, ?_⟩
      rcases hms with rfl | hms
      · exact freshEntries_append_known hids hsub
      · exact reads_logged (d := { json := d.json }) hjson rfl (by simp) hids n ms hms
  | rotated snapshot hlast hjson hlog hcompacted hpending =>
    cases n with
    | zero => simp at hms
    | succ n =>
      simp only [reads, readSession_json hjson, hlog, hcompacted, getD_some,
        getD_none, append_nil, mem_cons] at hms
      rcases hms with rfl | hms
      · refine ⟨current, refl _, ?_⟩
        rw [← append_assoc, hpending]
        exact freshEntries_eq_self hids (by simp)
      · -- a second read only has the snapshot
        have hempty : pending = [] := by
          rcases hsafe with hn | hlast' | hempty
          · have : n = 0 := by omega
            subst this
            simp at hms
          · exact absurd hlast hlast'
          · exact hempty
        rw [hempty, append_nil] at hpending
        refine ⟨[], nil_sublist _, ?_⟩
        rw [append_nil]
        exact reads_logged (d := { json := d.json }) hjson rfl (by simp [hpending])
          (hids.sublist (sublist_append_left _ _)) n ms hms

end

/-! ## One call -/

theorem applyOps_append (d : Disk) (ops ops' : List FileOp) :
    applyOps d (ops ++ ops') = applyOps (applyOps d ops) ops' := foldl_append

attribute [local simp] FileOp.apply applyOps

theorem applyOps_appendLines (d : Disk) (es : List Entry) :
    applyOps { d with log := some (d.log.getD []) } (es.map .appendLine) =
      { d with log := some (d.log.getD [] ++ es) } := by
  induction es generalizing d with
  | nil => simp
  | cons e es ih =>
    have := ih { d with log := some (d.log.getD [] ++ [e]) }
    simpa using this

theorem applyOps_lines (d : Disk) (es : List Entry) : applyOps d (.openLog :: es.map .appendLine) =
      { d with log := some (d.log.getD [] ++ es) } :=
  applyOps_appendLines d es

theorem applyOps_take_lines (d : Disk) (es : List Entry) (k : Nat) :
    applyOps d ((.openLog :: es.map .appendLine).take k) = d ∨
      ∃ extra, extra.Sublist es ∧ applyOps d ((.openLog :: es.map .appendLine).take k) =
        { d with log := some (d.log.getD [] ++ extra) } := by
  cases k with
  | zero => exact .inl rfl
  | succ k =>
    refine .inr ⟨es.take k, take_sublist k es, ?_⟩
    rw [take_succ_cons, ← map_take, applyOps_lines]

theorem take_append_of_lt {α : Type} (xs ys : List α) {k : Nat} (h : xs.length < k) :
    ∃ j, (xs ++ ys).take k = xs ++ ys.take (j + 1) := by
  refine ⟨k - xs.length - 1, ?_⟩
  rw [take_append, take_of_length_le (by omega)]
  congr 2
  omega

section

variable {cfg : Config} {mem : Mem} {session : Session} {entries done snapshot : List Entry}
  {d : Disk}

attribute [local simp] compactOps

theorem compactOps_shape (hjson : d.json = some snapshot)
    (hlog : d.log = some (pending ++ entries)) (hcompacted : d.compacted = none)
    (hdone : snapshot ++ pending = done) (j : Nat)
    (hmem : session.messages = done ∨ .rotate ∉ (compactOps (session.messages ++ entries)).take j) :
    Shape pending done entries ((compactOps (session.messages ++ entries)).take j).getLast?
      (applyOps d ((compactOps (session.messages ++ entries)).take j)) := by
  -- until the rotation the lines are in the log
  have hlogged : snapshot ++ d.log.getD [] = done ++ entries := by
    rw [hlog, getD_some, ← hdone, append_assoc]
  match j with
  | 0 => exact .logged snapshot entries hjson hcompacted hlogged (refl _)
  | 1 =>
    refine .logged snapshot entries ?_ ?_ ?_ (refl _) <;>
      simp [hcompacted, hjson, hlogged]
  | 2 =>
    refine .logged snapshot entries ?_ ?_ ?_ (refl _) <;>
      simp [hcompacted, hjson, hlogged]
  | 3 =>
    refine .rotated snapshot (by simp) ?_ ?_ ?_ hdone <;>
      simp [hcompacted, hjson, hlog]
  | 4 =>
    have hmessages : session.messages = done := hmem.resolve_right (by simp)
    refine .replaced (pending ++ entries) ?_ ?_ ?_ ?_
    · simp [hmessages]
    · simp [hcompacted, hlog]
    · simp [hcompacted, hlog]
    · rw [← hdone, append_assoc]
      exact subset_append_right _ _
  | j + 5 =>
    have hmessages : session.messages = done := hmem.resolve_right (by simp)
    refine .logged (done ++ entries) entries ?_ ?_ ?_ (refl _) <;>
      simp [hcompacted, hlog, hmessages]

theorem appendEntries_ops : (appendEntries cfg mem session entries).2 =
      .openLog :: entries.map .appendLine ∨ (appendEntries cfg mem session entries).2 =
      (.openLog :: entries.map .appendLine) ++ compactOps (session.messages ++ entries) := by
  unfold appendEntries
  dsimp only
  split
  · exact .inr rfl
  · exact .inl rfl

section

variable (hjson : d.json = some snapshot) (hcompacted : d.compacted = none)
  (hdone : snapshot ++ d.log.getD [] = done)
include hjson hcompacted hdone

theorem appendEntries_shape (k : Nat)
    (hmem : session.messages = done ∨ .rotate ∉ (appendEntries cfg mem session entries).2.take k) :
    Shape (d.log.getD []) done entries ((appendEntries cfg mem session entries).2.take k).getLast?
      (applyOps d ((appendEntries cfg mem session entries).2.take k)) := by
  -- a cut among the lines leaves the snapshot and a part of them
  have hlines : ∀ last, Shape (d.log.getD []) done entries last
      (applyOps d ((.openLog :: entries.map .appendLine).take k)) := by
    intro last
    rcases applyOps_take_lines d entries k with heq | ⟨extra, hextra, heq⟩ <;> rw [heq]
    · exact .logged snapshot [] hjson hcompacted (by simp [hdone]) (nil_sublist _)
    · refine .logged snapshot extra hjson hcompacted ?_ hextra
      rw [getD_some, ← append_assoc, hdone]
  rcases @appendEntries_ops cfg mem session entries with hops | hops
  · rw [hops]
    exact hlines _
  · rw [hops] at hmem ⊢
    by_cases hk : k ≤ (FileOp.openLog :: entries.map .appendLine).length
    · rw [take_append_of_le_length hk]
      exact hlines _
    · obtain ⟨j, hj⟩ := take_append_of_lt (.openLog :: entries.map .appendLine)
        (compactOps (session.messages ++ entries)) (Nat.lt_of_not_le hk)
      rw [hj] at hmem ⊢
      have hcut := compactOps_shape (d := { d with log := some (d.log.getD [] ++ entries) })
        hjson rfl hcompacted hdone (j + 1)
        (hmem.imp id fun h hmem => h (mem_append_right _ hmem))
      rw [applyOps_append, applyOps_lines]
      exact hcut.after _

theorem appendEntries_stored
    (hmem : session.messages = done ∨ .rotate ∉ (appendEntries cfg mem session entries).2) :
    ∃ snapshot', (applyOps d (appendEntries cfg mem session entries).2).json = some snapshot' ∧
      (applyOps d (appendEntries cfg mem session entries).2).compacted = none ∧
      snapshot' ++ (applyOps d (appendEntries cfg mem session entries).2).log.getD [] =
        done ++ entries ∧
      (.rotate ∉ (appendEntries cfg mem session entries).2 → snapshot' = snapshot) := by
  rcases @appendEntries_ops cfg mem session entries with hops | hops <;> rw [hops] at hmem ⊢
  · rw [applyOps_lines]
    exact ⟨snapshot, hjson, hcompacted, by simp [← hdone], fun _ => rfl⟩
  · have hmessages : session.messages = done := hmem.resolve_right (by simp)
    rw [applyOps_append, applyOps_lines]
    refine ⟨done ++ entries, ?_, ?_, ?_, fun h => absurd ?_ h⟩ <;>
      simp [hcompacted, hmessages]

end

theorem appendEntries_session : (appendEntries cfg mem session entries).1.session =
    some { session with messages := session.messages ++ entries } := by
  unfold appendEntries
  dsimp only
  split <;> rfl

end

/-! ## Sequences -/

def Call.messages : Call → List Entry
  | .create baseline initial => baseline.map Msg.entry ++ initial.map Msg.entry
  | .append msgs => msgs.map Msg.entry
  | .appendRaw e => [e]

def Call.isCreate : Call → Bool
  | .create _ _ => true
  | _ => false

def Call.handed (saveSystem active : Bool) : Call → List Entry
  | .create _ initial => entriesOf saveSystem initial
  | .append msgs => if active then entriesOf saveSystem msgs else []
  | .appendRaw e => if active then [e] else []

def handedAll (saveSystem : Bool) : Bool → List Call → List Entry
  | _, [] => []
  | active, call :: calls =>
    call.handed saveSystem active ++ handedAll saveSystem (active || call.isCreate) calls

theorem entriesOf_sublist (saveSystem : Bool) (msgs : List Msg) :
    (entriesOf saveSystem msgs).Sublist (msgs.map Msg.entry) :=
  filter_sublist.map _

variable (saveSystem active : Bool)

theorem Call.handed_sublist (call : Call) :
    (call.handed saveSystem active).Sublist call.messages := by
  cases call with
  | create baseline initial =>
    exact (entriesOf_sublist saveSystem initial).trans (sublist_append_right _ _)
  | append msgs =>
    cases active
    · exact nil_sublist _
    · exact entriesOf_sublist saveSystem msgs
  | appendRaw e =>
    cases active
    · exact nil_sublist _
    · exact refl _

theorem handedAll_sublist (calls : List Call) :
    (handedAll saveSystem active calls).Sublist (calls.flatMap Call.messages) := by
  induction calls generalizing active with
  | nil => exact nil_sublist _
  | cons call calls ih => exact (call.handed_sublist saveSystem active).append (ih _)

/-- The files of an open session, and what its memory knows of them: `past`
are all messages given to the store so far, `done` those to be recorded. If
the memory is `whole` it holds all of `done`; otherwise nothing has been
compacted, and the log holds them. -/
structure Opened (whole : Bool) (past done : List Entry) (session : Session)
    (snapshot : List Entry) (d : Disk) : Prop where
  json : d.json = some snapshot
  compacted : d.compacted = none
  all : snapshot ++ d.log.getD [] = done
  memory : if whole then session.messages = done else snapshot = []
  known : ∀ e ∈ session.messages, e ∈ past
  baseline : ∀ key ∈ session.baselineKeys, ∃ e ∈ past, key = messageDedupKey e

inductive Stored (whole : Bool) (past done : List Entry) (mem : Mem) (d : Disk) : Prop
  | idle : mem.session = none → d = {} → done = [] → Stored whole past done mem d
  | opened (session : Session) (snapshot : List Entry) : mem.session = some session →
      Opened whole past done session snapshot d → Stored whole past done mem d

section

variable {cfg : Config} {whole : Bool} {mem : Mem} {session : Session}
  {past done snapshot entries : List Entry} {d : Disk}

section

variable (h : Opened whole past done session snapshot d)
include h

theorem Opened.mono {past' : List Entry}
    (hpast : past ⊆ past') : Opened whole past' done session snapshot d where
  json := h.json
  compacted := h.compacted
  all := h.all
  memory := h.memory
  known e he := hpast (h.known e he)
  baseline key hkey := by
    obtain ⟨e, he, hek⟩ := h.baseline key hkey
    exact ⟨e, hpast he, hek⟩

theorem Opened.memory_or {ops : List FileOp}
    (hops : whole = false → .rotate ∉ ops) : session.messages = done ∨ .rotate ∉ ops := by
  cases whole with
  | true => exact .inl (by simpa using h.memory)
  | false => exact .inr (hops rfl)

theorem Opened.shape (current : List Entry)
    (last : Option FileOp) : Shape (d.log.getD []) done current last d :=
  .logged snapshot [] h.json h.compacted (by simp [h.all]) (nil_sublist _)

theorem Opened.stored_append (hpast : ∀ e ∈ entries, e ∈ past)
    (hops : whole = false → .rotate ∉ (appendEntries cfg mem session entries).2) :
    Stored whole past (done ++ entries) (appendEntries cfg mem session entries).1
      (applyOps d (appendEntries cfg mem session entries).2) := by
  obtain ⟨snapshot', hjson, hcompacted, hall, hsame⟩ :=
    appendEntries_stored h.json h.compacted h.all (h.memory_or hops)
  refine .opened _ snapshot' appendEntries_session ⟨hjson, hcompacted, hall, ?_, ?_, h.baseline⟩
  · cases whole with
    | true =>
      have := h.memory
      simp only [if_true] at this ⊢
      rw [this]
    | false =>
      have := h.memory
      simp only [Bool.false_eq_true, if_false] at this ⊢
      rw [hsame (hops rfl), this]
  · intro e he
    rcases mem_append.mp he with he | he
    · exact h.known e he
    · exact hpast e he

end

theorem appendMessages_eq (cfg : Config) {msgs : List Msg} (hsession : mem.session = some session)
    (h : Opened whole past done session snapshot d) (hids : Distinct (past ++ msgs.map Msg.entry)) :
    (entriesOf cfg.saveSystemMessage msgs = [] ∧ appendMessages cfg mem msgs = (mem, [])) ∨
      appendMessages cfg mem msgs =
        appendEntries cfg mem session (entriesOf cfg.saveSystemMessage msgs) := by
  have hsub := entriesOf_sublist cfg.saveSystemMessage msgs
  have hfresh : freshEntries (session.messages.map messageDedupKey ++ session.baselineKeys)
      (entriesOf cfg.saveSystemMessage msgs) = entriesOf cfg.saveSystemMessage msgs := by
    apply freshEntries_eq_self (hids.sublist (hsub.trans (sublist_append_right _ _)))
    intro e he hmem
    have hmsg : e ∈ msgs.map Msg.entry := hsub.subset he
    rcases mem_append.mp hmem with hmem | hmem
    · obtain ⟨e', he', hkey⟩ := List.mem_map.mp hmem
      exact hids.key_ne (h.known e' he') hmsg hkey
    · obtain ⟨e', he', hkey⟩ := h.baseline _ hmem
      exact hids.key_ne he' hmsg hkey.symm
  simp only [appendMessages, hsession, hfresh]
  cases entriesOf cfg.saveSystemMessage msgs with
  | nil => exact .inl ⟨rfl, rfl⟩
  | cons e es => exact .inr rfl

/-- What a call on an open session does: it may write the empty snapshot
first, and then appends what it is given. -/
def Appends (cfg : Config) (whole : Bool) (past done current : List Entry) (d : Disk)
    (out : Mem × List FileOp) : Prop :=
  ∃ first session snapshot mem, first.length ≤ 1 ∧ (applyOps d first).log = d.log ∧
    mem.session = some session ∧ Opened whole past done session snapshot (applyOps d first) ∧
    ((current = [] ∧ out = (mem, first)) ∨ out = ((appendEntries cfg mem session current).1,
        first ++ (appendEntries cfg mem session current).2))

section

variable {current : List Entry} {out : Mem × List FileOp}
  (h : Appends cfg whole past done current d out)
include h

theorem Appends.stored (hpast : ∀ e ∈ current, e ∈ past) (hops : whole = false → .rotate ∉ out.2) :
    Stored whole past (done ++ current) out.1 (applyOps d out.2) := by
  obtain ⟨first, session, snapshot, mem, _, _, hsession, hopened, ⟨rfl, rfl⟩ | rfl⟩ := h
  · rw [append_nil]
    exact .opened session snapshot hsession hopened
  · rw [applyOps_append]
    exact hopened.stored_append hpast fun hw hmem => hops hw (mem_append_right _ hmem)

theorem Appends.shape (k : Nat) (hops : whole = false → .rotate ∉ out.2.take (k + 1)) :
    Shape (d.log.getD []) done current (out.2.take (k + 1)).getLast?
      (applyOps d (out.2.take (k + 1))) := by
  obtain ⟨first, session, snapshot, mem, hlen, hlog, hsession, hopened, ⟨rfl, rfl⟩ | rfl⟩ := h
  · rw [take_of_length_le (by simpa using Nat.le_trans hlen (by omega)), ← hlog]
    exact hopened.shape [] _
  · have htake : (first ++ (appendEntries cfg mem session current).2).take (k + 1) =
        first ++ (appendEntries cfg mem session current).2.take (k + 1 - first.length) := by
      rw [take_append, take_of_length_le (by omega)]
    simp only [htake] at hops ⊢
    rw [applyOps_append, ← hlog]
    refine (appendEntries_shape hopened.json hopened.compacted hopened.all _ ?_).after first
    exact hopened.memory_or fun hw hmem => hops hw (mem_append_right _ hmem)

end

def newSession (cfg : Config) (baseline : List Msg) : Session where
  messages := []
  baselineKeys := (entriesOf cfg.saveSystemMessage baseline).map messageDedupKey

theorem createSession_eq (cfg : Config) (mem : Mem) (baseline initial : List Msg) :
    createSession cfg mem baseline initial =
      ((appendMessages cfg { mem with session := some (newSession cfg baseline) } initial).1,
        .replaceJson [] ::
          (appendMessages cfg { mem with session := some (newSession cfg baseline) } initial).2) :=
  rfl

theorem Stored.create (h : Stored whole past done mem d) (hcreate : whole = true → done = [])
    {keys : List String} (hkeys : ∀ key ∈ keys, ∃ e ∈ past, key = messageDedupKey e) :
    Opened whole past done { messages := [], baselineKeys := keys } []
      (applyOps d [.replaceJson []]) := by
  have hlog : d.log.getD [] = done := by
    cases h with
    | idle _ hd hdone => rw [hd, hdone]; rfl
    | opened session snapshot _ hopened =>
      cases whole with
      | true =>
        have hnil := hopened.all.trans (hcreate rfl)
        rw [hcreate rfl]
        exact (append_eq_nil_iff.mp hnil).2
      | false =>
        have hsnapshot : snapshot = [] := by simpa using hopened.memory
        simpa [hsnapshot] using hopened.all
  have hcompacted : d.compacted = none := by
    cases h with
    | idle _ hd _ => rw [hd]
    | opened session snapshot _ hopened => exact hopened.compacted
  refine ⟨rfl, hcompacted, hlog, ?_, by simp, hkeys⟩
  cases whole with
  | true => simpa using (hcreate rfl).symm
  | false => rfl

section

variable (h : Stored whole past done mem d) (cfg : Config) (call : Call)
  (hids : Distinct (past ++ call.messages))
  (hcreate : whole = true → call.isCreate = true → done = [])
include h hids hcreate

attribute [local simp] Call.handed

theorem Stored.perform : Appends cfg whole (past ++ call.messages) done
        (call.handed cfg.saveSystemMessage mem.session.isSome) d (call.perform cfg mem) ∨
      (mem.session = none ∧ d = {} ∧ done = [] ∧
        call.handed cfg.saveSystemMessage mem.session.isSome = [] ∧
        call.perform cfg mem = (mem, [])) := by
  cases call with
  | create baseline initial =>
    left
    have hids' : Distinct (past ++ baseline.map Msg.entry ++ initial.map Msg.entry) := by
      simpa [messages] using hids
    have hstart : Stored whole (past ++ baseline.map Msg.entry) done mem d := by
      cases h with
      | idle hnone hd hdone => exact .idle hnone hd hdone
      | opened session snapshot hsession hopened =>
        exact .opened session snapshot hsession (hopened.mono (subset_append_left _ _))
    have hkeys : ∀ key ∈ (entriesOf cfg.saveSystemMessage baseline).map messageDedupKey,
        ∃ e ∈ past ++ baseline.map Msg.entry, key = messageDedupKey e := by
      intro key hkey
      obtain ⟨e, he, rfl⟩ := List.mem_map.mp hkey
      exact ⟨e, mem_append_right _ ((entriesOf_sublist _ _).subset he), rfl⟩
    have hopened := hstart.create (fun hw => hcreate hw rfl) hkeys
    refine ⟨[.replaceJson []], newSession cfg baseline, [],
      { mem with session := some (newSession cfg baseline) }, by simp, rfl, rfl,
      hopened.mono ?_, ?_⟩
    · rw [messages, ← append_assoc]
      exact subset_append_left _ _
    · have hsession : ({ mem with session := some (newSession cfg baseline) } : Mem).session =
          some (newSession cfg baseline) := rfl
      rw [perform, createSession_eq]
      rcases appendMessages_eq cfg hsession hopened hids' with ⟨hnil, heq⟩ | heq <;> rw [heq]
      · exact .inl ⟨hnil, rfl⟩
      · exact .inr rfl
  | append msgs =>
    cases h with
    | idle hnone hd hdone =>
      exact .inr ⟨hnone, hd, hdone, by simp [hnone], by simp [perform, appendMessages, hnone]⟩
    | opened session snapshot hsession hopened =>
      left
      refine ⟨[], session, snapshot, mem, by simp, rfl, hsession,
        hopened.mono (subset_append_left _ _), ?_⟩
      simp only [hsession]
      exact appendMessages_eq cfg hsession hopened hids
  | appendRaw e =>
    cases h with
    | idle hnone hd hdone =>
      exact .inr ⟨hnone, hd, hdone, by simp [hnone], by simp [perform, appendRawMessage, hnone]⟩
    | opened session snapshot hsession hopened =>
      left
      refine ⟨[], session, snapshot, mem, by simp, rfl, hsession,
        hopened.mono (subset_append_left _ _), .inr ?_⟩
      simp [hsession, perform, appendRawMessage]

theorem Stored.step (hops : whole = false → .rotate ∉ (call.perform cfg mem).2) :
    Stored whole (past ++ call.messages)
      (done ++ call.handed cfg.saveSystemMessage mem.session.isSome)
      (call.perform cfg mem).1 (applyOps d (call.perform cfg mem).2) := by
  rcases h.perform cfg call hids hcreate with happ | ⟨hnone, hd, hdone, hhanded, heq⟩
  · refine happ.stored ?_ hops
    intro e he
    exact mem_append_right _ ((call.handed_sublist _ _).subset he)
  · rw [heq, hhanded, hd, hdone]
    exact .idle hnone rfl rfl

theorem Stored.crash (k : Nat) (hops : whole = false → .rotate ∉ (call.perform cfg mem).2.take k) :
    Shape (d.log.getD []) done (call.handed cfg.saveSystemMessage mem.session.isSome)
      ((call.perform cfg mem).2.take k).getLast?
      (applyOps d ((call.perform cfg mem).2.take k)) := by
  -- before the first operation the files are those between the calls
  have hstart : ∀ current last, Shape (d.log.getD []) done current last d := by
    intro current last
    cases h with
    | idle _ hd hdone => exact .absent (by rw [hd]) hdone
    | opened session snapshot _ hopened => exact hopened.shape current last
  rcases h.perform cfg call hids hcreate with happ | ⟨_, _, _, _, heq⟩
  · cases k with
    | zero => exact hstart _ _
    | succ k => exact happ.shape k hops
  · rw [heq, take_nil]
    exact hstart _ _

end

end

theorem appendMessages_isSome (cfg : Config) (mem : Mem) (msgs : List Msg) :
    (appendMessages cfg mem msgs).1.session.isSome = mem.session.isSome := by
  unfold appendMessages
  split
  · rfl
  · dsimp only
    split
    · rfl
    · simp [appendEntries_session, *]

theorem Call.perform_isSome (cfg : Config) (mem : Mem) (call : Call) :
    (call.perform cfg mem).1.session.isSome = (mem.session.isSome || call.isCreate) := by
  cases call with
  | create baseline initial => simp [perform, createSession, appendMessages_isSome, isCreate]
  | append msgs => simp [perform, appendMessages_isSome, isCreate]
  | appendRaw e =>
    simp only [perform, appendRawMessage, isCreate, Bool.or_false]
    split
    · rfl
    · simp [appendEntries_session, *]

attribute [local simp] performAll

theorem performAll_isSome (cfg : Config) (mem : Mem) (calls : List Call) :
    (performAll cfg mem calls).1.session.isSome =
      (mem.session.isSome || calls.any Call.isCreate) := by
  induction calls generalizing mem with
  | nil => simp
  | cons call calls ih => simp [ih, perform_isSome, Bool.or_assoc]

theorem performAll_snoc (cfg : Config) (mem : Mem) (calls : List Call) (call : Call) :
    performAll cfg mem (calls ++ [call]) = ((call.perform cfg (performAll cfg mem calls).1).1,
        (performAll cfg mem calls).2 ++ (call.perform cfg (performAll cfg mem calls).1).2) := by
  induction calls generalizing mem with
  | nil => simp
  | cons c calls ih => simp [ih]

theorem handedAll_snoc (calls : List Call) (call : Call) :
    handedAll saveSystem active (calls ++ [call]) = handedAll saveSystem active calls ++
      call.handed saveSystem (active || calls.any Call.isCreate) := by
  induction calls generalizing active with
  | nil => simp [handedAll]
  | cons c calls ih => simp [handedAll, ih, Bool.or_assoc]

def Recreates (saveSystem : Bool) (calls : List Call) : Prop :=
  ∃ before baseline initial after, calls = before ++ .create baseline initial :: after ∧
    handedAll saveSystem false before ≠ []

theorem not_recreates_snoc {saveSystem : Bool} {calls : List Call} {call : Call}
    (h : ¬ Recreates saveSystem (calls ++ [call])) : ¬ Recreates saveSystem calls ∧
      (call.isCreate = true → handedAll saveSystem false calls = []) := by
  refine ⟨?_, ?_⟩
  · rintro ⟨before, baseline, initial, after, rfl, hne⟩
    exact h ⟨before, baseline, initial, after ++ [call], by simp, hne⟩
  · intro hcreate
    cases call with
    | create baseline initial =>
      by_contra hne
      exact h ⟨calls, baseline, initial, [], rfl, hne⟩
    | append _ | appendRaw _ => cases hcreate

theorem performAll_stored (cfg : Config) (whole : Bool) (calls : List Call)
    (hids : Distinct (calls.flatMap Call.messages))
    (hcreate : whole = true → ¬ Recreates cfg.saveSystemMessage calls)
    (hops : whole = false → .rotate ∉ (performAll cfg {} calls).2) :
    Stored whole (calls.flatMap Call.messages) (handedAll cfg.saveSystemMessage false calls)
      (performAll cfg {} calls).1 (applyOps {} (performAll cfg {} calls).2) := by
  induction calls using List.reverseRecOn with
  | nil => exact .idle rfl rfl rfl
  | append_singleton calls call ih =>
    rw [flatMap_append, flatMap_singleton] at hids ⊢
    have hbefore := ih (hids.sublist (sublist_append_left _ _))
      (fun hw => (not_recreates_snoc (hcreate hw)).1)
      (fun hw hmem => hops hw (by rw [performAll_snoc]; exact mem_append_left _ hmem))
    have hstep := hbefore.step cfg call hids
      (fun hw => (not_recreates_snoc (hcreate hw)).2)
      (fun hw hmem => hops hw (by rw [performAll_snoc]; exact mem_append_right _ hmem))
    rw [performAll_isSome] at hstep
    rw [performAll_snoc, handedAll_snoc, applyOps_append]
    exact hstep

def crashAfter (cfg : Config) (calls : List Call) (call : Call) (k : Nat) : Disk :=
  let (mem, ops) := performAll cfg {} calls
  applyOps {} (ops ++ (call.perform cfg mem).2.take k)

def performedOps (cfg : Config) (calls : List Call) (call : Call) (k : Nat) : List FileOp :=
  (call.perform cfg (performAll cfg {} calls).1).2.take k

/-- Every read after the crash keeps the completed messages, if no session is
created over recorded messages (or nothing was ever compacted), and the crash
is not right after the rotation of a log with completed messages (or there is
only one read). -/
theorem reads_keep_completed (cfg : Config) (calls : List Call) (call : Call) (k n : Nat)
    (hids : Distinct ((calls ++ [call]).flatMap Call.messages))
    (hcreate : ¬ Recreates cfg.saveSystemMessage (calls ++ [call]) ∨
      .rotate ∉ (performAll cfg {} calls).2 ++ performedOps cfg calls call k)
    (hcrash : n ≤ 1 ∨ (performedOps cfg calls call k).getLast? ≠ some .rotate ∨
      (applyOps {} (performAll cfg {} calls).2).log.getD [] = []) :
    ∀ ms ∈ reads n (crashAfter cfg calls call k),
      Keeps (handedAll cfg.saveSystemMessage false calls)
        (call.handed cfg.saveSystemMessage (calls.any Call.isCreate)) ms := by
  rw [flatMap_append, flatMap_singleton] at hids
  -- the memory stays whole if no session is started over
  obtain ⟨whole, hwhole, hnot⟩ : ∃ whole : Bool,
      (whole = true → ¬ Recreates cfg.saveSystemMessage (calls ++ [call])) ∧
      (whole = false →
        .rotate ∉ (performAll cfg {} calls).2 ++ performedOps cfg calls call k) := by
    rcases hcreate with h | h
    · exact ⟨true, fun _ => h, by simp⟩
    · exact ⟨false, by simp, fun _ => h⟩
  have hstored := performAll_stored cfg whole calls
    (hids.sublist (sublist_append_left _ _))
    (fun hw => (not_recreates_snoc (hwhole hw)).1)
    (fun hw hmem => hnot hw (mem_append_left _ hmem))
  have hshape := hstored.crash cfg call hids
    (fun hw => (not_recreates_snoc (hwhole hw)).2) k
    (fun hw hmem => hnot hw (mem_append_right _ hmem))
  have hdone : Distinct (handedAll cfg.saveSystemMessage false calls ++
      call.handed cfg.saveSystemMessage (calls.any isCreate)) :=
    hids.sublist ((handedAll_sublist _ _ calls).append (call.handed_sublist _ _))
  rw [performAll_isSome] at hshape
  have hdisk : crashAfter cfg calls call k =
      applyOps (applyOps {} (performAll cfg {} calls).2) (performedOps cfg calls call k) :=
    applyOps_append _ _ _
  rw [hdisk]
  exact hshape.reads_keep hdone hcrash

/-- A crash after the snapshot of a compaction: three reads keep the completed
message. -/
theorem reads_keep_after_snapshot : let cfg : Config := { compactionThreshold := 2 }
    let calls : List Call := [.create [] [], .append [{ entry := { id := "m1" } }]]
    let call : Call := .append [{ entry := { id := "m2" } }]
    ∀ ms ∈ reads 3 (crashAfter cfg calls call 6), Keeps [{ id := "m1" }] [{ id := "m2" }] ms := by
  refine reads_keep_completed _ _ _ 6 3 (by decide) (.inl ?_) (.inr (.inl (by decide)))
  rintro ⟨before, baseline, initial, after, hcalls, hne⟩
  rcases before with _ | ⟨c, _ | ⟨c', _ | ⟨c'', before⟩⟩⟩
  · exact hne rfl
  all_goals simp at hcalls

/-- The process stops between the rotation and the snapshot; the first read
deletes the rotated log, and the second one has lost the completed message. -/
theorem second_read_loses_message : let cfg : Config := { compactionThreshold := 2 }
    let calls : List Call := [.create [] [], .append [{ entry := { id := "m1" } }]]
    let call : Call := .append [{ entry := { id := "m2" } }]
    Distinct ((calls ++ [call]).flatMap Call.messages) ∧
      handedAll cfg.saveSystemMessage false calls = [{ id := "m1" }] ∧
      reads 2 (crashAfter cfg calls call 5) = [[{ id := "m1" }, { id := "m2" }], []] ∧
      ¬ ∀ ms ∈ reads 2 (crashAfter cfg calls call 5),
        Keeps (handedAll cfg.saveSystemMessage false calls)
          (call.handed cfg.saveSystemMessage (calls.any Call.isCreate)) ms := by
  refine ⟨by decide, by decide, by decide, ?_⟩
  intro h
  obtain ⟨extra, -, hextra⟩ := h [] (by decide)
  cases hextra

end ChaosBlade.Memory
