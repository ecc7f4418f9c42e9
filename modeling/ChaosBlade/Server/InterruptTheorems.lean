/-
Server.InterruptTheorems: whose answer reaches whose question,
and what a request to one session does to the turns of another.

An event acts on every slot on its own (`step_apply`), so the run of a
turn is a run of its slot, and `move_of_step` lists what one event can do
to a slot.
-/
import ChaosBlade.Server.Interrupts

namespace ChaosBlade.Server.Interrupts

open Py Process Option Slot

variable {db : CharDb} {id : String} {s : Slot} {s' : Slot} {k : Nat}

/-! ## One slot -/

def slotStep (db : CharDb) (id : String) (s : Slot) : Event → Slot
  | .start session i => if id = i then s.start session else s
  | .confirm i node => if id = i then s.confirm node else s
  | .register i => if id = i then s.register else s
  | .wake i => if id = i then s.wake else s
  | .sliceTimeout i late => if id = i then s.sliceTimeout late else s
  | .leave i raised => if id = i then s.leave raised else s
  | .disconnect i => if id = i then s.disconnect else s
  | .raiseCancelled i => if id = i then s.raiseCancelled else s
  | .close i => if id = i then s.close else s
  | .interrupt sid i answer =>
    if accepted db sid i ∧ id = i then (s.resolveInterrupt (sanitizeAnswer answer)).1 else s
  | .cancel sid => if isSafeId db sid then s.cancelTask else s

theorem step_apply (s : ServerState) (e : Event) (id : String) :
    step db s e id = slotStep db id (s id) e := by
  cases e with
  | interrupt sid i answer =>
    by_cases h : accepted db sid i = true <;> by_cases hi : id = i <;>
      simp [step, slotStep, atSlot, h]
  | cancel sid => by_cases h : isSafeId db sid = true <;> simp [step, slotStep, h]
  | _ => rfl

theorem after_apply (s : ServerState) (events : List Event) (id : String) :
    after (step db) s events id = after (slotStep db id) (s id) events := by
  induction events generalizing s with
  | nil => rfl
  | cons e es ih => rw [after_cons, after_cons, ih, step_apply]

inductive Move (db : CharDb) (id : String) (s : Slot) : Event → Slot → Prop
  | same {e : Event} : Move db id s e s
  | start {session : String} (h : s.turn = none) :
      Move db id s (.start session id) { s with active := true, turn := some { session } }
  | confirm {t : TurnState} {node : String} (h : s.turn = some t) (hp : t.phase = .streaming) :
      Move db id s (.confirm id node)
        { s with turn := some { t with phase := .emitted node, frames := t.frames + 1 } }
  | register {t : TurnState} {node : String} (h : s.turn = some t) (hp : t.phase = .emitted node) :
      Move db id s (.register id)
        { s with
          futures := s.futures ++ [.waiting]
          pending := some s.futures.length
          turn := some { t with phase := .waiting node s.futures.length } }
  | wake {t : TurnState} {node answer : String} {n : Nat} (h : s.turn = some t)
      (hp : t.phase = .waiting node n) (hf : s.futures[n]? = some (.result answer)) :
      Move db id s (.wake id) { s with turn := some (t.decide node answer) }
  | timedOut {t : TurnState} {node : String} {n : Nat} (h : s.turn = some t)
      (hp : t.phase = .waiting node n) :
      Move db id s (.sliceTimeout id true) (s.cancelInterrupt.finish .timedOut t)
  | left {t : TurnState} {raised : Bool} (h : s.turn = some t) (hp : t.phase = .streaming) :
      Move db id s (.leave id raised) (s.finish (if raised then .failed else .completed) t)
  | gone {t : TurnState} (h : s.turn = some t) (hp : ∀ o, t.phase ≠ .ended o) :
      Move db id s (.disconnect id) (s.finish .disconnected t)
  | cancelled {t : TurnState} (h : s.turn = some t) (hp : ∀ o, t.phase ≠ .ended o)
      (hc : t.cancelRequested = true) :
      Move db id s (.raiseCancelled id) { s with turn := some { t with phase := .closing } }
  | closed {t : TurnState} (h : s.turn = some t) (hp : t.phase = .closing) :
      Move db id s (.close id) (s.finish .cancelled t)
  | resolved {sid answer : String} (ha : accepted db sid id = true) :
      Move db id s (.interrupt sid id answer) (s.resolveInterrupt (sanitizeAnswer answer)).1
  | requested {t : TurnState} {sid : String} (hs : isSafeId db sid = true) (h : s.turn = some t)
      (hp : ∀ o, t.phase ≠ .ended o) (ha : s.active = true) :
      Move db id s (.cancel sid) { s with turn := some { t with cancelRequested := true } }

variable {e : Event}

theorem move_onTurn {f : TurnState → Slot → Slot}
    (h : ∀ t, s.turn = some t → (∀ o, t.phase ≠ .ended o) → Move db id s e (f t s)) :
    Move db id s e (s.onTurn f) := by
  unfold onTurn
  split
  · exact .same
  · next t ht =>
    split
    · exact .same
    · next hp => exact h t ht fun o ho => hp o ho

variable {t : TurnState}

theorem onTurn_of_running {f : TurnState → Slot → Slot} (h : s.turn = some t)
    (hp : ∀ o, t.phase ≠ .ended o) : s.onTurn f = f t s := by
  unfold onTurn
  rw [h]
  dsimp only
  split
  · next o ho => exact absurd ho (hp o)
  · rfl

theorem move_ite {i : String} {t : Slot} (h : id = i → Move db id s e t) :
    Move db id s e (if id = i then t else s) := by
  split
  · next hi => exact h hi
  · exact .same

theorem move_of_step (s : Slot) (e : Event) : Move db id s e (slotStep db id s e) := by
  cases e with
  | start session i =>
    refine move_ite fun hi => ?_
    subst hi
    unfold start
    split
    · exact .same
    · next h => exact .start h
  | confirm i node =>
    refine move_ite fun hi => hi ▸ move_onTurn fun t ht _ => ?_
    split
    · next hp => exact .confirm ht hp
    · exact .same
  | register i =>
    refine move_ite fun hi => hi ▸ move_onTurn fun t ht _ => ?_
    split
    · next node hp => exact .register ht hp
    · exact .same
  | wake i =>
    refine move_ite fun hi => hi ▸ move_onTurn fun t ht _ => ?_
    split
    · next node n hp =>
      split
      · next answer hf => exact .wake ht hp hf
      · exact .same
    · exact .same
  | sliceTimeout i late =>
    refine move_ite fun hi => hi ▸ move_onTurn fun t ht _ => ?_
    split
    · next node n hp =>
      cases late with
      | true => exact .timedOut ht hp
      | false => exact .same
    · exact .same
  | leave i raised =>
    refine move_ite fun hi => hi ▸ move_onTurn fun t ht _ => ?_
    split
    · next hp => exact .left ht hp
    · exact .same
  | disconnect i => exact move_ite fun hi => hi ▸ move_onTurn fun t ht hp => .gone ht hp
  | raiseCancelled i =>
    refine move_ite fun hi => hi ▸ move_onTurn fun t ht hp => ?_
    split
    · next hc => exact .cancelled ht hp hc
    · exact .same
  | close i =>
    refine move_ite fun hi => hi ▸ move_onTurn fun t ht _ => ?_
    split
    · next hp => exact .closed ht hp
    · exact .same
  | interrupt sid i answer =>
    rw [slotStep]
    split
    · next h =>
      obtain ⟨ha, rfl⟩ := h
      exact .resolved ha
    · exact .same
  | cancel sid =>
    rw [slotStep]
    split
    · next hs =>
      unfold cancelTask
      split
      · next ha => exact move_onTurn fun t ht hp => .requested hs ht hp ha
      · exact .same
    · exact .same

/-! ## The shape of a slot -/

def PhaseOk (s : Slot) (t : TurnState) : Prop :=
  match t.phase with
  | .streaming => s.pending = none ∧ s.futures.length = t.frames ∧ t.decisions.length = t.frames
  | .emitted _ =>
    s.pending = none ∧ s.futures.length + 1 = t.frames ∧ t.decisions.length + 1 = t.frames
  | .waiting _ n =>
    s.futures.length = n + 1 ∧ t.frames = n + 1 ∧ t.decisions.length = n ∧
      (s.pending = some n ∧ s.futures[n]? = some .waiting ∨
        s.pending = none ∧ ∃ answer, s.futures[n]? = some (.result answer))
  | .closing => ∀ n, s.pending = some n →
    s.futures.length = n + 1 ∧ t.frames = n + 1 ∧ s.futures[n]? = some .waiting
  | .ended _ => s.pending = none

def SlotOk (s : Slot) : Prop := s.turn.elim (s = {}) (PhaseOk s)

theorem slotOk_some (h : s.turn = some t) : SlotOk s ↔ PhaseOk s t := by
  unfold SlotOk
  rw [h]
  rfl

theorem cancelInterrupt_pending (s : Slot) : s.cancelInterrupt.pending = none := by
  unfold cancelInterrupt
  split
  · next h => exact h
  · rfl

theorem slotOk_finish (o : Outcome) (t : TurnState) (s : Slot) : SlotOk (s.finish o t) :=
  cancelInterrupt_pending s

theorem turn_resolveInterrupt (s : Slot) (answer : String) :
    (s.resolveInterrupt answer).1.turn = s.turn := by
  unfold resolveInterrupt
  split
  · rfl
  · split <;> rfl

theorem resolveInterrupt_cases (hok : SlotOk s) (answer : String) :
    (s.pending = none ∧ (s.resolveInterrupt answer).1 = s) ∨
    ∃ t n, s.turn = some t ∧ s.pending = some n ∧ s.futures.length = n + 1 ∧ t.frames = n + 1 ∧
      (t.phase = .closing ∨ ∃ node, t.phase = .waiting node n ∧ t.decisions.length = n) ∧
      (s.resolveInterrupt answer).1 =
        { s with pending := none, futures := s.futures.set n (.result answer) } := by
  cases hpend : s.pending with
  | none => exact .inl ⟨rfl, by rw [resolveInterrupt, hpend]⟩
  | some n =>
    rcases eq_none_or_eq_some s.turn with ht | ⟨t, ht⟩
    · rw [SlotOk, ht] at hok
      have hempty : s = {} := hok
      rw [hempty] at hpend
      cases hpend
    · have hphase := (slotOk_some ht).mp hok
      unfold PhaseOk at hphase
      rw [hpend] at hphase
      split at hphase
      · exact absurd hphase.1 (by simp)
      · exact absurd hphase.1 (by simp)
      · next node m hp =>
        obtain ⟨hlength, hframes, hdecisions, ⟨hn, hf⟩ | ⟨hn, -⟩⟩ := hphase
        · cases hn
          refine .inr ⟨t, n, ht, rfl, hlength, hframes, .inr ⟨node, hp, hdecisions⟩, ?_⟩
          unfold resolveInterrupt
          rw [hpend]
          exact congrArg Prod.fst (if_pos hf)
        · cases hn
      · next hp =>
        obtain ⟨hlength, hframes, hf⟩ := hphase n rfl
        refine .inr ⟨t, n, ht, rfl, hlength, hframes, .inl hp, ?_⟩
        unfold resolveInterrupt
        rw [hpend]
        exact congrArg Prod.fst (if_pos hf)
      · cases hphase

theorem slotOk_move (h : Move db id s e s') (hok : SlotOk s) : SlotOk s' := by
  cases h with
  | same => exact hok
  | start ht =>
    rw [SlotOk, ht] at hok
    have hempty : s = {} := hok
    rw [hempty]
    exact ⟨rfl, rfl, rfl⟩
  | @confirm t node ht hp =>
    have hphase := (slotOk_some ht).mp hok
    unfold PhaseOk at hphase
    rw [hp] at hphase
    obtain ⟨hpend, hfutures, hdecisions⟩ := hphase
    exact ⟨hpend, congrArg (· + 1) hfutures, congrArg (· + 1) hdecisions⟩
  | @register t node ht hp =>
    have hphase := (slotOk_some ht).mp hok
    unfold PhaseOk at hphase
    rw [hp] at hphase
    obtain ⟨-, hfutures, hdecisions⟩ := hphase
    refine ⟨by simp, hfutures.symm, ?_, .inl ⟨rfl, by simp⟩⟩
    show t.decisions.length = s.futures.length
    omega
  | @wake t node answer n ht hp hf =>
    have hphase := (slotOk_some ht).mp hok
    unfold PhaseOk at hphase
    rw [hp] at hphase
    obtain ⟨hlength, hframes, hdecisions, ⟨-, hwait⟩ | ⟨hpend, -⟩⟩ := hphase
    · rw [hf] at hwait
      cases hwait
    · refine ⟨hpend, hlength.trans hframes.symm, ?_⟩
      show (t.decisions ++ [_]).length = t.frames
      rw [List.length_append, List.length_singleton, hdecisions, hframes]
  | timedOut ht hp | left ht hp | gone ht hp | closed ht hp => exact slotOk_finish _ _ _
  | @cancelled t ht hp hc =>
    -- a future that waits is left in the registry
    have hphase := (slotOk_some ht).mp hok
    show ∀ n, s.pending = some n →
      s.futures.length = n + 1 ∧ t.frames = n + 1 ∧ s.futures[n]? = some .waiting
    intro n hn
    unfold PhaseOk at hphase
    rw [hn] at hphase
    split at hphase
    · cases hphase.1
    · cases hphase.1
    · obtain ⟨hlength, hframes, -, ⟨hm, hf⟩ | ⟨hm, -⟩⟩ := hphase
      · cases hm
        exact ⟨hlength, hframes, hf⟩
      · cases hm
    · exact hphase n rfl
    · cases hphase
  | @resolved sid answer ha =>
    rcases resolveInterrupt_cases hok _ with ⟨-, heq⟩ |
      ⟨t, n, ht, -, hlength, hframes, hp | ⟨node, hp, hdecisions⟩, heq⟩
    · rw [heq]
      exact hok
    · rw [heq]
      refine (slotOk_some (t := t) ?_).mpr ?_
      · exact ht
      rw [PhaseOk, hp]
      exact nofun
    · rw [heq]
      refine (slotOk_some (t := t) ?_).mpr ?_
      · exact ht
      rw [PhaseOk, hp]
      refine ⟨by simpa using hlength, hframes, hdecisions, .inr ⟨rfl, sanitizeAnswer answer, ?_⟩⟩
      simp [hlength]
  | @requested t sid hs ht hp ha => exact (slotOk_some ht).mp hok

theorem slotOk_after (db : CharDb) (events : List Event) (id : String) :
    SlotOk (after (step db) init events id) := by
  rw [after_apply]
  refine after_history (P := fun _ s => SlotOk s) (show SlotOk ({} : Slot) from rfl) ?_ events
  exact fun _ _ hok => slotOk_move (move_of_step _ _) hok

/-! ## Answers and questions -/

def Slot.frames (s : Slot) : Nat := s.turn.elim 0 TurnState.frames

def Slot.decisions (s : Slot) : List Decision := s.turn.elim [] TurnState.decisions

def Slot.waits (s : Slot) : Bool := s.turn.any fun t => t.phase matches .waiting _ _

def Slot.answered (s : Slot) : Bool := s.pending.isNone && s.waits

def PostedFor (db : CharDb) (id : String) (events : List Event) (k : Nat)
    (answer : String) : Prop :=
  ∃ earlier sid text later, events = earlier ++ .interrupt sid id text :: later ∧
    accepted db sid id = true ∧ (after (step db) init earlier id).frames = k + 1 ∧
    answer = sanitizeAnswer text

def Reaches (s : Slot) (k : Nat) (answer : String) : Prop :=
  s.decisions[k]?.map Decision.answer = some answer ∨
    s.answered = true ∧ s.frames = k + 1 ∧ s.futures[k]? = some (.result answer)

structure AnswersOwnQuestion (db : CharDb) (id : String) (events : List Event) : Prop where
  reaches : ∀ k answer, PostedFor db id events k answer →
    Reaches (after (step db) init events id) k answer
  posted : ∀ k d, (after (step db) init events id).decisions[k]? = some d →
    PostedFor db id events k d.answer

/-- The condition on a step: an answer finds the turn's future registered and the turn
waiting for it, and the turn is not ended while an answer is on its way to it. -/
def FindsQuestion (db : CharDb) (id : String) (s : Slot) : Event → Prop
  | .interrupt sid i _ =>
    accepted db sid i = true → i = id → s.pending ≠ none ∧ s.waits = true
  | .sliceTimeout i true => i = id → s.answered = false
  | .disconnect i => i = id → s.answered = false
  | .raiseCancelled i => i = id → s.turn.any (·.cancelRequested) = true → s.answered = false
  | _ => True

variable {answer : String}

theorem PostedFor.append {es : List Event}
    (h : PostedFor db id es k answer) (fs : List Event) : PostedFor db id (es ++ fs) k answer := by
  obtain ⟨earlier, sid, text, later, rfl, hrest⟩ := h
  exact ⟨earlier, sid, text, later ++ fs, by simp, hrest⟩

@[simp] theorem frames_of_turn (h : s.turn = some t) : s.frames = t.frames := by
  rw [frames, h]
  rfl

@[simp] theorem decisions_of_turn (h : s.turn = some t) : s.decisions = t.decisions := by
  rw [decisions, h]
  rfl

structure Sourced (db : CharDb) (id : String) (events : List Event) (s : Slot) : Prop where
  decisions : ∀ k d, s.decisions[k]? = some d → PostedFor db id events k d.answer
  futures : ∀ k answer, s.futures[k]? = some (.result answer) → PostedFor db id events k answer

theorem result_of_cancelInterrupt (h : s.cancelInterrupt.futures[k]? = some (.result answer)) :
    s.futures[k]? = some (.result answer) := by
  unfold cancelInterrupt at h
  split at h
  · exact h
  · split at h
    · rw [List.getElem?_set] at h
      split at h
      · split at h <;> cases h
      · exact h
    · exact h

theorem result_of_finish {o : Outcome} (h : (s.finish o t).futures[k]? = some (.result answer)) :
    s.futures[k]? = some (.result answer) :=
  result_of_cancelInterrupt h

theorem sourced_move {events : List Event} (hok : SlotOk s)
    (hframes : (after (step db) init events id).frames = s.frames)
    (hs : Sourced db id events s) (h : Move db id s e s') : Sourced db id (events ++ [e]) s' := by
  have hdecisions : ∀ k d, s.decisions[k]? = some d → PostedFor db id (events ++ [e]) k d.answer :=
    fun k d hd => (hs.decisions k d hd).append _
  have hfutures : ∀ k answer, s.futures[k]? = some (.result answer) →
      PostedFor db id (events ++ [e]) k answer := fun k a ha => (hs.futures k a ha).append _
  cases h with
  | same => exact ⟨hdecisions, hfutures⟩
  | start ht => exact ⟨fun k d hd => by simp at hd, hfutures⟩
  | confirm ht hp => exact ⟨fun k d hd => hdecisions k d (by rwa [decisions_of_turn ht]), hfutures⟩
  | register ht hp =>
    refine ⟨fun k d hd => hdecisions k d (by rwa [decisions_of_turn ht]), fun k a ha => ?_⟩
    rw [List.getElem?_append] at ha
    split at ha
    · exact hfutures k a ha
    · rw [List.getElem?_singleton] at ha
      split at ha <;> cases ha
  | @wake t node answer n ht hp hf =>
    refine ⟨fun k d hd => ?_, hfutures⟩
    have hphase := (slotOk_some ht).mp hok
    rw [PhaseOk, hp] at hphase
    have hd' : (t.decisions ++ [⟨answer, resumeValue node answer⟩])[k]? = some d := hd
    rw [List.getElem?_append] at hd'
    split at hd'
    · exact hdecisions k d (by rwa [decisions_of_turn ht])
    · next hk =>
      -- the new decision is the answer of the future with its number
      rw [List.getElem?_singleton] at hd'
      split at hd'
      · next hzero =>
        cases hd'
        have hkn : k = n := by omega
        exact hfutures k answer (hkn ▸ hf)
      · cases hd'
  | timedOut ht hp =>
    exact ⟨fun k d hd => hdecisions k d (by rwa [decisions_of_turn ht]),
      fun k a ha => hfutures k a (result_of_cancelInterrupt (result_of_finish ha))⟩
  | left ht hp | gone ht hp | closed ht hp =>
    exact ⟨fun k d hd => hdecisions k d (by rwa [decisions_of_turn ht]),
      fun k a ha => hfutures k a (result_of_finish ha)⟩
  | cancelled ht hp hc =>
    exact ⟨fun k d hd => hdecisions k d (by rwa [decisions_of_turn ht]), hfutures⟩
  | @resolved sid text ha =>
    rcases resolveInterrupt_cases hok (sanitizeAnswer text) with ⟨-, heq⟩ |
      ⟨t, n, ht, -, hlength, hcount, -, heq⟩
    · rw [heq]
      exact ⟨hdecisions, hfutures⟩
    · rw [heq]
      refine ⟨hdecisions, fun k a hk => ?_⟩
      rw [List.getElem?_set] at hk
      split at hk
      · next hn =>
        split at hk
        · cases hk
          exact ⟨events, sid, text, [], rfl, ha, by rw [hframes, frames_of_turn ht, hcount, hn],
              rfl⟩
        · cases hk
      · exact hfutures k a hk
  | requested hsafe ht hp ha =>
    exact ⟨fun k d hd => hdecisions k d (by rwa [decisions_of_turn ht]), hfutures⟩

theorem sourced_after (db : CharDb) (events : List Event) (id : String) :
    Sourced db id events (after (step db) init events id) := by
  refine after_history (P := fun es (s : ServerState) => Sourced db id es (s id)) ?_ ?_ events
  · exact ⟨fun k d hd => by simp [init, decisions] at hd, fun k a ha => by simp [init] at ha⟩
  · intro es e hs
    rw [step_apply]
    exact sourced_move (slotOk_after db es id) rfl hs (move_of_step _ _)

theorem decisions_move (h : Move db id s e s') {d : Decision}
    (hd : s.decisions[k]? = some d) : s'.decisions[k]? = some d := by
  cases h with
  | same => exact hd
  | start ht =>
    rw [decisions, ht] at hd
    cases hd
  | @wake t node answer n ht hp hf =>
    rw [decisions_of_turn ht] at hd
    show (t.decisions ++ [_])[k]? = some d
    rw [List.getElem?_append_left (List.getElem?_eq_some_iff.mp hd).1]
    exact hd
  | resolved ha =>
    rw [decisions, turn_resolveInterrupt]
    exact hd
  | confirm ht hp | register ht hp | timedOut ht hp | left ht hp | gone ht hp | closed ht hp
  | cancelled ht hp hc | requested hsafe ht hp ha =>
    rw [decisions_of_turn ht] at hd
    exact hd

theorem waits_iff (s : Slot) :
    s.waits = true ↔ ∃ t node n, s.turn = some t ∧ t.phase = .waiting node n := by
  unfold waits
  cases hturn : s.turn with
  | none => simp
  | some t => cases hp : t.phase <;> simp [hp]

theorem answered_iff (s : Slot) :
    s.answered = true ↔
      s.pending = none ∧ ∃ t node n, s.turn = some t ∧ t.phase = .waiting node n := by
  rw [answered, Bool.and_eq_true, isNone_iff_eq_none, waits_iff]

theorem reaches_move (hok : SlotOk s)
    (hfinds : FindsQuestion db id s e) (hs : Reaches s k answer) (h : Move db id s e s') :
    Reaches s' k answer := by
  rcases hs with hd | ⟨hanswered, hframes, hf⟩
  · obtain ⟨d, hget, rfl⟩ := map_eq_some_iff.mp hd
    exact .inl (by rw [decisions_move h hget]; rfl)
  · obtain ⟨hpend, t₀, node₀, n₀, ht₀, hp₀⟩ := (answered_iff s).mp hanswered
    have hphase := (slotOk_some ht₀).mp hok
    rw [PhaseOk, hp₀] at hphase
    obtain ⟨-, hcount, hlength, -⟩ := hphase
    have hn : n₀ = k := by
      rw [frames_of_turn ht₀] at hframes
      omega
    subst hn
    cases h with
    | same => exact .inr ⟨hanswered, hframes, hf⟩
    | start ht => cases ht₀.symm.trans ht
    | confirm ht hp | register ht hp | left ht hp | closed ht hp =>
      cases ht₀.symm.trans ht
      cases hp₀.symm.trans hp
    | wake ht hp hf' =>
      cases ht₀.symm.trans ht
      cases hp₀.symm.trans hp
      cases hf.symm.trans hf'
      refine .inl ?_
      show ((t₀.decisions ++ [⟨answer, resumeValue node₀ answer⟩])[n₀]?).map Decision.answer = _
      simp [hlength]
    | timedOut ht hp | gone ht hp =>
      exact absurd hanswered (by rw [hfinds rfl]; exact Bool.false_ne_true)
    | cancelled ht hp hc =>
      exact absurd hanswered (by rw [hfinds rfl (by simp [ht, hc])]; exact Bool.false_ne_true)
    | resolved ha => exact absurd hpend (hfinds ha rfl).1
    | @requested t sid hsafe ht hp ha =>
      cases ht₀.symm.trans ht
      rw [frames_of_turn ht] at hframes
      exact .inr ⟨(answered_iff _).mpr ⟨hpend, _, node₀, n₀, rfl, hp₀⟩, hframes, hf⟩

/-- In a run in which every answer finds the turn's future and no answer is left
behind, every answer is the decision on the confirm that was sent last, and every
decision comes from an answer posted after its confirm. -/
theorem answers_reach_questions (db : CharDb) (id : String) (events : List Event)
    (h : AllSteps (step db) (fun s e => FindsQuestion db id (s id) e) init events) :
    AnswersOwnQuestion db id events := by
  refine ⟨?_, (sourced_after db events id).decisions⟩
  rintro k answer ⟨earlier, sid, text, later, rfl, haccepted, hframes, rfl⟩
  obtain ⟨-, hfinds, hlater⟩ := allSteps_append.mp h
  have hok := slotOk_after db earlier id
  rw [after_append, after_cons]
  -- the answer is the result of the future, and stays on its way from there
  refine (after_of_allSteps (P := fun s : ServerState => SlotOk (s id) ∧
      Reaches (s id) k (sanitizeAnswer text))
    ?_ hlater ?_).2
  · rintro s e hfinds ⟨hok, hreaches⟩
    rw [step_apply]
    exact ⟨slotOk_move (move_of_step _ _) hok, reaches_move hok hfinds hreaches (move_of_step _ _)⟩
  · rw [step_apply]
    refine ⟨slotOk_move (move_of_step _ _) hok, .inr ?_⟩
    rcases resolveInterrupt_cases hok (sanitizeAnswer text) with ⟨hpend, -⟩ |
      ⟨t, n, ht, -, hlength, hcount, hwaits, heq⟩
    · exact absurd hpend (hfinds haccepted rfl).1
    · have hn : n = k := by
        rw [frames_of_turn ht] at hframes
        omega
      subst hn
      obtain ⟨node, hp, -⟩ := hwaits.resolve_left fun hclosing => by
        obtain ⟨t', node, m, ht', hp⟩ := (waits_iff _).mp (hfinds haccepted rfl).2
        cases ht.symm.trans ht'
        cases hclosing.symm.trans hp
      rw [slotStep, if_pos ⟨haccepted, rfl⟩, heq]
      refine ⟨(answered_iff _).mpr ⟨rfl, t, node, n, ht, hp⟩, ?_, ?_⟩
      · exact hframes
      · simp [hlength]

instance (s : Slot) (e : Event) : Decidable (FindsQuestion db id s e) :=
  match e with
  | .interrupt _ _ _ => inferInstanceAs (Decidable (_ → _ → _ ≠ none ∧ _ = true))
  | .sliceTimeout _ true => inferInstanceAs (Decidable (_ → _ = false))
  | .disconnect _ => inferInstanceAs (Decidable (_ → _ = false))
  | .raiseCancelled _ => inferInstanceAs (Decidable (_ → _ → _ = false))
  | .start _ _ | .confirm _ _ | .register _ | .wake _ | .sliceTimeout _ false | .leave _ _
  | .close _ | .cancel _ => inferInstanceAs (Decidable True)

instance (s : Slot) (k : Nat) (answer : String) : Decidable (Reaches s k answer) :=
  inferInstanceAs (Decidable (_ ∨ _))

def twoQuestions : List Event :=
  [.start "sess_a" "turn-1", .confirm "turn-1" "intent_confirm", .register "turn-1",
   .interrupt "sess_a" "turn-1" "yes", .wake "turn-1", .confirm "turn-1" "confirmation_gate",
   .register "turn-1", .sliceTimeout "turn-1" false, .interrupt "sess_a" "turn-1" "no",
   .wake "turn-1", .leave "turn-1" false]

theorem twoQuestions_answered : AnswersOwnQuestion asciiDb "turn-1" twoQuestions ∧
      (after (step asciiDb) init twoQuestions "turn-1").decisions =
        [⟨"yes", "approved"⟩, ⟨"no", "rejected"⟩] :=
  ⟨answers_reach_questions asciiDb "turn-1" twoQuestions (by decide), by decide⟩

/-- An answer posted while the cancellation is told finds the future, and is lost. -/
example : ¬ Reaches (after (step asciiDb) init [.start "sess_a" "turn-1",
    .confirm "turn-1" "confirmation_gate", .register "turn-1", .cancel "sess_a",
    .raiseCancelled "turn-1", .interrupt "sess_a" "turn-1" "yes", .close "turn-1"] "turn-1") 0
      "yes" := by decide

def earlyAnswer : List Event :=
  [.start "sess_a" "turn-1", .confirm "turn-1" "confirmation_gate",
   .interrupt "sess_a" "turn-1" "approved", .register "turn-1",
   .interrupt "sess_a" "turn-1" "rejected", .wake "turn-1"]

/-- The first answer to the frame is lost, and the second is the decision. -/
theorem earlyAnswer_lost : ¬ AnswersOwnQuestion asciiDb "turn-1" earlyAnswer := by
  intro h
  have hlost : ¬ Reaches (after (step asciiDb) init earlyAnswer "turn-1") 0 "approved" := by
    decide
  exact hlost (h.reaches 0 "approved" ⟨earlyAnswer.take 2, "sess_a", "approved",
    earlyAnswer.drop 3, rfl, by decide, by decide, by decide⟩)

/-! ## Sessions -/

def Slot.session? (s : Slot) : Option String := s.turn.map TurnState.session

def turnsOf (session : String) (s : ServerState) (id : String) : Option Slot :=
  if (s id).session? = some session then some (s id) else none

variable {session : String}

theorem turnsOf_of {s : ServerState} (h : (s id).session? = some session) :
    turnsOf session s id = some (s id) :=
  if_pos h

inductive Request where
  | interrupt (sid interruptId answer : String)
  | cancel (sid : String)

def Request.event : Request → Event
  | .interrupt sid id answer => .interrupt sid id answer
  | .cancel sid => .cancel sid

/-- The request meets nothing of a session: no future of the turn it names, and no
running turn that is not cancelled already. -/
def SparesSession (db : CharDb) (session : String) (s : ServerState) : Request → Prop
  | .interrupt sid id _ =>
    accepted db sid id = true → (s id).session? = some session → (s id).pending = none
  | .cancel sid => isSafeId db sid = true → ∀ id t, (s id).turn = some t → t.session = session →
      (s id).active = true → (∀ o, t.phase ≠ .ended o) → t.cancelRequested = true

structure Agree (session : String) (s t : ServerState) : Prop where
  sessions : ∀ id, (s id).session? = (t id).session?
  slots : ∀ id, (s id).session? = none ∨ (s id).session? = some session → s id = t id

theorem Agree.turnsOf_eq {s t : ServerState} (h : Agree session s t) :
    turnsOf session s = turnsOf session t := by
  funext id
  unfold turnsOf
  rw [← h.sessions id]
  split
  · next hid => rw [h.slots id (.inr hid)]
  · rfl

theorem session?_move (h : Move db id s e s')
    (hs : s.session? = some session) : s'.session? = some session := by
  unfold session? at hs ⊢
  cases h with
  | same => exact hs
  | start ht =>
    rw [ht] at hs
    cases hs
  | resolved ha =>
    rw [turn_resolveInterrupt]
    exact hs
  | confirm ht hp | register ht hp | wake ht hp hf | timedOut ht hp | left ht hp | gone ht hp
  | closed ht hp | cancelled ht hp hc | requested hsafe ht hp ha =>
    rw [ht] at hs
    exact hs

theorem agree_step {s t : ServerState} (e : Event) (h : Agree session s t) :
    Agree session (step db s e) (step db t e) := by
  have hsame : ∀ id, (s id).session? = none ∨ (s id).session? = some session →
      step db s e id = step db t e id := by
    intro id hid
    rw [step_apply, step_apply, h.slots id hid]
  constructor
  · intro id
    cases hid : (s id).session? with
    | none => rw [hsame id (.inl hid)]
    | some x =>
      rw [step_apply, step_apply, session?_move (move_of_step _ _) hid,
        session?_move (move_of_step _ _) ((h.sessions id).symm.trans hid)]
  · intro id hid
    cases hbefore : (s id).session? with
    | none => exact hsame id (.inl hbefore)
    | some x =>
      rw [step_apply, session?_move (move_of_step _ _) hbefore] at hid
      rcases hid with hid | hid
      · cases hid
      · exact hsame id (.inr (hbefore.trans hid))

theorem resolveInterrupt_eq_iff (s : Slot) (answer : String) :
    (s.resolveInterrupt answer).1 = s ↔ s.pending = none := by
  constructor
  · intro h
    rw [← h]
    unfold resolveInterrupt
    split
    · next hpend => exact hpend
    · split <;> rfl
  · intro h
    rw [resolveInterrupt, h]

theorem cancelTask_eq_iff (s : Slot) :
    s.cancelTask = s ↔ ∀ t, s.turn = some t → s.active = true → (∀ o, t.phase ≠ .ended o) →
      t.cancelRequested = true := by
  unfold cancelTask
  by_cases hactive : s.active = true
  · rw [if_pos hactive]
    rcases eq_none_or_eq_some s.turn with hturn | ⟨t, hturn⟩
    · simp [onTurn, hturn]
    · by_cases hended : ∃ o, t.phase = .ended o
      · obtain ⟨o, ho⟩ := hended
        simp [onTurn, hturn, ho]
      · have hrunning : ∀ o, t.phase ≠ .ended o := fun o ho => hended ⟨o, ho⟩
        rw [onTurn_of_running hturn hrunning]
        constructor
        · intro h t' ht' _ _
          cases hturn.symm.trans ht'
          have hkept := congrArg turn h
          rw [hturn, some.injEq] at hkept
          rw [← hkept]
        · intro h
          have hkept : ({ t with cancelRequested := true } : TurnState) = t := by
            rw [← h t hturn hactive hrunning]
          rw [hkept, ← hturn]
  · rw [if_neg hactive]
    exact iff_of_true rfl fun _ _ h => absurd h hactive

theorem spares_iff {s : ServerState} (session : String)
    (r : Request) : SparesSession db session s r ↔
      ∀ id, (s id).session? = some session → slotStep db id (s id) r.event = s id := by
  have hsession : ∀ id t, (s id).turn = some t →
      ((s id).session? = some session ↔ t.session = session) := by
    intro id t ht
    rw [session?, ht, map_some, some.injEq]
  cases r with
  | interrupt sid i answer =>
    constructor
    · intro h id hid
      show (if accepted db sid i ∧ id = i then _ else _) = _
      split
      · next hi =>
        obtain ⟨ha, rfl⟩ := hi
        exact (resolveInterrupt_eq_iff _ _).mpr (h ha hid)
      · rfl
    · intro h ha hi
      have hkept := h i hi
      rw [Request.event, slotStep, if_pos ⟨ha, rfl⟩] at hkept
      exact (resolveInterrupt_eq_iff _ _).mp hkept
  | cancel sid =>
    constructor
    · intro h id hid
      show (if isSafeId db sid then _ else _) = _
      split
      · next hs =>
        exact (cancelTask_eq_iff _).mpr fun t ht => h hs id t ht ((hsession id t ht).mp hid)
      · rfl
    · intro h hs id t ht hsess
      have hkept := h id ((hsession id t ht).mpr hsess)
      rw [Request.event, slotStep, if_pos hs] at hkept
      exact (cancelTask_eq_iff _).mp hkept t ht

theorem request_unused (hok : SlotOk s) (hs : s.session? = none) (r : Request) :
    slotStep db id s r.event = s := by
  have hturn : s.turn = none := map_eq_none_iff.mp hs
  rw [SlotOk, hturn] at hok
  have hempty : s = {} := hok
  subst hempty
  cases r <;> (rw [Request.event, slotStep]; split <;> rfl)

/-- A request leaves the futures, tasks and outcomes of the turns of a session as
they would have been without it, whatever comes later, exactly if it meets none
of their futures and running tasks. -/
theorem request_isolated_iff (db : CharDb) (session : String) (earlier : List Event) (r : Request) :
    (∀ later, turnsOf session (after (step db) init (earlier ++ r.event :: later)) =
        turnsOf session (after (step db) init (earlier ++ later))) ↔
      SparesSession db session (after (step db) init earlier) r := by
  simp only [after_append]
  have hok := slotOk_after db earlier
  generalize after (step db) init earlier = s at hok
  rw [spares_iff]
  constructor
  · intro h id hid
    have hsession : (step db s r.event id).session? = some session := by
      rw [step_apply]
      exact session?_move (move_of_step _ _) hid
    have hturns : turnsOf session (step db s r.event) id = turnsOf session s id :=
        congrFun (h []) id
    rw [turnsOf_of hsession, turnsOf_of hid, step_apply] at hturns
    exact some.inj hturns
  · intro h later
    have hkept : ∀ id, (s id).session? = none ∨ (s id).session? = some session →
        step db s r.event id = s id := by
      rintro id (hid | hid)
      · rw [step_apply]
        exact request_unused (hok id) hid r
      · rw [step_apply]
        exact h id hid
    have hagree : Agree session s (step db s r.event) := by
      refine ⟨fun id => ?_, fun id hid => (hkept id hid).symm⟩
      cases hid : (s id).session? with
      | none => rw [hkept id (.inl hid), hid]
      | some x => rw [step_apply, session?_move (move_of_step _ _) hid]
    exact (after_rel agree_step later hagree).turnsOf_eq.symm

def twoSessions : List Event :=
  [.start "sess_a" "turn-1", .start "sess_b" "turn-2", .confirm "turn-2" "confirmation_gate",
   .register "turn-2"]

/-- A request to the first session answers and cancels for the second. -/
theorem twoSessions_not_isolated : (after (step asciiDb) init (twoSessions ++
        [.interrupt "sess_a" "turn-2" "approved", .wake "turn-2"]) "turn-2").decisions =
      [⟨"approved", "approved"⟩] ∧ (after (step asciiDb) init (twoSessions ++
        [.cancel "sess_a", .raiseCancelled "turn-2", .close "turn-2"]) "turn-2").turn.map
          TurnState.phase = some (.ended .cancelled) ∧
    (after (step asciiDb) init (twoSessions ++ [.wake "turn-2"]) "turn-2").decisions = [] ∧
    (after (step asciiDb) init (twoSessions ++
        [.raiseCancelled "turn-2", .close "turn-2"]) "turn-2").turn.map TurnState.phase =
      some (.waiting "confirmation_gate" 0) := by decide

end ChaosBlade.Server.Interrupts
