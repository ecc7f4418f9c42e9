/-
Graph.Run: graphs of nodes over a shared state, their runs, and
loops with a counter.

A visit to a node takes the state and what the outside world answers
during the visit, and leaves a merged state, or raises. A conditional
edge then picks the next node from the merged state, or ends the run. A
world is one answer for every visit; with it a run is a function of the
number of visits made.

A loop with a counter has three kinds of nodes. A visit to the body raises
the counter, or ends the run; the helper of the body and the node that
closes the loop leave the counter alone, and lead on to another kind of
node. That alone bounds the visits to the body and the length of a run: a
run in which no visit raises comes to its end.
-/
import Mathlib.Data.Nat.Count

namespace ChaosBlade.Graph

open Option

structure StateGraph (N σ A : Type) where
  /-- The state a visit leaves; `none` if the node raises. -/
  act : N → A → σ → Option σ
  /-- The edge taken from the merged state; `none` ends the run. -/
  edge : N → A → σ → Option N

/-- Where a run stands: the node to visit next, `none` at the end. -/
structure Config (N σ : Type) where
  node : Option N
  state : σ

namespace StateGraph

variable {N σ A : Type} (g : StateGraph N σ A)

def step (a : A) (c : Config N σ) : Option (Config N σ) :=
  match c.node with
  | none => none
  | some n => (g.act n a c.state).map fun s => ⟨g.edge n a s, s⟩

def run (w : Nat → A) (c : Config N σ) : Nat → Option (Config N σ)
  | 0 => some c
  | k + 1 => (run w c k).bind (g.step (w k))

def nodeAt (w : Nat → A) (c : Config N σ) (k : Nat) : Option N :=
  (g.run w c k).bind Config.node

variable {g} {w : Nat → A} {c d : Config N σ} {k : Nat}

/-! ## Steps -/

theorem step_eq_some {a : A} {c' : Config N σ} : g.step a c = some c' ↔
      ∃ n s, c.node = some n ∧ g.act n a c.state = some s ∧ c' = ⟨g.edge n a s, s⟩ := by
  unfold step
  cases hn : c.node with
  | none => simp
  | some n =>
    simp only [map_eq_some_iff, some.injEq, exists_and_left, exists_eq_left']
    constructor
    · rintro ⟨s, hs, rfl⟩
      exact ⟨s, hs, rfl⟩
    · rintro ⟨s, hs, rfl⟩
      exact ⟨s, hs, rfl⟩

variable {n : N}

theorem step_of_act {a : A} {s s' : σ} (h : g.act n a s = some s') :
    g.step a ⟨some n, s⟩ = some ⟨g.edge n a s', s'⟩ := by simp [step, h]

theorem step_to {a : A} {s s' : σ} {next : Option N} (h : g.act n a s = some s')
    (hedge : g.edge n a s' = next) : g.step a ⟨some n, s⟩ = some ⟨next, s'⟩ := by
  rw [step_of_act h, hedge]

/-! ## Runs -/

@[simp] theorem run_zero : g.run w c 0 = some c := rfl

theorem run_succ : g.run w c (k + 1) = (g.run w c k).bind (g.step (w k)) := rfl

theorem run_succ_eq_some {c'' : Config N σ} : g.run w c (k + 1) = some c'' ↔
      ∃ c', g.run w c k = some c' ∧ g.step (w k) c' = some c'' := by rw [run_succ, bind_eq_some_iff]

theorem nodeAt_eq_some : g.nodeAt w c k = some n ↔ ∃ s, g.run w c k = some ⟨some n, s⟩ := by
  unfold nodeAt
  rw [bind_eq_some_iff]
  constructor
  · rintro ⟨⟨m, s⟩, h, rfl⟩
    exact ⟨s, h⟩
  · rintro ⟨s, h⟩
    exact ⟨_, h, rfl⟩

variable {s : σ}

theorem run_pred {o : Option N} (h : g.run w c (k + 1) = some ⟨o, s⟩) :
    ∃ n s₀, g.run w c k = some ⟨some n, s₀⟩ ∧ g.act n (w k) s₀ = some s ∧ g.edge n (w k) s = o := by
  obtain ⟨⟨m, s₀⟩, h₀, hstep⟩ := run_succ_eq_some.mp h
  obtain ⟨n, s', rfl, hact, heq⟩ := step_eq_some.mp hstep
  obtain ⟨rfl, rfl⟩ : o = g.edge n (w k) s' ∧ s = s' := by simpa using heq
  exact ⟨n, s₀, h₀, hact, rfl⟩

variable {i : Nat}

theorem run_before (hik : i ≤ k) {c' : Config N σ} (h : g.run w c k = some c') :
    ∃ ci, g.run w c i = some ci := by
  induction hik generalizing c' with
  | refl => exact ⟨c', h⟩
  | step _ ih =>
    obtain ⟨c₁, h₁, -⟩ := run_succ_eq_some.mp h
    exact ih h₁

theorem run_succ_of_act {s s' : σ} (hrun : g.run w c k = some ⟨some n, s⟩)
    (hact : g.act n (w k) s = some s') : g.run w c (k + 1) = some ⟨g.edge n (w k) s', s'⟩ := by
  rw [run_succ, hrun]
  exact step_of_act hact

/-- A run that is at `n` and goes on has made a visit to it. -/
theorem act_of_lt (hik : i < k) (hi : g.run w c i = some ⟨some n, s⟩) (hk : g.run w c k = some d) :
    ∃ s', g.act n (w i) s = some s' ∧ g.run w c (i + 1) = some ⟨g.edge n (w i) s', s'⟩ := by
  obtain ⟨c', hc'⟩ := run_before hik hk
  obtain ⟨c₀, h₀, hstep⟩ := run_succ_eq_some.mp hc'
  cases hi.symm.trans h₀
  obtain ⟨m, s', hm, hact, rfl⟩ := step_eq_some.mp hstep
  cases hm
  exact ⟨s', hact, hc'⟩

theorem run_add (j : Nat) :
    g.run w c (k + j) = (g.run w c k).bind fun c' => g.run (fun n => w (k + n)) c' j := by
  induction j with
  | zero => cases g.run w c k <;> rfl
  | succ j ih =>
    rw [← Nat.add_assoc, run_succ, ih, bind_assoc]
    rfl

variable (I : Config N σ → Prop)

theorem run_inv_in (hstep : ∀ k c c', I c → g.step (w k) c = some c' → I c') (h0 : I c) :
    ∀ {k c'}, g.run w c k = some c' → I c' := by
  intro k
  induction k with
  | zero =>
    intro c' h
    cases h
    exact h0
  | succ k ih =>
    intro c' h
    obtain ⟨c₁, h₁, hs⟩ := run_succ_eq_some.mp h
    exact hstep _ _ _ (ih h₁) hs

theorem run_inv (hstep : ∀ a c c', I c → g.step a c = some c' → I c') (h0 : I c) :
    ∀ {k c'}, g.run w c k = some c' → I c' :=
  run_inv_in I (fun k => hstep (w k)) h0

theorem run_inv_from (hstep : ∀ a c c', I c → g.step a c = some c' → I c') (hik : i ≤ k)
    {ci ck : Config N σ} (hi : g.run w c i = some ci) (hk : g.run w c k = some ck) (h : I ci) :
    I ck := by
  obtain ⟨j, rfl⟩ := Nat.exists_eq_add_of_le hik
  rw [run_add, hi, bind_some] at hk
  exact run_inv I hstep h hk

theorem run_keeps (P : σ → Prop)
    (hstep : ∀ a c c', P c.state → g.step a c = some c' → c'.node = none ∨ P c'.state)
    (hik : i ≤ k) {ci : Config N σ} (hi : g.run w c i = some ci) (h : ci.node = none ∨ P ci.state)
    (hk : g.run w c k = some ⟨some n, s⟩) : P s := by
  have := run_inv_from (fun d => d.node = none ∨ P d.state) (fun a d d' hd hs => by
    rcases hd with hnone | hP
    · obtain ⟨m, -, hm, -⟩ := step_eq_some.mp hs
      cases hnone.symm.trans hm
    · exact hstep a d d' hP hs) hik hi hk h
  simpa using this

theorem run_becomes (P : σ → Prop) : ∀ {k d}, g.run w c k = some d → ¬ P c.state → P d.state →
      ∃ j < k, ∃ x y, g.run w c j = some x ∧ g.run w c (j + 1) = some y ∧
        ¬ P x.state ∧ P y.state := by
  intro k
  induction k with
  | zero =>
    intro d h hstart hd
    cases h
    exact absurd hd hstart
  | succ k ih =>
    intro d h hstart hd
    obtain ⟨x, hx, -⟩ := run_succ_eq_some.mp h
    by_cases hP : P x.state
    · obtain ⟨j, hj, hex⟩ := ih hx hstart hP
      exact ⟨j, by omega, hex⟩
    · exact ⟨k, by omega, x, d, hx, h, hP, hd⟩

/-- Where a run stands that is stopped after at most `k` visits: the last
position it got to. -/
def stopped (g : StateGraph N σ A) (w : Nat → A) (c : Config N σ) : Nat → Config N σ
  | 0 => c
  | k + 1 => (g.run w c (k + 1)).getD (stopped g w c k)

theorem exists_run_eq_stopped : ∃ i ≤ k, g.run w c i = some (g.stopped w c k) := by
  induction k with
  | zero => exact ⟨0, le_rfl, rfl⟩
  | succ k ih =>
    unfold stopped
    cases h : g.run w c (k + 1) with
    | none =>
      obtain ⟨i, hi, hrun⟩ := ih
      exact ⟨i, by omega, hrun⟩
    | some d => exact ⟨k + 1, le_rfl, h⟩

/-! ## Two runs in one world -/

def Both (R : Config N σ → Config N σ → Prop) : Option (Config N σ) → Option (Config N σ) → Prop
  | none, none => True
  | some c, some d => R c d
  | _, _ => False

theorem run_rel (R : Config N σ → Config N σ → Prop)
    (hstep : ∀ a c d, R c d → Both R (g.step a c) (g.step a d)) (h0 : R c d) (k : Nat) :
    Both R (g.run w c k) (g.run w d k) := by
  induction k with
  | zero => exact h0
  | succ k ih =>
    rw [run_succ, run_succ]
    revert ih
    cases g.run w c k <;> cases g.run w d k <;> intro ih
    · trivial
    · exact ih.elim
    · exact ih.elim
    · exact hstep _ _ _ ih

/-! ## Counting visits -/

variable {p : N → Prop} [DecidablePred p]

def visits (g : StateGraph N σ A) (p : N → Prop) [DecidablePred p] (w : Nat → A)
    (c : Config N σ) (k : Nat) : Nat :=
  Nat.count (fun i => ∃ n ∈ g.nodeAt w c i, p n) k

def toll (p : N → Prop) [DecidablePred p] (c : Config N σ) : Nat :=
  if ∃ n ∈ c.node, p n then 1 else 0

theorem visits_succ : visits g p w c (k + 1) =
      visits g p w c k + match g.run w c k with | none => 0 | some c' => toll p c' := by
  unfold visits nodeAt toll
  rw [Nat.count_succ]
  cases g.run w c k <;> simp

theorem visits_mono {j : Nat} (h : j ≤ k) : visits g p w c j ≤ visits g p w c k :=
  Nat.count_monotone _ h

theorem visits_succ_of_at (h : g.run w c k = some ⟨some n, s⟩) (hn : p n) :
    visits g p w c (k + 1) = visits g p w c k + 1 := by
  rw [visits_succ, h]
  simp [toll, hn]

theorem visits_le (μ : Config N σ → Nat)
    (hI : ∀ a c c', I c → g.step a c = some c' → I c') (hpay : ∀ c, I c → toll p c ≤ μ c)
    (hstep : ∀ a c c', I c → g.step a c = some c' → toll p c + μ c' ≤ μ c)
    (h0 : I c) (k : Nat) : visits g p w c k ≤ μ c := by
  -- what has been paid and what is left never exceed the start
  have key : visits g p w c k +
      (match g.run w c k with | none => 0 | some c' => μ c') ≤ μ c := by
    induction k with
    | zero => simp [visits]
    | succ k ih =>
      rw [visits_succ, run_succ]
      cases hk : g.run w c k with
      | none => simpa [hk] using ih
      | some c' =>
        have hc' : I c' := run_inv I hI h0 hk
        simp only [hk] at ih
        simp only [bind_some]
        cases hs : g.step (w k) c' with
        | none =>
          have := hpay c' hc'
          simp only
          omega
        | some c'' =>
          have := hstep _ _ _ hc' hs
          simp only
          omega
  omega

end StateGraph

end ChaosBlade.Graph

namespace ChaosBlade.Graph.StateGraph

variable {N σ A : Type}

/-! ## Runs that end -/

section

variable {g : StateGraph N σ A} {w : Nat → A} {c : Config N σ}

theorem run_ends (I : Config N σ → Prop) (rank : Config N σ → Nat)
    (hstep : ∀ k d, g.run w c k = some d → I d → d.node ≠ none →
      ∃ d', g.step (w k) d = some d' ∧ I d' ∧ rank d' < rank d) (h0 : I c) :
    ∃ k s, g.run w c k = some ⟨none, s⟩ := by
  -- from any position, by induction on its rank
  have key : ∀ r k d, rank d = r → g.run w c k = some d → I d →
      ∃ j s, g.run w c j = some ⟨none, s⟩ := by
    intro r
    induction r using Nat.strongRecOn with
    | ind r ih =>
      intro k d hr hrun hI
      cases hnode : d.node with
      | none =>
        obtain ⟨node, s⟩ := d
        obtain rfl : node = none := hnode
        exact ⟨k, s, hrun⟩
      | some n =>
        obtain ⟨d', hs, hI', hlt⟩ := hstep k d hrun hI (by simp [hnode])
        exact ih _ (hr ▸ hlt) (k + 1) d' rfl (run_succ_eq_some.mpr ⟨d, hrun, hs⟩) hI'
  exact key _ 0 c rfl rfl h0

theorem run_ne_of_end {k j : Nat} {s : σ} {d : Config N σ} (hend : g.run w c k = some ⟨none, s⟩)
    (hkj : k < j) : g.run w c j ≠ some d := by
  intro h
  obtain ⟨c', hc'⟩ := run_before (show k + 1 ≤ j by omega) h
  rw [run_succ, hend] at hc'
  cases hc'

end

/-! ## Counted loops -/

inductive Role where
  | body
  | helper
  | close
  deriving DecidableEq

/-- The graph is a loop whose counter stays within the limit. -/
structure CountedLoop (g : StateGraph N σ A) (role : N → Role) (count : σ → Nat) (limit : Nat) :
    Prop where
  body : ∀ {n a s s'}, role n = .body → count s ≤ limit → g.act n a s = some s' →
    g.edge n a s' = none ∨
      count s' = count s + 1 ∧ count s < limit ∧ ∀ m ∈ g.edge n a s', role m ≠ .body
  helper : ∀ {n a s s'}, role n = .helper → g.act n a s = some s' →
    count s' = count s ∧ ∀ m ∈ g.edge n a s', role m ≠ .helper
  close : ∀ {n a s s'}, role n = .close → g.act n a s = some s' →
    count s' = count s ∧ ∀ m ∈ g.edge n a s', role m = .body

namespace CountedLoop

variable {g : StateGraph N σ A} {role : N → Role} {count : σ → Nat} {limit : Nat}
  {w : Nat → A} {c d d' : Config N σ} {a : A}

def Within (count : σ → Nat) (limit : Nat) (c : Config N σ) : Prop :=
  c.node = none ∨ count c.state ≤ limit

def left (count : σ → Nat) (limit : Nat) (c : Config N σ) : Nat :=
  if c.node.isNone then 0 else limit + 1 - count c.state

def place : Role → Nat
  | .body => 0
  | .close => 1
  | .helper => 2

def rank (role : N → Role) (count : σ → Nat) (limit : Nat) (c : Config N σ) : Nat :=
  match c.node with
  | none => 0
  | some n => 3 * (limit + 1 - count c.state) + place (role n)

section

variable (h : g.CountedLoop role count limit)
include h

section

variable (hd : Within count limit d) (hs : g.step a d = some d')
include hd hs

theorem step_cases : ∃ n, d.node = some n ∧ count d.state ≤ limit ∧ (d'.node = none ∨
        (role n = .body ∧ count d'.state = count d.state + 1 ∧ count d.state < limit ∧
          ∀ m ∈ d'.node, role m ≠ .body) ∨ (role n ≠ .body ∧ count d'.state = count d.state ∧
          ∀ m ∈ d'.node, place (role m) < place (role n))) := by
  obtain ⟨n, s, hn, hact, rfl⟩ := step_eq_some.mp hs
  have hcount : count d.state ≤ limit := by
    rcases hd with hnone | hle
    · cases hnone.symm.trans hn
    · exact hle
  refine ⟨n, hn, hcount, ?_⟩
  cases hrole : role n with
  | body =>
    rcases h.body hrole hcount hact with hend | ⟨hsucc, hlt, hnext⟩
    · exact .inl hend
    · exact .inr (.inl ⟨rfl, hsucc, hlt, hnext⟩)
  | helper =>
    obtain ⟨hsame, hnext⟩ := h.helper hrole hact
    refine .inr (.inr ⟨by simp, hsame, fun m hm => ?_⟩)
    have := hnext m hm
    cases hm' : role m <;> simp_all [place]
  | close =>
    obtain ⟨hsame, hnext⟩ := h.close hrole hact
    refine .inr (.inr ⟨by simp, hsame, fun m hm => ?_⟩)
    rw [hnext m hm]
    decide

theorem step_within : Within count limit d' := by
  obtain ⟨n, -, hcount, hend | ⟨-, hsucc, hlt, -⟩ | ⟨-, hsame, -⟩⟩ := h.step_cases hd hs
  · exact .inl hend
  · exact .inr (by omega)
  · exact .inr (by omega)

theorem step_rank : rank role count limit d' < rank role count limit d := by
  obtain ⟨n, hn, hcount, hcases⟩ := h.step_cases hd hs
  have hrank : rank role count limit d = 3 * (limit + 1 - count d.state) + place (role n) := by
    simp only [rank, hn]
  cases hnext : d'.node with
  | none =>
    have : rank role count limit d' = 0 := by simp only [rank, hnext]
    omega
  | some m =>
    have hrank' : rank role count limit d' =
        3 * (limit + 1 - count d'.state) + place (role m) := by simp only [rank, hnext]
    rcases hcases with hend | ⟨-, hsucc, hlt, -⟩ | ⟨-, hsame, hplace⟩
    · cases hend.symm.trans hnext
    · have : place (role m) ≤ 2 := by cases role m <;> decide
      omega
    · have := hplace m hnext
      omega

end

theorem visits_body_le {p : N → Prop} [DecidablePred p]
    (hp : ∀ n, p n → role n = .body) (hc : count c.state ≤ limit) (k : Nat) :
    visits g p w c k ≤ limit + 1 - count c.state := by
  have hleft : left count limit c ≤ limit + 1 - count c.state := by
    unfold left
    split <;> omega
  refine (visits_le (Within count limit) (left count limit) (fun a d d' => h.step_within) ?_ ?_
    (.inr hc) k).trans hleft
  · intro d hd
    unfold toll left
    cases hn : d.node with
    | none => simp
    | some n =>
      have : count d.state ≤ limit := by
        rcases hd with hnone | hle
        · cases hnone.symm.trans hn
        · exact hle
      simp only [Option.isNone_some, Bool.false_eq_true, if_false]
      split <;> omega
  · intro a d d' hd hs
    obtain ⟨n, hn, hcount, hcases⟩ := h.step_cases hd hs
    have htoll : toll p d ≤ if role n = .body then 1 else 0 := by
      have : toll p d = if p n then 1 else 0 := by simp [toll, hn]
      split_ifs at * <;> simp_all
    have hleft : left count limit d = limit + 1 - count d.state := by simp [left, hn]
    rcases hcases with hend | ⟨hbody, hsucc, hlt, -⟩ | ⟨hbody, hsame, -⟩
    · have : left count limit d' = 0 := by simp [left, hend]
      split at htoll <;> omega
    · have : left count limit d' ≤ limit + 1 - count d'.state := by
        unfold left
        split <;> omega
      rw [if_pos hbody] at htoll
      omega
    · have : left count limit d' ≤ limit + 1 - count d'.state := by
        unfold left
        split <;> omega
      rw [if_neg hbody] at htoll
      omega

theorem ends (hc : count c.state ≤ limit)
    (hruns : ∀ k n s, g.run w c k = some ⟨some n, s⟩ → (g.act n (w k) s).isSome = true) :
    ∃ k s, g.run w c k = some ⟨none, s⟩ := by
  refine run_ends (Within count limit) (rank role count limit) (fun k d hrun hd hnode => ?_)
    (.inr hc)
  obtain ⟨node, s⟩ := d
  cases node with
  | none => exact absurd rfl hnode
  | some n =>
    obtain ⟨s', hact⟩ := Option.isSome_iff_exists.mp (hruns k n s hrun)
    have hs := step_of_act hact
    exact ⟨_, hs, h.step_within hd hs, h.step_rank hd hs⟩

end

end CountedLoop

end ChaosBlade.Graph.StateGraph
