/-
Nodes.BaselinePairs: the commands and their observations in
`agent/nodes/baseline_capture.py`, from the first round to the extractors.

An unresolved command has no observation, but the two lists are paired by
position. What a round ran is right exactly if the unresolved commands
come last.
-/
import ChaosBlade.Nodes.BaselineCapture

namespace ChaosBlade.Nodes

open Py Process List Traced

abbrev Extractor := String → Except PyError Json

/-- A resolved command with its `_extractors`. -/
abbrev Extracting := Resolved × List Extractor

abbrev Pairs := List (Extracting × BaselineObservation)

/-- The commands of a round that was run, and its observations. -/
abbrev Round := List Extracting × List BaselineObservation

section

variable (site : CaptureSite) (answers : Nat → CaptureAnswers)

def roundObservations (round : Nat) (commands : List Extracting) :
    Except PyError (List BaselineObservation) :=
  (executeObservations site (answers round) (commands.map (·.1))).result

/-- The retries, with the rounds that are run; `retries` are the resolved answers of the model, as
far as it gives any. -/
def retryPairs : Nat → List (List Extracting) → Pairs → Except PyError (List Round × Pairs)
  | _, [], pairs => .ok ([], pairs)
  | round, commands :: more, pairs =>
    if pairs.all fun p => p.2.exitCode = 0 then .ok ([], pairs)
    else if commands.all fun c => c.1.unresolved then .ok ([], pairs)
    else do
      let observations ← roundObservations site answers round commands
      let (rounds, pairs) ← retryPairs (round + 1) more
        ((pairs.filter fun p => p.2.exitCode = 0) ++ commands.zip observations)
      return ((commands, observations) :: rounds, pairs)

def capturePairs (commands : List Extracting) (retries : List (List Extracting)) :
    Except PyError (List Round × Pairs) := do
  let observations ← roundObservations site answers 0 commands
  let (rounds, pairs) ← retryPairs site answers 1 (retries.take 2) (commands.zip observations)
  return ((commands, observations) :: rounds, pairs)

/-- Which extractor is run on what, in order. -/
def extractorRuns (pairs : Pairs) : List (Extracting × Extractor × String) :=
  (pairs.filter fun p => p.2.exitCode = 0).flatMap fun p =>
    p.1.2.map fun x => (p.1, x, p.2.stdout)

/-- The fields for `target_metadata`, later ones in front. -/
def extractedMetadata (pairs : Pairs) : List (String × Json) :=
  (extractorRuns pairs).foldl (fun fields r =>
    match r.2.1 r.2.2 with
    | .ok (.obj fs) => fs.reverse ++ fields
    | _ => fields) []

def failedObservation (c : Resolved) (e : PyError) : BaselineObservation :=
  { description := c.description, command := "", exitCode := -1, stdout := "", stderr := e.msg }

/-- Running the command in some round gave the observation. -/
def Produced (c : Extracting) (o : BaselineObservation) : Prop :=
  ∃ round place i, ((observe site (answers round) place i c.1).recover
    (failedObservation c.1)).result = .ok o

def resolvedOnly (commands : List Extracting) : List Extracting :=
  commands.filter fun c => !c.1.unresolved

/-- Each observation stays with its command: a round pairs the commands it ran with what each of
them gave, and drops nothing, and what is kept of the rounds goes to the extractors of its own
command. -/
structure ObservationsStay (rounds : List Round) (pairs : Pairs) : Prop where
  paired : ∀ r ∈ rounds, r.1.zip r.2 = (resolvedOnly r.1).zip r.2 ∧
    Forall₂ (Produced site answers) (resolvedOnly r.1) r.2
  produced : ∀ p ∈ pairs, Produced site answers p.1 p.2
  extracted : ∀ r ∈ extractorRuns pairs,
    r.2.1 ∈ r.1.2 ∧ ∃ o, Produced site answers r.1 o ∧ o.stdout = r.2.2

def UnresolvedLast (commands : List Extracting) : Prop :=
  commands.Pairwise fun c d => c.1.unresolved = true → d.1.unresolved = true

variable {site answers}

/-! ## One round -/

/-- Every command that is run has its observation, in order. -/
theorem observeAll_produced {round : Nat} {pods : DebugPods} :
    ∀ {commands : List Extracting} {obs : List BaselineObservation} {i : Nat},
    (observeAll site (answers round) pods i (commands.map (·.1))).result = .ok obs →
    Forall₂ (Produced site answers) (resolvedOnly commands) obs
  | [], obs, i, h => by
    cases h
    exact .nil
  | c :: rest, obs, i, h => by
    simp only [map_cons, observeAll] at h
    split at h
    · next hc =>
      have hrest := observeAll_produced h
      simpa [resolvedOnly, hc] using hrest
    · next hc =>
      rw [result_bind] at h
      obtain ⟨o, ho, h⟩ := bind_eq_ok.mp h
      rw [result_bind] at h
      obtain ⟨more, hmore, h⟩ := bind_eq_ok.mp h
      cases h
      have hcons : resolvedOnly (c :: rest) = c :: resolvedOnly rest := by simp [resolvedOnly, hc]
      rw [hcons]
      exact .cons ⟨round, pods.place c.1.nodeName, i, ho⟩ (observeAll_produced hmore)

theorem round_produced {round : Nat} {commands : List Extracting} {obs : List BaselineObservation}
    (h : roundObservations site answers round commands = .ok obs) :
    Forall₂ (Produced site answers) (resolvedOnly commands) obs := by
  rw [roundObservations, executeObservations, result_bind] at h
  obtain ⟨pods, -, h⟩ := bind_eq_ok.mp h
  rw [result_bind] at h
  obtain ⟨all, hall, h⟩ := bind_eq_ok.mp h
  rw [result_bind] at h
  obtain ⟨done, -, h⟩ := bind_eq_ok.mp h
  cases h
  exact observeAll_produced hall

theorem resolvedOnly_eq_nil {commands : List Extracting}
    (h : ∀ c ∈ commands, c.1.unresolved = true) : resolvedOnly commands = [] := by
  simpa [resolvedOnly] using h

/-- The positions of a round are right exactly if the unresolved commands come last. -/
theorem zip_resolvedOnly_iff : ∀ {commands : List Extracting} {obs : List BaselineObservation},
    obs.length = (resolvedOnly commands).length →
    (commands.zip obs = (resolvedOnly commands).zip obs ↔ UnresolvedLast commands)
  | [], obs, _ => by simp [resolvedOnly, UnresolvedLast]
  | c :: rest, obs, hlen => by
    unfold UnresolvedLast
    rw [pairwise_cons]
    cases hc : c.1.unresolved with
    | false =>
      have hcons : resolvedOnly (c :: rest) = c :: resolvedOnly rest := by simp [resolvedOnly, hc]
      rw [hcons] at hlen ⊢
      obtain ⟨o, obs, rfl⟩ := exists_cons_of_length_eq_add_one hlen
      rw [zip_cons_cons, zip_cons_cons, cons.injEq]
      have ih : rest.zip obs = (resolvedOnly rest).zip obs ↔ UnresolvedLast rest :=
        zip_resolvedOnly_iff (by simpa using hlen)
      unfold UnresolvedLast at ih
      simpa using ih
    | true =>
      have hskip : resolvedOnly (c :: rest) = resolvedOnly rest := by simp [resolvedOnly, hc]
      rw [hskip] at hlen ⊢
      constructor
      · intro h
        -- the first pair would be that of an unresolved command
        cases hrest : resolvedOnly rest with
        | nil =>
          have hall : ∀ d ∈ rest, d.1.unresolved = true := by simpa [resolvedOnly] using hrest
          exact ⟨fun d hd _ => hall d hd, pairwise_of_forall_mem_list fun d _ e he _ => hall e he⟩
        | cons d more =>
          have hd : d.1.unresolved = false := by
            have hmem : d ∈ resolvedOnly rest := by simp [hrest]
            simpa [resolvedOnly] using (mem_filter.mp hmem).2
          rw [hrest] at hlen h
          obtain ⟨o, obs, rfl⟩ := exists_cons_of_length_eq_add_one hlen
          rw [zip_cons_cons, zip_cons_cons, cons.injEq] at h
          rw [(Prod.mk.inj h.1).1, hd] at hc
          cases hc
      · rintro ⟨hall, -⟩
        rw [resolvedOnly_eq_nil fun d hd => hall d hd rfl] at hlen ⊢
        simp [length_eq_zero_iff.mp hlen]

/-! ## A run -/

/-- What the pairs of a run are made of. -/
theorem retryPairs_mem {pairs : Pairs} : ∀ {retries : List (List Extracting)} {round : Nat}
    {before : Pairs} {rounds : List Round},
    retryPairs site answers round retries before = .ok (rounds, pairs) →
    (∀ r ∈ rounds, ∃ k, roundObservations site answers k r.1 = .ok r.2) ∧
      ∀ p ∈ pairs, p ∈ before ∨ ∃ r ∈ rounds, p ∈ r.1.zip r.2
  | [], _, _, _, h => by
    cases h
    exact ⟨by simp, fun p hp => .inl hp⟩
  | commands :: more, round, before, rounds, h => by
    unfold retryPairs at h
    split_ifs at h
    · cases h
      exact ⟨by simp, fun p hp => .inl hp⟩
    · cases h
      exact ⟨by simp, fun p hp => .inl hp⟩
    · obtain ⟨obs, hobs, h⟩ := bind_eq_ok.mp h
      obtain ⟨⟨later, all⟩, hlater, h⟩ := bind_eq_ok.mp h
      cases h
      obtain ⟨hrun, hmem⟩ := retryPairs_mem hlater
      refine ⟨forall_mem_cons.mpr ⟨⟨round, hobs⟩, hrun⟩, fun p hp => ?_⟩
      rcases hmem p hp with hbefore | ⟨r, hr, hp⟩
      · rcases mem_append.mp hbefore with hkept | hnew
        · exact .inl (mem_of_mem_filter hkept)
        · exact .inr ⟨_, mem_cons_self, hnew⟩
      · exact .inr ⟨r, mem_cons_of_mem _ hr, hp⟩

theorem capturePairs_mem {commands : List Extracting} {retries : List (List Extracting)}
    {rounds : List Round} {pairs : Pairs}
    (h : capturePairs site answers commands retries = .ok (rounds, pairs)) :
    (∀ r ∈ rounds, ∃ k, roundObservations site answers k r.1 = .ok r.2) ∧
      ∀ p ∈ pairs, ∃ r ∈ rounds, p ∈ r.1.zip r.2 := by
  obtain ⟨obs, hobs, h⟩ := bind_eq_ok.mp h
  obtain ⟨⟨later, all⟩, hlater, h⟩ := bind_eq_ok.mp h
  cases h
  obtain ⟨hrun, hmem⟩ := retryPairs_mem hlater
  refine ⟨forall_mem_cons.mpr ⟨⟨0, hobs⟩, hrun⟩, fun p hp => ?_⟩
  rcases hmem p hp with hfirst | ⟨r, hr, hp⟩
  · exact ⟨_, mem_cons_self, hfirst⟩
  · exact ⟨r, mem_cons_of_mem _ hr, hp⟩

/-- In a run that returns, each observation stays with its command exactly if in every round that
was run the unresolved commands came last. -/
theorem observations_stay_iff (commands : List Extracting) (retries : List (List Extracting))
    (rounds : List Round) (pairs : Pairs)
    (h : capturePairs site answers commands retries = .ok (rounds, pairs)) :
    ObservationsStay site answers rounds pairs ↔ ∀ r ∈ rounds, UnresolvedLast r.1 := by
  obtain ⟨hrun, hmem⟩ := capturePairs_mem h
  have hown : ∀ r ∈ rounds, Forall₂ (Produced site answers) (resolvedOnly r.1) r.2 :=
    fun r hr => (hrun r hr).elim fun _ hround => round_produced hround
  have hzip : ∀ r ∈ rounds, (r.1.zip r.2 = (resolvedOnly r.1).zip r.2 ↔ UnresolvedLast r.1) :=
    fun r hr => zip_resolvedOnly_iff (hown r hr).length_eq.symm
  constructor
  · exact fun hstay r hr => (hzip r hr).mp (hstay.paired r hr).1
  · intro hlast
    have hproduced : ∀ p ∈ pairs, Produced site answers p.1 p.2 := by
      intro p hp
      obtain ⟨r, hr, hp⟩ := hmem p hp
      rw [(hzip r hr).mpr (hlast r hr)] at hp
      exact forall₂_zip (hown r hr) hp
    refine ⟨fun r hr => ⟨(hzip r hr).mpr (hlast r hr), hown r hr⟩, hproduced, fun r hr => ?_⟩
    obtain ⟨p, hp, hr⟩ := mem_flatMap.mp hr
    obtain ⟨x, hx, rfl⟩ := mem_map.mp hr
    exact ⟨hx, p.2, hproduced p (mem_of_mem_filter hp), rfl⟩

end

def nodeCommand : Extracting :=
  ({ description := .str "node", subcommand := "get", vArgs := .str "node x"
     mode := .str "simple", unresolved := true, nodeName := "" },
    [fun out => .ok (.obj [("node", .str out)])])

def podsCommand : Extracting :=
  ({ nodeCommand.1 with description := .str "pods", vArgs := .str "pods", unresolved := false }, [])

/-- The pods go to the extractor of the node, whose command was not run. -/
theorem observations_move :
    (capturePairs {} (fun _ => { observe := fun _ => .ok { stdout := "a b" } })
      [nodeCommand, podsCommand] []).map (extractedMetadata ·.2) =
        .ok [("node", .str "a b")] := by rfl

/-- Nothing fails in the first round, so the second list is not run. -/
theorem observations_stay_ordered : ∃ rounds pairs, capturePairs {}
    (fun _ => { observe := fun _ => .ok { stdout := "a b" } }) [podsCommand, nodeCommand]
      [[nodeCommand, podsCommand]] = .ok (rounds, pairs) ∧
    ObservationsStay {} (fun _ => { observe := fun _ => .ok { stdout := "a b" } }) rounds
        pairs := by
  refine ⟨_, _, rfl, (observations_stay_iff [podsCommand, nodeCommand]
    [[nodeCommand, podsCommand]] _ _ rfl).mpr ?_⟩
  simp [UnresolvedLast, nodeCommand, podsCommand]

end ChaosBlade.Nodes
