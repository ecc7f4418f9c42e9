/-
Nodes.MethodTheorems: is the recorded injection method true?

`Evidence` is what makes a method true: a tool result of the conversation
that injected the fault that way, and carried the uid the state holds.
-/
import ChaosBlade.Nodes.ReplanTheorems

namespace ChaosBlade.Nodes

open Py Agent Tools List Option List

variable {u : String} {x : Message} {rest : List Message} {seen : Sighting}

/-! ## Evidence -/

def CarriesUid (db : CharDb) (tool : String) (m : ToolMessage) (u : String) : Prop :=
  m.name = tool ∧ extractBladeUid db m.content = .ok (some u)

def AnswersExecCreate (messages : List Message) (m : ToolMessage) : Prop :=
  ∃ tc ∈ toolCallsOf messages,
    tc.id = m.toolCallId ∧ tc.name = "kubectl" ∧ isExecBladeCreate tc.args = .ok true

/-- What the reader takes for a kubectl write that succeeded: an answer to one that does not begin
with `Error:`. -/
def TakenForWrite (messages : List Message) (m : ToolMessage) : Prop :=
  m.name = "kubectl" ∧ startsWith m.content "Error:" = false ∧
    ∃ tc ∈ toolCallsOf messages, tc.id = m.toolCallId ∧
      ∃ sub ∈ kubectlInjectSubcommands, tc.args.getD "subcommand" (.str "") = .ok (.str sub)

/-- A kubectl write that succeeded. A call that a screener refuses, or whose tool raises, is
answered with the status `error`, and kubectl's own failures are told in the text. -/
def AnswersWrite (messages : List Message) (m : ToolMessage) : Prop :=
  m.status = .success ∧ TakenForWrite messages m

inductive Evidence (db : CharDb) (messages : List Message) :
    Option InjectionMethod → String → Prop
  | unset (u : String) : Evidence db messages none u
  | hostBlade {m : ToolMessage} {u : String} : .tool m ∈ messages →
      CarriesUid db "blade_create" m u → Evidence db messages (some .hostBlade) u
  | kubectlExec {m : ToolMessage} {u : String} : .tool m ∈ messages →
      CarriesUid db "kubectl" m u → AnswersExecCreate messages m →
      Evidence db messages (some .kubectlExec) u
  | kubectlNative {m : ToolMessage} : .tool m ∈ messages → AnswersWrite messages m →
      Evidence db messages (some .kubectlNative) ""

section

variable {messages messages' : List Message}

section

variable (h : messages ⊆ messages')
include h

theorem toolCallsOf_mono : toolCallsOf messages ⊆ toolCallsOf messages' := by
  intro tc htc
  obtain ⟨m, hm, hcall⟩ := mem_flatMap.mp htc
  exact mem_flatMap.mpr ⟨m, h hm, hcall⟩

variable {m : ToolMessage}

theorem AnswersExecCreate.mono (hm : AnswersExecCreate messages m) :
    AnswersExecCreate messages' m := by
  obtain ⟨tc, htc, hcall⟩ := hm
  exact ⟨tc, toolCallsOf_mono h htc, hcall⟩

theorem AnswersWrite.mono (hm : AnswersWrite messages m) : AnswersWrite messages' m := by
  obtain ⟨hstatus, hname, herror, tc, htc, hcall⟩ := hm
  exact ⟨hstatus, hname, herror, tc, toolCallsOf_mono h htc, hcall⟩

theorem Evidence.mono {db : CharDb} {method : Option InjectionMethod}
    (he : Evidence db messages method u) : Evidence db messages' method u := by
  cases he with
  | unset => exact .unset u
  | hostBlade hm hu => exact .hostBlade (h hm) hu
  | kubectlExec hm hu hcall => exact .kubectlExec (h hm) hu (hcall.mono h)
  | kubectlNative hm hwrite => exact .kubectlNative (h hm) (hwrite.mono h)

end

end

variable {messages : List Message}

theorem Evidence.uid_of_native {db : CharDb}
    (h : Evidence db messages (some .kubectlNative) u) : u = "" := by
  cases h
  rfl

/-! ## Readers -/

section

variable {db : CharDb}

def NoUid (db : CharDb) (tool : String) (messages : List Message) : Prop :=
  ∀ m u, .tool m ∈ messages → ¬ CarriesUid db tool m u

theorem noUid_nil (tool : String) : NoUid db tool [] := by
  intro m u hm
  cases hm

theorem NoUid.cons {tool : String}
    (hx : ∀ m u, x = .tool m → ¬ CarriesUid db tool m u) (h : NoUid db tool rest) :
    NoUid db tool (x :: rest) := by
  intro m u hm hu
  rcases mem_cons.mp hm with heq | hm
  · exact hx m u heq.symm hu
  · exact h m u hm hu

theorem not_carriesUid {tool : String}
    (h : m.name = tool → extractBladeUid db m.content = .ok none) :
    ∀ m' u, Message.tool m = .tool m' → ¬ CarriesUid db tool m' u := by
  rintro m' u heq ⟨hname, hu⟩
  cases heq
  simp [h hname] at hu

/-- Where the uid of a conversation comes from: a `blade_create`, the fallback
found so far, or one of the given kubectl calls. -/
inductive UidFrom (db : CharDb) (ids : List String) (messages : List Message)
    (k r : Option String) : Prop
  | create {m : ToolMessage} {u : String} : .tool m ∈ messages →
      CarriesUid db "blade_create" m u → r = some u → UidFrom db ids messages k r
  | fallback : NoUid db "blade_create" messages → k ≠ none → r = k → UidFrom db ids messages k r
  | kubectl {m : ToolMessage} {u : String} : NoUid db "blade_create" messages →
      .tool m ∈ messages → CarriesUid db "kubectl" m u → r = some u → UidFrom db ids messages k r
  | absent : NoUid db "blade_create" messages → k = none → r = none →
      (∀ m u, .tool m ∈ messages → m.toolCallId ∈ ids → ¬ CarriesUid db "kubectl" m u) →
      UidFrom db ids messages k r

theorem UidFrom.cons {ids : List String} {k r : Option String} (h : UidFrom db ids rest k r)
    (hcreate : ∀ m u, x = .tool m → ¬ CarriesUid db "blade_create" m u)
    (hkubectl : k = none → ∀ m u, x = .tool m → m.toolCallId ∈ ids →
      ¬ CarriesUid db "kubectl" m u) : UidFrom db ids (x :: rest) k r := by
  cases h with
  | create hm hu hr => exact .create (mem_cons_of_mem _ hm) hu hr
  | fallback hno hk hr => exact .fallback (hno.cons hcreate) hk hr
  | kubectl hno hm hu hr => exact .kubectl (hno.cons hcreate) (mem_cons_of_mem _ hm) hu hr
  | absent hno hk hr hnone =>
    refine .absent (hno.cons hcreate) hk hr fun m u hm hid hu => ?_
    rcases mem_cons.mp hm with heq | hm
    · exact hkubectl hk m u heq.symm hid hu
    · exact hnone m u hm hid hu

theorem scanBladeUid_from {ids : List String} : ∀ {messages : List Message}
    {k r : Option String}, scanBladeUid db ids messages k = .ok r → UidFrom db ids messages k r
  | [], k, r, h => by
    cases h
    cases k with
    | none => exact .absent (noUid_nil _) rfl rfl fun m u hm => by cases hm
    | some u => exact .fallback (noUid_nil _) (by simp) rfl
  | .ai _ :: rest, k, r, h | .human _ :: rest, k, r, h | .system _ :: rest, k, r, h => by
    have hrest : scanBladeUid db ids rest k = .ok r := h
    exact (scanBladeUid_from hrest).cons (by simp) (by simp)
  | .tool m :: rest, k, r, h => by
    rw [scanBladeUid] at h
    split at h
    case isTrue hname =>
      obtain ⟨o, ho, h⟩ := bind_eq_ok.mp h
      cases o with
      | some u =>
        cases h
        exact .create (mem_cons_self ..) ⟨hname, ho⟩ rfl
      | none =>
        exact (scanBladeUid_from h).cons (not_carriesUid fun _ => ho)
          fun _ m' u heq _ => not_carriesUid (fun _ => ho) m' u heq
    case isFalse hname =>
      have hcreate : ∀ m' u, Message.tool m = .tool m' →
          ¬ CarriesUid db "blade_create" m' u := not_carriesUid fun h => absurd h hname
      split at h
      case isTrue hkubectl =>
        obtain ⟨hkube, rfl, hid⟩ := hkubectl
        obtain ⟨o, ho, h⟩ := bind_eq_ok.mp h
        -- from here on the fallback is what this result carries
        have hfrom := scanBladeUid_from h
        cases o with
        | none => exact hfrom.cons hcreate fun _ m' u heq _ => not_carriesUid (fun _ => ho) m' u heq
        | some u =>
          cases hfrom with
          | create hm hu hr => exact .create (mem_cons_of_mem _ hm) hu hr
          | fallback hno _ hr => exact .kubectl (hno.cons hcreate) (mem_cons_self ..) ⟨hkube, ho⟩ hr
          | kubectl hno hm hu hr => exact .kubectl (hno.cons hcreate) (mem_cons_of_mem _ hm) hu hr
          | absent _ hk _ _ => cases hk
      case isFalse hskip =>
        refine (scanBladeUid_from h).cons hcreate ?_
        rintro hk m' u heq hid ⟨hname', -⟩
        cases heq
        exact hskip ⟨hname', hk, hid⟩

inductive MethodFrom (db : CharDb) (messages : List Message) : Option InjectionMethod → Prop
  | create {m : ToolMessage} {u : String} : .tool m ∈ messages →
      CarriesUid db "blade_create" m u → MethodFrom db messages (some .hostBlade)
  /-- The first kubectl result with a uid, and no `blade_create` before it. -/
  | kubectl {m : ToolMessage} {u : String} {later earlier : List Message} :
      messages = later ++ .tool m :: earlier → NoUid db "blade_create" later →
      CarriesUid db "kubectl" m u → MethodFrom db messages (some .kubectlExec)
  | absent : NoUid db "blade_create" messages → NoUid db "kubectl" messages →
      MethodFrom db messages none

theorem MethodFrom.cons {r : Option InjectionMethod}
    (h : MethodFrom db rest r) (hcreate : ∀ m u, x = .tool m → ¬ CarriesUid db "blade_create" m u)
    (hkubectl : ∀ m u, x = .tool m → ¬ CarriesUid db "kubectl" m u) :
    MethodFrom db (x :: rest) r := by
  cases h with
  | create hm hu => exact .create (mem_cons_of_mem _ hm) hu
  | kubectl hsplit hno hu => exact .kubectl (by rw [hsplit]; rfl) (hno.cons hcreate) hu
  | absent hno hno' => exact .absent (hno.cons hcreate) (hno'.cons hkubectl)

theorem scanInjectionMethod_from : ∀ {messages : List Message} {r : Option InjectionMethod},
    scanInjectionMethod db messages = .ok r → MethodFrom db messages r
  | [], r, h => by
    cases h
    exact .absent (noUid_nil _) (noUid_nil _)
  | .ai _ :: rest, r, h | .human _ :: rest, r, h | .system _ :: rest, r, h => by
    have hrest : scanInjectionMethod db rest = .ok r := h
    exact (scanInjectionMethod_from hrest).cons (by simp) (by simp)
  | .tool m :: rest, r, h => by
    rw [scanInjectionMethod] at h
    split at h
    case isTrue hname =>
      obtain ⟨o, ho, h⟩ := bind_eq_ok.mp h
      cases o with
      | some u =>
        cases h
        exact .create (mem_cons_self ..) ⟨hname, ho⟩
      | none =>
        exact (scanInjectionMethod_from h).cons (not_carriesUid fun _ => ho)
          (not_carriesUid fun _ => ho)
    case isFalse hname =>
      split at h
      case isTrue hkube =>
        obtain ⟨o, ho, h⟩ := bind_eq_ok.mp h
        cases o with
        | some u =>
          cases h
          exact .kubectl (nil_append _).symm (noUid_nil _) ⟨hkube, ho⟩
        | none =>
          exact (scanInjectionMethod_from h).cons (not_carriesUid fun _ => ho)
            (not_carriesUid fun _ => ho)
      case isFalse hkube =>
        exact (scanInjectionMethod_from h).cons (not_carriesUid fun h => absurd h hname)
          (not_carriesUid fun h => absurd h hkube)

theorem toolCall_of_args {id : String} {args : Json} (h : toolCallArgs messages id = some args) :
    ∃ tc ∈ toolCallsOf messages, tc.id = id ∧ tc.args = args := by
  unfold toolCallArgs at h
  split at h
  · cases h
  · obtain ⟨tc, htc, rfl⟩ := map_eq_some_iff.mp h
    refine ⟨tc, mem_reverse.mp (mem_of_find?_eq_some htc), ?_, rfl⟩
    simpa using find?_some htc

theorem takenForWrite_of_shows
    (h : showsNativeInjection messages m = .ok true) : TakenForWrite messages m := by
  unfold showsNativeInjection at h
  split at h
  case isFalse => cases h
  case isTrue hname =>
    split at h
    · cases h
    · next args hargs =>
      obtain ⟨v, hv, h⟩ := bind_eq_ok.mp h
      obtain ⟨tc, htc, hid, hcall⟩ := toolCall_of_args hargs
      split at h
      · next sub =>
        have hboth := Except.ok.inj h
        rw [Bool.and_eq_true, Bool.not_eq_true'] at hboth
        refine ⟨hname, hboth.2, tc, htc, hid, sub, ?_, by rw [hcall, hv]⟩
        simpa using hboth.1
      · cases h
      · cases h
      · cases h

theorem exists_of_anyToolM {p : ToolMessage → Except PyError Bool} : ∀ {messages : List Message},
    anyToolM p messages = .ok true → ∃ m, .tool m ∈ messages ∧ p m = .ok true
  | .ai _ :: rest, h | .human _ :: rest, h | .system _ :: rest, h => by
    have hrest : anyToolM p rest = .ok true := h
    obtain ⟨m, hm, hp⟩ := exists_of_anyToolM hrest
    exact ⟨m, mem_cons_of_mem _ hm, hp⟩
  | .tool m :: rest, h => by
    rw [anyToolM] at h
    obtain ⟨b, hb, h⟩ := bind_eq_ok.mp h
    cases b with
    | true => exact ⟨m, mem_cons_self .., hb⟩
    | false =>
      obtain ⟨m', hm', hp⟩ := exists_of_anyToolM (show anyToolM p rest = .ok true from h)
      exact ⟨m', mem_cons_of_mem _ hm', hp⟩

end

/-! ## A pass -/

theorem mem_callIdsM {p : ToolCall → Except PyError Bool} {tc : ToolCall}
    (hp : p tc = .ok true) : ∀ {calls : List ToolCall} {ids : List String},
    callIdsM p calls = .ok ids → tc ∈ calls → tc.id ∈ ids
  | tc' :: rest, ids, h, hmem => by
    rw [callIdsM] at h
    obtain ⟨hit, hhit, h⟩ := bind_eq_ok.mp h
    obtain ⟨ids', hids, h⟩ := bind_eq_ok.mp h
    cases h
    rcases mem_cons.mp hmem with rfl | hmem
    · rw [hp] at hhit
      cases hhit
      exact mem_cons_self ..
    · have hrest := mem_callIdsM hp hids hmem
      split
      · exact mem_cons_of_mem _ hrest
      · exact hrest

theorem isKubectlBladeCreate_of_exec {tc : ToolCall} (hname : tc.name = "kubectl")
    (h : isExecBladeCreate tc.args = .ok true) : isKubectlBladeCreate tc = .ok true := by
  obtain ⟨sub, hsub, h⟩ := bind_eq_ok.mp h
  obtain ⟨vArgs, hvArgs, h⟩ := bind_eq_ok.mp h
  rw [isKubectlBladeCreate, if_pos hname]
  cases hargs : tc.args with
  | obj fs =>
    rw [hargs] at hvArgs
    cases hvArgs
    split at h
    · exact h
    · cases h
  | _ => rw [hargs] at hsub; cases hsub

/-- The pass can tell how the fault was injected: a kubectl result with a uid
answers a `kubectl exec … blade create …`; where both tools have shown a uid the
last one is of `blade_create`; a recorded method is that of the uids shown; where
nothing is recorded and no uid is shown, a refused kubectl write is not all there
is; and a granted replan does not forget a uid. -/
structure TellsMethod (σ : Setup) (a : Answer) (s : AgentState) : Prop where
  kubectl : ∀ m u, .tool m ∈ s.messages → CarriesUid σ.db "kubectl" m u →
    AnswersExecCreate s.messages m
  order : s.injectionMethod = none ∨ s.injectionMethod = some .kubectlNative →
    ∀ earlier m later u, s.messages = earlier ++ .tool m :: later →
      CarriesUid σ.db "kubectl" m u → NoUid σ.db "blade_create" later →
      NoUid σ.db "blade_create" earlier
  exec : s.injectionMethod = some .kubectlExec → NoUid σ.db "blade_create" s.messages
  host : s.injectionMethod = some .hostBlade → NoUid σ.db "blade_create" s.messages →
    NoUid σ.db "kubectl" s.messages
  write : s.injectionMethod = none → NoUid σ.db "blade_create" s.messages →
    NoUid σ.db "kubectl" s.messages → (∃ m, .tool m ∈ s.messages ∧ TakenForWrite s.messages m) →
    ∃ m, .tool m ∈ s.messages ∧ AnswersWrite s.messages m
  replan : AsksReplan σ a s → (s.replanCount : Int) < σ.settings.maxReplanCount →
    (∃ v, ReportedLive s.messages v) ∨
      (s.bladeUid = "" ∧ NoUid σ.db "blade_create" s.messages ∧ NoUid σ.db "kubectl" s.messages)

variable {σ : Setup} {a : Answer} {s s' : AgentState}

theorem NoUid.of_reverse {db : CharDb} {tool : String}
    (h : NoUid db tool messages.reverse) : NoUid db tool messages :=
  fun m u hm => h m u (mem_reverse.mpr hm)

/-- What a pass that can tell sees: a `blade_create`, a `blade create` inside a
pod, or no uid at all. -/
inductive Sees (db : CharDb) (messages : List Message) (recorded : Option InjectionMethod) :
    Sighting → Prop
  | create {m : ToolMessage} {u : String} {method : InjectionMethod} : .tool m ∈ messages →
      CarriesUid db "blade_create" m u → recorded ≠ some .kubectlExec →
      (recorded = some .hostBlade ∨ method = .hostBlade) →
      Sees db messages recorded { uid := some u, method := some method }
  | exec {m : ToolMessage} {u : String} : .tool m ∈ messages → CarriesUid db "kubectl" m u →
      recorded ≠ some .hostBlade →
      Sees db messages recorded { uid := some u, method := some .kubectlExec }
  | native : (recorded = none → ∃ m, .tool m ∈ messages ∧ AnswersWrite messages m) →
      Sees db messages recorded { uid := none, method := some .kubectlNative }
  | nothing : Sees db messages recorded { uid := none, method := none }

theorem TellsMethod.recorded_of_later (h : TellsMethod σ a s) {earlier later : List Message}
    {m' : ToolMessage} {u' : String} (hsplit : s.messages = earlier ++ .tool m' :: later)
    (hu' : CarriesUid σ.db "kubectl" m' u') (hlater : NoUid σ.db "blade_create" later)
    (hm : .tool m ∈ s.messages) (hu : CarriesUid σ.db "blade_create" m u) :
    s.injectionMethod = some .hostBlade := by
  have hmixed : ¬ (s.injectionMethod = none ∨ s.injectionMethod = some .kubectlNative) := by
    intro hrec
    have hearlier := h.order hrec earlier m' later u' hsplit hu' hlater
    rw [hsplit, mem_append, mem_cons] at hm
    rcases hm with hm | heq | hm
    · exact hearlier m u hm hu
    · cases heq
      have := hu.1.symm.trans hu'.1
      simp at this
    · exact hlater m u hm hu
  have hexec : s.injectionMethod ≠ some .kubectlExec := fun hrec => h.exec hrec m u hm hu
  cases hrec : s.injectionMethod with
  | none => exact absurd (.inl hrec) hmixed
  | some r =>
    cases r with
    | hostBlade => rfl
    | kubectlExec => exact absurd hrec hexec
    | kubectlNative => exact absurd (.inr hrec) hmixed

theorem observeInjection_sees (h : TellsMethod σ a s)
    (hseen : observeInjection σ.db s.messages = .ok seen) :
    Sees σ.db s.messages s.injectionMethod seen := by
  obtain ⟨uid, huid, hseen⟩ := bind_eq_ok.mp hseen
  obtain ⟨method, hmethod, hseen⟩ := bind_eq_ok.mp hseen
  cases hseen
  obtain ⟨ids, hids, huid⟩ := bind_eq_ok.mp huid
  obtain ⟨found, hfound, hmethod⟩ := bind_eq_ok.mp hmethod
  have hmethodFrom := scanInjectionMethod_from hfound
  cases scanBladeUid_from huid with
  | create hm hu hr =>
    subst hr
    have hm := mem_reverse.mp hm
    have hexec : s.injectionMethod ≠ some .kubectlExec := fun hrec => h.exec hrec _ _ hm hu
    cases hmethodFrom with
    | create _ _ =>
      cases hmethod
      exact .create hm hu hexec (.inr rfl)
    | @kubectl m' u' later earlier hsplit hno hu' =>
      cases hmethod
      have hmsgs : s.messages = earlier.reverse ++ .tool m' :: later.reverse := by
        rw [← reverse_reverse s.messages, hsplit]
        simp
      have hlater : NoUid σ.db "blade_create" later.reverse :=
        fun m u hm => hno m u (mem_reverse.mp hm)
      exact .create hm hu hexec (.inl (h.recorded_of_later hmsgs hu' hlater hm hu))
    | absent hno _ => exact absurd hu (hno.of_reverse _ _ hm)
  | fallback _ hk _ => exact absurd rfl hk
  | kubectl hno hm hu hr =>
    subst hr
    have hm := mem_reverse.mp hm
    have hhost : s.injectionMethod ≠ some .hostBlade :=
      fun hrec => h.host hrec hno.of_reverse _ _ hm hu
    cases hmethodFrom with
    | create hm' hu' => exact absurd hu' (hno _ _ hm')
    | kubectl _ _ _ =>
      cases hmethod
      exact .exec hm hu hhost
    | absent _ hno' => exact absurd hu (hno'.of_reverse _ _ hm)
  | absent hno _ hr hnone =>
    subst hr
    cases hmethodFrom with
    | create hm' hu' => exact absurd hu' (hno _ _ hm')
    | @kubectl m' u' later earlier hsplit _ hu' =>
      -- the reader of the uid knows the call of such a result
      have hm' : .tool m' ∈ s.messages.reverse := by rw [hsplit]; simp
      obtain ⟨tc, htc, hid, hname, hexec⟩ := h.kubectl m' u' (mem_reverse.mp hm') hu'
      have hmem := mem_callIdsM (isKubectlBladeCreate_of_exec hname hexec) hids htc
      rw [hid] at hmem
      exact absurd hu' (hnone m' u' hm' hmem)
    | absent hcreate hkubectl =>
      obtain ⟨b, hb, hmethod⟩ := bind_eq_ok.mp hmethod
      cases b with
      | false =>
        cases hmethod
        exact .nothing
      | true =>
        cases hmethod
        obtain ⟨m, hm, hshows⟩ := exists_of_anyToolM hb
        have hm : .tool m ∈ s.messages := by
          have := (takeWhile_sublist _).subset (mem_reverse.mp hm)
          exact mem_reverse.mp this
        exact .native fun hrec => h.write hrec hcreate.of_reverse hkubectl.of_reverse
          ⟨m, hm, takenForWrite_of_shows hshows⟩

structure MethodTrue (db : CharDb) (history : List Message) (s : AgentState) : Prop where
  evidence : Evidence db history s.injectionMethod s.bladeUid
  uid : s.injectionMethod = none → s.bladeUid = ""

variable {history : List Message}

theorem MethodTrue.congr {db : CharDb} (h : MethodTrue db history s)
    (hmethod : s'.injectionMethod = s.injectionMethod) (huid : s'.bladeUid = s.bladeUid) :
    MethodTrue db history s' := by
  refine ⟨?_, fun hnone => ?_⟩
  · rw [hmethod, huid]
    exact h.evidence
  · rw [huid]
    exact h.uid (hmethod ▸ hnone)

theorem MethodTrue.recorded {db : CharDb} {timestamp : String} {method : InjectionMethod}
    (hmethod : upgradeMethod s.injectionMethod seen.method = some method)
    (h : Evidence db history (some method) (seen.uid.getD s.bladeUid)) :
    MethodTrue db history (recordInjection timestamp seen s) := by
  refine ⟨?_, fun hnone => by cases hmethod.symm.trans hnone⟩
  rw [show (recordInjection timestamp seen s).injectionMethod = some method from hmethod]
  exact h

theorem recordInjection_true {timestamp : String}
    (h : MethodTrue σ.db history s) (hsub : s.messages ⊆ history) (htells : TellsMethod σ a s)
    (hsees : Sees σ.db s.messages s.injectionMethod seen) :
    MethodTrue σ.db history (recordInjection timestamp seen s) := by
  cases hsees with
  | @create m u method hm hu hexec hmethod =>
    have hhost : upgradeMethod s.injectionMethod (some method) = some .hostBlade := by
      rcases hmethod with hrec | rfl
      · rw [hrec]
        rfl
      · rcases hrec : s.injectionMethod with _ | _ | _ | _ <;> first | rfl | exact absurd hrec hexec
    exact .recorded hhost (.hostBlade (hsub hm) hu)
  | @exec m u hm hu hhost =>
    have hexec : upgradeMethod s.injectionMethod (some .kubectlExec) = some .kubectlExec := by
      rcases hrec : s.injectionMethod with _ | _ | _ | _ <;> first | rfl | exact absurd hrec hhost
    exact .recorded hexec (.kubectlExec (hsub hm) hu ((htells.kubectl m u hm hu).mono hsub))
  | native hwrites =>
    cases hrec : s.injectionMethod with
    | none =>
      obtain ⟨m, hm, hwrite⟩ := hwrites hrec
      have hnative : upgradeMethod s.injectionMethod (some .kubectlNative) =
          some .kubectlNative := by
        rw [hrec]
        rfl
      refine .recorded hnative ?_
      rw [getD_none, h.uid hrec]
      exact .kubectlNative (hsub hm) (hwrite.mono hsub)
    | some r =>
      have hmethod : upgradeMethod s.injectionMethod (some .kubectlNative) = s.injectionMethod := by
        rw [hrec]
        cases r <;> rfl
      exact h.congr hmethod rfl
  | nothing =>
    have hmethod : upgradeMethod s.injectionMethod none = s.injectionMethod := by
      rcases s.injectionMethod with _ | _ | _ | _ <;> rfl
    exact h.congr hmethod rfl

theorem executeTurn_true {r : AIMessage} {text : String}
    (h : MethodTrue σ.db history (recordInjection a.timestamp seen s)) :
    MethodTrue σ.db history (executeTurn σ a s r text seen) := by
  have huid : (executeTurn σ a s r text seen).bladeUid =
      (recordInjection a.timestamp seen s).bladeUid := executeTurn_bladeUid r text seen
  have hmethod : (executeTurn σ a s r text seen).injectionMethod =
      (recordInjection a.timestamp seen s).injectionMethod ∨
      ((recordInjection a.timestamp seen s).injectionMethod = some .kubectlNative ∧
        (executeTurn σ a s r text seen).injectionMethod = none) := by
    unfold executeTurn
    dsimp only
    by_cases hnudged : (recordInjection a.timestamp seen s).injectionMethod = some .kubectlNative ∧
        executeNudges a (recordInjection a.timestamp seen s) r text ≠ []
    · right
      refine ⟨hnudged.1, ?_⟩
      split <;> rfl
    · left
      split <;> rfl
  rcases hmethod with hmethod | ⟨hnative, hnone⟩
  · exact h.congr hmethod huid
  · -- a kubectl write has no uid
    have hempty : (recordInjection a.timestamp seen s).bladeUid = "" :=
      (hnative ▸ h.evidence).uid_of_native
    refine ⟨?_, fun _ => by rw [huid, hempty]⟩
    rw [hnone]
    exact .unset _

theorem executeLoop_true (h : MethodTrue σ.db history s)
    (hsub : s.messages ⊆ history) (htells : TellsMethod σ a s)
    (hstep : executeLoop σ a s = some s') : MethodTrue σ.db history s' := by
  have hturn : ∀ {seen : Sighting} (r : AIMessage) (text : String),
      observeInjection σ.db s.messages = .ok seen →
      MethodTrue σ.db history (executeTurn σ a s r text seen) := fun r text hseen =>
    executeTurn_true (recordInjection_true h hsub htells (observeInjection_sees htells hseen))
  cases executeLoop_step hstep with
  | overrun _ | zombie _ _ => exact h.congr rfl rfl
  | @carryOn r seen text _ _ hseen _ _ => exact (hturn r text hseen).congr (by simp) (by simp)
  | @exhausted r seen text reason context _ _ hseen _ _ _ _ =>
    refine (hturn r text hseen).congr ?_ ?_
    · rw [markWallClockTimeout_injectionMethod]; rfl
    · rw [markWallClockTimeout_bladeUid]; rfl
  | @granted r seen text reason context hlt hr hseen htext hreason hcontext hcount =>
    refine (hturn r text hseen).congr ?_ ?_
    · rw [markWallClockTimeout_injectionMethod]; rfl
    · rw [markWallClockTimeout_bladeUid]
      change (if context.existingBladeUids.isEmpty then "" else _) = _
      split
      case isFalse => rfl
      case isTrue hempty =>
        -- no uid is on record, and none is seen
        have hnone : ∀ v, ¬ ReportedLive s.messages v := by
          intro v hv
          have := (mem_existingBladeUids hcontext v).mpr hv
          rw [isEmpty_iff.mp hempty] at this
          cases this
        have hasks : AsksReplan σ a s := ⟨hlt, r, text, reason, hr, htext, hreason⟩
        rcases htells.replan hasks hcount with ⟨v, hv⟩ | ⟨hu, hcreate, hkubectl⟩
        · exact absurd hv (hnone v)
        · rw [executeTurn_bladeUid]
          cases observeInjection_sees htells hseen with
          | create hm hu' _ _ => exact absurd hu' (hcreate _ _ hm)
          | exec hm hu' _ => exact absurd hu' (hkubectl _ _ hm)
          | native _ | nothing => exact hu.symm

/-! ## Runs -/

/-- Passes and tool rounds in any order, from a state without an injection;
`history` has every message of the conversation, also those a compaction has
dropped since. Every pass meets `P`. -/
inductive Runs (σ : Setup) (P : Answer → AgentState → Prop) : List Message → AgentState → Prop
  | start {s : AgentState} : s.bladeUid = "" → s.injectionMethod = none → Runs σ P s.messages s
  | pass {history : List Message} {a : Answer} {s s' : AgentState} : Runs σ P history s →
      P a s → executeLoop σ a s = some s' → Runs σ P (history ++ s'.messages) s'
  | tools {history : List Message} {a : Answer} {s s' : AgentState} : Runs σ P history s →
      toolNode a s = some s' → Runs σ P (history ++ s'.messages) s'

theorem Runs.messages_subset {P : Answer → AgentState → Prop}
    (h : Runs σ P history s) : s.messages ⊆ history := by
  cases h with
  | start _ _ => exact List.Subset.refl _
  | pass _ _ _ | tools _ _ => exact subset_append_right _ _

theorem Runs.methodTrue (h : Runs σ (TellsMethod σ) history s) : MethodTrue σ.db history s := by
  induction h with
  | start huid hmethod =>
    refine ⟨?_, fun _ => huid⟩
    rw [hmethod]
    exact .unset _
  | @pass history a s s' hrun htells hstep ih =>
    have htrue := executeLoop_true ih hrun.messages_subset htells hstep
    exact ⟨htrue.evidence.mono (subset_append_left _ _), htrue.uid⟩
  | @tools history a s s' hrun hstep ih =>
    obtain ⟨turn, _, hstep⟩ := bind_eq_some_iff.mp hstep
    obtain ⟨results, _, hstep⟩ := bind_eq_some_iff.mp hstep
    cases hstep
    exact ⟨ih.evidence.mono (subset_append_left _ _), ih.uid⟩

def Injects (db : CharDb) (history : List Message) (m : ToolMessage) : Prop :=
  (∃ u, CarriesUid db "blade_create" m u) ∨
    (∃ u, CarriesUid db "kubectl" m u ∧ AnswersExecCreate history m) ∨ AnswersWrite history m

theorem Evidence.injects {db : CharDb} {method : Option InjectionMethod}
    (h : Evidence db history method u) (hmethod : method ≠ none) :
    ∃ m, .tool m ∈ history ∧ Injects db history m := by
  cases h with
  | unset => exact absurd rfl hmethod
  | hostBlade hm hu => exact ⟨_, hm, .inl ⟨u, hu⟩⟩
  | kubectlExec hm hu hcall => exact ⟨_, hm, .inr (.inl ⟨u, hu, hcall⟩)⟩
  | kubectlNative hm hwrite => exact ⟨_, hm, .inr (.inr hwrite)⟩

def kubectlTurn (id subcommand vArgs : String) : Message :=
  .ai { toolCalls := [{
    name := "kubectl"
    args := .obj [("subcommand", .str subcommand), ("v_args", .str vArgs)]
    id }] }

def kubectlResult (id content : String) : ToolMessage :=
  { content, name := "kubectl", toolCallId := id }

def podJson : String :=
  "\x7b\"metadata\": \x7b\"uid\": \"4f3a1c0e-9b7d-4a65-8c21-0d9e8f7a6b5c\"\x7d\x7d"

def afterLook : AgentState :=
  { messages := [kubectlTurn "c1" "get" "pod web-1 -o json", .tool (kubectlResult "c1" podJson)] }

def concluding : Answer := { response := some { content := .str "Done." } }

def hasExecCreate (messages : List Message) : Bool :=
  (toolCallsOf messages).any fun tc => (isExecBladeCreate tc.args).toOption == some true

theorem AnswersExecCreate.hasExecCreate
    (h : AnswersExecCreate messages m) : hasExecCreate messages = true := by
  obtain ⟨tc, htc, -, -, hexec⟩ := h
  refine any_eq_true.mpr ⟨tc, htc, ?_⟩
  rw [hexec]
  rfl

def afterRefusal : AgentState :=
  { messages := [kubectlTurn "c1" "delete" "pod web-1 -n prod",
      .tool { kubectlResult "c1" "[target_guard] REJECT_DRIFT" with status := .error }] }

def allRefused (messages : List Message) : Bool :=
  messages.all fun
    | .tool m => m.status == .error
    | _ => true

theorem status_of_allRefused (h : allRefused messages = true) (hm : .tool m ∈ messages) :
    m.status = .error := by
  simpa using all_eq_true.mp h _ hm

def afterExec : AgentState :=
  { messages := [kubectlTurn "c1" "exec" "tool -- blade create k8s pod-cpu fullload",
      .tool (kubectlResult "c1"
        "\x7b\"code\": 200, \"success\": true, \"result\": \"4f3a1c0e9b7d2a65\"\x7d")] }

theorem afterExec_tellsMethod : TellsMethod {} concluding afterExec := by
  have htool : ∀ m, .tool m ∈ afterExec.messages → m.name = "kubectl" ∧ m.toolCallId = "c1" := by
    intro m hm
    simp only [afterExec, kubectlTurn, mem_cons, not_mem_nil, or_false, reduceCtorEq,
      false_or, Message.tool.injEq] at hm
    rw [hm]
    exact ⟨rfl, rfl⟩
  have hcreate : ∀ messages, messages ⊆ afterExec.messages →
      NoUid asciiDb "blade_create" messages := by
    intro messages hsub m u hm hu
    have := (htool m (hsub hm)).1.symm.trans hu.1
    simp at this
  refine ⟨?_, ?_, nofun, nofun, ?_, ?_⟩
  · intro m u hm _
    exact ⟨_, mem_singleton.mpr rfl, (htool m hm).2.symm, rfl, by decide⟩
  · intro _ earlier m later u hsplit _ _
    refine hcreate earlier ?_
    rw [hsplit]
    exact subset_append_left _ _
  · -- an exec is no write
    rintro - - - ⟨m, -, -, -, tc, htc, -, sub, hsub, hargs⟩
    obtain rfl := mem_singleton.mp htc
    obtain rfl : "exec" = sub := by
      simpa [Json.getD, Json.get?] using hargs
    exact absurd hsub (by decide)
  · -- there is no reason for a new plan
    rintro ⟨-, r, text, reason, hr, htext, hreason⟩ _
    cases hr
    cases htext
    have hnone : (replanReason afterExec "Done.").toOption = some none := by decide +kernel
    rw [hreason] at hnone
    cases hnone

end ChaosBlade.Nodes
