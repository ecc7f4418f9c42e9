/-
Server.ClusterChoice: which cluster the commands of a request
go to: the override in `server/routes/inject.py` (and `inject_stream.py`),
`_resolve_kubeconfig`, `inject_kubeconfig_into_tool_calls`, and the flags
of `tools/kubectl.py` and `tools/blade.py`.

The settings are one object of the process. A request writes its
kubeconfig and context into it, keeps the kubeconfig in its own state, and
its nodes and tools fall back to the settings where a value is empty. The
context is only in the settings: the state has a `kube_context`, which no
node reads.
-/
import ChaosBlade.Process.Events
import ChaosBlade.Tools.Blade
import ChaosBlade.Tools.ToolPods

namespace ChaosBlade.Server.ClusterChoice

open Process Option

/-! ## Settings, requests and commands -/

structure Settings where
  kubeconfigPath : String
  kubeContext : String

def orElse (a b : String) : String := if a = "" then b else a

/-- The fields of an `InjectRequest` that choose a cluster. -/
structure Request where
  kubeconfig : String
  context : String

def Settings.override (s : Settings) (r : Request) : Settings :=
  ⟨orElse r.kubeconfig s.kubeconfigPath, orElse r.context s.kubeContext⟩

/-- Where the caller of a tool has its kubeconfig from: the arguments alone, the state,
`_resolve_kubeconfig`, or the arguments of a tool call after the injection. -/
inductive Origin where
  | given (kubeconfig : String)
  | state
  | resolved
  | toolCall (kubeconfig : String)

inductive Tool where
  | kubectl
  | blade

structure Command where
  tool : Tool
  origin : Origin
  context : String := ""
  cluster : String := ""

structure Task where
  request : Request
  kubeconfig : String
  /-- What `_resolve_kubeconfig` gave last. -/
  resolved : String := ""
  /-- The flags of its commands, in order. -/
  issued : List (List String) := []

def kubectlGlobalArgs (s : Settings) (kubeconfig context cluster : String) : List String :=
  let kc := orElse kubeconfig s.kubeconfigPath
  let ctx := orElse context s.kubeContext
  (if kc = "" then [] else ["--kubeconfig", kc]) ++ (if ctx = "" then [] else ["--context", ctx]) ++
    (if cluster = "" then [] else ["--cluster", cluster])

def Task.kubeconfigFor (t : Task) : Origin → String
  | .given kubeconfig => kubeconfig
  | .state => t.kubeconfig
  | .resolved => t.resolved
  | .toolCall kubeconfig => orElse kubeconfig t.resolved

def flags (s : Settings) (t : Task) (c : Command) : List String :=
  match c.tool with
  | .kubectl => kubectlGlobalArgs s (t.kubeconfigFor c.origin) c.context c.cluster
  | .blade => (Tools.buildKubeconfigArg s.kubeconfigPath (t.kubeconfigFor c.origin)).flatMap
      fun o => [o.1, o.2]

/-! ## The server -/

inductive Event where
  | post (id : String) (r : Request)
  /-- `_resolve_kubeconfig`; `spec` is the kubeconfig of the spec's parameters. -/
  | resolve (id : String) (spec : String)
  | command (id : String) (c : Command)

def Event.id : Event → String
  | .post id _ => id
  | .resolve id _ => id
  | .command id _ => id

structure ServerState where
  settings : Settings
  tasks : String → Option Task

def init (cfg : Settings) : ServerState := ⟨cfg, fun _ => none⟩

def nextSettings (s : ServerState) : Event → Settings
  | .post id r => if (s.tasks id).isNone then s.settings.override r else s.settings
  | _ => s.settings

/-- What an event does to the task it belongs to, under the settings after it. -/
def taskStep (settings : Settings) : Option Task → Event → Option Task
  | none, .post _ r =>
    some { request := r, kubeconfig := orElse r.kubeconfig settings.kubeconfigPath }
  | some t, .resolve _ spec =>
    some { t with resolved := orElse t.kubeconfig (orElse spec settings.kubeconfigPath) }
  | some t, .command _ c => some { t with issued := t.issued ++ [flags settings t c] }
  | t, _ => t

def step (s : ServerState) (e : Event) : ServerState where
  settings := nextSettings s e
  tasks := fun id => if id = e.id then taskStep (nextSettings s e) (s.tasks id) e else s.tasks id

def ServerState.issuedFor (s : ServerState) (id : String) : List (List String) :=
  (s.tasks id).elim [] Task.issued

def ownEvents (id : String) (events : List Event) : List Event := events.filter (·.id = id)

def OwnChoice (cfg : Settings) (id : String) (events : List Event) : Prop :=
  (after step (init cfg) events).issuedFor id =
      (after step (init cfg) (ownEvents id events)).issuedFor id

/-! ## Reads of the settings -/

def own (cfg : Settings) (t : Task) : Settings := cfg.override t.request

/-- What the event reads from the settings for its request is what the server was started
with or the request's own. -/
def Unaffected (cfg : Settings) (s : ServerState) : Event → Prop
  | .post id r =>
    s.tasks id = none → r.kubeconfig = "" → s.settings.kubeconfigPath = cfg.kubeconfigPath
  | .resolve id spec =>
    ∀ t, s.tasks id = some t → t.kubeconfig = "" → spec = "" →
      s.settings.kubeconfigPath = (own cfg t).kubeconfigPath
  | .command id c =>
    ∀ t, s.tasks id = some t →
      (t.kubeconfigFor c.origin = "" → s.settings.kubeconfigPath = (own cfg t).kubeconfigPath) ∧
      (c.tool = .kubectl → c.context = "" → s.settings.kubeContext = (own cfg t).kubeContext)

theorem orElse_congr {a b c : String} (h : a = "" → b = c) : orElse a b = orElse a c := by
  unfold orElse
  split
  · exact h ‹_›
  · rfl

theorem flags_congr {s s' : Settings} {t : Task} {c : Command}
    (hkc : t.kubeconfigFor c.origin = "" → s.kubeconfigPath = s'.kubeconfigPath)
    (hctx : c.tool = .kubectl → c.context = "" → s.kubeContext = s'.kubeContext) :
    flags s t c = flags s' t c := by
  have hkc' := orElse_congr hkc
  unfold flags
  cases htool : c.tool with
  | kubectl => simp [kubectlGlobalArgs, hkc', orElse_congr (hctx htool)]
  | blade =>
    simp only [orElse] at hkc'
    simp [Tools.buildKubeconfigArg, hkc']

/-- The run of all requests and the run of one, as that one sees them. -/
structure SameFor (cfg : Settings) (id : String) (s o : ServerState) : Prop where
  task : s.tasks id = o.tasks id
  fresh : o.tasks id = none → o.settings = cfg
  started : ∀ t, o.tasks id = some t → o.settings = own cfg t

variable {cfg : Settings} {s o : ServerState} {id : String}

theorem sameFor_other {e : Event}
    (he : e.id ≠ id) (h : SameFor cfg id s o) : SameFor cfg id (step s e) o := by
  refine ⟨?_, h.fresh, h.started⟩
  rw [← h.task]
  exact if_neg (Ne.symm he)

theorem step_tasks_own (s : ServerState) (e : Event) :
    (step s e).tasks e.id = taskStep (nextSettings s e) (s.tasks e.id) e := if_pos rfl

theorem sameFor_post {r : Request} (hun : Unaffected cfg s (.post id r)) (h : SameFor cfg id s o) :
    SameFor cfg id (step s (.post id r)) (step o (.post id r)) := by
  have hs := step_tasks_own s (.post id r)
  have ho := step_tasks_own o (.post id r)
  simp only [Event.id] at hs ho
  rcases hslot : o.tasks id with _ | t
  · have hfree : s.tasks id = none := h.task.trans hslot
    simp only [hslot, hfree, nextSettings, taskStep, isNone_none, ↓reduceIte] at hs ho
    have hpath : orElse r.kubeconfig (s.settings.override r).kubeconfigPath =
        orElse r.kubeconfig (o.settings.override r).kubeconfigPath := by
      rw [h.fresh hslot]
      refine orElse_congr fun hempty => ?_
      simpa [Settings.override, hempty, orElse] using hun hfree hempty
    refine ⟨by rw [hs, ho, hpath], fun hnone => ?_, fun t ht => ?_⟩
    · rw [ho] at hnone
      cases hnone
    · rw [ho, some.injEq] at ht
      subst ht
      simp [step, nextSettings, hslot, h.fresh hslot, own]
  · -- the id is in use: nothing happens in either run
    have hused : s.tasks id = some t := h.task.trans hslot
    simp only [hslot, hused, taskStep] at hs ho
    refine ⟨by rw [hs, ho], fun hnone => ?_, fun t' ht => ?_⟩
    · rw [ho] at hnone
      cases hnone
    · rw [ho, some.injEq] at ht
      subst ht
      simpa [step, nextSettings, hslot] using h.started t hslot

theorem sameFor_of_task {e : Event} (h : SameFor cfg e.id s o)
    (hs : nextSettings s e = s.settings) (ho : nextSettings o e = o.settings)
    (hnone : taskStep o.settings none e = none) (htask : ∀ t, o.tasks e.id = some t →
      ∃ t', taskStep s.settings (some t) e = some t' ∧ taskStep o.settings (some t) e = some t' ∧
        t'.request = t.request) : SameFor cfg e.id (step s e) (step o e) := by
  have hs' := step_tasks_own s e
  have ho' := step_tasks_own o e
  have hsettings : (step o e).settings = o.settings := ho
  rw [hs, h.task] at hs'
  rw [ho] at ho'
  rcases hslot : o.tasks e.id with _ | t
  · have hnone' : taskStep s.settings none e = none := by cases e <;> simp_all [taskStep]
    rw [hslot, hnone'] at hs'
    rw [hslot, hnone] at ho'
    refine ⟨hs'.trans ho'.symm, fun _ => hsettings.trans (h.fresh hslot), fun t ht => ?_⟩
    rw [ho'] at ht
    cases ht
  · obtain ⟨t', hs1, ho1, hrequest⟩ := htask t hslot
    rw [hslot, hs1] at hs'
    rw [hslot, ho1] at ho'
    refine ⟨hs'.trans ho'.symm, fun hn => ?_, fun t'' ht => ?_⟩
    · rw [ho'] at hn
      cases hn
    · rw [ho', some.injEq] at ht
      subst ht
      rw [hsettings, h.started t hslot, own, own, hrequest]

theorem sameFor_own {e : Event} (hun : Unaffected cfg s e) (h : SameFor cfg e.id s o) :
    SameFor cfg e.id (step s e) (step o e) := by
  cases e with
  | post id r => exact sameFor_post hun h
  | resolve id spec =>
    refine sameFor_of_task h rfl rfl rfl fun t ht => ⟨_, ?_, rfl, rfl⟩
    have hpath : orElse t.kubeconfig (orElse spec s.settings.kubeconfigPath) =
        orElse t.kubeconfig (orElse spec o.settings.kubeconfigPath) := by
      rw [h.started t ht]
      exact orElse_congr fun hkc => orElse_congr fun hspec =>
        hun t (h.task.trans ht) hkc hspec
    simp [taskStep, hpath]
  | command id c =>
    refine sameFor_of_task h rfl rfl rfl fun t ht => ⟨_, ?_, rfl, rfl⟩
    obtain ⟨hkc, hctx⟩ := hun t (h.task.trans ht)
    have hflags : flags s.settings t c = flags o.settings t c := by
      rw [h.started t ht]
      exact flags_congr hkc hctx
    simp [taskStep, hflags]

/-! ## Runs -/

def UnaffectedFor (cfg : Settings) (id : String) (s : ServerState) (e : Event) : Prop :=
  e.id = id → Unaffected cfg s e

theorem sameFor_after (events : List Event)
    (hall : AllSteps step (UnaffectedFor cfg id) (init cfg) events) :
    SameFor cfg id (after step (init cfg) events) (after step (init cfg)
        (ownEvents id events)) := by
  induction events using List.reverseRecOn with
  | nil => exact ⟨rfl, fun _ => rfl, fun t ht => by cases ht⟩
  | append_singleton es e ih =>
    obtain ⟨hes, hstep, -⟩ := allSteps_append.mp hall
    have hsame := ih hes
    by_cases he : e.id = id
    · subst he
      simpa [ownEvents] using sameFor_own (hstep rfl) hsame
    · simpa [ownEvents, he] using sameFor_other he hsame

/-- A request whose steps are not affected by the others' choices has its commands run on its own
cluster. -/
theorem ownChoice_of_unaffected (cfg : Settings) (id : String) (events : List Event)
    (hall : AllSteps step (UnaffectedFor cfg id) (init cfg) events) : OwnChoice cfg id events := by
  have hsame := (sameFor_after events hall).task
  simp [OwnChoice, ServerState.issuedFor, hsame]

/-- Two requests that bring their own clusters, and a command of the first after the POST
of the second. -/
def twoClusters : List Event :=
  [.post "task-a" ⟨"/etc/kube/a", "east"⟩, .post "task-b" ⟨"/etc/kube/b", ""⟩,
   .command "task-a" { tool := .kubectl, origin := .state, context := "east" }]

/-- The first keeps its cluster, since it passes both values itself. -/
theorem twoClusters_own : OwnChoice ⟨"", ""⟩ "task-a" twoClusters := by
  refine ownChoice_of_unaffected _ _ _ ⟨?_, ?_, ?_, trivial⟩
  · intro _ _ hempty
    exact absurd hempty (by decide)
  · intro hid
    exact absurd hid (by decide)
  · intro _ t ht
    have htask : t = { request := ⟨"/etc/kube/a", "east"⟩, kubeconfig := "/etc/kube/a" } := by
      simpa [step, taskStep, nextSettings, init, Event.id, orElse, Settings.override] using ht.symm
    subst htask
    exact ⟨fun hempty => absurd hempty (by decide), fun _ hempty => absurd hempty (by decide)⟩

/-- A request without a context runs in that of a later one. -/
theorem laterContext_leaks : ¬ OwnChoice ⟨"/etc/kube/config", "prod"⟩ "task-a"
      [.post "task-a" ⟨"", ""⟩, .post "task-b" ⟨"", "staging"⟩,
       .command "task-a" { tool := .kubectl, origin := .state }] := by
  unfold OwnChoice
  decide

end ChaosBlade.Server.ClusterChoice
