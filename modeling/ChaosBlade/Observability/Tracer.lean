/-
Observability.Tracer: the token counts of `observability/tracer.py`
and what `TaskStore.append_span` adds up in `task_details`.

The events are those of one task whose id is stored (neither empty nor with
the prefix `turn-`), and the calls of the store succeed. A span adds what
was counted since its start, so tokens inside a nested span are added twice.
-/
import Mathlib.Tactic.Common

namespace ChaosBlade.Observability

structure Totals where
  input : Nat := 0
  output : Nat := 0
  llmCalls : Nat := 0
  deriving DecidableEq

@[simp]
def Totals.record (t : Totals) (prompt completion : Nat) : Totals :=
  ⟨t.input + prompt, t.output + completion, t.llmCalls + 1⟩

/-- `_traces[task_id]`, its open spans with the totals at their start, innermost
first, and the row of `task_details`. -/
structure Tracer where
  trace : Option Totals := none
  spans : List Totals := []
  row : Option Totals := none

inductive TraceEvent where
  | startSpan
  | endSpan
  | onLlmEnd (prompt completion : Nat)
  | flushTrace
  /-- An `upsert` of other columns. -/
  | upsert
  | clearTrace

namespace Tracer

@[simp]
def stored (t : Tracer) : Totals := t.row.getD {}

@[simp]
def getTrace (t : Tracer) : Totals := t.trace.getD t.stored

/-- `append_span`; a span with input tokens counts as one call. -/
@[simp]
def appendSpan (row : Totals) (input output : Nat) : Totals where
  input := row.input + input
  output := row.output + output
  llmCalls := row.llmCalls + if 0 < input then 1 else 0

@[simp]
def step (t : Tracer) : TraceEvent → Tracer
  | .startSpan => { t with trace := some t.getTrace, spans := t.getTrace :: t.spans }
  | .onLlmEnd prompt completion => { t with trace := some (t.getTrace.record prompt completion) }
  | .endSpan => match t.spans with
    | [] => t
    | start :: spans =>
      { t with spans, row := some (appendSpan t.stored (t.getTrace.input - start.input)
          (t.getTrace.output - start.output)) }
  | .flushTrace => { t with row := t.trace.or t.row }
  | .upsert => { t with row := some t.stored }
  | .clearTrace => { t with trace := none }

def run (events : List TraceEvent) : Tracer := events.foldl step {}

end Tracer

/-- The responses among the events, added to `total`. -/
def recorded (total : Totals) : List TraceEvent → Totals
  | [] => total
  | .onLlmEnd prompt completion :: es => recorded (total.record prompt completion) es
  | _ :: es => recorded total es

/-! ## Spans that do not nest -/

inductive Phase where
  /-- Between spans, with the trace flushed. -/
  | flushed
  | between
  | inside

/-- Which event may come next: no span starts inside another, and the trace is only
lost when it has been flushed. -/
def Phase.next : Phase → TraceEvent → Option Phase
  | .inside, .onLlmEnd _ _ => some .inside
  | .inside, .endSpan => some .between
  | .inside, _ => none
  | _, .startSpan => some .inside
  | _, .flushTrace => some .flushed
  | p, .upsert => some p
  | .flushed, .clearTrace => some .flushed
  | _, _ => none

/-- The totals so far are in the trace; the row has those at the last start or end. -/
def Counts (t : Tracer) (total : Totals) : Phase → Prop
  | .flushed => t.getTrace = total ∧ t.spans = [] ∧ t.stored = total
  | .between => t.trace = some total ∧ t.spans = [] ∧
      t.stored.input = total.input ∧ t.stored.output = total.output
  | .inside => t.trace = some total ∧ ∃ start, t.spans = [start] ∧
      t.stored.input = start.input ∧ t.stored.output = start.output ∧
      start.input ≤ total.input ∧ start.output ≤ total.output

theorem Counts.step {t : Tracer} {total : Totals} {p q : Phase} {e : TraceEvent}
    (h : Counts t total p) (hq : p.next e = some q) : Counts (t.step e) (recorded total [e]) q := by
  cases p with
  | flushed =>
    obtain ⟨htrace, hspans, rfl⟩ := h
    cases e <;> cases hq
    case flushed.flushTrace.refl => cases ht : t.trace <;> simp_all [Counts, recorded]
    all_goals simp_all [Counts, recorded]
  | between =>
    obtain ⟨htrace, hspans, hin, hout⟩ := h
    cases e <;> cases hq <;> simp_all [Counts, recorded]
  | inside =>
    obtain ⟨htrace, start, hspans, hin, hout, hle, hle'⟩ := h
    rw [Tracer.stored] at hin hout
    cases e <;> cases hq <;> simp [Counts, recorded, htrace, hspans] <;> omega

theorem Counts.run {es : List TraceEvent} {t : Tracer} {total : Totals} {p q : Phase}
    (h : Counts t total p) (hq : es.foldlM Phase.next p = some q) :
    Counts (es.foldl Tracer.step t) (recorded total es) q := by
  induction es generalizing t total p with
  | nil =>
    cases hq
    exact h
  | cons e es ih =>
    obtain ⟨r, hr, hq⟩ := Option.bind_eq_some_iff.mp hq
    have hrest := ih (h.step hr) hq
    cases e <;> exact hrest

/-- Outside the spans the row has the tokens of every response, and after a flush
also the number of responses. -/
theorem tokens_counted_once (events : List TraceEvent) (p : Phase)
    (h : events.foldlM Phase.next .flushed = some p) :
    (p ≠ .inside → (Tracer.run events).stored.input = (recorded {} events).input ∧
      (Tracer.run events).stored.output = (recorded {} events).output) ∧
    (p = .flushed → (Tracer.run events).stored = recorded {} events) := by
  have hc : Counts (Tracer.run events) (recorded {} events) p :=
    Counts.run (p := .flushed) ⟨rfl, rfl, rfl⟩ h
  cases p with
  | flushed =>
    rw [hc.2.2]
    simp
  | between => exact ⟨fun _ => hc.2.2, nofun⟩
  | inside => simp

theorem tokens_counted_once_two_calls :
    (Tracer.run [.startSpan, .onLlmEnd 7 2, .onLlmEnd 3 1, .endSpan, .flushTrace]).stored =
      ⟨10, 3, 2⟩ :=
  (tokens_counted_once _ .flushed rfl).2 rfl

/-- The tokens of a nested span are stored twice, and a trace that is lost before a
flush comes back with one call for each span. -/
theorem tokens_counted_twice :
    (Tracer.run [.startSpan, .startSpan, .onLlmEnd 7 2, .endSpan, .endSpan]).stored = ⟨14, 4, 2⟩ ∧
    (Tracer.run [.startSpan, .onLlmEnd 7 2, .onLlmEnd 3 1, .endSpan, .clearTrace, .startSpan,
      .endSpan, .flushTrace]).stored = ⟨10, 3, 1⟩ := by decide

end ChaosBlade.Observability
