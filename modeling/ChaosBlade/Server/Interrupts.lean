/-
Server.Interrupts: `server/routes/interrupt.py`, the interrupt
registry of `server/routes/sessions.py` and the confirm loop of
`server/routes/turn.py`, as a system of turns and requests.

The process has two tables: the futures that turns wait for, and the
running tasks. Both are keyed by the id of a turn, so what they hold under
one id is a `Slot`, together with the local state of that turn's
generator. A turn registers its future after its confirm frame is out. A
request names its session in the path, and no handler looks at it.
-/
import ChaosBlade.Process.Events
import ChaosBlade.Py.Re

namespace ChaosBlade.Server.Interrupts

open Py

/-! ## Futures and turns -/

inductive FutureState where
  | waiting
  | result (answer : String)
  | cancelled
  deriving DecidableEq

inductive Outcome where
  | completed
  | failed
  | timedOut
  | cancelled
  | disconnected
  deriving DecidableEq

/-- Where the generator of a turn stands. A future is known by its number among
those registered under the turn's id. -/
inductive Phase where
  /-- The graph runs. -/
  | streaming
  /-- The confirm frame is out, its future is not registered. -/
  | emitted (node : String)
  | waiting (node : String) (future : Nat)
  /-- The cancellation was raised and is told in two frames; the `finally` block is still to come.
  -/
  | closing
  | ended (outcome : Outcome)
  deriving DecidableEq

/-- The answer a confirm was given, and the value the graph was resumed with. -/
structure Decision where
  answer : String
  resumed : String
  deriving DecidableEq

structure TurnState where
  session : String
  phase : Phase := .streaming
  /-- The confirm frames sent so far, and the decisions on them in order. -/
  frames : Nat := 0
  decisions : List Decision := []
  cancelRequested : Bool := false

/-- What the process holds under one id: `_pending`, the futures created so far,
`_active_tasks` and the generator. -/
structure Slot where
  pending : Option Nat := none
  futures : List FutureState := []
  active : Bool := false
  turn : Option TurnState := none

/-! ## The registry -/

namespace Slot

def registerInterrupt (s : Slot) : Slot × Nat :=
  ({ s with futures := s.futures ++ [.waiting], pending := some s.futures.length },
    s.futures.length)

def resolveInterrupt (answer : String) (s : Slot) : Slot × Bool :=
  match s.pending with
  | none => (s, false)
  | some n =>
    if s.futures[n]? = some .waiting then
      ({ s with pending := none, futures := s.futures.set n (.result answer) }, true)
    else ({ s with pending := none }, false)

def cancelInterrupt (s : Slot) : Slot :=
  match s.pending with
  | none => s
  | some n =>
    { s with
      pending := none
      futures := if s.futures[n]? = some .waiting then s.futures.set n .cancelled else s.futures }

end Slot

/-! ## The generator of a turn -/

def normaliseAnswer (answer : String) : String :=
  if ["approved", "yes", "y", "ok"].contains (lower (strip answer)) then "approved" else "rejected"

def resumeValue (node answer : String) : String :=
  if node = "plan_builder" then answer else normaliseAnswer answer

def TurnState.decide (t : TurnState) (node answer : String) : TurnState :=
  { t with
    phase := .streaming
    decisions := t.decisions ++ [⟨answer, resumeValue node answer⟩] }

namespace Slot

def onTurn (f : TurnState → Slot → Slot) (s : Slot) : Slot :=
  match s.turn with
  | none => s
  | some t =>
    match t.phase with
    | .ended _ => s
    | _ => f t s

def finish (outcome : Outcome) (t : TurnState) (s : Slot) : Slot :=
  { s.cancelInterrupt with active := false, turn := some { t with phase := .ended outcome } }

def start (session : String) (s : Slot) : Slot :=
  match s.turn with
  | some _ => s
  | none => { s with active := true, turn := some { session } }

def confirm (node : String) : Slot → Slot := onTurn fun t s =>
  if t.phase = .streaming then
    { s with turn := some { t with phase := .emitted node, frames := t.frames + 1 } }
  else s

def register : Slot → Slot := onTurn fun t s =>
  match t.phase with
  | .emitted node =>
    let (s, n) := s.registerInterrupt
    { s with turn := some { t with phase := .waiting node n } }
  | _ => s

def wake : Slot → Slot := onTurn fun t s =>
  match t.phase with
  | .waiting node n =>
    match s.futures[n]? with
    | some (.result answer) => { s with turn := some (t.decide node answer) }
    | _ => s
  | _ => s

/-- A slice of the wait is over: a keepalive frame, or the end if the deadline has
passed. -/
def sliceTimeout (late : Bool) : Slot → Slot := onTurn fun t s =>
  match t.phase with
  | .waiting _ _ => if late then s.cancelInterrupt.finish .timedOut t else s
  | _ => s

def leave (raised : Bool) : Slot → Slot := onTurn fun t s =>
  if t.phase = .streaming then s.finish (if raised then .failed else .completed) t else s

def disconnect : Slot → Slot := onTurn fun t s => s.finish .disconnected t

def raiseCancelled : Slot → Slot := onTurn fun t s =>
  if t.cancelRequested then { s with turn := some { t with phase := .closing } } else s

def close : Slot → Slot := onTurn fun t s =>
  if t.phase = .closing then s.finish .cancelled t else s

def cancelTask (s : Slot) : Slot :=
  if s.active then onTurn (fun t s => { s with turn := some { t with cancelRequested := true } }) s
  else s

end Slot

/-! ## Requests -/

def isIdChar (db : CharDb) (c : Char) : Bool := db.isWord c || c == '-'

/-- A match of `_SAFE_ID_PATTERN`; the `$` of the pattern lets a line break follow. -/
def isSafeId (db : CharDb) (value : String) : Bool :=
  let cs := if value.toList.getLast? = some '\n' then value.toList.dropLast else value.toList
  cs ≠ [] && cs.length ≤ 128 && cs.all (isIdChar db)

def isControl (c : Char) : Bool :=
  c.toNat ≤ 8 || c.toNat = 11 || c.toNat = 12 || (14 ≤ c.toNat && c.toNat ≤ 31) || c.toNat = 127

def sanitizeAnswer (value : String) : String :=
  String.ofList ((value.toList.take 2048).filter fun c => !isControl c)

/-! ## The system -/

inductive Event where
  | start (session id : String)
  | confirm (id node : String)
  | register (id : String)
  | wake (id : String)
  | sliceTimeout (id : String) (late : Bool)
  | leave (id : String) (raised : Bool)
  | disconnect (id : String)
  | raiseCancelled (id : String)
  | close (id : String)
  /-- POST /sessions/SID/interrupt -/
  | interrupt (sid interruptId answer : String)
  /-- POST /sessions/SID/cancel -/
  | cancel (sid : String)

abbrev ServerState := String → Slot

def atSlot (id : String) (f : Slot → Slot) (s : ServerState) : ServerState := fun i =>
  if i = id then f (s i) else s i

def accepted (db : CharDb) (sid interruptId : String) : Bool :=
  isSafeId db sid && isSafeId db interruptId

def step (db : CharDb) (s : ServerState) : Event → ServerState
  | .start session id => atSlot id (Slot.start session) s
  | .confirm id node => atSlot id (Slot.confirm node) s
  | .register id => atSlot id Slot.register s
  | .wake id => atSlot id Slot.wake s
  | .sliceTimeout id late => atSlot id (Slot.sliceTimeout late) s
  | .leave id raised => atSlot id (Slot.leave raised) s
  | .disconnect id => atSlot id Slot.disconnect s
  | .raiseCancelled id => atSlot id Slot.raiseCancelled s
  | .close id => atSlot id Slot.close s
  | .interrupt sid id answer =>
    if accepted db sid id then atSlot id (fun t => (t.resolveInterrupt (sanitizeAnswer answer)).1) s
    else s
  | .cancel sid => if isSafeId db sid then fun id => (s id).cancelTask else s

def init : ServerState := fun _ => {}

end ChaosBlade.Server.Interrupts
