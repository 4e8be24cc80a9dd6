import Playground.Fault

/-! The lifecycle of the embedded runtime, as a machine over events. A load attempt is started when
somebody asks for the runtime that is neither there nor being loaded; everybody who asks while it
runs waits for that attempt. Events that do not fit the state change nothing. -/
namespace Playground.Interpreter

inductive Outcome (H : Type) where
  | loaded (handle : H)
  | failed (fault : LoadFault)
  | aborted (detail : String)
  deriving DecidableEq, Repr

def Outcome.answer : Outcome H → Except LoadFault H
  | .loaded handle => .ok handle
  | .failed fault => .error fault
  | .aborted detail => .error (.invalid s!"runtime load task failed: {detail}")

inductive Progress (H : Type) where
  | scheduled
  | running
  | ended (outcome : Outcome H)
  deriving DecidableEq, Repr

/- The end of an attempt is noticed when the first of its callers learns of it. -/
structure Attempt (H : Type) where
  progress : Progress H := .scheduled
  noticed : Bool := false
  deriving DecidableEq, Repr

def Attempt.outcome? : Attempt H → Option (Outcome H)
  | ⟨.ended outcome,_⟩ => some outcome
  | _ => none

inductive Phase (H : Type) where
  | uninitialized
  | loading (attempt : Nat)
  | ready (handle : H)
  deriving DecidableEq, Repr

namespace Phase

def name : Phase H → String
  | .uninitialized => "uninitialized"
  | .loading _ => "loading"
  | .ready _ => "ready"

def isReady : Phase H → Bool
  | .ready _ => true
  | _ => false

end Phase

inductive Caller (H : Type) where
  | waiting (attempt : Nat)
  | answered (answer : Except LoadFault H)

structure Lifecycle (H : Type) where
  phase : Phase H := .uninitialized
  attempts : List (Attempt H) := []
  callers : List (Nat × Caller H) := []

inductive Event (H : Type) where
  | ask (caller : Nat)
  | preload
  | begin (attempt : Nat)
  | finish (attempt : Nat) (outcome : Outcome H)
  | poll (caller : Nat)
  | leave (caller : Nat)

namespace Lifecycle

def loadCount (l : Lifecycle H) : Nat := l.attempts.length

def outcome? (l : Lifecycle H) (attempt : Nat) : Option (Outcome H) :=
  l.attempts[attempt]?.bind Attempt.outcome?

def setCaller (l : Lifecycle H) (caller : Nat) (state : Caller H) : Lifecycle H :=
  { l with callers := (caller,state) :: l.callers.filter fun known => known.1 != caller }

def setAttempt (l : Lifecycle H) (attempt : Nat) (state : Attempt H) : Lifecycle H :=
  { l with attempts := l.attempts.set attempt state }

def start (l : Lifecycle H) : Lifecycle H :=
  { l with phase := .loading l.attempts.length, attempts := l.attempts ++ [{}] }

def ask (l : Lifecycle H) (caller : Nat) : Lifecycle H :=
  match l.phase with
  | .ready handle => l.setCaller caller (.answered (.ok handle))
  | .loading attempt => l.setCaller caller (.waiting attempt)
  | .uninitialized => l.start.setCaller caller (.waiting l.attempts.length)

def preload (l : Lifecycle H) : Lifecycle H :=
  match l.phase with
  | .uninitialized => l.start
  | _ => l

def begin (l : Lifecycle H) (attempt : Nat) : Lifecycle H :=
  match l.attempts[attempt]? with
  | some { progress := .scheduled, noticed } =>
    l.setAttempt attempt { progress := .running, noticed }
  | _ => l

/- A load that ends by itself moves the lifecycle on; an aborted one leaves it loading. -/
def finish (l : Lifecycle H) (attempt : Nat) (outcome : Outcome H) : Lifecycle H :=
  match l.attempts[attempt]? with
  | some { progress := .running, noticed } =>
    let ended := l.setAttempt attempt { progress := .ended outcome, noticed }
    match outcome with
    | .loaded handle => { ended with phase := .ready handle }
    | .failed _ => { ended with phase := .uninitialized }
    | .aborted _ => ended
  | _ => l

def notice (l : Lifecycle H) (attempt : Nat) (outcome : Outcome H) : Lifecycle H :=
  let noticed := l.setAttempt attempt { progress := .ended outcome, noticed := true }
  match outcome with
  | .aborted _ => { noticed with phase := .uninitialized }
  | _ => noticed

def poll (l : Lifecycle H) (caller : Nat) : Lifecycle H :=
  match l.callers.lookup caller with
  | some (.waiting attempt) =>
    match l.attempts[attempt]? with
    | some { progress := .ended outcome, noticed } =>
      (if noticed then l else l.notice attempt outcome).setCaller caller (.answered outcome.answer)
    | _ => l
  | _ => l

def leave (l : Lifecycle H) (caller : Nat) : Lifecycle H :=
  { l with callers := l.callers.filter fun known => known.1 != caller }

def step (l : Lifecycle H) : Event H → Lifecycle H
  | .ask caller => l.ask caller
  | .preload => l.preload
  | .begin attempt => l.begin attempt
  | .finish attempt outcome => l.finish attempt outcome
  | .poll caller => l.poll caller
  | .leave caller => l.leave caller

def run (l : Lifecycle H) (events : List (Event H)) : Lifecycle H := events.foldl step l

def answer? (l : Lifecycle H) (caller : Nat) : Option (Except LoadFault H) :=
  match l.callers.lookup caller with
  | some (.answered answer) => some answer
  | _ => none

def pending? (l : Lifecycle H) : Option Nat :=
  match l.phase with
  | .loading attempt =>
    match l.attempts[attempt]? with
    | some { progress := .scheduled, .. } => some attempt
    | _ => none
  | _ => none

def settle [Monad m] (load : m (Outcome H)) (l : Lifecycle H) : m (Lifecycle H) :=
  match l.pending? with
  | none => return l
  | some attempt => do
    let outcome ← load
    return l.run [.begin attempt,.finish attempt outcome]

def ensureAll [Monad m] (load : m (Outcome H)) (callers : List Nat) (l : Lifecycle H) :
    m (List (Except LoadFault H) × Lifecycle H) := do
  let asked := l.run (callers.map .ask)
  let settled ← if callers.isEmpty then pure asked else asked.settle load
  let polled := settled.run (callers.map .poll)
  return (callers.filterMap polled.answer?,polled.run (callers.map .leave))

def await [Monad m] (load : m (Outcome H)) (attempt : Nat) (l : Lifecycle H) :
    m (Except LoadFault H × Lifecycle H) := do
  match l.outcome? attempt with
  | some outcome => return (outcome.answer,l.poll 0)
  | none => do
    let outcome ← load
    return (outcome.answer,l.run [.begin attempt,.finish attempt outcome,.poll 0])

def ensure [Monad m] (load : m (Outcome H)) (l : Lifecycle H) : m (Except LoadFault H × Lifecycle H) := do
  let (answer,told) ← match l.phase with
    | .ready handle => pure (.ok handle,l.ask 0)
    | .loading attempt => (l.ask 0).await load attempt
    | .uninitialized => (l.ask 0).await load l.loadCount
  return (answer,told.leave 0)

end Lifecycle
end Playground.Interpreter
