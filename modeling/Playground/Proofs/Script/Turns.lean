import Playground.Proofs.Script.Courses
import Playground.Script.Document
import Playground.Script.Host

/-! Turns at the host: evaluations, one after another, of any scripts. A turn that ends has what it
bound put back, and then what was left for later runs; `evaluatedStarted` tells a turn apart into
these stages. -/
namespace Playground.Script

variable {V S W : Type} [Values V] [Inhabited S]

structure Turn (V S W : Type) [Values V] where
  conduct : Conduct V S
  stdin : Option String
  ask : Ask W

namespace Turn

variable (turn : Turn V S W) (s : Realm V S × W)

def ended : (Conclusion × Realm V S) × W :=
  Realm.runs turn.ask turn.conduct.body (s.1.opened turn.stdin) s.2

def conclusion : Conclusion := (turn.ended s).1.1

def atEnd : Realm V S := (turn.ended s).1.2

def record : Record :=
  let logs := (turn.atEnd s).logs s.1.evaluations.length
  match turn.conclusion s with
  | .ended error value => ⟨logs,error,value⟩
  | .exhausted => ⟨logs,none,none⟩

/- The host where the scope is put back and nothing that was left for later has run. -/
def restored : Realm V S := (turn.atEnd s).closed s.1 turn.stdin

def worked : (Bool × Realm V S) × W := Realm.runs turn.ask turn.conduct.later (turn.restored s) (turn.ended s).2

def settled : Realm V S := (turn.worked s).1.2

def evaluated : (Evaluated × Realm V S) × W := Realm.evaluate turn.ask turn.conduct turn.stdin s.1 s.2

def outcome : Except Fault Engine.ScriptOutcome := (turn.evaluated s).1.1.outcome

def after : Realm V S × W := ((turn.evaluated s).1.2,(turn.evaluated s).2)

def RunsAway : Prop := s.1.stopped = false ∧ turn.conclusion s = .exhausted

def ofBody (body : List Statement) (stdin : Option String) (ask : Ask W) : Turn Value Memory W :=
  ⟨conductOf body,stdin,ask⟩

def ofSource (source : String) (stdin : Option String) (ask : Ask W) : Turn Value Memory W :=
  ofBody (Document.read source) stdin ask

end Turn

def afterAll (history : List (Turn V S W)) (s : Realm V S × W) : Realm V S × W :=
  history.foldl (fun s turn => turn.after s) s

def fresh (world : W) : Realm V S × W := ({},world)

theorem runsTo {α : Type} {ask : Ask W} {act : S → Course V (α × S)} {realm : Realm V S}
    {bridge : Bridge V} {memory : S} {world world' : W} {result : α}
    (ran : (act realm.memory).run ask realm.toBridge world = (((result,memory),bridge),world')) :
    Realm.runs ask act realm world = ((result,{ realm with toBridge := bridge, memory }),world') := by
  unfold Realm.runs
  rw [ran]

theorem stateBind {σ α β : Type} {act : StateT σ (StateM W) α} {state state' : σ} {world world' : W} {a : α}
    (ends : act state world = ((a,state'),world')) (next : α → StateT σ (StateM W) β) :
    (act >>= next) state world = next a state' world' := by
  simp only [bind,StateT.bind,ends]

namespace Turn

variable {turn : Turn V S W} {s : Realm V S × W}

theorem evaluatedStopped (stopped : s.1.stopped = true) :
    turn.evaluated s = (({ outcome := .error stoppedFault },s.1),s.2) := by
  unfold evaluated Realm.evaluate
  have start : (get : StateT (Realm V S) (StateM W) (Realm V S)) s.1 s.2 = ((s.1,s.1),s.2) := rfl
  rw [stateBind start,if_pos stopped]
  rfl

theorem evaluatedStarted (started : s.1.stopped = false) :
    turn.evaluated s = match turn.conclusion s with
      | .exhausted =>
        (({ outcome := .error exhaustedFault, hostLog := (turn.atEnd s).hostLines },(turn.atEnd s).drained),
          (turn.ended s).2)
      | .ended _ _ =>
        if (turn.worked s).1.1 then
          (({ outcome := (turn.record s).outcome, hostLog := (turn.settled s).hostLines },(turn.settled s).drained),
            (turn.worked s).2)
        else
          (({ outcome := .error stoppedFault },(turn.settled s).halted),(turn.worked s).2) := by
  have start : (get : StateT (Realm V S) (StateM W) (Realm V S)) s.1 s.2 = ((s.1,s.1),s.2) := rfl
  have begun : (set (s.1.opened turn.stdin) : StateT (Realm V S) (StateM W) Unit) s.1 s.2 =
      (((),(s.1.opened turn.stdin)),s.2) := rfl
  have ran : Realm.runs turn.ask turn.conduct.body (s.1.opened turn.stdin) s.2 =
      ((turn.conclusion s,turn.atEnd s),(turn.ended s).2) := rfl
  unfold evaluated Realm.evaluate
  rw [stateBind start,if_neg (by simp [started]),stateBind begun,stateBind ran]
  have reached : (get : StateT (Realm V S) (StateM W) (Realm V S)) (turn.atEnd s) (turn.ended s).2 =
      ((turn.atEnd s,turn.atEnd s),(turn.ended s).2) := rfl
  have closed : (set ((turn.atEnd s).closed s.1 turn.stdin) : StateT (Realm V S) (StateM W) Unit) (turn.atEnd s)
      (turn.ended s).2 = (((),turn.restored s),(turn.ended s).2) := rfl
  have worked : Realm.runs turn.ask turn.conduct.later (turn.restored s) (turn.ended s).2 =
      (((turn.worked s).1.1,turn.settled s),(turn.worked s).2) := rfl
  unfold record
  cases turn.conclusion s with
  | exhausted => rfl
  | ended error value =>
    simp only
    rw [stateBind reached,stateBind closed,stateBind worked]
    split <;> rfl

theorem afterStopped (stopped : s.1.stopped = true) : turn.after s = s := by
  unfold after
  rw [evaluatedStopped stopped]

theorem afterStarted (started : s.1.stopped = false) : turn.after s = match turn.conclusion s with
    | .exhausted => ((turn.atEnd s).drained,(turn.ended s).2)
    | .ended _ _ =>
      (if (turn.worked s).1.1 then (turn.settled s).drained else (turn.settled s).halted,(turn.worked s).2) := by
  unfold after
  rw [evaluatedStarted started]
  cases turn.conclusion s with
  | exhausted => rfl
  | ended error value => cases (turn.worked s).1.1 <;> rfl

theorem afterRunaway (away : turn.RunsAway s) : turn.after s = ((turn.atEnd s).drained,(turn.ended s).2) := by
  rw [afterStarted away.1,away.2]

theorem afterSettled (started : s.1.stopped = false) (ends : ¬ turn.RunsAway s) :
    (turn.after s).1.scope = (turn.settled s).scope ∧ (turn.after s).1.evaluations = (turn.settled s).evaluations ∧
      (turn.after s).2 = (turn.worked s).2 := by
  rw [afterStarted started]
  cases ended : turn.conclusion s with
  | exhausted => exact absurd ⟨started,ended⟩ ends
  | ended error value => cases (turn.worked s).1.1 <;> exact ⟨rfl,rfl,rfl⟩

theorem outcomeRecord (ends : turn.conclusion s ≠ .exhausted) (goesOn : (turn.after s).1.stopped = false) :
    turn.outcome s = (turn.record s).outcome := by
  cases stopped : s.1.stopped with
  | true =>
    rw [afterStopped stopped,stopped] at goesOn
    contradiction
  | false =>
    unfold after at goesOn
    unfold outcome
    rw [evaluatedStarted stopped] at goesOn ⊢
    cases ended : turn.conclusion s with
    | exhausted => exact absurd ended ends
    | ended error value =>
      rw [ended] at goesOn
      simp only at goesOn ⊢
      split at goesOn
      · rename_i done
        rw [if_pos done]
      · contradiction

/-! ### What turns keep -/

theorem namesDiffer (hasInput : Bool) : (boundNames hasInput).Nodup := by
  cases hasInput <;> decide

theorem openedScope (realm : Realm V S) (stdin : Option String) (name : String) :
    (realm.opened stdin).scope.get? name = if name ∈ boundNames stdin.isSome then
      (realm.scope.install name (boundValue realm.evaluations.length name)).get? name else realm.scope.get? name :=
  Scope.restoredAll (namesDiffer stdin.isSome)
    (fun name => some (.plain (boundValue realm.evaluations.length name))) realm.scope name

theorem openedFollows (realm : Realm V S) (stdin : Option String) : realm.scope.Follows (realm.opened stdin).scope :=
  Scope.restoreAllFollows (boundNames stdin.isSome)
    (fun name => some (.plain (boundValue realm.evaluations.length name))) realm.scope

theorem restoredScope (turn : Turn V S W) (s : Realm V S × W) (name : String) :
    (turn.restored s).scope.get? name = if name ∈ boundNames turn.stdin.isSome then
      ((turn.atEnd s).scope.restore name (s.1.scope.get? name)).get? name else (turn.atEnd s).scope.get? name :=
  Scope.restoredAll (namesDiffer turn.stdin.isSome) s.1.scope.get? (turn.atEnd s).scope name

theorem endFollows (turn : Turn V S W) (s : Realm V S × W) : s.1.scope.Follows (turn.atEnd s).scope :=
  Scope.followsTrans (openedFollows s.1 turn.stdin)
    (Course.runFollows turn.ask (turn.conduct.body s.1.memory) (s.1.begin turn.stdin) s.2)

theorem settledFollows (turn : Turn V S W) (s : Realm V S × W) :
    (turn.atEnd s).scope.Follows (turn.settled s).scope :=
  Scope.followsTrans (Scope.restoreAllFollows (boundNames turn.stdin.isSome) s.1.scope.get? (turn.atEnd s).scope)
    (Course.runFollows turn.ask (turn.conduct.later (turn.restored s).memory) (turn.restored s).toBridge
      (turn.ended s).2)

theorem afterFollows (turn : Turn V S W) (s : Realm V S × W) : s.1.scope.Follows (turn.after s).1.scope := by
  cases stopped : s.1.stopped with
  | true =>
    rw [afterStopped stopped]
    exact Scope.followsSame _
  | false =>
    by_cases away : turn.RunsAway s
    · rw [afterRunaway away]
      exact endFollows turn s
    · rw [(afterSettled stopped away).1]
      exact Scope.followsTrans (endFollows turn s) (settledFollows turn s)

theorem historyFollows (history : List (Turn V S W)) (s : Realm V S × W) :
    s.1.scope.Follows (afterAll history s).1.scope := by
  induction history generalizing s with
  | nil => exact Scope.followsSame _
  | cons turn rest ih => exact Scope.followsTrans (afterFollows turn s) (ih _)

end Turn
end Playground.Script
