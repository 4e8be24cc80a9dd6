import Playground.Engine.Reports
import Playground.Fault
import Playground.Json.Reader
import Playground.Script.Course

/-! The evaluations of a host. All scripts share one scope, and every evaluation has a console of its
own, and readers of its own where it was given input; the properties that these take the place of are
put back when it ends. What a script leaves for later runs right after that. -/
namespace Playground.Script

inductive Conclusion where
  | ended (error value : Option Units)
  | exhausted

/- A script from its beginning to its end, and what an engine then does of all that was left for later. That
comes to nothing where one of these jobs does not end. `S` is what the engine keeps to itself. -/
structure Conduct (V S : Type) [Values V] where
  body : S → Course V (Conclusion × S)
  later : S → Course V (Bool × S)

structure Realm (V S : Type) [Values V] [Inhabited S] extends Bridge V where
  memory : S := default
  stopped : Bool := false

def inputLines (stdin : Option String) : List String :=
  (stdin.map fun text => (Text.lines text.toList).map String.ofList).getD []

def boundNames (hasInput : Bool) : List String :=
  if hasInput then ["console","input","readline","prompt"] else ["console"]

structure Record where
  logs : List (Stream × Units)
  error : Option Units
  value : Option Units

namespace Record

def quotedOption : Option Units → String
  | some units => units.quoted
  | none => "null"

def text (r : Record) : String :=
  let logs := r.logs.map fun (stream,units) =>
    "[" ++ (Units.ofString stream.name).quoted ++ "," ++ units.quoted ++ "]"
  "\x7b\"logs\":[" ++ String.intercalate "," logs ++ "],\"error\":" ++ quotedOption r.error ++
    ",\"value\":" ++ quotedOption r.value ++ "\x7d"

def optionText? : Option Units → Option (Option String)
  | some units => units.text?.map some
  | none => some none

def outcome? (r : Record) : Option Engine.ScriptOutcome := do
  let logs ← r.logs.mapM fun (stream,units) => units.text?.map (stream,·)
  return { logs, error := ← optionText? r.error, value := ← optionText? r.value }

def outcome (r : Record) : Except Fault Engine.ScriptOutcome :=
  match r.outcome? with
  | some outcome => .ok outcome
  | none =>
    let reason := match Json.parse r.text with
      | .ok _ => ""
      | .error reason => reason
    .error (.scriptHostUnavailable s!"malformed evaluation result: {reason}")

end Record

inductive Level where
  | debug | info | warn | error
  deriving DecidableEq, Repr

def ConsoleMethod.level : ConsoleMethod → Level
  | .log | .info => .info
  | .debug => .debug
  | .warn => .warn
  | .error => .error

def stoppedFault : Fault := .scriptHostUnavailable "JavaScript host thread has stopped"

def exhaustedFault : Fault :=
  .scriptHostUnavailable "evaluation bridge failed: exceeded maximum number of recursive calls"

structure Evaluated where
  outcome : Except Fault Engine.ScriptOutcome
  hostLog : List (Level × String) := []

section Values

variable {V : Type} [Values V]

def boundValue (number : Nat) : String → V
  | "console" => Values.console number
  | "readline" => Values.reader number false
  | _ => Values.reader number true

def previousConsole (scope : Scope V) : V :=
  match (scope.get? "console").map Property.slot with
  | some (.data value _) => value
  | _ => Values.undefined

def Bridge.begin (bridge : Bridge V) (stdin : Option String) : Bridge V :=
  let number := bridge.evaluations.length
  { bridge with
    scope := (boundNames stdin.isSome).foldl
      (fun scope name => scope.install name (boundValue number name)) bridge.scope
    evaluations := bridge.evaluations ++
      [{ previous := previousConsole bridge.scope
         lines := inputLines stdin
         heard := bridge.scope.isOpen "console" }] }

def Bridge.finish (bridge before : Bridge V) (stdin : Option String) : Bridge V :=
  { bridge with
    scope := (boundNames stdin.isSome).foldl (fun scope name => scope.restore name (before.scope.get? name))
      bridge.scope }

def Bridge.logs (bridge : Bridge V) (run : Nat) : List (Stream × Units) :=
  ((bridge.evaluations[run]?).map Evaluation.logs).getD []

def Bridge.hostLines (bridge : Bridge V) : List (Level × String) :=
  (bridge.hostLog.mapM fun ((method,units) : ConsoleMethod × Units) =>
    units.text?.map (method.level,·)).getD []

end Values

variable {V S W α : Type} [Values V] [Inhabited S]

namespace Realm

def runs (ask : Ask W) (act : S → Course V (α × S)) : StateT (Realm V S) (StateM W) α := fun realm world =>
  let (((result,memory),bridge),world) := (act realm.memory).run ask realm.toBridge world
  ((result,{ realm with toBridge := bridge, memory }),world)

def opened (realm : Realm V S) (stdin : Option String) : Realm V S := { realm with toBridge := realm.begin stdin }

def closed (realm before : Realm V S) (stdin : Option String) : Realm V S :=
  { realm with toBridge := realm.finish before.toBridge stdin }

def drained (realm : Realm V S) : Realm V S := { realm with hostLog := [] }

def halted (realm : Realm V S) : Realm V S := { realm with stopped := true }

/- Evaluates a script. What it leaves for later runs after the scope is as it was. -/
def evaluate (ask : Ask W) (conduct : Conduct V S) (stdin : Option String) :
    StateT (Realm V S) (StateM W) Evaluated := do
  let before ← get
  if before.stopped then return { outcome := .error stoppedFault }
  set (before.opened stdin)
  match ← runs ask conduct.body with
  | .exhausted =>
    let realm ← get
    set realm.drained
    return { outcome := .error exhaustedFault, hostLog := realm.hostLines }
  | .ended error value => do
    let realm ← get
    let record : Record := ⟨realm.logs before.evaluations.length,error,value⟩
    set (realm.closed before stdin)
    if ← runs ask conduct.later then
      let realm ← get
      set realm.drained
      return { outcome := record.outcome, hostLog := realm.hostLines }
    else
      modify halted
      return { outcome := .error stoppedFault }

end Realm
end Playground.Script
