import Playground.Report.Transcript
import Playground.Script.Scope
import Playground.Script.Units
import Playground.Text.Basic

/-! What scripts do at the bridge between an engine and its host. A script may do anything inside the
engine; all that the host learns of it are the steps that it takes at the bridge and the lines that it
reads. So a script is a course of such steps, in which what comes next is any function of what came
back. One that need not end is cut off at some point and exhausted there; what it does up to any end
that it comes to is the course of such a cut. A reader hands out the lines of its evaluation and asks
for more past their end, once the prompt has been converted to a text. The conversion is up to the
script, and may read in its turn. -/
namespace Playground.Script

inductive ConsoleMethod where
  | log | info | debug | warn | error
  deriving DecidableEq, Repr

namespace ConsoleMethod

def name : ConsoleMethod → String
  | .log => "log"
  | .info => "info"
  | .debug => "debug"
  | .warn => "warn"
  | .error => "error"

def stream : ConsoleMethod → Stream
  | .log | .info | .debug => .stdout
  | .warn => .warn
  | .error => .stderr

end ConsoleMethod

/- An evaluation: the console whose place its own took, the lines that are left of its input, whether its
console could be put in that place, and what was printed there. -/
structure Evaluation (V : Type) where
  previous : V
  lines : List String
  heard : Bool
  logs : List (Stream × Units) := []

structure Bridge (V : Type) [Values V] where
  scope : Scope V := .first
  evaluations : List (Evaluation V) := []
  hostLog : List (ConsoleMethod × Units) := []

namespace Bridge

variable {V : Type} [Values V]

def update (bridge : Bridge V) (run : Nat) (f : Evaluation V → Evaluation V) : Bridge V :=
  { bridge with evaluations := bridge.evaluations.modify run f }

def left (bridge : Bridge V) (run : Nat) : List String :=
  ((bridge.evaluations[run]?).map Evaluation.lines).getD []

def take? (bridge : Bridge V) (run : Nat) : Option (String × Bridge V) :=
  match bridge.left run with
  | line :: rest => some (line,bridge.update run fun e => { e with lines := rest })
  | [] => none

def rescope (bridge : Bridge V) : Option (Scope V) → Bool × Bridge V
  | some scope => (true,{ bridge with scope })
  | none => (false,bridge)

end Bridge

/- A step at the bridge and what comes back of it. Scripts may begin evaluations of their own. -/
inductive Step (V : Type) [Values V] : Type → Type where
  | look : Step V (Bridge V)
  | define (name : String) (change : Change V) : Step V Bool
  | delete (name : String) : Step V Bool
  | preventExtensions : Step V Unit
  | enter (previous : V) (lines : List String) : Step V Nat
  | capture (run : Nat) (stream : Stream) (line : Units) : Step V Unit
  | log (method : ConsoleMethod) (line : Units) : Step V Unit
  | drain : Step V (List (ConsoleMethod × Units))

def Evaluation.captured {V : Type} (stream : Stream) (line : Units) (e : Evaluation V) : Evaluation V :=
  if e.heard then { e with logs := e.logs ++ [(stream,line)] } else e

def Step.perform {V β : Type} [Values V] : Step V β → Bridge V → β × Bridge V
  | .look,bridge => (bridge,bridge)
  | .define name change,bridge => bridge.rescope (bridge.scope.define? name change)
  | .delete name,bridge => bridge.rescope (bridge.scope.delete? name)
  | .preventExtensions,bridge => ((),{ bridge with scope := { bridge.scope with extensible := false } })
  | .enter previous lines,bridge =>
    (bridge.evaluations.length,
      { bridge with evaluations := bridge.evaluations ++ [{ previous, lines, heard := true }] })
  | .capture run stream line,bridge => ((),bridge.update run (Evaluation.captured stream line))
  | .log method line,bridge => ((),{ bridge with hostLog := bridge.hostLog ++ [(method,line)] })
  | .drain,bridge => (bridge.hostLog,{ bridge with hostLog := [] })

/- What comes back of a read: a line of the input, or what its prompt was converted to and, if that is a text,
the line that was asked for. -/
inductive Reply (γ : Type) where
  | line (text : String)
  | answered (converted : γ) (text : String)
  | refused (converted : γ)

inductive Course (V : Type) [Values V] : Type → Type 1 where
  | done {α : Type} (result : α) : Course V α
  | step {α β : Type} (step : Step V β) (next : β → Course V α) : Course V α
  | read {α γ : Type} (run : Nat) (conversion : Course V γ) (isText : γ → Bool)
      (next : Reply γ → Course V α) : Course V α

abbrev Ask (W : Type) := Option (StateM W (Option String))

def firstLine (answer : Option String) : String :=
  match (Text.lines (answer.getD "").toList).head? with
  | some line => String.ofList line
  | none => ""

def askLine {W : Type} : Ask W → W → String × W
  | none,world => ("",world)
  | some request,world =>
    let (answer,world) := request.run world
    (firstLine answer,world)

namespace Course

variable {V W α β γ : Type} [Values V]

def bind : Course V α → (α → Course V β) → Course V β
  | .done result,rest => rest result
  | .step act next,rest => .step act fun back => (next back).bind rest
  | .read run conversion isText next,rest => .read run conversion isText fun reply => (next reply).bind rest

instance : Monad (Course V) where
  pure := .done
  bind := .bind

def act (step : Step V α) : Course V α := .step step .done

def readLine (run : Nat) (conversion : Course V γ) (isText : γ → Bool) : Course V (Reply γ) :=
  .read run conversion isText .done

/- Prints to the console of an evaluation. The console before it comes back, if that is an object, since it is
to print the same. -/
def capture (run : Nat) (stream : Stream) (line : Units) : Course V (Option V) := do
  act (.capture run stream line)
  let bridge ← act .look
  return ((bridge.evaluations[run]?).map Evaluation.previous).filter fun v => (Values.role v).isObject

def run (ask : Ask W) : {α : Type} → Course V α → Bridge V → W → (α × Bridge V) × W
  | _,.done result,bridge,world => ((result,bridge),world)
  | _,.step act next,bridge,world =>
    let (back,bridge) := act.perform bridge
    (next back).run ask bridge world
  | _,.read run conversion isText next,bridge,world =>
    match bridge.take? run with
    | some (line,bridge) => (next (.line line)).run ask bridge world
    | none =>
      let ((converted,bridge),world) := conversion.run ask bridge world
      if isText converted then
        let (line,world) := askLine ask world
        (next (.answered converted line)).run ask bridge world
      else (next (.refused converted)).run ask bridge world

end Course
end Playground.Script
