import Playground.Interpreter.Guest
import Playground.Wasm.Module

/-! One run of a module as a process: it reads its input and arguments and writes into two pipes. A
pipe keeps what fits its capacity. A budget of fuel ends a run that uses it up. -/
namespace Playground.Interpreter

structure Pipe where
  capacity : Nat
  bytes : List UInt8 := []
  deriving DecidableEq, Repr

def Pipe.write (pipe : Pipe) (bytes : List UInt8) : Pipe :=
  { pipe with bytes := (pipe.bytes ++ bytes).take pipe.capacity }

structure Process where
  stdin : List UInt8
  stdout : Pipe
  stderr : Pipe
  fuelUsed : Nat := 0
  deriving DecidableEq, Repr

namespace Process

def write (p : Process) (descriptor : Int) (bytes : List UInt8) : Process :=
  if descriptor = 1 then { p with stdout := p.stdout.write bytes }
  else if descriptor = 2 then { p with stderr := p.stderr.write bytes }
  else p

def terminated (text : String) : List UInt8 := Text.encode text ++ [0]

def exitOf (status : Int) : Exit :=
  if 0 ≤ status ∧ status < 126 then .code status else .trap Wasm.Trap.badExitStatus.message

/- A loop that never ends uses up a budget; without one somebody has to interrupt it. -/
def spin (budget : Option Nat) (p : Process) : Exit × Process :=
  match budget with
  | some fuel => (.outOfFuel,{ p with fuelUsed := fuel })
  | none => (.trap Wasm.Trap.endlessLoop.message,p)

def runSteps (launch : Launch) (budget : Option Nat) (p : Process) :
    List Wasm.Step → Exit × Process
  | [] => (.code 0,p)
  | step :: steps =>
    let p := { p with fuelUsed := p.fuelUsed + 1 }
    match step with
    | .write descriptor bytes => runSteps launch budget (p.write descriptor bytes) steps
    | .copyInput => runSteps launch budget { p.write 1 p.stdin with stdin := [] } steps
    | .writeArguments =>
      runSteps launch budget (p.write 1 (launch.arguments.flatMap terminated)) steps
    | .writeVariables =>
      let texts := launch.environment.map fun (name,value) => name ++ "=" ++ value
      runSteps launch budget (p.write 1 (texts.flatMap terminated)) steps
    | .exit status => (exitOf status,p)
    | .trap cause => (.trap cause.message,p)
    | .spin => p.spin budget

def run (launch : Launch) (budget : Option Nat) (p : Process) (steps : List Wasm.Step) :
    Exit × Process :=
  if budget.any (· ≤ 1) then (.outOfFuel,{ p with fuelUsed := budget.getD 0 })
  else runSteps launch budget { p with fuelUsed := 1 } steps

theorem stepsUnbudgeted (launch : Launch) (p : Process) (steps : List Wasm.Step) :
    (runSteps launch none p steps).1 ≠ .outOfFuel := by
  induction steps generalizing p with
  | nil => exact nofun
  | cons step steps ih =>
    cases step with
    | write descriptor bytes => exact ih _
    | copyInput => exact ih _
    | writeArguments => exact ih _
    | writeVariables => exact ih _
    | exit status =>
      simp only [runSteps,exitOf]
      split <;> exact nofun
    | trap cause => exact nofun
    | spin => exact nofun

end Process

def Failure.ofExit : Exit → Except Failure Unit
  | .code status => if status = 0 then .ok () else .error (.exited status)
  | .trap message => .error (.trapped message)
  | .outOfFuel => .error .outOfFuel

theorem Failure.ofExitIff (exit : Exit) : ofExit exit = .error .outOfFuel ↔ exit = .outOfFuel := by
  cases exit with
  | code status => by_cases zero : status = 0 <;> simp [ofExit,zero]
  | trap message => simp [ofExit]
  | outOfFuel => simp [ofExit]

def Guest.linkModule (machine : Machine) (m : Wasm.Module) : Except String (Option (List Wasm.Step)) :=
  match m.missing with
  | some name => .error s!"unknown import: `{name}` has not been defined"
  | none => if machine.pool.all (0 < ·.slots) then .ok m.entry else .error "no free slot"

def Guest.ofModule (m : Wasm.Module) : Guest where
  Instance := Option (List Wasm.Step)
  Entry := List Wasm.Step
  instantiate {machine} _ store := (linkModule machine m).map fun linked => (linked,store)
  entry
    | some steps => .ok steps
    | none => .error s!"failed to find function export `{Wasm.entryName}`"
  call {machine} steps launch capacity store :=
    let start : Process := {
      stdin := launch.stdin
      stdout := { capacity }
      stderr := { capacity } }
    let budget := if machine.metered then some store.fuel else none
    let (exit,process) := Process.run launch budget start steps
    { ended := Failure.ofExit exit
      stdout := process.stdout.bytes
      stderr := process.stderr.bytes
      store := ⟨store.fuel - process.fuelUsed⟩ }
  unfed {machine launch store later linked} made := by
    cases entered : linkModule machine m with
    | error cause => simp [entered,Except.map] at made
    | ok entry =>
      simp only [entered,Except.map,Except.ok.injEq,Prod.mk.injEq] at made
      exact Nat.le_of_eq (congrArg Store.fuel made.2.symm)
  unmetered {machine} steps launch capacity store metered := by
    simp only [metered,Bool.false_eq_true,if_false]
    exact fun dry => Process.stepsUnbudgeted launch _ steps ((Failure.ofExitIff _).mp dry)
  dry {machine} steps launch capacity store metered empty := by
    simp only [metered,empty,if_true]
    rfl

end Playground.Interpreter
