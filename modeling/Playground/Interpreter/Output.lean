import Playground.Report.Transcript

/-! What a program run by the embedded interpreter leaves behind, and the report on it. -/
namespace Playground.Interpreter

inductive Exit where
  | code (value : Int)
  | trap (message : String)
  | outOfFuel
  deriving DecidableEq, Repr

structure Output where
  stdout : String := ""
  stderr : String := ""
  exit : Exit := .code 0
  fuelConsumed : Option Nat := none
  deriving DecidableEq, Repr

namespace Output

def succeeded (output : Output) : Bool := output.exit == .code 0

def transcript (output : Output) : Transcript :=
  (({} : Transcript).pushBlock .stdout output.stdout).pushBlock .stderr output.stderr

def exitReport (output : Output) (language : String) : Report :=
  let transcript := output.transcript
  match output.exit with
  | .code code =>
    if code = 0 then transcript.report .success language
    else (transcript.report .error language).withDiagnostic .error s!"Exited with status {code}"
  | .trap message =>
    (transcript.report .error language).withDiagnostic .error s!"Runtime trap: {message}"
  | .outOfFuel =>
    ((transcript.report .error language).withDiagnostic .error Fault.fuelExhausted.message)
      |>.withErrorClass .fuelExhausted

def report (output : Output) (language : String) : Report :=
  let report := output.exitReport language
  match output.fuelConsumed with
  | some fuel => report.withMetadata "fuel_consumed" (.ofNat fuel)
  | none => report

end Output
end Playground.Interpreter
