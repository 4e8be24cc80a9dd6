import Playground.Engine.Reports
import Playground.InputUse
import Playground.Interpreter.Lifecycle
import Playground.Interpreter.Output

/-! The engine: a request is resolved, its input is asked for where the program reads some, and the
strategy of its language runs it. The collaborators are operations on a world of any type; every run
ends in a report. -/
namespace Playground.Engine
open Playground.Interpreter (Lifecycle Outcome)

structure Submission where
  source : String
  language : Language
  stdin : Option String
  deriving DecidableEq, Repr

structure RemoteExecutor (W : Type) where
  supports : Language → Bool
  run : Submission → StateM W Report

/- Who the engine works with: `W` is their world, `H` the handles of loaded runtimes. A script is evaluated
with its input and a way to ask for more. -/
structure Collaborators (W H : Type) where
  evaluate : (source : String) → (stdin : Option String) →
    (prompt : Option (StateM W (Option String))) → StateM W (Except Fault ScriptOutcome)
  load : StateM W (Outcome H)
  runGuest : H → (source : String) → (stdin : Option String) → StateM W (Except Fault Interpreter.Output)
  remote : Option (RemoteExecutor W)
  requestInput : Option (Language → StateM W (Option String))
  solicitInput : Bool := true

structure Session (W H : Type) (P : Type := Preview) where
  lifecycle : Lifecycle H := {}
  preview : P := by exact Preview.ofLimit Preview.defaultLimit
  world : W

abbrev RunOn (P W H : Type) := StateM (Session W H P)

abbrev Run (W H : Type) := RunOn Preview W H

def inWorld (act : StateM W α) : RunOn P W H α := fun s =>
  let (result,world) := act.run s.world
  (result,{ s with world })

def inPreview (act : StateM P α) : RunOn P W H α := fun s =>
  let (result,preview) := act.run s.preview
  (result,{ s with preview })

def ensureReady (c : Collaborators W H) : RunOn P W H (Except LoadFault H) := fun s =>
  let ((answer,lifecycle),world) := (s.lifecycle.ensure c.load).run s.world
  (answer,{ s with lifecycle,world })

def settle (c : Collaborators W H) : RunOn P W H Unit := fun s =>
  let (lifecycle,world) := (s.lifecycle.settle c.load).run s.world
  ((),{ s with lifecycle,world })

def remoteFor (c : Collaborators W H) (language : Language) : Option (RemoteExecutor W) :=
  c.remote.filter fun remote => remote.supports language

def runScript (c : Collaborators W H) (request : Submission) : RunOn P W H Report := do
  let prompt := c.requestInput.map fun ask => ask request.language
  return scriptReport (← inWorld (c.evaluate request.source request.stdin prompt))

def loadFailureReport (fault : LoadFault) : Report :=
  (Report.error s!"Python runtime failed to load: {fault.message}").withErrorClass (.runtimeLoad fault)

def fallbackNote (fault : LoadFault) : String :=
  s!"Python runtime failed to load ({fault.message}); ran on the remote service"

def guestReport : Except Fault Interpreter.Output → Report
  | .ok output => output.report "Python"
  | .error fault => (Report.error s!"Python Error: {fault.message}").withErrorClass fault

def runInterpreted (c : Collaborators W H) (request : Submission) : RunOn P W H Report := do
  match ← ensureReady c with
  | .error fault =>
    match remoteFor c request.language with
    | some remote =>
      return (← inWorld (remote.run request)).withDiagnostic .warning (fallbackNote fault)
    | none => return loadFailureReport fault
  | .ok handle =>
    return guestReport (← inWorld (c.runGuest handle request.source request.stdin))

def runChecked (c : Collaborators W H) (request : Submission) : RunOn P W H Report :=
  match Check.validate request.source request.language with
  | issue :: issues => return issuesReport request.language (issue :: issues)
  | [] =>
    match remoteFor c request.language with
    | some remote => inWorld (remote.run request)
    | none => return checkedReport request.language request.source

def unsupportedReport (name : String) : Report :=
  .error s!"Execution not supported for {name}"

def runMarkup [Surface P] (markup : Markup) (source : String) : RunOn P W H Report := do
  return markupReport markup (← inPreview (Surface.take markup source))

def runPassive [Surface P] (request : Submission) : RunOn P W H Report :=
  match request.language with
  | .html => runMarkup .document request.source
  | .css => runMarkup .stylesheet request.source
  | .json => return jsonReport request.source
  | .sql => return sqlReport request.source
  | other => return unsupportedReport other.id

def runStrategy [Surface P] (c : Collaborators W H) (request : Submission) : RunOn P W H Report :=
  match Strategy.ofLanguage request.language with
  | .direct => runScript c request
  | .embedded => runInterpreted c request
  | .heuristicRemote => runChecked c request
  | .passive => runPassive request

def languageKey : String := "language"
def strategyKey : String := "strategy"
def needsInputKey : String := "needs_input"

def blankReport (language : Language) : Report :=
  (Report.warning "No code to execute.").withMetadata languageKey (.string language.id)

def needsInputReport (language : Language) : Report :=
  (Report.warning s!"This {language.displayName} program reads input. Provide stdin and run again.")
    |>.withMetadata languageKey (.string language.id)
    |>.withMetadata needsInputKey (.bool true)

def lacksInput (c : Collaborators W H) (request : Submission) : Bool :=
  request.stdin.isNone && c.solicitInput && InputUse.needsInput request.source request.language

def runTagged [Surface P] (c : Collaborators W H) (request : Submission) : RunOn P W H Report := do
  let report ← runStrategy c request
  return report
    |>.withMetadata strategyKey (.string (Strategy.ofLanguage request.language).name)
    |>.withMetadata languageKey (.string request.language.id)

def runRequest [Surface P] (c : Collaborators W H) (request : Submission) : RunOn P W H Report :=
  if Text.isBlankString request.source then return blankReport request.language
  else if lacksInput c request then
    match c.requestInput with
    | none => return needsInputReport request.language
    | some ask => do
      let stdin ← inWorld (ask request.language)
      runTagged c { request with stdin }
  else runTagged c request

def run [Surface P] (c : Collaborators W H) (source name : String) (stdin : Option String) : RunOn P W H Report :=
  match Language.parse? name with
  | none => return (unsupportedReport name).withMetadata languageKey (.string name)
  | some language => runRequest c { source,language,stdin }

def preload (language : Language) : RunOn P W H (Option String) := fun s =>
  if Strategy.ofLanguage language = .embedded then
    let lifecycle := s.lifecycle.preload
    (some lifecycle.phase.name,{ s with lifecycle })
  else (none,s)

end Playground.Engine
