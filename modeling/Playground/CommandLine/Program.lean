import Playground.CommandLine.Arguments
import Playground.Config.Load
import Playground.Engine.Assembly
import Playground.Server.Router
import Playground.Server.Settings
import Playground.Terminal.Session
import Playground.Wasm.Document

/-! What the program does with its arguments: one file is run, or a terminal is opened, or a server
is started. Main function: `perform`. A course that waits goes on, from its start, once more has
been typed. -/
namespace Playground.CommandLine
open Playground.Interpreter (Compiled)

/-! ## Failures -/

structure Failure where
  text : String
  causes : List String := []
  deriving DecidableEq, Repr

namespace Failure

def indented (margin : Nat) (cause : String) : String :=
  cause.replace "\n" ("\n" ++ "".pushn ' ' margin)

def numbered (cause : String) (index : Nat) : String :=
  let digits := toString index
  "".pushn ' ' (5 - digits.length) ++ digits ++ ": " ++ indented 7 cause

def causeLines : List String → List String
  | [] => []
  | [cause] => ["    " ++ indented 4 cause]
  | causes => causes.mapIdx fun index cause => numbered cause index

def render (failure : Failure) : String :=
  let heading := if failure.causes.isEmpty then "" else "\n\nCaused by:"
  let lines := (causeLines failure.causes).map ("\n" ++ ·)
  "Error: " ++ failure.text ++ heading ++ String.join lines ++ "\n"

def causesOf : Fault → List String
  | .runtimeLoad cause => [cause.message]
  | .remote cause => [cause.message]
  | .file reason => [reason]
  | _ => []

def ofFault (fault : Fault) : Failure := ⟨fault.message,causesOf fault⟩

def ofAssembly (fault : Fault) : Failure :=
  ⟨"Failed to initialize the execution engine",fault.message :: causesOf fault⟩

def ofConfig (path : String) (fault : Config.Fault) : Failure :=
  let deeper := match fault with
    | .file _ cause => [cause.message]
    | _ => []
  ⟨s!"Failed to load config from {path}",fault.message :: deeper⟩

def ofSource (path : String) (cause : FileFault) : Failure := ⟨s!"Failed to read {path}",[cause.message]⟩

def ofStandardInput (flaw : Text.Flaw) : Failure := ⟨"Failed to read stdin",[flaw.message]⟩

def unknownLanguage (path : String) : Failure :=
  ⟨s!"Cannot detect language for {path}; pass --language",[]⟩

end Failure

/-! ## Surroundings -/

inductive BindFault where
  | inUse
  | unsupported
  deriving DecidableEq, Repr

def BindFault.message : BindFault → String
  | .inUse => "Address already in use (os error 98)"
  | .unsupported => "Operation not supported (os error 95)"

structure Surroundings (W : Type) where
  files : Files := {}
  input : List UInt8 := []
  inputHasEnded : Bool := true
  readScript : String → List Script.Statement
  translate : Interpreter.Translate
  carrier : Net.Carrier W
  date : StateM W String
  bindFault? : Net.SocketAddress → Option BindFault
  outside : W

structure Ending where
  code : Nat
  output : String := ""
  errors : String := ""
  deriving DecidableEq, Repr

def Ending.ofFailure (failure : Failure) : Ending := { code := 1, errors := failure.render }

abbrev Stage (W : Type) := Engine.Workplace (Terminal.Console W)

abbrev Collaborators (W : Type) := Engine.Collaborators (Stage W) Compiled

abbrev Session (W : Type) := Engine.Session (Stage W) Compiled

structure Service (W : Type) where
  settings : Server.Settings
  collaborators : Collaborators W
  session : Session W

inductive Course (W : Type) where
  | ended (ending : Ending)
  | waiting (output errors : String)
  | serving (service : Service W)

namespace Surroundings

variable {W : Type}

def stage (s : Surroundings W) (typed : List Terminal.Line) : Stage W where
  files := s.files
  outside := { typed, hasEnded := s.inputHasEnded, outside := s.outside }

def equipment (s : Surroundings W) (asksForInput : Bool) : Engine.Equipment (Terminal.Console W) where
  carrier := fun request => Terminal.Console.ofOutside (s.carrier request)
  readScript := s.readScript
  translate := s.translate
  requestInput := if asksForInput then some Terminal.Console.requestInput else none

end Surroundings

def configOf (files : Files) (invocation : Invocation) : Except Failure Config := do
  let config ← match invocation.config with
    | none => .ok {}
    | some path => (Config.ofFile files path).mapError (Failure.ofConfig path)
  let remote := config.components.remote
  let remote := { remote with
    clientId := invocation.clientId.or remote.clientId
    clientSecret := invocation.clientSecret.or remote.clientSecret }
  return { config with components := { config.components with remote } }

/- What a console has come to: a waiting one cannot end yet. -/
def courseOf (console : Terminal.Console W) (code : Nat) : Course W :=
  if console.isWaiting then .waiting console.output console.errors
  else .ended { code, output := console.output, errors := console.errors }

/-! ## Running a file -/

def languageOf (path : String) (given : Option String) : Except Failure String :=
  match given,Path.language? path with
  | some name,_ => .ok name
  | none,some language => .ok language.id
  | none,none => .error (Failure.unknownLanguage path)

def standardInputMark : String := "-"

def inputOf (s : Surroundings W) (given : Option String) : Except Failure (Option String) :=
  if given = some standardInputMark then
    (Text.read s.input).mapError Failure.ofStandardInput |>.map some
  else .ok given

def runFile (s : Surroundings W) (config : Config) (path : String) (language stdin : Option String) :
    Except Failure (Course W) := do
  let language ← languageOf path language
  let source ← (s.files.readText path).mapError (Failure.ofSource path)
  if stdin = some standardInputMark && !s.inputHasEnded then return .waiting "" ""
  let input ← inputOf s stdin
  let c ← (Engine.assemble (s.equipment stdin.isNone) config.components).mapError Failure.ofAssembly
  let act : Engine.Run (Stage W) Compiled Nat := do
    let report ← Engine.run c source language input
    Engine.inWorld (Engine.Workplace.ofOutside (Terminal.Console.print (report.render ++ "\n")))
    return if report.status = .error then 1 else 0
  let (code,session) := act.run (Engine.openSession config.components (s.stage (Terminal.linesOf s.input)))
  return courseOf session.world.outside code

/-! ## The terminal -/

def accessOf (s : Surroundings W) : Terminal.Access (Stage W) where
  readText := fun path => return (← get).files.readText path
  date := Engine.Workplace.ofOutside (Terminal.Console.ofOutside s.date)

def prompt : Terminal.Prompt (Stage W) where
  next := Engine.Workplace.ofOutside Terminal.Console.next
  print := fun text => Engine.Workplace.ofOutside (Terminal.Console.print text)

def runTerminal (s : Surroundings W) (config : Config) : Except Failure (Course W) := do
  let c ← (Engine.assemble (s.equipment true) config.components).mapError Failure.ofAssembly
  let lines := Terminal.linesOf s.input
  let act : Terminal.Act (Stage W) Compiled Nat := do
    Terminal.inWorld (prompt.print Terminal.greeting)
    match ← Terminal.converse c (accessOf s) prompt (lines.length + 1) with
    | .ok () => return 0
    | .error flaw =>
      let failure : Failure := ⟨flaw.message,[]⟩
      Terminal.inWorld (Engine.Workplace.ofOutside (Terminal.Console.complain failure.render))
      return 1
  let (code,session) := act.run { engine := Engine.openSession config.components (s.stage lines) }
  return courseOf session.engine.world.outside code

/-! ## The server -/

def openService (s : Surroundings W) (config : Config) (bindAddr : Option Net.SocketAddress) :
    Except Failure (Service W) := do
  let settings ← (Server.Settings.ofConfig config.server).mapError Failure.ofFault
  let settings := { settings with bindAddr := bindAddr.getD settings.bindAddr }
  let collaborators ← (Engine.assemble (s.equipment false) config.components).mapError Failure.ofFault
  match s.bindFault? settings.bindAddr with
  | some fault => .error (Failure.ofFault (.invalidConfig s!"Failed to bind: {fault.message}"))
  | none => return { settings, collaborators, session := Engine.openSession config.components (s.stage []) }

namespace Service

def answer (service : Service W) (stamp : Server.Stamp) (request : Server.Request) :
    Server.Response × Service W :=
  let act : Engine.Run (Stage W) Compiled Server.Response := do
    Engine.settle service.collaborators
    Server.respond service.collaborators stamp request
  let (response,session) := act.run service.session
  (response,{ service with session })

def stopCode? (service : Service W) : Option Nat := if service.settings.graceful then some 0 else none

end Service

/-! ## Courses -/

def start (s : Surroundings W) (invocation : Invocation) : Except Failure (Course W) := do
  let config ← configOf s.files invocation
  match invocation.command with
  | .serve bindAddr => return .serving (← openService s config bindAddr)
  | .run file language stdin => runFile s config file language stdin
  | .terminal => runTerminal s config

def Ending.ofStop : Stop → Ending
  | .misuse => { code := 2, errors := usage }
  | .help => { code := 0, output := usage }
  | .version => { code := 0, output := "workbench 0.1.0\n" }

def pathsOf (s : Surroundings W) (invocation : Invocation) : List String :=
  let bundle := match configOf s.files invocation with
    | .ok config => config.components.interpreter.bundlePath.toList
    | .error _ => []
  let sources := match invocation.command with
    | .run file _ _ => [file]
    | .serve _ => []
    | .terminal => (Terminal.linesOf s.input).filterMap fun line =>
      match line.toOption.map Terminal.Command.parse with
      | some (.run path) => some path
      | _ => none
  invocation.config.toList ++ bundle ++ sources

def perform (s : Surroundings W) (environment : Environment) (arguments : List String) : Course W :=
  match parse environment arguments with
  | .error stop => .ended (.ofStop stop)
  | .ok invocation =>
    match start s invocation with
    | .ok course => course
    | .error failure => .ended (.ofFailure failure)

end Playground.CommandLine
