import Playground.Engine.Session
import Playground.Files
import Playground.Path
import Playground.Terminal.Command
import Playground.Terminal.Console

/-! A session at the terminal: commands over an engine, with the history of the commands that were
given. -/
namespace Playground.Terminal

inductive Reply where
  | print (text : String)
  | clear
  | exit
  | nothing
  deriving DecidableEq, Repr

structure Access (W : Type) where
  readText : String → StateM W (Except FileFault String)
  date : StateM W String

structure Session (W H : Type) where
  engine : Engine.Session W H
  history : List String := []

abbrev Act (W H : Type) := StateM (Session W H)

variable {W H : Type}

def inEngine (act : Engine.Run W H α) : Act W H α := fun session =>
  let (result,engine) := act.run session.engine
  (result,{ session with engine })

def inWorld (act : StateM W α) : Act W H α := inEngine (Engine.inWorld act)

def remember (line : String) : Act W H Unit :=
  modify fun session => { session with history := session.history ++ [line] }

def runSource (c : Engine.Collaborators W H) (source : String) (language : Language) :
    Act W H Reply := do
  let report ← inEngine (Engine.run c source language.id none)
  return .print report.render

def runFile (c : Engine.Collaborators W H) (access : Access W) (path : String) : Act W H Reply := do
  match Path.language? path with
  | none => return .print s!"Cannot detect language for '{path}'"
  | some language =>
    match ← inWorld (access.readText path) with
    | .ok source => runSource c source language
    | .error cause => return .print s!"Cannot read '{path}': {cause.message}"

def perform (c : Engine.Collaborators W H) (access : Access W) : Command → Act W H Reply
  | .empty => return .nothing
  | .help => return .print helpText
  | .clear => return .clear
  | .exit => return .exit
  | .echo text => return .print text
  | .date => return .print (← inWorld access.date)
  | .list => return .print listing
  | .js code =>
    if code.isEmpty then return .print "Usage: js <javascript_code>"
    else runSource c code .javaScript
  | .py code =>
    if code.isEmpty then return .print "Usage: py <python_code>"
    else runSource c code .python
  | .run path =>
    if path.isEmpty then return .print "Usage: run <file>" else runFile c access path
  | .unknown name =>
    return .print s!"Command not found: {name}. Type 'help' for available commands."

def execute (c : Engine.Collaborators W H) (access : Access W) (line : String) : Act W H Reply := do
  let command := Command.parse line
  if command ≠ .empty then remember (Text.trimmed line)
  perform c access command

/-! ## The prompt -/

structure Prompt (W : Type) where
  next : StateM W (Option Line)
  print : String → StateM W Unit

def greeting : String := "Workbench terminal. Type 'help' for available commands.\n"

def promptMark : String := "$ "

def clearScreen : String := "\x1b[2J\x1b[H"

def Reply.shown? : Reply → Option String
  | .print text => some (text ++ "\n")
  | .clear => some clearScreen
  | .nothing => some ""
  | .exit => none

/- Performs lines until one ends the session or none is left. Every turn takes a line, so the number of lines
bounds the turns. -/
def converse (c : Engine.Collaborators W H) (access : Access W) (prompt : Prompt W) :
    (turns : Nat) → Act W H (Except Text.Flaw Unit)
  | 0 => return .ok ()
  | turns + 1 => do
    inWorld (prompt.print promptMark)
    match ← inWorld prompt.next with
    | none => return .ok ()
    | some (.error flaw) => return .error flaw
    | some (.ok line) =>
      match (← execute c access line).shown? with
      | none => return .ok ()
      | some text =>
        inWorld (prompt.print text)
        converse c access prompt turns

end Playground.Terminal
