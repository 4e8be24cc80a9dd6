import Playground.Script.Engine
import Playground.Script.Evaluation
import Playground.Script.Program
import Playground.Script.Show

/-! The engine of documents. Names stand for constants of blocks, for properties of the scope, or for
what is there from the start; assignments that a property refuses have no effect. -/
namespace Playground.Script

structure Block where
  outer : Option Nat
  constants : List (String × Option Value)

structure Job where
  block : Option Nat
  body : List Statement

structure Memory where
  definesBindings : Bool := true
  plainDescriptors : Bool := true
  blocks : List Block := []
  jobs : List Job := []

instance : Inhabited Memory := ⟨{}⟩

abbrev Host := Realm Value Memory

inductive Halt where
  | thrown (value : Value)
  | returned (value : Value)
  | exhausted

abbrev Act := ExceptT Halt (StateT Memory (Course Value))

def atBridge (course : Course Value α) : Act α := liftM (liftM course : StateT Memory (Course Value) α)

def look : Act (Bridge Value) := atBridge (Course.act .look)

def throwValue (value : Value) : Act α := throw (.thrown value)

def converted (conversion : Value.Conversion α) : Act α :=
  match conversion with
  | .ok a => pure a
  | .error value => throwValue value

def swallow (act : Act Unit) : Act Unit :=
  tryCatch act fun halt => match halt with
    | .thrown _ => pure ()
    | other => throw other

/-! ## Reads -/

def promptText : Value → Value.Conversion Unit
  | .undefined => .ok ()
  | prompt => prompt.toText.map fun _ => ()

def readLine (run : Nat) (prompt : Value) : Act Value := do
  match ← atBridge (Course.readLine run (.done (promptText prompt)) Except.isOk) with
  | .line text | .answered _ text => return .ofString text
  | .refused (.error value) => throwValue value
  | .refused (.ok ()) => return .undefined

def call (callee : Callee) (argument : Value) : Act Value :=
  match callee with
  | .nothing => return .undefined
  | .own => return .ofString "own"
  | .builtin _ => return .undefined
  | .reader run takesPrompt => readLine run (if takesPrompt then argument else .ofString "")
  | .getter console => return .console console

/-! ## Names -/

def constant? (blocks : List Block) (name : String) : (fuel : Nat) → Option Nat → Option (Option Value)
  | 0,_ => none
  | _ + 1,none => none
  | fuel + 1,some block =>
    match blocks[block]? with
    | none => none
    | some b =>
      match b.constants.lookup name with
      | some value => some value
      | none => constant? blocks name fuel b.outer

def slotValue : Slot Value → Act Value
  | .data value _ => return value
  | .accessor (.function callee) _ => call callee .undefined
  | .accessor _ _ => return .undefined

def global? (name : String) : Act (Option Value) := do
  match (← look).scope.get? name with
  | some p => return some (← slotValue p.slot)
  | none => return builtin? name

def globalValue (name : String) : Act Value := return (← global? name).getD .undefined

def find? (block : Option Nat) (name : String) : Act (Option Value) := do
  let blocks := (← get).blocks
  match constant? blocks name (blocks.length + 1) block with
  | some (some value) => return some value
  | some none => throwValue (.error "ReferenceError" (.ofString "access of uninitialized binding"))
  | none => global? name

def resolve (block : Option Nat) (name : String) : Act Value := do
  match ← find? block name with
  | some value => return value
  | none => throwValue (.referenceError name)

def typeOf (block : Option Nat) (name : String) : Act Value :=
  return .ofString (((← find? block name).map Value.typeName).getD "undefined")

def openBlock (outer : Option Nat) (body : List Statement) (known : List (String × Option Value)) :
    Act (Option Nat) := do
  let memory ← get
  let constants := (declaredNames body).map (·,none) ++ known
  set { memory with blocks := memory.blocks ++ [Block.mk outer constants] }
  return some memory.blocks.length

def setConstant (block : Option Nat) (name : String) (value : Value) : Act Unit :=
  modify fun memory =>
    match block with
    | none => memory
    | some index =>
      { memory with blocks := memory.blocks.modify index fun b =>
          { b with constants := (name,some value) :: b.constants.filter (·.1 != name) } }

def defineGlobal (name : String) (change : Change Value) : Act Bool := atBridge (Course.act (.define name change))

def assignGlobal (name : String) (value : Value) : Act Unit := do
  match ((← look).scope.get? name).map Property.slot with
  | some (.data _ true) => discard (defineGlobal name { content := .data (some value) none })
  | some _ => pure ()
  | none => if isReadOnly name then pure () else discard (defineGlobal name (Property.plain value).change)

def addToGlobal (name : String) (value : Value) : Act Unit := do
  let sum ← converted ((← globalValue name).add value)
  assignGlobal name sum

/-! ## Consoles -/

inductive Printer where
  | console (console : Console)
  | function (callee : Callee)

def notCallable : Value := .typeError "not a callable function"

def Console.has (console : Console) (method : ConsoleMethod) : Bool :=
  match console with
  | .host | .capturing _ => true
  | .counting => method == .log || method == .error
  | .gotten | .fixed => method == .log

def printer? (value : Value) (method : ConsoleMethod) : Value.Conversion (Option Printer) :=
  match value with
  | .console console => .ok (if console.has method then some (.console console) else none)
  | value => do
    match ← value.member method.name with
    | .function callee => return some (.function callee)
    | _ => return none

def countMark (arguments : List Value) : Value := .ofString s!"<{arguments.length}>"

/- Prints to a console. A capturing console passes everything on to the one it took the place of, whose
failures do not matter. -/
def print (method : ConsoleMethod) (arguments : List Value) : (fuel : Nat) → Printer → Act Unit
  | 0,_ => pure ()
  | _ + 1,.function callee => discard (call callee (arguments.headD .undefined))
  | fuel + 1,.console console =>
    match console with
    | .host => atBridge (Course.act (.log method (Value.printed arguments)))
    | .capturing run => do
      match ← atBridge (Course.capture run method.stream (Value.printed arguments)) with
      | some previous =>
        match printer? previous method with
        | .ok (some printer) => swallow (print method arguments fuel printer)
        | _ => pure ()
      | none => pure ()
    | .counting =>
      if method == .error then throwValue (.number 1.0)
      else addToGlobal "seen" (countMark arguments)
    | .gotten => pure ()
    | .fixed => assignGlobal "seen" (.ofString "fixed")

/-! ## Expressions -/

mutual

def evaluate (block : Option Nat) : Expression → Act Value
  | .literal value => return value
  | .array items => return .array (← evaluateAll block items)
  | .object entries => return Value.ofEntries (← evaluateEntries block entries)
  | .error name message => do
    let message ← evaluate block message
    match message with
    | .undefined => return .error name []
    | message => return .error name (← converted message.toText)
  | .boxed content => return (← evaluate block content).box
  | .jsonForm form => return .jsonForm (← evaluate block form)
  | .textForm form => return .textForm (← evaluate block form)
  | .joined parts => evaluateJoined block (.text []) parts
  | .read reader prompt => do
    let callee ← resolve block reader
    let argument ← evaluatePrompt block prompt
    match callee with
    | .function callee => call callee argument
    | _ => throwValue notCallable
  | .variable name => resolve block name
  | .memberOf name member => do converted ((← resolve block name).member member)
  | .global name => globalValue name
  | .typeOf name => typeOf block name

def evaluateAll (block : Option Nat) : List Expression → Act (List Value)
  | [] => return []
  | item :: rest => do
    let value ← evaluate block item
    return value :: (← evaluateAll block rest)

def evaluateEntries (block : Option Nat) : List (Units × Expression) → Act (List (Units × Value))
  | [] => return []
  | (key,item) :: rest => do
    let value ← evaluate block item
    return (key,value) :: (← evaluateEntries block rest)

def evaluateJoined (block : Option Nat) (joined : Value) : List Expression → Act Value
  | [] => return joined
  | part :: rest => do
    let value ← evaluate block part
    evaluateJoined block (← converted (joined.add value)) rest

def evaluatePrompt (block : Option Nat) : Option Expression → Act Value
  | none => return .undefined
  | some prompt => evaluate block prompt

end

/-! ## Statements -/

/- New properties are defined by descriptors, which a script may have spoiled. -/
def checkDescriptors : Act Unit := do
  let memory ← get
  if !memory.definesBindings then throwValue notCallable
  if !memory.plainDescriptors then throwValue (.typeError "invalid property descriptor")

def defineConsole (property : Property Value) : Act Unit := do
  checkDescriptors
  if ← defineGlobal "console" property.change then pure ()
  else throwValue (.typeError "cannot redefine property")

def tamper : Tampering → Act Unit
  | .replaceBuiltins => do
    assignGlobal "Function" .null
    assignGlobal "String" .null
    modify fun memory => { memory with definesBindings := false }
  | .extendPrototype => modify fun memory => { memory with plainDescriptors := false }
  | .trapArrayIndex => checkDescriptors
  | .nullConsole => assignGlobal "console" .null
  | .deleteConsole => discard (atBridge (Course.act (.delete "console")))
  | .customConsole => do
    assignGlobal "seen" (.ofString "")
    assignGlobal "console" (.console .counting)
  | .accessorConsole => defineConsole { slot := .accessor (.function (.getter .gotten)) .undefined }
  | .fixedConsole => defineConsole { slot := .data (.console .fixed) false, configurable := false }
  | .ownInput => assignGlobal "input" (.function .own)
  | .frozenTargets => pure ()

mutual

def run (block : Option Nat) : Statement → Act Unit
  | .print method arguments => do
    let printer ← converted (printer? (← resolve block "console") method)
    let arguments ← evaluateAll block arguments
    match printer with
    | some printer => print method arguments ((← look).evaluations.length + 1) printer
    | none => throwValue notCallable
  | .throwValue value => do throwValue (← evaluate block value)
  | .returnValue value => do throw (.returned (← evaluate block value))
  | .constant name value => do setConstant block name (← evaluate block value)
  | .setGlobal name value => do assignGlobal name (← evaluate block value)
  | .addToGlobal name value => do
    let before ← globalValue name
    let value ← evaluate block value
    assignGlobal name (← converted (before.add value))
  | .later body => modify fun memory => { memory with jobs := memory.jobs ++ [{ block,body }] }
  | .attempt body handler => do
    let inner ← openBlock block body []
    tryCatch (runAll inner body) fun halt => match halt with
      | .thrown value => do
        let inner ← openBlock block handler [(caughtName,some value)]
        runAll inner handler
      | other => throw other
  | .malformed => pure ()
  | .recurse => throw .exhausted
  | .tamper how => tamper how

def runAll (block : Option Nat) : List Statement → Act Unit
  | [] => pure ()
  | s :: rest => do
    run block s
    runAll block rest

end

def runBlock (outer : Option Nat) (body : List Statement) : Act Unit := do
  let block ← openBlock outer body []
  runAll block body

def syntaxError : Value := .error "SyntaxError" (.ofString "unexpected token")

def conclusionOf : Except Halt Unit → Conclusion
  | .ok () => .ended none none
  | .error (.thrown value) => .ended (some value.description) none
  | .error (.returned .undefined) => .ended none none
  | .error (.returned value) => .ended none (some value.shown)
  | .error .exhausted => .exhausted

def runScript (body : List Statement) : StateT Memory (Course Value) Conclusion :=
  if isWellFormed body then return conclusionOf (← (runBlock none body).run)
  else return conclusionOf (.error (.thrown syntaxError))

def Memory.pendingJobs (memory : Memory) : Nat :=
  memory.jobs.foldl (fun n job => n + 1 + jobCounts job.body) 0

/- Runs the jobs in the order in which they came up, up to one that does not end. What they throw is lost. -/
def runJobs : (fuel : Nat) → StateT Memory (Course Value) Bool
  | 0 => return true
  | fuel + 1 => do
    let memory ← get
    match memory.jobs with
    | [] => return true
    | job :: rest => do
      set { memory with jobs := rest }
      match conclusionOf (← (runBlock job.block job.body).run) with
      | .exhausted => return false
      | .ended _ _ => runJobs fuel

def conductOf (body : List Statement) : Conduct Value Memory where
  body := runScript body
  later := fun memory => runJobs (memory.pendingJobs + 1) memory

def evaluateScript (ask : Ask W) (body : List Statement) (stdin : Option String) :
    StateT Host (StateM W) Evaluated :=
  Realm.evaluate ask (conductOf body) stdin

def uncaughtText : Value → String
  | .error name message => ((Value.errorText name message).text?).getD ""
  | value => "Uncaught " ++ ((value.shownText).text?).getD ""

def inspect (host : Host) (expression : Expression) : Except Fault String :=
  if host.stopped then .error stoppedFault
  else
    let (((result,_),_),_) := (((evaluate none expression).run host.memory).run (none : Ask Unit) host.toBridge ())
    match result with
    | .ok value => .ok ((value.inspected.text?).getD "")
    | .error (.thrown value) => .error (.scriptHostUnavailable (uncaughtText value))
    | .error _ => .error exhaustedFault

namespace Host

def hasOwnConsole (host : Host) : Except Fault Bool :=
  if host.stopped then .error stoppedFault
  else match (host.scope.get? "console").map Property.slot with
    | some (.data (.console .host) _) => .ok true
    | _ => .ok false

end Host
end Playground.Script
