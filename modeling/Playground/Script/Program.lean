import Playground.Script.Course
import Playground.Script.Value

/-! Scripts as lists of statements. -/
namespace Playground.Script

inductive Expression where
  | literal (value : Value)
  | array (items : List Expression)
  | object (entries : List (Units × Expression))
  | error (name : String) (message : Expression)
  | boxed (content : Expression)
  | jsonForm (form : Expression)
  | textForm (form : Expression)
  | joined (parts : List Expression)
  | read (reader : String) (prompt : Option Expression)
  | variable (name : String)
  | memberOf (name member : String)
  | global (name : String)
  | typeOf (name : String)
  deriving Inhabited

inductive Tampering where
  | replaceBuiltins
  | extendPrototype
  | trapArrayIndex
  | nullConsole
  | deleteConsole
  | customConsole
  | accessorConsole
  | fixedConsole
  | ownInput
  | frozenTargets
  deriving DecidableEq, Repr

inductive Statement where
  | print (method : ConsoleMethod) (arguments : List Expression)
  | throwValue (value : Expression)
  | returnValue (value : Expression)
  | constant (name : String) (value : Expression)
  | setGlobal (name : String) (value : Expression)
  | addToGlobal (name : String) (value : Expression)
  | later (body : List Statement)
  | attempt (body handler : List Statement)
  | malformed
  | recurse
  | tamper (how : Tampering)
  deriving Inhabited

def caughtName : String := "e"

def declaredNames (body : List Statement) : List String :=
  body.filterMap fun s => match s with
    | .constant name _ => some name
    | _ => none

def declaresOnce (body : List Statement) : Bool := (declaredNames body).Nodup

mutual

def Statement.isWellFormed : Statement → Bool
  | .malformed => false
  | .later body => declaresOnce body && allWellFormed body
  | .attempt body handler =>
    declaresOnce body && allWellFormed body && declaresOnce handler &&
      !(declaredNames handler).contains caughtName && allWellFormed handler
  | _ => true

def allWellFormed : List Statement → Bool
  | [] => true
  | s :: rest => s.isWellFormed && allWellFormed rest

end

def isWellFormed (body : List Statement) : Bool := declaresOnce body && allWellFormed body

mutual

def Statement.jobCount : Statement → Nat
  | .later body => 1 + jobCounts body
  | .attempt body handler => jobCounts body + jobCounts handler
  | _ => 0

def jobCounts : List Statement → Nat
  | [] => 0
  | s :: rest => s.jobCount + jobCounts rest

end

end Playground.Script
