/-! Modules as far as running them depends on it: their size, their imports, and what their entry
point does, as a list of steps. -/
namespace Playground.Wasm

inductive Trap where
  | unreachable
  | divisionByZero
  | outOfBounds
  | stackExhausted
  | badExitStatus
  | endlessLoop
  deriving DecidableEq, Repr

def Trap.message : Trap → String
  | .unreachable => "wasm trap: wasm `unreachable` instruction executed"
  | .divisionByZero => "wasm trap: integer divide by zero"
  | .outOfBounds => "wasm trap: out of bounds memory access"
  | .stackExhausted => "wasm trap: call stack exhausted"
  | .badExitStatus => "error while executing at wasm backtrace: exit with invalid exit status"
  | .endlessLoop => "wasm trap: interrupt"

inductive Step where
  | write (descriptor : Int) (bytes : List UInt8)
  | copyInput
  | writeArguments
  | writeVariables
  | exit (status : Int)
  | trap (cause : Trap)
  | spin
  deriving DecidableEq, Repr

/- A module is linked where no import is missing, that is, the host offers all of them. -/
structure Module where
  code : List UInt8
  imports : Nat := 0
  missing : Option String := none
  memoryBytes : Nat := 0
  entry : Option (List Step) := none
  deriving DecidableEq, Repr

def importName (module name : String) : String := module ++ "::" ++ name

def Module.addImport (m : Module) (name : String) : Module :=
  { m with imports := m.imports + 1, missing := m.missing.or (some name) }

def magic : List UInt8 := [0x00,0x61,0x73,0x6d]

def version : List UInt8 := [0x01,0x00,0x00,0x00]

def pageBytes : Nat := 65536

def entryName : String := "_start"

end Playground.Wasm
