import Playground.Interpreter.Process
import Playground.Json.Printer
import Playground.Json.Reader
import Playground.Text.Hex
import Playground.Wasm.Notation

/-! Modules written as JSON documents: the header of every module, and behind it the list of the entry point's
steps. A step is a list that begins with its name; some tell something about the module instead. The engine
that runs such modules takes their bytes for an artifact, behind a mark. -/
namespace Playground.Wasm.Document

def header : List UInt8 := magic ++ version

def bytesOf (steps : Json) : List UInt8 := header ++ Text.encode steps.compact

def trapOf : Json → Trap
  | .string "divide" => .divisionByZero
  | .string "memory" => .outOfBounds
  | .string "stack" => .stackExhausted
  | _ => .unreachable

def content : Json → List UInt8
  | .object [("hex",.string digits)] => (Text.ofHex? digits.toList).getD []
  | .string text => Text.encode text
  | _ => []

def step? : Json → Option Step
  | .array [.string "write",.number (.int descriptor),bytes] => some (.write descriptor (content bytes))
  | .array [.string "stdin"] => some .copyInput
  | .array [.string "args"] => some .writeArguments
  | .array [.string "env"] => some .writeVariables
  | .array [.string "exit",.number (.int status)] => some (.exit status)
  | .array [.string "trap"] => some (.trap .unreachable)
  | .array [.string "trap",cause] => some (.trap (trapOf cause))
  | .array [.string "spin"] => some .spin
  | _ => none

def isNamed (name : String) : Json → Bool
  | .array (.string known :: _) => known == name
  | _ => false

def memoryPages : Nat := 64

def importCount : Nat := 8

/- A document may ask for an import that no host offers, or have no entry point. -/
def ofSteps (code : List UInt8) (steps : List Json) : Module where
  code
  imports := importCount
  missing := if steps.any (isNamed "import") then some (importName "env" "missing") else none
  memoryBytes := memoryPages * pageBytes
  entry := if steps.any (isNamed "no_start") then none else some (steps.filterMap step?)

def module? (bytes : List UInt8) : Option Module :=
  if header.isPrefixOf bytes then
    match Json.parse (Text.decodeLossy (bytes.drop header.length)) with
    | .ok (.array steps) => some (ofSteps bytes steps)
    | _ => none
  else none

def translate (bytes : List UInt8) : Option Module :=
  (module? bytes).orElse fun _ => Binary.module? bytes

def artifactMark : List UInt8 := Text.encode "artifact\n"

def serialize (m : Module) : List UInt8 := artifactMark ++ m.code

def takes (machine : Interpreter.Machine) (m : Module) : Bool :=
  machine.pool.all fun pool => m.memoryBytes ≤ pool.slotBytes

def deserialize? (machine : Interpreter.Machine) (bytes : List UInt8) : Option Module :=
  if artifactMark.isPrefixOf bytes then (translate (bytes.drop artifactMark.length)).filter (takes machine)
  else none

instance : Interpreter.Modules Module where
  takes
  ofNotation? := Notation.module?
  serialize
  deserialize?
  compatibility machine := [if machine.metered then 1 else 0,if machine.pool.isSome then 1 else 0]
  guest := Interpreter.Guest.ofModule

end Playground.Wasm.Document
