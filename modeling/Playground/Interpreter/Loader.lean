import Playground.Interpreter.Bundle
import Playground.Interpreter.Compiled

/-! Loading of the embedded interpreter: its bundle is fetched and compiled, through the cache of
artifacts where there is one. -/
namespace Playground.Interpreter

structure Loader (M : Type := Wasm.Module) where
  machine : Machine
  translate : Translate M
  bundle : Bundle
  cacheDir : Option String := none

namespace Loader
variable {M : Type} [Modules M]

def compile (loader : Loader M) (bytes : List UInt8) : StateM Files (Except Fault (Compiled M)) :=
  match loader.cacheDir with
  | some directory => Compiled.ofBytesCached loader.machine loader.translate directory bytes
  | none => return Compiled.ofBytes loader.machine loader.translate bytes

def load (loader : Loader M) (carrier : Net.Carrier W) :
    StateT Files (StateM W) (Except LoadFault (Compiled M)) := do
  match ← loader.bundle.fetch carrier with
  | .error fault => return .error fault
  | .ok bytes =>
    let (outcome,files) := (loader.compile bytes).run (← get)
    set files
    match outcome with
    | .ok compiled => return .ok compiled
    | .error fault => return .error (.invalid fault.message)

end Loader
end Playground.Interpreter
