import Playground.Digest
import Playground.Interpreter.Guest
import Playground.Wasm.Module

/-! Compiled modules and the directory that keeps their artifacts. An artifact stands for the module
it was written from; whatever else is found in its place is discarded. -/
namespace Playground.Interpreter

abbrev Translate (M : Type := Wasm.Module) := List UInt8 → Option M

structure Compiled (M : Type := Wasm.Module) where
  module : M
  contentHash : String
  deriving DecidableEq, Repr

namespace Compiled
variable {M : Type}

def headerBytes : Nat := 8

def checkHeader (bytes : List UInt8) : Except Fault Unit :=
  if bytes.length < headerBytes then .error (.compilationFailed "Invalid Wasm: file too small")
  else if !Wasm.magic.isPrefixOf bytes then
    .error (.compilationFailed "Invalid Wasm: bad magic number")
  else .ok ()

section
variable [Modules M]

def admit? (machine : Machine) (m : Option M) : Option M := m.filter (Modules.takes machine)

def ofBytes (machine : Machine) (translate : Translate M) (bytes : List UInt8) :
    Except Fault (Compiled M) := do
  checkHeader bytes
  match admit? machine (translate bytes) with
  | some module => return { module, contentHash := Digest.ofBytes bytes }
  | none => throw (.compilationFailed "Core module compilation failed: not a module for this engine")

def textFailure : Fault :=
  .compilationFailed "WAT compilation failed: not a module for this engine"

def ofText (machine : Machine) (translate : Translate M) (text : String) : Except Fault (Compiled M) :=
  let bytes := Text.encode text
  let module? := if Wasm.magic.isPrefixOf bytes then translate bytes else Modules.ofNotation? text
  match admit? machine module? with
  | some module => .ok { module, contentHash := Digest.ofBytes bytes }
  | none => .error textFailure

/-! ## Artifacts -/

def artifactStem (M : Type) [Modules M] (machine : Machine) (bytes : List UInt8) : String :=
  Digest.hexDigits (Digest.digest (Digest.lengthBytes bytes ++ bytes ++ Modules.compatibility (M := M) machine))

def artifactName (M : Type) [Modules M] (machine : Machine) (bytes : List UInt8) : String :=
  artifactStem M machine bytes ++ ".cwasm"

/- A module that is loaded from its artifact is known by the artifact's name. -/
def ofArtifact? (M : Type) [Modules M] (machine : Machine) (files : Files) (directory : String) (bytes : List UInt8) :
    Option (Compiled M) := do
  let path := Files.join directory (artifactName M machine bytes)
  let artifact ← (files.read path).toOption
  let module ← Modules.deserialize? machine artifact
  return { module, contentHash := artifactStem M machine bytes }

def discard (M : Type) [Modules M] (machine : Machine) (files : Files) (directory : String)
    (bytes : List UInt8) : Files :=
  match files.placeOf (Files.join directory (artifactName M machine bytes)) with
  | .ok place =>
    match files.node? place with
    | some (.file _) => files.remove place
    | _ => files
  | .error _ => files

def keep (machine : Machine) (files : Files) (directory : String) (bytes : List UInt8)
    (compiled : Compiled M) : Files :=
  (files.replace directory (artifactName M machine bytes) (Modules.serialize compiled.module)).2

def ofBytesCached (machine : Machine) (translate : Translate M) (directory : String)
    (bytes : List UInt8) : StateM Files (Except Fault (Compiled M)) := do
  match checkHeader bytes with
  | .error fault => return .error fault
  | .ok () =>
    match ofArtifact? M machine (← get) directory bytes with
    | some compiled => return .ok compiled
    | none => do
      modify fun files => discard M machine files directory bytes
      match ofBytes machine translate bytes with
      | .error fault => return .error fault
      | .ok compiled => do
        modify fun files => keep machine files directory bytes compiled
        return .ok compiled

end

end Compiled
end Playground.Interpreter
