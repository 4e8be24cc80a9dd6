import Std.Time.Format
import Playground.CommandLine.Program
import Playground.Script.Document
import Playground.Wasm.Document

/-! The program on its own: files, the environment, the clock and the standard streams are handed to
`CommandLine.perform`, and what it shows is written. Neither networks nor sockets are reached from
here. -/
namespace Playground.CommandLine

def nodeAt? (path : String) : IO (Option Files.Node) := do
  try
    if ← (← IO.FS.realPath path).isDir then return some .directory
    return some (.file (← IO.FS.readBinFile path).toList)
  catch _ => return none

def gather (files : Files) (paths : List String) : IO Files :=
  paths.foldlM (fun files path => do
    match ← nodeAt? path with
    | some node => return files.install path node
    | none => return files) files

def surroundingsOf (arguments : List String) (environment : Environment) (input : List UInt8)
    (inputHasEnded : Bool) : IO (Surroundings Unit) := do
  let now ← Std.Time.DateTime.now
  let s : Surroundings Unit := {
    input, inputHasEnded
    readScript := Script.Document.read
    translate := Wasm.Document.translate
    carrier := fun _ => return .error .notConnected
    date := return now.format "EEE MMM dd uuuu HH:mm:ss xx"
    bindFault? := fun _ => some .unsupported
    outside := () }
  match parse environment arguments with
  | .error _ => return s
  | .ok invocation =>
    let files ← gather s.files (pathsOf s invocation)
    let files ← gather files (pathsOf { s with files } invocation)
    return { s with files }

partial def readLineBytes (stream : IO.FS.Stream) (line : List UInt8) : IO (List UInt8) := do
  match (← stream.read 1).toList with
  | [] => return line
  | bytes =>
    if bytes.contains Terminal.newline then return line ++ bytes
    else readLineBytes stream (line ++ bytes)

def showFrom (stream : IO.FS.Stream) (shown : Nat) (text : String) : IO Nat := do
  stream.putStr (String.ofList (text.toList.drop shown))
  stream.flush
  return text.length

/- Follows a course to its end. One that waits is started again with one more line, and only what is new is
shown. -/
partial def follow (arguments : List String) (environment : Environment) (input : List UInt8)
    (inputHasEnded : Bool) (shownOutput shownErrors : Nat) : IO UInt32 := do
  let surroundings ← surroundingsOf arguments environment input inputHasEnded
  let output ← IO.getStdout
  let errors ← IO.getStderr
  match perform surroundings environment arguments with
  | .ended ending =>
    let _ ← showFrom output shownOutput ending.output
    let _ ← showFrom errors shownErrors ending.errors
    return UInt32.ofNat ending.code
  | .serving _ => return 0
  | .waiting outputText errorText =>
    let shownOutput ← showFrom output shownOutput outputText
    let shownErrors ← showFrom errors shownErrors errorText
    let line ← readLineBytes (← IO.getStdin) []
    follow arguments environment (input ++ line) line.isEmpty shownOutput shownErrors

end Playground.CommandLine

open Playground.CommandLine in
def main (arguments : List String) : IO UInt32 := do
  let environment ← Parameter.environmentNames.filterMapM fun name => do
    return (← IO.getEnv name).map fun value => (name,value)
  follow arguments environment [] false 0 0
