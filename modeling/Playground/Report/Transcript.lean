import Playground.Report
import Playground.Text.Basic

/-! Transcripts: captured output lines in arrival order. Each stream has its prefix in the rendered
text, and an empty transcript never gives an empty message. -/
namespace Playground

inductive Stream where
  | stdout | stderr | warn | return
  deriving DecidableEq, Repr

namespace Stream

def name : Stream → String
  | .stdout => "stdout"
  | .stderr => "stderr"
  | .warn => "warn"
  | .return => "return"

def ofName? : String → Option Stream
  | "stdout" => some .stdout
  | "stderr" => some .stderr
  | "warn" => some .warn
  | "return" => some .return
  | _ => none

def label : Stream → String
  | .stdout => ""
  | .stderr => "ERROR: "
  | .warn => "WARNING: "
  | .return => "Return: "

end Stream

structure Transcript where
  entries : List (Stream × String) := []
  deriving DecidableEq, Repr

namespace Transcript

def push (t : Transcript) (stream : Stream) (text : String) : Transcript :=
  { entries := t.entries ++ [(stream,text)] }

def isEmpty (t : Transcript) : Bool := t.entries.isEmpty

/- The entries of a captured text: one per line, after one line end at its very end is dropped. -/
def blockLines (block : List Char) : List (List Char) :=
  let body := Text.stripEnd '\r' (Text.stripEnd '\n' block)
  if body.isEmpty then [] else (body.splitOn '\n').map (Text.stripEnd '\r')

def pushBlock (t : Transcript) (stream : Stream) (block : String) : Transcript :=
  { entries := t.entries ++ (blockLines block.toList).map fun line => (stream,String.ofList line) }

def render (t : Transcript) : String :=
  String.intercalate "\n" (t.entries.map fun (stream,text) => stream.label ++ text)

def emptyMessage (status : Status) (language : String) : String :=
  match status with
  | .success => s!"{language} executed successfully (no output)"
  | .warning => s!"{language} finished with warnings (no output)"
  | .error => s!"{language} failed (no output)"

def report (t : Transcript) (status : Status) (language : String) : Report :=
  { status, message := if t.isEmpty then emptyMessage status language else t.render }

end Transcript
end Playground
