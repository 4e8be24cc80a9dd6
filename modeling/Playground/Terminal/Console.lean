import Playground.Language
import Playground.Text.Utf8

/-! What is typed at a terminal and what it shows. Typed lines are taken one by one: by the prompt,
or by a program that reads input. Main functions: `Console.next` takes a line,
`Console.requestInput` takes those of one input. -/
namespace Playground.Terminal

abbrev Line := Except Text.Flaw String

def newline : UInt8 := 0x0a

def splitLines : List UInt8 → List (List UInt8)
  | [] => []
  | b :: rest =>
    if b = newline then [b] :: splitLines rest
    else match splitLines rest with
      | [] => [[b]]
      | line :: lines => (b :: line) :: lines

def withoutEnd (line : String) : String :=
  match line.toList.getLast? with
  | some '\n' => String.ofList (Text.stripEnd '\r' line.toList.dropLast)
  | _ => line

def readLine (bytes : List UInt8) : Line := (Text.read bytes).map withoutEnd

def linesOf (bytes : List UInt8) : List Line := (splitLines bytes).map readLine

/- Lines that were typed and are not taken yet; more may follow unless the input has ended. A console that
waits for more shows nothing. -/
structure Console (W : Type) where
  typed : List Line
  hasEnded : Bool := true
  isWaiting : Bool := false
  output : String := ""
  errors : String := ""
  outside : W

namespace Console

def print (text : String) : StateM (Console W) Unit :=
  modify fun console =>
    if console.isWaiting then console else { console with output := console.output ++ text }

def complain (text : String) : StateM (Console W) Unit :=
  modify fun console =>
    if console.isWaiting then console else { console with errors := console.errors ++ text }

def runDry (console : Console W) : Console W :=
  { console with isWaiting := console.isWaiting || !console.hasEnded }

def next : StateM (Console W) (Option Line) := fun console =>
  match console.typed with
  | [] => (none,console.runDry)
  | line :: typed => (some line,{ console with typed })

def cancelMark : String := ".cancel"

/- The lines of an input up to an empty one, and the lines after it. A cancel mark declines; so does an end of
input, or a line that cannot be read, before any line. -/
def collect (collected : List String) : List Line → Option (List String) × List Line
  | [] => (if collected.isEmpty then none else some collected,[])
  | .error _ :: rest => (if collected.isEmpty then none else some collected,rest)
  | .ok line :: rest =>
    if Text.trimmed line == cancelMark then (none,rest)
    else if line.isEmpty then (some collected,rest)
    else collect (collected ++ [line]) rest

def isLast : Line → Bool
  | .error _ => true
  | .ok line => Text.trimmed line == cancelMark || line.isEmpty

def inputText (lines : List String) : String := String.intercalate "\n" lines ++ "\n"

def banner (language : Language) : String :=
  s!"This {language.displayName} program reads input. Enter lines, finish with an empty line ('.cancel' to skip):\n"

def requestInput (language : Language) : StateM (Console W) (Option String) := do
  complain (banner language)
  let console ← get
  let (lines,typed) := collect [] console.typed
  let console := if console.typed.any isLast then console else console.runDry
  set { console with typed }
  return lines.map inputText

def ofOutside (act : StateM W α) : StateM (Console W) α := fun console =>
  let (result,outside) := act.run console.outside
  (result,{ console with outside })

end Console
end Playground.Terminal
