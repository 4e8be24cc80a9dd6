import Playground.Language

/-! Commands of the terminal. The first word of a line names the command, in any case; the rest of
the line, trimmed, is its argument. -/
namespace Playground.Terminal

inductive Command where
  | empty
  | help
  | clear
  | run (path : String)
  | js (code : String)
  | py (code : String)
  | echo (text : String)
  | date
  | list
  | exit
  | unknown (name : String)
  deriving DecidableEq, Repr

namespace Command

def split (line : List Char) : List Char × List Char :=
  (line.takeWhile (!Text.isBlank ·),Text.trim (line.dropWhile (!Text.isBlank ·)))

def parse (line : String) : Command :=
  let (word,rest) := split (Text.trim line.toList)
  let argument := String.ofList rest
  match String.ofList (Text.lowerAscii word) with
  | "" => .empty
  | "help" => .help
  | "clear" => .clear
  | "run" => .run argument
  | "js" => .js argument
  | "py" => .py argument
  | "echo" => .echo argument
  | "date" => .date
  | "ls" => .list
  | "exit" | "quit" => .exit
  | name => .unknown name

end Command

def helpText : String :=
  "Available commands:
  help          - Show this help message
  clear         - Clear terminal
  run <file>    - Execute a source file (language from its extension)
  js <code>     - Execute JavaScript code
  py <code>     - Execute Python code
  echo <text>   - Echo text
  date          - Show current date and time
  ls            - List supported languages
  exit          - Leave the terminal"

def padded (width : Nat) (text : String) : String :=
  text ++ String.ofList (List.replicate (width - text.length) ' ')

def languageLine (language : Language) : String :=
  "\n  " ++ padded 11 language.displayName ++ " ." ++ padded 5 language.extension ++ " " ++
    (Strategy.ofLanguage language).name

def listing : String :=
  "Supported languages:" ++ String.join (Language.all.map languageLine)

end Playground.Terminal
