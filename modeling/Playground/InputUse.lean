import Playground.Language
import Playground.Text.Pattern

/-! Whether a program seems to read its input: each language has its reading primitives, and they
count only as whole words. -/
namespace Playground.InputUse
open Text (Part)

def call (names : List String) : List Part := [.boundary,.oneOf names,.blanks,.word "("]

def mention (names : List String) : List Part := [.boundary,.oneOf names,.boundary]

def patterns : Language → List (List Part)
  | .javaScript => [call ["prompt","readline","input"]]
  | .python => [call ["input"],mention ["sys.stdin"]]
  | .java =>
    [call ["Scanner","nextInt","nextDouble","nextLine","next","nextLong","nextBoolean"],
      mention ["System.in"],mention ["BufferedReader"]]
  | .cpp => [mention ["scanf","cin","getline","getchar"]]
  | .html | .css | .json | .sql => []

def needsInput (source : String) (language : Language) : Bool :=
  Text.occurs (patterns language) source.toList

end Playground.InputUse
