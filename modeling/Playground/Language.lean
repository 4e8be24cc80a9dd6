import Playground.Text.Basic

/-! The languages of the playground, their names and the ways they are written in requests and file
names. -/
namespace Playground

inductive Language where
  | javaScript | python | java | cpp | html | css | json | sql
  deriving DecidableEq, Repr

namespace Language

def all : List Language := [.javaScript,.python,.java,.cpp,.html,.css,.json,.sql]

def id : Language → String
  | .javaScript => "javascript"
  | .python => "python"
  | .java => "java"
  | .cpp => "cpp"
  | .html => "html"
  | .css => "css"
  | .json => "json"
  | .sql => "sql"

def displayName : Language → String
  | .javaScript => "JavaScript"
  | .python => "Python"
  | .java => "Java"
  | .cpp => "C++"
  | .html => "HTML"
  | .css => "CSS"
  | .json => "JSON"
  | .sql => "SQL"

def extension : Language → String
  | .javaScript => "js"
  | .python => "py"
  | .java => "java"
  | .cpp => "cpp"
  | .html => "html"
  | .css => "css"
  | .json => "json"
  | .sql => "sql"

def ofAlias? : String → Option Language
  | "javascript" | "js" | "node" => some .javaScript
  | "python" | "py" | "python3" => some .python
  | "java" => some .java
  | "cpp" | "c++" | "cxx" => some .cpp
  | "html" => some .html
  | "css" => some .css
  | "json" => some .json
  | "sql" => some .sql
  | _ => none

def parse? (name : String) : Option Language :=
  ofAlias? (String.ofList (Text.lowerAscii (Text.trim name.toList)))

def unknownMessage (name : String) : String := s!"unknown language '{name}'"

def ofExtension? (extension : String) : Option Language :=
  let letters := extension.toList.dropWhile (· == '.')
  match String.ofList (Text.lowerAscii letters) with
  | "js" | "mjs" | "cjs" => some .javaScript
  | "py" => some .python
  | "java" => some .java
  | "cpp" | "cc" | "cxx" | "hpp" | "h" => some .cpp
  | "html" | "htm" => some .html
  | "css" => some .css
  | "json" => some .json
  | "sql" => some .sql
  | _ => none

end Language

/- How the programs of a language are treated: evaluated here, run by the embedded interpreter, checked here
and run remotely, or only shown and analysed. -/
inductive Strategy where
  | direct | embedded | heuristicRemote | passive
  deriving DecidableEq, Repr

namespace Strategy

def ofLanguage : Language → Strategy
  | .javaScript => .direct
  | .python => .embedded
  | .java | .cpp => .heuristicRemote
  | .html | .css | .json | .sql => .passive

def name : Strategy → String
  | .direct => "direct"
  | .embedded => "embedded"
  | .heuristicRemote => "heuristic-remote"
  | .passive => "passive"

end Strategy
end Playground
