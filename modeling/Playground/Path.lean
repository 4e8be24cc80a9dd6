import Playground.Language

/-! File paths as texts: their components, file name and extension. -/
namespace Playground.Path

inductive Component where
  | root
  | parent
  | name (text : List Char)
  deriving DecidableEq, Repr

def components (path : String) : List Component :=
  let parts := path.toList.splitOn '/'
  let named := parts.filterMap fun part =>
    if part = [] ∨ part = ['.'] then none
    else if part = ['.','.'] then some .parent
    else some (.name part)
  if path.toList.head? = some '/' then .root :: named else named

def fileName? (path : String) : Option (List Char) :=
  match (components path).getLast? with
  | some (.name text) => some text
  | _ => none

/- What stands after the last dot of the file name; a dot at its start begins no extension. -/
def extension? (path : String) : Option String := do
  let name ← fileName? path
  let pieces := name.splitOn '.'
  if pieces.length < 2 then none
  else if pieces.length = 2 ∧ pieces.head? = some [] then none
  else pieces.getLast?.map String.ofList

def language? (path : String) : Option Language := do
  let extension ← extension? path
  Language.ofExtension? extension

end Playground.Path
