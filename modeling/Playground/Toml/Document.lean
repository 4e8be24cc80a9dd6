import Playground.Toml.Reader

/-! Whole configuration texts: lines with a key and its value, below the headers of tables. -/
namespace Playground.Toml

structure Document where
  table : Table := {}
  path : List String := []

namespace Document

def readLineEnd (t : List Char) : Option (List Char) :=
  match skipComment (skipSpace t) with
  | [] => some []
  | t => readNewline t

def readHeader (d : Document) (t : List Char) : Option (Document × List Char) := do
  let (path,rest) ← readKey t
  let rest ← readMark ']' rest
  return ({ table := ← d.table.openTable path, path },rest)

def readElementHeader (d : Document) (t : List Char) : Option (Document × List Char) := do
  let (path,rest) ← readKey t
  let rest ← readMark ']' (← readMark ']' rest)
  return ({ table := ← d.table.openElement path, path },rest)

def readAssignment (d : Document) (t : List Char) : Option (Document × List Char) := do
  let ((key,value),rest) ← readPair (readValue depthLimit) t
  return ({ d with table := ← d.table.assignAt d.path key value },rest)

def readLine (d : Document) (t : List Char) : Option (Document × List Char) :=
  match skipSpace t with
  | '[' :: '[' :: rest => readElementHeader d rest
  | '[' :: rest => readHeader d rest
  | t =>
    match t with
    | [] => some (d,t)
    | c :: _ => if c == '#' || (readNewline t).isSome then some (d,t) else readAssignment d t

def readLines : (fuel : Nat) → Document → List Char → Option Document
  | 0,_,_ => none
  | _ + 1,d,[] => some d
  | fuel + 1,d,t => do
    let (d,rest) ← d.readLine t
    readLines fuel d (← readLineEnd rest)

end Document

def dropMark (t : List Char) : List Char := if t.head? = some '\ufeff' then t.drop 1 else t

def table? (text : String) : Option Table :=
  let t := dropMark text.toList
  (Document.readLines (t.length + 1) {} t).map Document.table

def parse? (text : String) : Option (List (String × Toml)) :=
  (table? text).map fun table => entriesValue table.entries

end Playground.Toml
