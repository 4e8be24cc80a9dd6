import Playground.Toml.Value

/-! Tables under construction. A table knows how it came about, since each may be defined only once:
by a header, by dotted keys, or only as a part of somebody else's path. -/
namespace Playground.Toml

inductive Origin where
  | header | dotted | implied
  deriving DecidableEq, Repr

inductive Item where
  | leaf (value : Toml)
  | table (origin : Origin) (entries : List (String × Item))
  | tables (earlier : List (List (String × Item))) (last : List (String × Item))

abbrev Entries := List (String × Item)

def Entries.put (entries : Entries) (key : String) (item : Item) : Entries :=
  if (entries.lookup key).isSome then
    entries.map fun (k,old) => if k == key then (k,item) else (k,old)
  else entries ++ [(key,item)]

/- The table at the end of a path, and its origin, is changed; tables on the way that are missing come about
by the path. Dotted keys may not go through tables that a header defined. -/
def Entries.changeAt (entries : Entries) (origin : Origin) (dotted : Bool)
    (change : Origin → Entries → Option Entries) : List String → Option Entries
  | [] => change origin entries
  | key :: path =>
    match entries.lookup key with
    | none => do
      let fresh := if dotted then Origin.dotted else .implied
      let inner ← Entries.changeAt [] fresh dotted change path
      return entries.put key (.table fresh inner)
    | some (.leaf _) => none
    | some (.table known inner) =>
      if dotted && known == .header then none
      else do
        let inner ← Entries.changeAt inner known dotted change path
        return entries.put key (.table known inner)
    | some (.tables earlier last) => do
      let last ← Entries.changeAt last .header dotted change path
      return entries.put key (.tables earlier last)

def Entries.addNew (key : String) (item : Item) (entries : Entries) : Option Entries :=
  if (entries.lookup key).isSome then none else some (entries ++ [(key,item)])

def Entries.define (name : String) (entries : Entries) : Option Entries :=
  match entries.lookup name with
  | none => some (entries ++ [(name,.table .header [])])
  | some (.table .implied inner) => some (Entries.put entries name (.table .header inner))
  | some _ => none

structure Table where
  entries : Entries := []

namespace Table

def assignAt (table : Table) (path : List String) (key : List String) (value : Toml) :
    Option Table := do
  let name ← key.getLast?
  let front := key.dropLast
  let entries ← table.entries.changeAt .header false (fun origin entries =>
    entries.changeAt origin true (fun origin entries =>
      if !front.isEmpty && origin != .dotted then none
      else Entries.addNew name (.leaf value) entries) front) path
  return { entries }

def assign (table : Table) (key : List String) (value : Toml) : Option Table :=
  table.assignAt [] key value

def openTable (table : Table) (path : List String) : Option Table := do
  let name ← path.getLast?
  let entries ← table.entries.changeAt .header false (fun _ => Entries.define name) path.dropLast
  return { entries }

def openElement (table : Table) (path : List String) : Option Table := do
  let name ← path.getLast?
  let entries ← table.entries.changeAt .header false (fun _ entries =>
    match entries.lookup name with
    | none => some (entries ++ [(name,.tables [] [])])
    | some (.tables earlier last) => some (Entries.put entries name (.tables (earlier ++ [last]) []))
    | some _ => none) path.dropLast
  return { entries }

end Table

mutual

def Item.value : Item → Toml
  | .leaf value => value
  | .table _ entries => .table (entriesValue entries)
  | .tables earlier last => .array (tablesValue earlier ++ [.table (entriesValue last)])

def entriesValue : List (String × Item) → List (String × Toml)
  | [] => []
  | (key,item) :: rest => (key,item.value) :: entriesValue rest

def tablesValue : List (List (String × Item)) → List Toml
  | [] => []
  | entries :: rest => .table (entriesValue entries) :: tablesValue rest

end

def Table.value (table : Table) : Toml := .table (entriesValue table.entries)

end Playground.Toml
