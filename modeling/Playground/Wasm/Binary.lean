import Playground.Text.Utf8
import Playground.Wasm.Module

/-! Modules in the binary format: a header, then sections in ascending order, each with its length.
Functions with empty bodies are read, and those that do nothing but trap. -/
namespace Playground.Wasm.Binary

abbrev Bytes := List UInt8

def readNumber : (groups : Nat) → Bytes → Option (Nat × Bytes)
  | 0,_ => none
  | _ + 1,[] => none
  | groups + 1,b :: rest =>
    if b < 128 then some (b.toNat,rest)
    else (readNumber groups rest).map fun (high,rest) => (b.toNat - 128 + 128 * high,rest)

def readCount (bytes : Bytes) : Option (Nat × Bytes) := do
  let (n,rest) ← readNumber 5 bytes
  if n < 0x100000000 then some (n,rest) else none

def readByte : Bytes → Option (Nat × Bytes)
  | [] => none
  | b :: rest => some (b.toNat,rest)

def readBlock (bytes : Bytes) : Option (Bytes × Bytes) := do
  let (length,rest) ← readCount bytes
  if rest.length < length then none else some (rest.take length,rest.drop length)

def readName (bytes : Bytes) : Option (String × Bytes) := do
  let (name,rest) ← readBlock bytes
  let text ← Text.decode? name
  return (text,rest)

def readMany (read : Bytes → Option (α × Bytes)) : Nat → Bytes → Option (List α × Bytes)
  | 0,bytes => some ([],bytes)
  | n + 1,bytes => do
    let (item,rest) ← read bytes
    let (items,rest) ← readMany read n rest
    return (item :: items,rest)

/- A vector, whose length is never greater than that of the bytes. -/
def readVector (read : Bytes → Option (α × Bytes)) (bytes : Bytes) : Option (List α × Bytes) := do
  let (count,rest) ← readCount bytes
  if rest.length < count then none else readMany read count rest

def isValueType (code : Nat) : Bool := [0x7f,0x7e,0x7d,0x7c,0x7b,0x70,0x6f].contains code

def readValueType (bytes : Bytes) : Option (Nat × Bytes) := do
  let (code,rest) ← readByte bytes
  if isValueType code then some (code,rest) else none

structure Signature where
  parameters : List Nat
  results : List Nat
  deriving DecidableEq, Repr

def Signature.isPlain (s : Signature) : Bool := s.parameters.isEmpty && s.results.isEmpty

def readSignature (bytes : Bytes) : Option (Signature × Bytes) := do
  let (form,rest) ← readByte bytes
  if form = 0x60 then do
    let (parameters,rest) ← readVector readValueType rest
    let (results,rest) ← readVector readValueType rest
    return ({ parameters,results },rest)
  else none

def readLimits (bytes : Bytes) : Option (Nat × Bytes) := do
  let (kind,rest) ← readByte bytes
  let (least,rest) ← readCount rest
  match kind with
  | 0 => return (least,rest)
  | 1 => do
    let (most,rest) ← readCount rest
    if least ≤ most then some (least,rest) else none
  | _ => none

def pageLimit : Nat := 65536

def readMemory (bytes : Bytes) : Option (Nat × Bytes) := do
  let (pages,rest) ← readLimits bytes
  if pages ≤ pageLimit then some (pages,rest) else none

inductive ImportKind where
  | function (signature : Nat)
  | table
  | memory (pages : Nat)
  | global
  deriving DecidableEq, Repr

structure Import where
  name : String
  kind : ImportKind
  deriving DecidableEq, Repr

def readImportKind (bytes : Bytes) : Option (ImportKind × Bytes) := do
  let (kind,rest) ← readByte bytes
  match kind with
  | 0 => do
    let (signature,rest) ← readCount rest
    return (.function signature,rest)
  | 1 => do
    let (element,rest) ← readByte rest
    let (_,rest) ← readLimits rest
    if element = 0x70 || element = 0x6f then some (.table,rest) else none
  | 2 => do
    let (pages,rest) ← readMemory rest
    return (.memory pages,rest)
  | 3 => do
    let (_,rest) ← readValueType rest
    let (mutability,rest) ← readByte rest
    if mutability ≤ 1 then some (.global,rest) else none
  | _ => none

def readImport (bytes : Bytes) : Option (Import × Bytes) := do
  let (module,rest) ← readName bytes
  let (name,rest) ← readName rest
  let (kind,rest) ← readImportKind rest
  return ({ name := importName module name, kind },rest)

structure Export where
  name : String
  kind : Nat
  index : Nat
  deriving DecidableEq, Repr

def readExport (bytes : Bytes) : Option (Export × Bytes) := do
  let (name,rest) ← readName bytes
  let (kind,rest) ← readByte rest
  let (index,rest) ← readCount rest
  return ({ name,kind,index },rest)

def readLocals (bytes : Bytes) : Option (Unit × Bytes) := do
  let (_,rest) ← readCount bytes
  let (_,rest) ← readValueType rest
  return ((),rest)

def readInstructions : Bytes → Option (List Step)
  | [0x0b] => some []
  | 0x00 :: rest => (readInstructions rest).map (.trap .unreachable :: ·)
  | 0x01 :: rest => readInstructions rest
  | _ => none

def readBody (bytes : Bytes) : Option (List Step × Bytes) := do
  let (body,rest) ← readBlock bytes
  let (_,instructions) ← readVector readLocals body
  return (← readInstructions instructions,rest)

structure Sections where
  latest : Nat := 0
  signatures : List Signature := []
  imports : List Import := []
  functions : List Nat := []
  memories : List Nat := []
  exported : List Export := []
  bodies : List (List Step) := []

namespace Sections

def whole (outcome : Option (α × Bytes)) : Option α :=
  match outcome with
  | some (a,[]) => some a
  | _ => none

def add (s : Sections) (id : Nat) (content : Bytes) : Option Sections := do
  if id = 0 then
    let _ ← readName content
    return s
  else if id ≤ s.latest then none
  else
    let s := { s with latest := id }
    match id with
    | 1 => return { s with signatures := ← whole (readVector readSignature content) }
    | 2 => return { s with imports := ← whole (readVector readImport content) }
    | 3 => return { s with functions := ← whole (readVector readCount content) }
    | 5 => return { s with memories := ← whole (readVector readMemory content) }
    | 7 => return { s with exported := ← whole (readVector readExport content) }
    | 10 => return { s with bodies := ← whole (readVector readBody content) }
    | _ => none

def read : (fuel : Nat) → Sections → Bytes → Option Sections
  | 0,_,_ => none
  | _ + 1,s,[] => some s
  | fuel + 1,s,bytes => do
    let (id,rest) ← readByte bytes
    let (content,rest) ← readBlock rest
    read fuel (← s.add id content) rest

def importedSignatures (s : Sections) : List Nat :=
  s.imports.filterMap fun i => match i.kind with
    | .function signature => some signature
    | _ => none

def importedPages (s : Sections) : List Nat :=
  s.imports.filterMap fun i => match i.kind with
    | .memory pages => some pages
    | _ => none

/- Functions are counted with the imported ones first. -/
def functionSignatures (s : Sections) : List Nat := s.importedSignatures ++ s.functions

def exportExists (s : Sections) (e : Export) : Bool :=
  match e.kind with
  | 0 => e.index < s.functionSignatures.length
  | 1 => e.index < (s.imports.map Import.kind).count .table
  | 2 => e.index < s.memories.length + s.importedPages.length
  | 3 => e.index < (s.imports.map Import.kind).count .global
  | _ => false

def bodyFits (s : Sections) (signature : Nat) (body : List Step) : Bool :=
  match s.signatures[signature]? with
  | some known => known.results.isEmpty || !body.isEmpty
  | none => false

def isValid (s : Sections) : Bool :=
  s.functionSignatures.all (· < s.signatures.length)
    && s.functions.length = s.bodies.length
    && (s.functions.zip s.bodies).all (fun (signature,body) => s.bodyFits signature body)
    && s.exported.all s.exportExists
    && (s.exported.map Export.name).Nodup

def entry (s : Sections) : Option (List Step) := do
  let start ← s.exported.find? fun e => e.name == entryName && e.kind == 0
  let signature ← s.signatures[← s.functionSignatures[start.index]?]?
  let imported := s.importedSignatures.length
  if signature.isPlain then
    if start.index < imported then some [] else s.bodies[start.index - imported]?
  else none

def toModule (s : Sections) (code : Bytes) : Module where
  code
  imports := s.imports.length
  missing := s.imports.head?.map Import.name
  memoryBytes := (s.memories ++ s.importedPages).foldl max 0 * pageBytes
  entry := s.entry

end Sections

def module? (bytes : Bytes) : Option Module :=
  let header := magic ++ version
  if header.isPrefixOf bytes then do
    let body := bytes.drop header.length
    let sections ← Sections.read (body.length + 1) {} body
    if sections.isValid then some (sections.toModule bytes) else none
  else none

end Playground.Wasm.Binary
