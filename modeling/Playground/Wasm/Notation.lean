import Playground.Text.Basic
import Playground.Wasm.Binary

/-! Modules in the text format: nested lists of words and strings. A module is a list of fields;
functions with empty bodies, imports, signatures, memories and exports are read. -/
namespace Playground.Wasm.Notation

inductive Token where
  | opening
  | closing
  | word (text : String)
  | string (text : String)
  deriving DecidableEq, Repr

def isWordEnd (c : Char) : Bool :=
  c == '(' || c == ')' || c == '\x22' || c == ';' || c == ' ' || c == '\t' || c == '\n' || c == '\x0d'

def skipBlock : (depth : Nat) → List Char → Option (List Char)
  | 0,text => some text
  | _ + 1,[] => none
  | depth + 1,'(' :: ';' :: rest => skipBlock (depth + 2) rest
  | depth + 1,';' :: ')' :: rest => skipBlock depth rest
  | depth + 1,_ :: rest => skipBlock (depth + 1) rest
termination_by _ text => text.length

def readString (seen : List Char) : List Char → Option (String × List Char)
  | '\x22' :: rest => some (String.ofList seen.reverse,rest)
  | '\\' :: c :: rest => readString (c :: '\\' :: seen) rest
  | c :: rest => if c.toNat < 32 then none else readString (c :: seen) rest
  | [] => none

def tokens : (fuel : Nat) → List Char → Option (List Token)
  | 0,_ => none
  | _ + 1,[] => some []
  | fuel + 1,';' :: ';' :: rest => tokens fuel (rest.dropWhile (· != '\n'))
  | fuel + 1,'(' :: ';' :: rest => do tokens fuel (← skipBlock 1 rest)
  | fuel + 1,'(' :: rest => (tokens fuel rest).map (.opening :: ·)
  | fuel + 1,')' :: rest => (tokens fuel rest).map (.closing :: ·)
  | fuel + 1,'\x22' :: rest => do
    let (text,rest) ← readString [] rest
    return .string text :: (← tokens fuel rest)
  | fuel + 1,c :: rest =>
    if c == ' ' || c == '\t' || c == '\n' || c == '\x0d' then tokens fuel rest
    else
      let word := (c :: rest).takeWhile fun c => !isWordEnd c
      if word.isEmpty || word.any (fun c => c.toNat < 33 || 126 < c.toNat) then none
      else (tokens fuel ((c :: rest).drop word.length)).map (.word (String.ofList word) :: ·)

inductive Term where
  | word (text : String)
  | string (text : String)
  | list (items : List Term)

def readTerms : (fuel : Nat) → (seen : List Term) → List Token → Option (List Term × List Token)
  | 0,_,_ => none
  | _ + 1,seen,[] => some (seen.reverse,[])
  | _ + 1,seen,.closing :: rest => some (seen.reverse,.closing :: rest)
  | fuel + 1,seen,.word text :: rest => readTerms fuel (.word text :: seen) rest
  | fuel + 1,seen,.string text :: rest => readTerms fuel (.string text :: seen) rest
  | fuel + 1,seen,.opening :: rest =>
    match readTerms fuel [] rest with
    | some (items,.closing :: rest) => readTerms fuel (.list items :: seen) rest
    | _ => none

def terms? (text : String) : Option (List Term) := do
  let chars := text.toList
  let tokens ← tokens (chars.length + 1) chars
  match ← readTerms (tokens.length + 1) [] tokens with
  | (terms,[]) => some terms
  | _ => none

def isName (text : String) : Bool := text.startsWith "$" && text != "$"

def dropName : List Term → List Term
  | .word text :: rest => if isName text then rest else .word text :: rest
  | terms => terms

def isValueTypeName (text : String) : Bool :=
  ["i32","i64","f32","f64","v128","funcref","externref"].contains text

def valueTypes? (terms : List Term) : Option (List String) :=
  terms.mapM fun term => match term with
    | .word text => if isValueTypeName text then some text else none
    | _ => none

structure Function where
  exported : List String := []
  imported : Option String := none
  parameters : List String := []
  results : List String := []
  steps : List Step := []

def readFunction : Function → List Term → Option Function
  | f,[] => some f
  | f,.list [.word "export",.string name] :: rest =>
    readFunction { f with exported := f.exported ++ [name] } rest
  | f,.list [.word "import",.string module,.string name] :: rest =>
    readFunction { f with imported := some (importName module name) } rest
  | f,.list (.word "param" :: types) :: rest => do
    let types ← valueTypes? (dropName types)
    readFunction { f with parameters := f.parameters ++ types } rest
  | f,.list (.word "result" :: types) :: rest => do
    let types ← valueTypes? types
    readFunction { f with results := f.results ++ types } rest
  | f,.list (.word "local" :: types) :: rest => do
    let _ ← valueTypes? (dropName types)
    readFunction f rest
  | f,.word "nop" :: rest => readFunction f rest
  | f,.list [.word "nop"] :: rest => readFunction f rest
  | f,.word "unreachable" :: rest =>
    readFunction { f with steps := f.steps ++ [.trap .unreachable] } rest
  | f,.list [.word "unreachable"] :: rest =>
    readFunction { f with steps := f.steps ++ [.trap .unreachable] } rest
  | _,_ => none

def Function.isValid (f : Function) : Bool :=
  if f.imported.isSome then f.steps.isEmpty else f.results.isEmpty || !f.steps.isEmpty

def number? (text : String) : Option Nat :=
  if !text.isEmpty && text.toList.all Char.isDigit then text.toNat? else none

def memoryPages? : List Term → Option Nat
  | [.word least] => do
    let least ← number? least
    if least ≤ Binary.pageLimit then some least else none
  | [.word least,.word most] => do
    let least ← number? least
    let most ← number? most
    if least ≤ most && most ≤ Binary.pageLimit then some least else none
  | _ => none

def importKindFits : List Term → Bool
  | .word "func" :: rest => (readFunction {} (dropName rest)).any fun f => f.steps.isEmpty && f.exported.isEmpty
  | .word "memory" :: rest => (memoryPages? (dropName rest)).isSome
  | .word "global" :: rest =>
    match dropName rest with
    | [.word type] => isValueTypeName type
    | [.list [.word "mut",.word type]] => isValueTypeName type
    | _ => false
  | .word "table" :: rest =>
    match dropName rest with
    | [.word least,.word "funcref"] => (number? least).isSome
    | _ => false
  | _ => false

def addFunction (m : Module) (f : Function) : Module :=
  let m := f.imported.elim m m.addImport
  if f.exported.contains entryName && f.parameters.isEmpty && f.results.isEmpty then
    { m with entry := some f.steps }
  else m

def addField (m : Module) : Term → Option Module
  | .list (.word "func" :: rest) => do
    let f ← readFunction {} (dropName rest)
    if f.isValid then some (addFunction m f) else none
  | .list [.word "import",.string module,.string name,.list kind] =>
    if importKindFits kind then some (m.addImport (importName module name)) else none
  | .list (.word "memory" :: rest) => do
    let pages ← memoryPages? (dropName rest)
    return { m with memoryBytes := max m.memoryBytes (pages * pageBytes) }
  | .list (.word "type" :: rest) =>
    match dropName rest with
    | [.list (.word "func" :: parts)] =>
      if (readFunction {} parts).isSome then some m else none
    | _ => none
  | _ => none

def addFields (m : Module) (fields : List Term) : Option Module := fields.foldlM addField m

def module? (text : String) : Option Module := do
  let start : Module := { code := Text.encode text }
  match ← terms? text with
  | [.list (.word "module" :: rest)] => addFields start (dropName rest)
  | [] => none
  | fields => addFields start fields

end Playground.Wasm.Notation
