import Playground.Text.Basic

/-! Media types: a type and a subtype, which may end in a suffix, and parameters after semicolons. -/
namespace Playground.Server

structure MediaType where
  type : List Char
  subtype : List Char
  suffix : Option (List Char) := none
  deriving DecidableEq, Repr

namespace MediaType

def isToken (c : Char) : Bool := c.isAlphanum || "!#$%&'-.^_`|~*".toList.contains c

def splitSuffix (subtype : List Char) : List Char × Option (List Char) :=
  let pieces := subtype.splitOn '+'
  match pieces.dropLast,pieces.getLast? with
  | [],_ => (subtype,none)
  | front,last => (List.intercalate ['+'] front,last)

def isQuotedChar (c : Char) : Bool := 31 < c.toNat && c.toNat != 127

def dropQuoted : List Char → Option (List Char)
  | [] => none
  | '"' :: rest => some rest
  | '\\' :: c :: rest => if isQuotedChar c then dropQuoted rest else none
  | c :: rest => if isQuotedChar c then dropQuoted rest else none

def parameterName (text : List Char) : Option (List Char) :=
  match text.dropWhile isToken with
  | '=' :: rest => if (text.takeWhile isToken).isEmpty then none else some rest
  | _ => none

def areParameters : (fuel : Nat) → List Char → Bool
  | 0,_ => false
  | _ + 1,[] => true
  | fuel + 1,' ' :: rest => areParameters fuel rest
  | fuel + 1,text =>
    match parameterName text with
    | none => false
    | some ('"' :: rest) =>
      match dropQuoted rest with
      | some [] => true
      | some (';' :: rest) => areParameters fuel rest
      | _ => false
    | some value =>
      match value.dropWhile isToken with
      | [] => true
      | ';' :: rest => !(value.takeWhile isToken).isEmpty && areParameters fuel rest
      | _ => false

def parse? (text : String) : Option MediaType := do
  let chars := text.toList
  let type := chars.takeWhile isToken
  let rest ← match chars.dropWhile isToken with
    | '/' :: rest => some rest
    | _ => none
  let isSubtypeChar (c : Char) : Bool := isToken c || c == '+'
  let subtype := rest.takeWhile isSubtypeChar
  let parameters := rest.dropWhile isSubtypeChar
  if type.isEmpty || subtype.isEmpty || subtype.head? = some '+' then none
  else
    let (subtype,suffix) := splitSuffix (Text.lowerAscii subtype)
    let found : MediaType := { type := Text.lowerAscii type, subtype, suffix }
    match parameters with
    | [] => some found
    | ';' :: parameters =>
      if areParameters (parameters.length + 1) parameters then some found else none
    | _ => none

def isJson (found : MediaType) : Bool :=
  found.type == "application".toList &&
    (found.subtype == "json".toList || found.suffix == some "json".toList)

end MediaType
end Playground.Server
