import Playground.Json.Value
import Playground.Number.Shortest

/-! The written forms of JSON values: a compact one and one with two spaces of indent per level. -/
namespace Playground.Json

/- Positional notation covers sixteen places before the point and four zeros after it; whole numbers keep a
fraction, and large exponents have a plus sign. -/
def numberLayout : Number.Layout where
  leastPoint := -4
  greatestPoint := 16
  wholeFraction := true
  plusSign := true

def floatText (x : Float) : String :=
  match Playground.Number.partsOf x with
  | .nan | .infinite _ => "null"
  | .finite negative mantissa exponent =>
    let magnitude :=
      if mantissa = 0 then "0.0" else (Playground.Number.shortest mantissa exponent).render numberLayout
    (if negative then "-" else "") ++ magnitude

def Number.text : Number → String
  | .int value => toString value
  | .float value => floatText value

def hexDigit (n : Nat) : Char := (Nat.digitChar n)

def escapeChar (c : Char) : List Char :=
  match c with
  | '"' => ['\\','"']
  | '\\' => ['\\','\\']
  | '\n' => ['\\','n']
  | '\r' => ['\\','r']
  | '\t' => ['\\','t']
  | '\x08' => ['\\','b']
  | '\x0c' => ['\\','f']
  | c =>
    if c.toNat < 32 then
      ['\\','u','0','0',hexDigit (c.toNat / 16),hexDigit (c.toNat % 16)]
    else [c]

def quoted (s : String) : String := "\"" ++ String.ofList (s.toList.flatMap escapeChar) ++ "\""

mutual

def compact : Json → String
  | .null => "null"
  | .bool true => "true"
  | .bool false => "false"
  | .number n => n.text
  | .string s => quoted s
  | .array items => "[" ++ compactItems items ++ "]"
  | .object members => "\x7b" ++ compactMembers members ++ "\x7d"

def compactItems : List Json → String
  | [] => ""
  | [item] => compact item
  | item :: rest => compact item ++ "," ++ compactItems rest

def compactMembers : List (String × Json) → String
  | [] => ""
  | [(key,value)] => quoted key ++ ":" ++ compact value
  | (key,value) :: rest => quoted key ++ ":" ++ compact value ++ "," ++ compactMembers rest

end

def newline (level : Nat) : String := "\n" ++ String.ofList (List.replicate (2 * level) ' ')

mutual

def pretty (level : Nat) : Json → String
  | .null => "null"
  | .bool true => "true"
  | .bool false => "false"
  | .number n => n.text
  | .string s => quoted s
  | .array [] => "[]"
  | .array (item :: rest) =>
    "[" ++ prettyItems (level + 1) (item :: rest) ++ newline level ++ "]"
  | .object [] => "\x7b\x7d"
  | .object (member :: rest) =>
    "\x7b" ++ prettyMembers (level + 1) (member :: rest) ++ newline level ++ "\x7d"

def prettyItems (level : Nat) : List Json → String
  | [] => ""
  | [item] => newline level ++ pretty level item
  | item :: rest => newline level ++ pretty level item ++ "," ++ prettyItems level rest

def prettyMembers (level : Nat) : List (String × Json) → String
  | [] => ""
  | [(key,value)] => newline level ++ quoted key ++ ": " ++ pretty level value
  | (key,value) :: rest =>
    newline level ++ quoted key ++ ": " ++ pretty level value ++ "," ++ prettyMembers level rest

end
end Playground.Json
