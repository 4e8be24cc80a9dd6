import Playground.Json.Printer

/-! Texts of scripts. A text is a list of 16-bit units; a unit that is half of a character may stand
alone. -/
namespace Playground.Script

abbrev Units := List UInt16

namespace Units

def ofChar (c : Char) : Units :=
  let n := c.toNat
  if n < 0x10000 then [UInt16.ofNat n]
  else [UInt16.ofNat (0xd800 + (n - 0x10000) / 0x400),UInt16.ofNat (0xdc00 + (n - 0x10000) % 0x400)]

def ofString (text : String) : Units := text.toList.flatMap ofChar

def isHighHalf (u : UInt16) : Bool := 0xd800 ≤ u && u < 0xdc00

def isLowHalf (u : UInt16) : Bool := 0xdc00 ≤ u && u < 0xe000

inductive Piece where
  | char (c : Char)
  | half (unit : UInt16)
  deriving DecidableEq, Repr

def joined (high low : UInt16) : Char :=
  Char.ofNat (0x10000 + (high.toNat - 0xd800) * 0x400 + (low.toNat - 0xdc00))

def single (u : UInt16) : Piece :=
  if isHighHalf u || isLowHalf u then .half u else .char (Char.ofNat u.toNat)

def pieces : Units → List Piece
  | [] => []
  | [u] => [single u]
  | u :: v :: rest =>
    if isHighHalf u && isLowHalf v then .char (joined u v) :: pieces rest
    else single u :: pieces (v :: rest)

def Piece.char? : Piece → Option Char
  | .char c => some c
  | .half _ => none

def text? (units : Units) : Option String := (units.pieces.mapM Piece.char?).map String.ofList

def Piece.quoted : Piece → List Char
  | .char c => Json.escapeChar c
  | .half unit =>
    let n := unit.toNat
    ['\\','u',Json.hexDigit (n / 0x1000),Json.hexDigit (n / 0x100 % 16),
      Json.hexDigit (n / 0x10 % 16),Json.hexDigit (n % 16)]

def quoted (units : Units) : String :=
  "\"" ++ String.ofList (units.pieces.flatMap Piece.quoted) ++ "\""

end Units
end Playground.Script
