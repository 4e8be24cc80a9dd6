import Playground.Text.WordTable

/-! Character classes and the elementary operations on character lists: trimming, searching and
cutting. Blanks are the characters with the Unicode property White_Space. -/
namespace Playground.Text

def inRanges (ranges : List (Nat × Nat)) (c : Char) : Bool :=
  ranges.any fun r => decide (r.1 ≤ c.toNat) && decide (c.toNat ≤ r.2)

def blankRanges : List (Nat × Nat) :=
  [(0x9,0xd),(0x20,0x20),(0x85,0x85),(0xa0,0xa0),(0x1680,0x1680),(0x2000,0x200a),
    (0x2028,0x2029),(0x202f,0x202f),(0x205f,0x205f),(0x3000,0x3000)]

def isBlank (c : Char) : Bool := inRanges blankRanges c

def isAsciiAlphanumeric (c : Char) : Bool := c.isAlphanum

def isAlphanumeric (c : Char) : Bool :=
  if c.toNat < 128 then c.isAlphanum
  else inRanges WordTable.alphabetic c || inRanges WordTable.decimal c ||
    inRanges WordTable.otherNumber c

def isIdentifierChar (c : Char) : Bool := isAlphanumeric c || c == '_'

def isWordChar (c : Char) : Bool :=
  if c.toNat < 128 then c.isAlphanum || c == '_'
  else inRanges WordTable.alphabetic c || inRanges WordTable.mark c ||
    inRanges WordTable.decimal c || inRanges WordTable.connector c ||
    inRanges WordTable.joinControl c

def dropEndWhile (p : Char → Bool) (t : List Char) : List Char := (t.reverse.dropWhile p).reverse

def trimStart (t : List Char) : List Char := t.dropWhile isBlank

def trimEnd (t : List Char) : List Char := dropEndWhile isBlank t

def trim (t : List Char) : List Char := trimEnd (trimStart t)

def allBlank (t : List Char) : Bool := t.all isBlank

def stripEnd (c : Char) (t : List Char) : List Char :=
  if t.getLast? = some c then t.dropLast else t

def breakAt (needle : List Char) : List Char → Option (List Char × List Char) :=
  go []
where
  go (passed : List Char) : List Char → Option (List Char × List Char)
    | [] => if needle.isEmpty then some (passed.reverse,[]) else none
    | c :: rest =>
      if needle.isPrefixOf (c :: rest) then some (passed.reverse,c :: rest)
      else go (c :: passed) rest

def contains (needle text : List Char) : Bool := (breakAt needle text).isSome

def splitOnce (mark text : List Char) : Option (List Char × List Char) :=
  (breakAt mark text).map fun (before,rest) => (before,rest.drop mark.length)

/- Lines end at a newline; a carriage return before the newline belongs to the line end. Text after the last
newline is a line of its own unless it is empty. -/
def lines (t : List Char) : List (List Char) :=
  let pieces := t.splitOn '\n'
  let ended := pieces.dropLast.map (stripEnd '\r')
  match pieces.getLast? with
  | some (c :: rest) => ended ++ [c :: rest]
  | _ => ended

def lowerAscii (t : List Char) : List Char := t.map Char.toLower

def upperAscii (t : List Char) : List Char := t.map Char.toUpper

def trimmed (s : String) : String := String.ofList (trim s.toList)

def isBlankString (s : String) : Bool := allBlank s.toList

end Playground.Text
