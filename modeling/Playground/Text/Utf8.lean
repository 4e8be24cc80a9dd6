import Playground.Text.Basic

/-! Bytes as UTF-8 text. Decoding keeps what is no character as stray bytes, one group for each
longest beginning of a character that goes no further. -/
namespace Playground.Text

inductive Glyph where
  | char (c : Char)
  | stray (bytes : List UInt8)
  deriving DecidableEq, Repr

namespace Glyph

def width : Glyph → Nat
  | .char c => c.utf8Size
  | .stray bytes => bytes.length

def isStray : Glyph → Bool
  | .char _ => false
  | .stray _ => true

def toChar : Glyph → Char
  | .char c => c
  | .stray _ => '\ufffd'

end Glyph

/- A decoder that has seen part of a character: `code` is its value so far, `missing` bytes are still to come
and the next one lies between `low` and `high`. -/
structure Decoder where
  pending : List UInt8 := []
  missing : Nat := 0
  low : Nat := 0x80
  high : Nat := 0xbf
  code : Nat := 0
  decoded : List Glyph := []

namespace Decoder

def start (d : Decoder) (b : UInt8) : Decoder :=
  let n := b.toNat
  let first (missing low high code : Nat) : Decoder :=
    { pending := [b], missing, low, high, code, decoded := d.decoded }
  if n < 0x80 then { decoded := .char (Char.ofNat n) :: d.decoded }
  else if n < 0xc2 then { decoded := .stray [b] :: d.decoded }
  else if n < 0xe0 then first 1 0x80 0xbf (n % 32)
  else if n = 0xe0 then first 2 0xa0 0xbf (n % 16)
  else if n = 0xed then first 2 0x80 0x9f (n % 16)
  else if n < 0xf0 then first 2 0x80 0xbf (n % 16)
  else if n = 0xf0 then first 3 0x90 0xbf (n % 8)
  else if n < 0xf4 then first 3 0x80 0xbf (n % 8)
  else if n = 0xf4 then first 3 0x80 0x8f (n % 8)
  else { decoded := .stray [b] :: d.decoded }

def giveUp (d : Decoder) : Decoder :=
  if d.missing = 0 then d else { decoded := .stray d.pending.reverse :: d.decoded }

def step (d : Decoder) (b : UInt8) : Decoder :=
  if d.missing = 0 then d.start b
  else if d.low ≤ b.toNat ∧ b.toNat ≤ d.high then
    let code := d.code * 64 + b.toNat % 64
    if d.missing = 1 then { decoded := .char (Char.ofNat code) :: d.decoded }
    else { pending := b :: d.pending, missing := d.missing - 1, code, decoded := d.decoded }
  else d.giveUp.start b

end Decoder

def decode (bytes : List UInt8) : List Glyph :=
  let start : Decoder := {}
  (bytes.foldl Decoder.step start).giveUp.decoded.reverse

def glyphs (text : List Char) : List Glyph := text.map .char

def decodeLossy (bytes : List UInt8) : String := String.ofList ((decode bytes).map Glyph.toChar)

def decode? (bytes : List UInt8) : Option String :=
  let found := decode bytes
  if found.any Glyph.isStray then none else some (String.ofList (found.map Glyph.toChar))

structure Flaw where
  index : Nat
  length : Option Nat
  deriving DecidableEq, Repr

def Flaw.message (flaw : Flaw) : String :=
  match flaw.length with
  | some n => s!"invalid utf-8 sequence of {n} bytes from index {flaw.index}"
  | none => s!"incomplete utf-8 byte sequence from index {flaw.index}"

def endsInside (bytes : List UInt8) : Bool :=
  let start : Decoder := {}
  (bytes.foldl Decoder.step start).missing != 0

def firstStray (index : Nat) : List Glyph → Option (Nat × List UInt8 × List Glyph)
  | [] => none
  | .stray bytes :: rest => some (index,bytes,rest)
  | .char c :: rest => firstStray (index + c.utf8Size) rest

def flaw? (bytes : List UInt8) : Option Flaw :=
  (firstStray 0 (decode bytes)).map fun (index,stray,rest) =>
    { index, length := if rest.isEmpty && endsInside bytes then none else some stray.length }

def read (bytes : List UInt8) : Except Flaw String :=
  match flaw? bytes with
  | some flaw => .error flaw
  | none => .ok (decodeLossy bytes)

def encode (s : String) : List UInt8 := s.toUTF8.toList

end Playground.Text
