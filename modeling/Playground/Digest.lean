/-! A 64-bit digest of byte strings: the keyed hash SipHash with one round per word and three rounds
at the end, under the zero key. -/
namespace Playground.Digest

structure Lanes where
  v0 : UInt64
  v1 : UInt64
  v2 : UInt64
  v3 : UInt64
  deriving DecidableEq, Repr

def rotate (x : UInt64) (n : UInt64) : UInt64 := (x <<< n) ||| (x >>> (64 - n))

namespace Lanes

def start : Lanes :=
  ⟨0x736f6d6570736575,0x646f72616e646f6d,0x6c7967656e657261,0x7465646279746573⟩

def round (l : Lanes) : Lanes :=
  let v0 := l.v0 + l.v1
  let v1 := rotate l.v1 13 ^^^ v0
  let v0 := rotate v0 32
  let v2 := l.v2 + l.v3
  let v3 := rotate l.v3 16 ^^^ v2
  let v0 := v0 + v3
  let v3 := rotate v3 21 ^^^ v0
  let v2 := v2 + v1
  let v1 := rotate v1 17 ^^^ v2
  ⟨v0,v1,rotate v2 32,v3⟩

def absorb (l : Lanes) (word : UInt64) : Lanes :=
  let l := round { l with v3 := l.v3 ^^^ word }
  { l with v0 := l.v0 ^^^ word }

def finish (l : Lanes) : UInt64 :=
  let l := round (round (round { l with v2 := l.v2 ^^^ 0xff }))
  l.v0 ^^^ l.v1 ^^^ l.v2 ^^^ l.v3

end Lanes

def littleEndian (bytes : List UInt8) : UInt64 :=
  bytes.foldr (fun b n => n * 256 + b.toUInt64) 0

/- Whole words are absorbed; what is left makes a last word with the length in its top byte. -/
def absorbAll (length : Nat) (l : Lanes) : List UInt8 → Lanes
  | a :: b :: c :: d :: e :: f :: g :: h :: rest =>
    absorbAll length (l.absorb (littleEndian [a,b,c,d,e,f,g,h])) rest
  | rest => l.absorb (littleEndian rest ||| (UInt64.ofNat length <<< 56))

def digest (bytes : List UInt8) : UInt64 :=
  (absorbAll bytes.length .start bytes).finish

def hexDigits (n : UInt64) : String :=
  let digits := Nat.toDigits 16 n.toNat
  String.ofList (List.replicate (16 - digits.length) '0' ++ digits)

def ofText (text : String) : String := hexDigits (digest (text.toUTF8.toList ++ [0xff]))

def lengthBytes (bytes : List UInt8) : List UInt8 :=
  (List.range 8).map fun i => UInt8.ofNat (bytes.length / Nat.pow 256 i)

def ofBytes (bytes : List UInt8) : String := hexDigits (digest (lengthBytes bytes ++ bytes))

end Playground.Digest
