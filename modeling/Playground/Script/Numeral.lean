import Playground.Number.Shortest

/-! Numbers of scripts: the values of arithmetic expressions and the text that a number is shown
with. -/
namespace Playground.Script.Numeral

def layout : Number.Layout where
  leastPoint := -5
  greatestPoint := 21
  wholeFraction := false
  plusSign := true

def text (x : Float) : String :=
  match Number.partsOf x with
  | .nan => "NaN"
  | .infinite negative => if negative then "-Infinity" else "Infinity"
  | .finite negative mantissa exponent =>
    if mantissa = 0 then "0"
    else (if negative then "-" else "") ++ (Number.shortest mantissa exponent).render layout

def nan : Float := 0.0 / 0.0

def infinity : Float := 1.0 / 0.0

def digitValue (c : Char) : Nat :=
  if c.isDigit then c.toNat - 48 else c.toLower.toNat - 87

def isDigitOf (base : Nat) (c : Char) : Bool := c.isAlphanum && digitValue c < base

def natOf (base : Nat) (digits : List Char) : Nat :=
  digits.foldl (fun n c => n * base + digitValue c) 0

def decimal (digits : List Char) (exponent : Int) : Float :=
  Float.ofScientific (natOf 10 digits) (decide (exponent < 0)) exponent.natAbs

def readExponent : List Char → Int × List Char
  | c :: rest =>
    if c == 'e' || c == 'E' then
      let (negative,digits) := match rest with
        | '-' :: more => (true,more)
        | '+' :: more => (false,more)
        | more => (false,more)
      let taken := digits.takeWhile Char.isDigit
      if taken.isEmpty then (0,c :: rest)
      else
        let n : Int := natOf 10 taken
        (if negative then -n else n,digits.drop taken.length)
    else (0,c :: rest)
  | [] => (0,[])

def readDecimal (chars : List Char) : Float × List Char :=
  let whole := chars.takeWhile Char.isDigit
  let rest := chars.drop whole.length
  let (places,rest) := match rest with
    | '.' :: more => (more.takeWhile Char.isDigit,more.dropWhile Char.isDigit)
    | rest => ([],rest)
  let (exponent,rest) := readExponent rest
  (decimal (whole ++ places) (exponent - places.length),rest)

def readBased (base : Nat) (chars : List Char) : Float × List Char :=
  let digits := chars.takeWhile (isDigitOf base)
  (Float.ofScientific (natOf base digits) false 0,chars.drop digits.length)

def powerOf (x : Float) (n : Nat) : Float := n.fold (fun _ _ out => out * x) 1.0

def power (x y : Float) : Float :=
  let n := y.abs.toUInt64.toNat
  if y.abs == Float.ofNat n && n < 5000 then
    if 0.0 ≤ y then powerOf x n
    else if (powerOf x n).isInf then n.fold (fun _ _ out => out / x) 1.0
    else 1.0 / powerOf x n
  else x.pow y

def remainder (x y : Float) : Float :=
  let quotient := x / y
  x - y * (if quotient < 0.0 then quotient.ceil else quotient.floor)

def skip (chars : List Char) : List Char := chars.dropWhile (· == ' ')

def isWordChar (c : Char) : Bool := c.isAlphanum || c == '_' || c == '.' || c == '$'

def constantOf : String → Float
  | "Infinity" | "Number.POSITIVE_INFINITY" => infinity
  | "Number.NEGATIVE_INFINITY" => -infinity
  | "Number.MAX_VALUE" => Float.ofBits 0x7fefffffffffffff
  | "Number.MIN_VALUE" => Float.ofBits 1
  | "Number.EPSILON" => Float.ofBits 0x3cb0000000000000
  | "Number.MAX_SAFE_INTEGER" => 9007199254740991.0
  | "Number.MIN_SAFE_INTEGER" => -9007199254740991.0
  | "Math.PI" => Float.ofBits 0x400921fb54442d18
  | "Math.E" => Float.ofBits 0x4005bf0a8b145769
  | _ => nan

inductive Level where
  | sum | product | power | sign | atom
  deriving DecidableEq, Repr

def read : (fuel : Nat) → Level → List Char → Float × List Char
  | 0,_,chars => (nan,chars)
  | fuel + 1,level,chars =>
    match level,skip chars with
    | .sum,chars =>
      let (x,rest) := read fuel .product chars
      readSums fuel x rest
    | .product,chars =>
      let (x,rest) := read fuel .power chars
      readProducts fuel x rest
    | .power,chars =>
      let (x,rest) := read fuel .sign chars
      match skip rest with
      | '*' :: '*' :: rest =>
        let (y,rest) := read fuel .power rest
        (power x y,rest)
      | rest => (x,rest)
    | .sign,'-' :: rest =>
      let (x,rest) := read fuel .sign rest
      (-x,rest)
    | .sign,'+' :: rest => read fuel .sign rest
    | .sign,chars => read fuel .atom chars
    | .atom,'(' :: rest =>
      let (x,rest) := read fuel .sum rest
      (x,(skip rest).drop 1)
    | .atom,'0' :: 'x' :: rest => readBased 16 rest
    | .atom,'0' :: 'o' :: rest => readBased 8 rest
    | .atom,'0' :: 'b' :: rest => readBased 2 rest
    | .atom,chars =>
      if chars.head?.any fun c => c.isDigit || c == '.' then readDecimal chars
      else
        let word := chars.takeWhile isWordChar
        (constantOf (String.ofList word),chars.drop word.length)
where
  readSums : Nat → Float → List Char → Float × List Char
    | 0,x,chars => (x,chars)
    | fuel + 1,x,chars =>
      match skip chars with
      | '+' :: rest =>
        let (y,rest) := read fuel .product rest
        readSums fuel (x + y) rest
      | '-' :: rest =>
        let (y,rest) := read fuel .product rest
        readSums fuel (x - y) rest
      | rest => (x,rest)
  readProducts : Nat → Float → List Char → Float × List Char
    | 0,x,chars => (x,chars)
    | fuel + 1,x,chars =>
      match skip chars with
      | '*' :: rest =>
        let (y,rest) := read fuel .power rest
        readProducts fuel (x * y) rest
      | '/' :: rest =>
        let (y,rest) := read fuel .power rest
        readProducts fuel (x / y) rest
      | '%' :: rest =>
        let (y,rest) := read fuel .power rest
        readProducts fuel (remainder x y) rest
      | rest => (x,rest)

def value (expression : String) : Float :=
  let chars := expression.toList
  (read (8 * chars.length + 8) .sum chars).1

end Playground.Script.Numeral
