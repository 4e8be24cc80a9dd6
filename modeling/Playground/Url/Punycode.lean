/-! Punycode, the ASCII form of host labels: basic characters first, then the places and values of
the others as numbers of variable length in base 36. -/
namespace Playground.Url.Punycode

def digitValue? (c : Char) : Option Nat :=
  if 'a' ≤ c && c ≤ 'z' then some (c.toNat - 97)
  else if 'A' ≤ c && c ≤ 'Z' then some (c.toNat - 65)
  else if c.isDigit then some (c.toNat - 22)
  else none

def digitChar (n : Nat) : Char := Char.ofNat (if n < 26 then n + 97 else n + 22)

def reduce (delta k : Nat) : Nat × Nat :=
  go 20 delta k
where
  go : Nat → Nat → Nat → Nat × Nat
    | 0,delta,k => (delta,k)
    | fuel + 1,delta,k => if 455 < delta then go fuel (delta / 35) (k + 36) else (delta,k)

def adapt (delta count : Nat) (first : Bool) : Nat :=
  let delta := if first then delta / 700 else delta / 2
  let (delta,k) := reduce (delta + delta / count) 0
  k + 36 * delta / (delta + 38)

def threshold (k bias : Nat) : Nat := max 1 (min 26 (k - bias))

def readNumber (bias : Nat) : (k weight value : Nat) → List Char → Option (Nat × List Char)
  | _,_,_,[] => none
  | k,weight,value,c :: rest => do
    let digit ← digitValue? c
    let value := value + digit * weight
    if 0x100000000 ≤ value then none
    else
      let t := threshold k bias
      if digit < t then some (value,rest)
      else readNumber bias (k + 36) (weight * (36 - t)) value rest

def splitBasic (label : List Char) : List Char × List Char :=
  match (label.reverse.span (· != '-')) with
  | (_,[]) => ([],label)
  | (tail,_ :: basic) => (basic.reverse,tail.reverse)

structure DecodeState where
  code : Nat := 128
  index : Nat := 0
  bias : Nat := 72
  output : List Char

def decodeRest : (fuel : Nat) → DecodeState → List Char → Option (List Char)
  | _,s,[] => some s.output
  | 0,_,_ :: _ => none
  | fuel + 1,s,rest => do
    let (delta,rest) ← readNumber s.bias 36 1 0 rest
    let count := s.output.length + 1
    let place := s.index + delta
    let code := s.code + place / count
    if code.isValidChar then
      let index := place % count
      decodeRest fuel
        { code
          index := index + 1
          bias := adapt delta count (s.index = 0 && s.code = 128)
          output := s.output.take index ++ Char.ofNat code :: s.output.drop index } rest
    else none

def decode? (label : List Char) : Option (List Char) :=
  let (basic,tail) := splitBasic label
  if basic.all (·.toNat < 128) then decodeRest (tail.length + 1) { output := basic } tail else none

def writeNumber (bias : Nat) : (fuel k n : Nat) → List Char
  | 0,_,_ => []
  | fuel + 1,k,n =>
    let t := threshold k bias
    if n < t then [digitChar n]
    else digitChar (t + (n - t) % (36 - t)) :: writeNumber bias fuel (k + 36) ((n - t) / (36 - t))

structure EncodeState where
  code : Nat := 128
  delta : Nat := 0
  bias : Nat := 72
  handled : Nat
  output : List Char := []

def encodeRound (label : List Char) (basicCount : Nat) (s : EncodeState) : EncodeState :=
  let next := (label.filter (s.code ≤ ·.toNat)).foldl (fun least c => min least c.toNat) 0x110000
  let start := { s with delta := s.delta + (next - s.code) * (s.handled + 1), code := next }
  let passed := label.foldl (fun (s : EncodeState) c =>
    if c.toNat < next then { s with delta := s.delta + 1 }
    else if c.toNat = next then
      { s with
        output := s.output ++ writeNumber s.bias 64 36 s.delta
        bias := adapt s.delta (s.handled + 1) (s.handled = basicCount)
        delta := 0
        handled := s.handled + 1 }
    else s) start
  { passed with delta := passed.delta + 1, code := next + 1 }

def encode (label : List Char) : List Char :=
  let basic := label.filter (·.toNat < 128)
  let rounds := label.length - basic.length
  let go := rounds.fold (fun _ _ (s : EncodeState) =>
    if s.handled < label.length then encodeRound label basic.length s else s)
    { handled := basic.length }
  (if basic.isEmpty then [] else basic ++ ['-']) ++ go.output

end Playground.Url.Punycode
