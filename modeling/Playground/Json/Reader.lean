import Playground.Json.Value
import Playground.Text.Utf8

/-! Reading JSON text. A reader takes the text that is left and gives a value with the text after
it; a failure names its cause and where reading stopped, from which line and column follow. Arrays
and objects nest at most 127 deep. -/
namespace Playground.Json
open Text (Glyph)

inductive Cause where
  | eofList | eofObject | eofString | eofValue
  | expectedColon | expectedListEnd | expectedObjectEnd | expectedIdent | expectedValue
  | invalidEscape | invalidNumber | numberOutOfRange | invalidCodePoint | controlCharacter
  | keyMustBeString | loneSurrogate | trailingComma | trailingCharacters | endOfHexEscape
  | tooDeep
  deriving DecidableEq, Repr

def Cause.message : Cause → String
  | .eofList => "EOF while parsing a list"
  | .eofObject => "EOF while parsing an object"
  | .eofString => "EOF while parsing a string"
  | .eofValue => "EOF while parsing a value"
  | .expectedColon => "expected `:`"
  | .expectedListEnd => "expected `,` or `]`"
  | .expectedObjectEnd => "expected `,` or `\x7d`"
  | .expectedIdent => "expected ident"
  | .expectedValue => "expected value"
  | .invalidEscape => "invalid escape"
  | .invalidNumber => "invalid number"
  | .numberOutOfRange => "number out of range"
  | .invalidCodePoint => "invalid unicode code point"
  | .controlCharacter => "control character (\\u0000-\\u001F) found while parsing a string"
  | .keyMustBeString => "key must be a string"
  | .loneSurrogate => "lone leading surrogate in hex escape"
  | .trailingComma => "trailing comma"
  | .trailingCharacters => "trailing characters"
  | .endOfHexEscape => "unexpected end of hex escape"
  | .tooDeep => "recursion limit exceeded"

structure Failure where
  cause : Cause
  rest : List Glyph
  beyond : Nat
  deriving DecidableEq, Repr

structure Position where
  line : Nat
  column : Nat
  deriving DecidableEq, Repr

def positionAt (text : List Glyph) (offset : Nat) : Position :=
  go text offset ⟨1,0⟩
where
  go : List Glyph → Nat → Position → Position
    | [],_,at_ => at_
    | g :: rest,offset,at_ =>
      if offset < g.width then ⟨at_.line,at_.column + offset⟩
      else if g = .char '\n' then go rest (offset - 1) ⟨at_.line + 1,0⟩
      else go rest (offset - g.width) ⟨at_.line,at_.column + g.width⟩

def byteCount (text : List Glyph) : Nat := text.foldl (fun n g => n + g.width) 0

def positionOf (text rest : List Glyph) (beyond : Nat) : Position :=
  positionAt text (byteCount text - byteCount rest + beyond)

def Position.describe (what : String) (position : Position) : String :=
  s!"{what} at line {position.line} column {position.column}"

def Failure.describe (text : List Glyph) (failure : Failure) : String :=
  (positionOf text failure.rest failure.beyond).describe failure.cause.message

abbrev Reading (α : Type) := Except Failure (α × List Glyph)

def failAt (cause : Cause) (rest : List Glyph) : Reading α := .error ⟨cause,rest,0⟩

def failPast (cause : Cause) (rest : List Glyph) : Reading α :=
  .error ⟨cause,rest,if rest.isEmpty then 0 else 1⟩

def isSpace (g : Glyph) : Bool :=
  g = .char ' ' || g = .char '\n' || g = .char '\t' || g = .char '\r'

def skipSpace (rest : List Glyph) : List Glyph := rest.dropWhile isSpace

def readWord (letters : List Char) (value : α) (rest : List Glyph) : Reading α :=
  match letters,rest with
  | [],rest => .ok (value,rest)
  | _ :: _,[] => failAt .eofValue []
  | letter :: letters,g :: rest =>
    if g = .char letter then readWord letters value rest
    else .error ⟨.expectedIdent,g :: rest,1⟩

def digit? : List Glyph → Option Nat
  | .char c :: _ => if c.isDigit then some (c.toNat - 48) else none
  | _ => none

def startsWith (c : Char) : List Glyph → Bool
  | g :: _ => g = .char c
  | [] => false

def startsExponent (rest : List Glyph) : Bool := startsWith 'e' rest || startsWith 'E' rest

def skipDigits (rest : List Glyph) : List Glyph :=
  rest.dropWhile fun g => match g with
    | .char c => c.isDigit
    | .stray _ => false

def significandLimit : Nat := 0x10000000000000000

def signed (negative : Bool) (x : Float) : Float := if negative then -x else x

def powerOfTen (n : Nat) : Float := Float.ofScientific 1 false n

def divideByPower (x : Float) (n : Nat) : Float :=
  if n ≤ 308 then x / powerOfTen n
  else if x == 0 then x
  else divideByPower (x / powerOfTen 308) (n - 308)
termination_by n

/- The value of significand · 10 ^ exponent, the significand rounded first and then multiplied or divided by
the power; none when it exceeds the finite values. -/
def scale? (significand : Nat) (exponent : Int) : Option Float :=
  let x := Float.ofNat significand
  if exponent < 0 then some (divideByPower x exponent.natAbs)
  else if exponent.toNat ≤ 308 then
    let y := x * powerOfTen exponent.toNat
    if y.isInf then none else some y
  else if x == 0 then some x else none

def scaled (negative : Bool) (significand : Nat) (exponent : Int) (rest : List Glyph) :
    Reading Number :=
  match scale? significand exponent with
  | some x => .ok (.float (signed negative x),rest)
  | none => failAt .numberOutOfRange rest

def exponentLimit : Nat := 0x80000000

inductive ExponentDigits where
  | fits (value : Nat) (rest : List Glyph)
  | overflows (rest : List Glyph)

def readExponentDigits (value : Nat) : List Glyph → ExponentDigits
  | g :: rest =>
    match digit? [g] with
    | some d =>
      if value * 10 + d < exponentLimit then readExponentDigits (value * 10 + d) rest
      else .overflows rest
    | none => .fits value (g :: rest)
  | [] => .fits value []

def readExponent (negative : Bool) (significand : Nat) (exponent : Int) (rest : List Glyph) :
    Reading Number :=
  let down := startsWith '-' rest
  let rest := if down || startsWith '+' rest then rest.drop 1 else rest
  match rest with
  | [] => failAt .eofValue []
  | g :: after =>
    match digit? [g] with
    | none => .error ⟨.invalidNumber,rest,1⟩
    | some first =>
      match readExponentDigits first after with
      | .fits value rest =>
        scaled negative significand (if down then exponent - value else exponent + value) rest
      | .overflows rest =>
        if significand ≠ 0 && !down then failAt .numberOutOfRange rest
        else .ok (.float (signed negative 0),skipDigits rest)

def readAfterFraction (negative : Bool) (significand : Nat) (exponent : Int) (rest : List Glyph) :
    Reading Number :=
  if startsExponent rest then readExponent negative significand exponent (rest.drop 1)
  else scaled negative significand exponent rest

def readFraction (negative : Bool) (significand : Nat) (exponent : Int) (seen : Bool) :
    List Glyph → Reading Number
  | g :: rest =>
    match digit? [g] with
    | some d =>
      if significand * 10 + d < significandLimit then
        readFraction negative (significand * 10 + d) (exponent - 1) true rest
      else readAfterFraction negative significand exponent (skipDigits (g :: rest))
    | none =>
      if seen then readAfterFraction negative significand exponent (g :: rest)
      else failPast .invalidNumber (g :: rest)
  | [] => if seen then scaled negative significand exponent [] else failAt .eofValue []

def readLongWhole (negative : Bool) (significand : Nat) (exponent : Int) :
    List Glyph → Reading Number
  | g :: rest =>
    match digit? [g] with
    | some _ => readLongWhole negative significand (exponent + 1) rest
    | none =>
      if g = .char '.' then readFraction negative significand exponent false rest
      else readAfterFraction negative significand exponent (g :: rest)
  | [] => scaled negative significand exponent []

def wholeNumber (negative : Bool) (significand : Nat) : Number :=
  if !negative then .int significand
  else if significand = 0 ∨ 0x8000000000000000 < significand then .float (-Float.ofNat significand)
  else .int (-(significand : Int))

def readAfterWhole (negative : Bool) (significand : Nat) (rest : List Glyph) : Reading Number :=
  if startsWith '.' rest then readFraction negative significand 0 false (rest.drop 1)
  else if startsExponent rest then readExponent negative significand 0 (rest.drop 1)
  else .ok (wholeNumber negative significand,rest)

def readWhole (negative : Bool) (significand : Nat) : List Glyph → Reading Number
  | g :: rest =>
    match digit? [g] with
    | some d =>
      if significand * 10 + d < significandLimit then
        readWhole negative (significand * 10 + d) rest
      else readLongWhole negative significand 0 (g :: rest)
    | none => readAfterWhole negative significand (g :: rest)
  | [] => .ok (wholeNumber negative significand,[])

def readNumber (negative : Bool) : List Glyph → Reading Number
  | [] => failAt .eofValue []
  | g :: rest =>
    match digit? [g] with
    | none => .error ⟨.invalidNumber,g :: rest,1⟩
    | some 0 =>
      if (digit? rest).isSome then failPast .invalidNumber rest
      else readAfterWhole negative 0 rest
    | some d => readWhole negative d rest

def hexValue? : Glyph → Option Nat
  | .char c =>
    if c.isDigit then some (c.toNat - 48)
    else if 'a' ≤ c && c ≤ 'f' then some (c.toNat - 87)
    else if 'A' ≤ c && c ≤ 'F' then some (c.toNat - 55)
    else none
  | .stray _ => none

def readHex (rest : List Glyph) : Reading Nat :=
  if byteCount (rest.take 4) < 4 then failAt .eofString []
  else match rest.take 4 |>.mapM hexValue? with
    | some [a,b,c,d] => .ok (((a * 16 + b) * 16 + c) * 16 + d,rest.drop 4)
    | _ => .error ⟨.invalidEscape,rest,4⟩

def readUnits (rest : List Glyph) : Reading Char :=
  match readHex rest with
  | .error failure => .error failure
  | .ok (lead,rest) =>
    if 0xdc00 ≤ lead ∧ lead ≤ 0xdfff then failAt .loneSurrogate rest
    else if lead < 0xd800 ∨ 0xdbff < lead then .ok (Char.ofNat lead,rest)
    else match rest with
      | [] => failAt .eofString []
      | .char '\\' :: after =>
        match after with
        | [] => failAt .eofString []
        | .char 'u' :: after =>
          match readHex after with
          | .error failure => .error failure
          | .ok (trail,after) =>
            if trail < 0xdc00 ∨ 0xdfff < trail then failAt .loneSurrogate after
            else .ok (Char.ofNat ((lead - 0xd800) * 1024 + (trail - 0xdc00) + 0x10000),after)
        | _ => .error ⟨.endOfHexEscape,after,1⟩
      | _ => .error ⟨.endOfHexEscape,rest,1⟩

def readEscape : List Glyph → Reading Char
  | [] => failAt .eofString []
  | .char '"' :: rest => .ok ('"',rest)
  | .char '\\' :: rest => .ok ('\\',rest)
  | .char '/' :: rest => .ok ('/',rest)
  | .char 'b' :: rest => .ok ('\x08',rest)
  | .char 'f' :: rest => .ok ('\x0c',rest)
  | .char 'n' :: rest => .ok ('\n',rest)
  | .char 'r' :: rest => .ok ('\r',rest)
  | .char 't' :: rest => .ok ('\t',rest)
  | .char 'u' :: rest => readUnits rest
  | rest => .error ⟨.invalidEscape,rest,1⟩

/- Reads a string after its opening quote. Stray bytes are complained of at the closing quote. -/
def readString (rest : List Glyph) : Reading String :=
  go (rest.length + 1) [] false rest
where
  go : Nat → List Char → Bool → List Glyph → Reading String
    | 0,_,_,rest => failAt .eofString rest
    | _ + 1,_,_,[] => failAt .eofString []
    | _ + 1,seen,broken,.char '"' :: rest =>
      if broken then failAt .invalidCodePoint rest else .ok (String.ofList seen.reverse,rest)
    | fuel + 1,seen,broken,.char '\\' :: rest =>
      match readEscape rest with
      | .error failure => .error failure
      | .ok (c,rest) => go fuel (c :: seen) broken rest
    | fuel + 1,seen,broken,.char c :: rest =>
      if c.toNat < 32 then .error ⟨.controlCharacter,.char c :: rest,1⟩
      else go fuel (c :: seen) broken rest
    | fuel + 1,seen,_,.stray _ :: rest => go fuel seen true rest

def nextItem (first : Bool) (rest : List Glyph) : Except Failure (Option (List Glyph) × List Glyph) :=
  match skipSpace rest with
  | [] => failAt .eofList []
  | .char ']' :: rest => .ok (none,.char ']' :: rest)
  | g :: rest =>
    if first then .ok (some (g :: rest),g :: rest)
    else if g = .char ',' then
      match skipSpace rest with
      | [] => failAt .eofValue []
      | .char ']' :: rest => failPast .trailingComma (.char ']' :: rest)
      | rest => .ok (some rest,rest)
    else failPast .expectedListEnd (g :: rest)

def nextKey (first : Bool) (rest : List Glyph) : Reading (Option String) :=
  let key (rest : List Glyph) : Reading (Option String) :=
    match rest with
    | [] => failAt .eofValue []
    | .char '"' :: rest => (readString rest).map fun (name,rest) => (some name,rest)
    | .char '\x7d' :: rest => failPast .trailingComma (.char '\x7d' :: rest)
    | rest => failPast .keyMustBeString rest
  match skipSpace rest with
  | [] => failAt .eofObject []
  | .char '\x7d' :: rest => .ok (none,.char '\x7d' :: rest)
  | g :: rest =>
    if first then key (g :: rest)
    else if g = .char ',' then key (skipSpace rest)
    else failPast .expectedObjectEnd (g :: rest)

def readColon (rest : List Glyph) : Reading Unit :=
  match skipSpace rest with
  | [] => failAt .eofObject []
  | .char ':' :: rest => .ok ((),rest)
  | rest => failPast .expectedColon rest

def readItems (read : List Glyph → Reading Json) : Nat → List Json → List Glyph → Reading Json
  | 0,_,rest => failAt .eofList rest
  | fuel + 1,seen,rest =>
    match nextItem seen.isEmpty rest with
    | .error failure => .error failure
    | .ok (none,rest) => .ok (.array seen.reverse,rest.drop 1)
    | .ok (some rest,_) =>
      match read rest with
      | .error failure => .error failure
      | .ok (item,rest) => readItems read fuel (item :: seen) rest

def readMembers (read : List Glyph → Reading Json) :
    Nat → Bool → Members → List Glyph → Reading Json
  | 0,_,_,rest => failAt .eofObject rest
  | fuel + 1,first,seen,rest =>
    match nextKey first rest with
    | .error failure => .error failure
    | .ok (none,rest) => .ok (.object seen,rest.drop 1)
    | .ok (some key,rest) =>
      match readColon rest with
      | .error failure => .error failure
      | .ok ((),rest) =>
        match read rest with
        | .error failure => .error failure
        | .ok (value,rest) => readMembers read fuel false (seen.insert key value) rest

def readScalar (rest : List Glyph) : Reading Json :=
  match rest with
  | [] => failAt .eofValue []
  | .char 'n' :: rest => readWord ['u','l','l'] .null rest
  | .char 't' :: rest => readWord ['r','u','e'] (.bool true) rest
  | .char 'f' :: rest => readWord ['a','l','s','e'] (.bool false) rest
  | .char '"' :: rest => (readString rest).map fun (s,rest) => (.string s,rest)
  | .char '-' :: rest => (readNumber true rest).map fun (n,rest) => (.number n,rest)
  | rest =>
    if (digit? rest).isSome then (readNumber false rest).map fun (n,rest) => (.number n,rest)
    else failPast .expectedValue rest

def readValue : (depth : Nat) → List Glyph → Reading Json
  | depth,rest =>
    match skipSpace rest with
    | .char '[' :: rest =>
      match depth with
      | 0 => failPast .tooDeep (.char '[' :: rest)
      | depth + 1 => readItems (readValue depth) (rest.length + 1) [] rest
    | .char '\x7b' :: rest =>
      match depth with
      | 0 => failPast .tooDeep (.char '\x7b' :: rest)
      | depth + 1 => readMembers (readValue depth) (rest.length + 1) true [] rest
    | rest => readScalar rest

def depthLimit : Nat := 127

def readAll (text : List Glyph) : Except Failure Json :=
  match readValue depthLimit text with
  | .error failure => .error failure
  | .ok (value,rest) =>
    match skipSpace rest with
    | [] => .ok value
    | rest => .error ⟨.trailingCharacters,rest,1⟩

def parse (text : String) : Except String Json :=
  let glyphs := Text.glyphs text.toList
  (readAll glyphs).mapError (Failure.describe glyphs)

end Playground.Json
