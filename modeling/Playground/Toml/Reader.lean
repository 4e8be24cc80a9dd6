import Playground.Toml.Value
import Playground.Toml.Table
import Playground.Text.Basic

/-! Keys and values of configuration texts. A reader takes the text that is left and gives a value with the
text after it, or nothing where the text is not well-formed. Values nest less than 80 deep. -/
namespace Playground.Toml

def isSpace (c : Char) : Bool := c == ' ' || c == '\t'

def skipSpace (t : List Char) : List Char := t.dropWhile isSpace

def isPlain (c : Char) : Bool := c == '\t' || (32 ≤ c.toNat && c.toNat != 127)

def readNewline : List Char → Option (List Char)
  | '\n' :: rest => some rest
  | '\x0d' :: '\n' :: rest => some rest
  | _ => none

def skipComment : List Char → List Char
  | '#' :: rest => rest.dropWhile isPlain
  | t => t

def skipFiller : (fuel : Nat) → List Char → List Char
  | 0,t => t
  | fuel + 1,t =>
    let t := skipComment (skipSpace t)
    match readNewline t with
    | some rest => skipFiller fuel rest
    | none => t

def filler (t : List Char) : List Char := skipFiller (t.length + 1) t

/-! ## Strings -/

def hexValue? (c : Char) : Option Nat :=
  if c.isDigit then some (c.toNat - 48)
  else if 'a' ≤ c && c ≤ 'f' then some (c.toNat - 87)
  else if 'A' ≤ c && c ≤ 'F' then some (c.toNat - 55)
  else none

def readCode (places : Nat) (t : List Char) : Option (Char × List Char) := do
  let digits ← (t.take places).mapM hexValue?
  let code := digits.foldl (fun n d => n * 16 + d) 0
  if digits.length = places && code.isValidChar then some (Char.ofNat code,t.drop places) else none

def readEscape : List Char → Option (Char × List Char)
  | 'b' :: rest => some ('\x08',rest)
  | 't' :: rest => some ('\t',rest)
  | 'n' :: rest => some ('\n',rest)
  | 'f' :: rest => some ('\x0c',rest)
  | 'r' :: rest => some ('\x0d',rest)
  | '\x22' :: rest => some ('\x22',rest)
  | '\\' :: rest => some ('\\',rest)
  | 'u' :: rest => readCode 4 rest
  | 'U' :: rest => readCode 8 rest
  | _ => none

def readBasic : (fuel : Nat) → (seen : List Char) → List Char → Option (String × List Char)
  | 0,_,_ => none
  | _ + 1,_,[] => none
  | _ + 1,seen,'\x22' :: rest => some (String.ofList seen.reverse,rest)
  | fuel + 1,seen,'\\' :: rest => do
    let (c,rest) ← readEscape rest
    readBasic fuel (c :: seen) rest
  | fuel + 1,seen,c :: rest => if isPlain c then readBasic fuel (c :: seen) rest else none

def readLiteral (t : List Char) : Option (String × List Char) :=
  let body := t.takeWhile fun c => isPlain c && c != '\x27'
  match t.drop body.length with
  | '\x27' :: rest => some (String.ofList body,rest)
  | _ => none

def readClosing (quote : Char) (t : List Char) : Option (Nat × List Char) :=
  let count := (t.take 5).takeWhile (· == quote) |>.length
  if 3 ≤ count then some (count - 3,t.drop count) else none

/- A backslash before a line end drops blanks and line ends after it. -/
def readLineJoin (t : List Char) : Option (List Char) := do
  let rest ← readNewline (skipSpace t)
  let isFill (c : Char) : Bool := isSpace c || c == '\n' || c == '\x0d'
  let fill := rest.takeWhile isFill
  let crs := fill.zip (fill.drop 1 ++ [' '])
  if crs.all fun (a,b) => a != '\x0d' || b == '\n' then some (rest.drop fill.length) else none

def readMultiline (quote : Char) (escapes : Bool) : (fuel : Nat) → (seen : List Char) → List Char →
    Option (String × List Char)
  | 0,_,_ => none
  | _ + 1,_,[] => none
  | fuel + 1,seen,c :: rest =>
    if escapes && c == '\\' then
      match readLineJoin rest with
      | some rest => readMultiline quote escapes fuel seen rest
      | none => do
        let (c,rest) ← readEscape rest
        readMultiline quote escapes fuel (c :: seen) rest
    else
      match readClosing quote (c :: rest) with
      | some (extra,rest) => some (String.ofList (List.replicate extra quote ++ seen).reverse,rest)
      | none =>
        match readNewline (c :: rest) with
        | some rest => readMultiline quote escapes fuel ('\n' :: seen) rest
        | none => if isPlain c then readMultiline quote escapes fuel (c :: seen) rest else none

def dropFirstNewline (t : List Char) : List Char := (readNewline t).getD t

def readString : List Char → Option (String × List Char)
  | '\x22' :: '\x22' :: '\x22' :: rest => readMultiline '\x22' true (rest.length + 1) [] (dropFirstNewline rest)
  | '\x27' :: '\x27' :: '\x27' :: rest => readMultiline '\x27' false (rest.length + 1) [] (dropFirstNewline rest)
  | '\x22' :: rest => readBasic (rest.length + 1) [] rest
  | '\x27' :: rest => readLiteral rest
  | _ => none

/-! ## Keys -/

def isBareKeyChar (c : Char) : Bool := c.isAlphanum || c == '_' || c == '-'

def readSimpleKey : List Char → Option (String × List Char)
  | '\x22' :: rest => readBasic (rest.length + 1) [] rest
  | '\x27' :: rest => readLiteral rest
  | t =>
    let name := t.takeWhile isBareKeyChar
    if name.isEmpty then none else some (String.ofList name,t.drop name.length)

def readKeys : (fuel : Nat) → List Char → Option (List String × List Char)
  | 0,_ => none
  | fuel + 1,t => do
    let (key,rest) ← readSimpleKey (skipSpace t)
    match skipSpace rest with
    | '.' :: rest => do
      let (keys,rest) ← readKeys fuel rest
      return (key :: keys,rest)
    | rest => return ([key],rest)

def readKey (t : List Char) : Option (List String × List Char) := readKeys 79 t

/-! ## Numbers and dates -/

def readDigits (holds : Char → Bool) (t : List Char) : Option (List Char × List Char) :=
  let body := t.takeWhile fun c => holds c || c == '_'
  let paired := body.zip (body.drop 1)
  -- An underscore at the end is left for whoever reads on, who refuses it.
  let wellPlaced := body.head?.any holds && body.getLast?.any holds &&
    paired.all fun (a,b) => a != '_' || b != '_'
  if wellPlaced then some (body.filter (· != '_'),t.drop body.length) else none

def valueOf (base : Nat) (digits : List Char) : Nat :=
  digits.foldl (fun n c => n * base + (hexValue? c).getD 0) 0

def readSign : List Char → Option Bool × List Char
  | '+' :: rest => (some false,rest)
  | '-' :: rest => (some true,rest)
  | t => (none,t)

def readWhole (t : List Char) : Option (List Char × List Char) := do
  let (digits,rest) ← readDigits Char.isDigit t
  if digits.head? = some '0' && 1 < digits.length then none else some (digits,rest)

def fitsInt (n : Int) : Bool := -0x8000000000000000 ≤ n && n < 0x8000000000000000

def readBased (base : Nat) (holds : Char → Bool) (t : List Char) : Option (Toml × List Char) := do
  let (digits,rest) ← readDigits holds t
  let n : Int := valueOf base digits
  if fitsInt n then some (.int n,rest) else none

def readSigned (t : List Char) : Option (Toml × List Char) := do
  let (sign,t) := readSign t
  let (digits,rest) ← readWhole t
  let magnitude : Int := valueOf 10 digits
  let n := if sign = some true then -magnitude else magnitude
  if fitsInt n then some (.int n,rest) else none

def readInt : List Char → Option (Toml × List Char)
  | '0' :: 'x' :: t => readBased 16 (fun c => (hexValue? c).isSome) t
  | '0' :: 'o' :: t => readBased 8 (fun c => '0' ≤ c && c ≤ '7') t
  | '0' :: 'b' :: t => readBased 2 (fun c => c == '0' || c == '1') t
  | t => readSigned t

def readExponent : List Char → Option (Int × List Char)
  | c :: rest =>
    if c == 'e' || c == 'E' then
      let (sign,rest) := readSign rest
      (readDigits Char.isDigit rest).map fun (digits,rest) =>
        let n : Int := valueOf 10 digits
        (if sign = some true then -n else n,rest)
    else none
  | [] => none

def infinityBound : Nat := Nat.pow 2 1024 - Nat.pow 2 970

def isFinite (digits : List Char) (exponent : Int) : Bool :=
  let digits := digits.dropWhile (· == '0')
  let places : Int := digits.length + exponent
  if digits.isEmpty || places < 309 then true
  else if 309 < places then false
  else
    let n := valueOf 10 digits
    if 0 ≤ exponent then n * Nat.pow 10 exponent.toNat < infinityBound
    else n < infinityBound * Nat.pow 10 (-exponent).toNat

def readFraction (whole : List Char) : List Char → Option ((List Char × Int) × List Char)
  | '.' :: t => do
    let (places,rest) ← readDigits Char.isDigit t
    let (exponent,rest) := (readExponent rest).getD (0,rest)
    return ((whole ++ places,exponent - places.length),rest)
  | t => do
    let (exponent,rest) ← readExponent t
    return ((whole,exponent),rest)

def readDecimal (negative : Bool) (t : List Char) : Option (Toml × List Char) := do
  let (whole,rest) ← readWhole t
  let ((digits,exponent),rest) ← readFraction whole rest
  if negative || isFinite digits exponent then some (.float,rest) else none

def readFloat (t : List Char) : Option (Toml × List Char) :=
  let (sign,t) := readSign t
  match t with
  | 'i' :: 'n' :: 'f' :: rest => some (.float,rest)
  | 'n' :: 'a' :: 'n' :: rest => some (.float,rest)
  | t => readDecimal (sign = some true) t

def readFixed (places low high : Nat) (t : List Char) : Option (Nat × List Char) :=
  let digits := t.take places
  let n := valueOf 10 digits
  if digits.length = places && digits.all Char.isDigit && low ≤ n && n ≤ high then
    some (n,t.drop places)
  else none

def readMark (c : Char) (t : List Char) : Option (List Char) :=
  if t.head? = some c then some (t.drop 1) else none

def isLeapYear (year : Nat) : Bool := (year % 4 = 0 && year % 100 != 0) || year % 400 = 0

def daysIn (year month : Nat) : Nat :=
  match month with
  | 2 => if isLeapYear year then 29 else 28
  | 4 | 6 | 9 | 11 => 30
  | _ => 31

def readDate (t : List Char) : Option (List Char) := do
  let (year,t) ← readFixed 4 0 9999 t
  let (month,t) ← readFixed 2 1 12 (← readMark '-' t)
  let (_,t) ← readFixed 2 1 (daysIn year month) (← readMark '-' t)
  return t

def readTime (t : List Char) : Option (List Char) := do
  let (_,t) ← readFixed 2 0 23 t
  let (_,t) ← readFixed 2 0 59 (← readMark ':' t)
  let (_,t) ← readFixed 2 0 60 (← readMark ':' t)
  match t with
  | '.' :: rest =>
    let digits := rest.takeWhile Char.isDigit
    if digits.isEmpty then return t else return rest.drop digits.length
  | t => return t

def readOffset (t : List Char) : Option (List Char) :=
  match t with
  | 'Z' :: rest | 'z' :: rest => some rest
  | '+' :: rest | '-' :: rest => do
    let (_,rest) ← readFixed 2 0 23 rest
    let (_,rest) ← readFixed 2 0 59 (← readMark ':' rest)
    return rest
  | _ => none

def readDatetime (t : List Char) : Option (Toml × List Char) :=
  match readDate t with
  | none => (readTime t).map fun rest => (.datetime,rest)
  | some afterDate =>
    let time? := match afterDate with
      | c :: rest => if c == 'T' || c == 't' || c == ' ' then readTime rest else none
      | [] => none
    match time? with
    | none => some (.datetime,afterDate)
    | some afterTime => some (.datetime,(readOffset afterTime).getD afterTime)

def readNumber (t : List Char) : Option (Toml × List Char) :=
  ((readDatetime t).or (readFloat t)).or (readInt t)

/-! ## Values -/

def readItems (read : List Char → Option (Toml × List Char)) : (fuel : Nat) → (seen : List Toml) →
    List Char → Option (Toml × List Char)
  | 0,_,_ => none
  | fuel + 1,seen,t =>
    match filler t with
    | ']' :: rest => some (.array seen.reverse,rest)
    | t => do
      let (item,rest) ← read t
      match filler rest with
      | ',' :: rest => readItems read fuel (item :: seen) rest
      | ']' :: rest => some (.array (item :: seen).reverse,rest)
      | _ => none

def readPair (read : List Char → Option (Toml × List Char)) (t : List Char) :
    Option ((List String × Toml) × List Char) := do
  let (key,rest) ← readKey t
  let rest ← readMark '=' rest
  let (value,rest) ← read (skipSpace rest)
  return ((key,value),rest)

def readPairs (read : List Char → Option (Toml × List Char)) : (fuel : Nat) → (known : Table) →
    List Char → Option (Toml × List Char)
  | 0,_,_ => none
  | fuel + 1,known,t => do
    let ((key,value),rest) ← readPair read t
    let known ← known.assign key value
    match skipSpace rest with
    | ',' :: rest => readPairs read fuel known rest
    | '\x7d' :: rest => some (known.value,rest)
    | _ => none

def readInlineTable (read : List Char → Option (Toml × List Char)) (t : List Char) : Option (Toml × List Char) :=
  match skipSpace t with
  | '\x7d' :: rest => some (.table [],rest)
  | t => readPairs read (t.length + 1) {} t

def readWord : List Char → Option (Toml × List Char)
  | 't' :: 'r' :: 'u' :: 'e' :: rest => some (.bool true,rest)
  | 'f' :: 'a' :: 'l' :: 's' :: 'e' :: rest => some (.bool false,rest)
  | 'i' :: 'n' :: 'f' :: rest => some (.float,rest)
  | 'n' :: 'a' :: 'n' :: rest => some (.float,rest)
  | _ => none

def readScalar (t : List Char) : Option (Toml × List Char) :=
  match t with
  | '\x22' :: _ | '\x27' :: _ => (readString t).map fun (s,rest) => (.string s,rest)
  | c :: _ => if c.isDigit || c == '+' || c == '-' then readNumber t else readWord t
  | [] => none

def readValue : (depth : Nat) → List Char → Option (Toml × List Char)
  | 0,t => readScalar t
  | depth + 1,t =>
    match t with
    | '[' :: rest => readItems (readValue depth) (rest.length + 1) [] rest
    | '\x7b' :: rest => readInlineTable (readValue depth) rest
    | t => readScalar t

def depthLimit : Nat := 79

end Playground.Toml
