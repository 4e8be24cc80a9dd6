import Playground.Net.Ip
import Playground.Text.Utf8
import Playground.Url.HostTable
import Playground.Url.Punycode

/-! Hosts of addresses: domain names in their ASCII form, IPv4 and IPv6 addresses, and the opaque
hosts of schemes that have none of these. Each way to refuse a host is a cause of its own. -/
namespace Playground.Url

inductive Flaw where
  | emptyHost
  | internationalDomain
  | port
  | ipv4
  | ipv6
  | domainCharacter
  | relativeWithoutBase
  deriving DecidableEq, Repr

def Flaw.message : Flaw → String
  | .emptyHost => "empty host"
  | .internationalDomain => "invalid international domain name"
  | .port => "invalid port number"
  | .ipv4 => "invalid IPv4 address"
  | .ipv6 => "invalid IPv6 address"
  | .domainCharacter => "invalid domain character"
  | .relativeWithoutBase => "relative URL without a base"

inductive Host where
  | domain (name : String)
  | ipv4 (value : Nat)
  | ipv6 (groups : List Nat)
  | opaqueName (name : String)
  deriving DecidableEq, Repr

/-! ## Percent encoding -/

def hexDigit? (c : Char) : Option Nat :=
  if c.isDigit then some (c.toNat - 48)
  else if 'a' ≤ c && c ≤ 'f' then some (c.toNat - 87)
  else if 'A' ≤ c && c ≤ 'F' then some (c.toNat - 55)
  else none

def percentDecode : List Char → List UInt8
  | '%' :: a :: b :: rest =>
    match hexDigit? a,hexDigit? b with
    | some x,some y => UInt8.ofNat (x * 16 + y) :: percentDecode rest
    | _,_ => '%'.toUInt8 :: percentDecode (a :: b :: rest)
  | c :: rest => Text.encode (String.singleton c) ++ percentDecode rest
  | [] => []
termination_by t => t.length

def upperHex (n : Nat) : Char := (Nat.digitChar n).toUpper

def percentByte (b : UInt8) : List Char := ['%',upperHex (b.toNat / 16),upperHex (b.toNat % 16)]

def percentEncode (set : List Char) (t : List Char) : List Char :=
  t.flatMap fun c =>
    if c.toNat < 32 || 126 < c.toNat || set.contains c then
      (Text.encode (String.singleton c)).flatMap percentByte
    else [c]

/-! ## Numbers -/

def ipv4Number? (t : List Char) : Option Nat :=
  let value (base : Nat) (digits : List Char) : Option Nat :=
    digits.foldlM (fun n c => do
      let d ← hexDigit? c
      if d < base then some (n * base + d) else none) 0
  match t with
  | [] => none
  | '0' :: 'x' :: rest | '0' :: 'X' :: rest => value 16 rest
  | '0' :: c :: rest => value 8 (c :: rest)
  | t => value 10 t

def dotParts (name : List Char) : List (List Char) := name.splitOn '.'

def endsInNumber (name : List Char) : Bool :=
  let parts := (dotParts name).reverse
  let last? := match parts with
    | [] :: last :: _ => some last
    | [] :: [] => none
    | last :: _ => some last
    | [] => none
  match last? with
  | some last => (!last.isEmpty && last.all Char.isDigit) || (ipv4Number? last).isSome
  | none => false

/- All numbers but the last are bytes, the last one fills what is left. -/
def ipv4OfName (name : List Char) : Except Flaw Nat :=
  let parts := dotParts name
  let parts := if parts.getLast? = some [] then parts.dropLast else parts
  if 4 < parts.length then .error .ipv4
  else match parts.mapM ipv4Number? with
    | none => .error .ipv4
    | some numbers =>
      let front := numbers.dropLast
      let last := numbers.getLast?.getD 0
      if front.any (255 < ·) || Nat.pow 2 (8 * (4 - front.length)) ≤ last then .error .ipv4
      else .ok ((front.zipIdx).foldl (fun n (x,i) => n + x * Nat.pow 2 (8 * (3 - i))) last)

/-! ## IPv6 -/

def readHexGroup (t : List Char) : Nat × Nat × List Char :=
  let digits := (t.take 4).takeWhile fun c => (hexDigit? c).isSome
  (digits.foldl (fun n c => n * 16 + (hexDigit? c).getD 0) 0,digits.length,t.drop digits.length)

def readDottedBytes (t : List Char) : Option (List Nat) :=
  (dotParts t).mapM fun part =>
    let value := part.foldl (fun n c => n * 10 + (c.toNat - 48)) 0
    if !part.isEmpty && part.all Char.isDigit && part.length ≤ 3 && value ≤ 255 &&
        (part.length = 1 || part.head? != some '0') then some value
    else none

structure Ipv6State where
  groups : List Nat := []
  gap : Option Nat := none

def readIpv6Groups : (fuel : Nat) → Ipv6State → List Char → Option Ipv6State
  | 0,_,_ => none
  | _ + 1,s,[] => some s
  | fuel + 1,s,c :: rest =>
    if s.groups.length = 8 then none
    else if c = ':' then
      if s.gap.isSome then none
      else readIpv6Groups fuel { s with gap := some s.groups.length } rest
    else
      let (value,length,after) := readHexGroup (c :: rest)
      match after with
      | '.' :: _ =>
        if length = 0 || 6 < s.groups.length then none
        else match readDottedBytes (c :: rest) with
          | some [a,b,d,e] => some { s with groups := s.groups ++ [a * 256 + b,d * 256 + e] }
          | _ => none
      | ':' :: after =>
        if after.isEmpty then none
        else readIpv6Groups fuel { s with groups := s.groups ++ [value] } after
      | [] => some { s with groups := s.groups ++ [value] }
      | _ => none

def ipv6OfText (t : List Char) : Except Flaw (List Nat) :=
  let start := match t with
    | ':' :: ':' :: rest => readIpv6Groups (t.length + 1) { gap := some 0 } rest
    | ':' :: _ => none
    | [] => none
    | t => readIpv6Groups (t.length + 1) {} t
  match start with
  | none => .error .ipv6
  | some s =>
    match s.gap with
    | none => if s.groups.length = 8 then .ok s.groups else .error .ipv6
    | some place =>
      if 7 < s.groups.length then .error .ipv6
      else .ok (s.groups.take place ++ List.replicate (8 - s.groups.length) 0 ++ s.groups.drop place)

/-! ## Domain names -/

def asciiForm? (c : Char) : Option (List Char) := do
  let (first,_,text) ← HostTable.asciiForms.find? fun (first,last,_) =>
    first ≤ c.toNat && c.toNat ≤ last
  match text.toList with
  | [d] => some [Char.ofNat (d.toNat + (c.toNat - first))]
  | letters => some letters

def isFullStop (c : Char) : Bool := c == '\u3002' || c == '\uff0e' || c == '\uff61'

def mapName (name : List Char) : Option (List Char) :=
  (name.mapM fun c =>
    if c.toNat < 128 then some [c.toLower]
    else if isFullStop c then some ['.']
    else if Text.inRanges HostTable.ignored c then some []
    else match asciiForm? c with
      | some letters => some letters
      | none => if Text.inRanges HostTable.refused c then none else some [c]).map List.flatten

def standsForItself (c : Char) : Bool :=
  c.toNat < 128 && c.toLower == c ||
    128 ≤ c.toNat && !Text.inRanges HostTable.ignored c && !Text.inRanges HostTable.refused c &&
      (asciiForm? c).isNone

def isMark (c : Char) : Bool := Text.inRanges Text.WordTable.mark c

def validLabel (label : List Char) : Bool :=
  match label with
  | [] => true
  | c :: _ => !isMark c && label.all standsForItself

def acePrefix : List Char := ['x','n','-','-']

def labelToAscii (label : List Char) : Option (List Char) :=
  if acePrefix.isPrefixOf label then
    match Punycode.decode? (label.drop 4) with
    | some decoded =>
      if !decoded.isEmpty && decoded.any (128 ≤ ·.toNat) && validLabel decoded then some label
      else none
    | none => none
  else if label.all (·.toNat < 128) then some label
  else if validLabel label then some (acePrefix ++ Punycode.encode label)
  else none

def forbiddenInHost : List Char :=
  ['\x00','\t','\n','\x0d',' ','#','/',':','<','>','?','@','[','\\',']','^','|']

def forbiddenInDomain (c : Char) : Bool :=
  c.toNat < 33 || c.toNat = 127 || c == '%' || forbiddenInHost.contains c

def domainToAscii (name : List Char) : Option (List Char) := do
  let mapped ← mapName name
  let labels ← (dotParts mapped).mapM labelToAscii
  let ascii := List.intercalate ['.'] labels
  if ascii.any forbiddenInDomain then none else some ascii

def Host.ofText (t : List Char) : Except Flaw Host :=
  match t with
  | '[' :: rest =>
    if rest.getLast? = some ']' then (ipv6OfText rest.dropLast).map .ipv6 else .error .ipv6
  | t =>
    match (Text.decode? (percentDecode t)).bind fun name => domainToAscii name.toList with
    | none => .error .internationalDomain
    | some [] => .error .emptyHost
    | some name =>
      if endsInNumber name then (ipv4OfName name).map .ipv4
      else .ok (.domain (String.ofList name))

def Host.ofOpaque (t : List Char) : Except Flaw Host :=
  match t with
  | '[' :: rest =>
    if rest.getLast? = some ']' then (ipv6OfText rest.dropLast).map .ipv6 else .error .ipv6
  | t =>
    if t.any forbiddenInHost.contains then .error .domainCharacter
    else .ok (.opaqueName (String.ofList (percentEncode [] t)))

def Host.text : Host → String
  | .domain name | .opaqueName name => name
  | .ipv4 value => Net.ipv4Text value
  | .ipv6 groups => "[" ++ Net.ipv6Text groups ++ "]"

end Playground.Url
