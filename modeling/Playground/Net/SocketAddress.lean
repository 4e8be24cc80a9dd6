import Playground.Net.Ip

/-! Socket addresses: an IPv4 address or a bracketed IPv6 address, then a colon and a port. Octets
have no leading zeros, ports may have them. -/
namespace Playground.Net

inductive SocketAddress where
  | v4 (address : Nat) (port : Nat)
  | v6 (groups : List Nat) (scope : Nat) (port : Nat)
  deriving DecidableEq, Repr

namespace SocketAddress

def digitValue? (base : Nat) (c : Char) : Option Nat :=
  let value? :=
    if c.isDigit then some (c.toNat - 48)
    else if 'a' ≤ c && c ≤ 'f' then some (c.toNat - 87)
    else if 'A' ≤ c && c ≤ 'F' then some (c.toNat - 55)
    else none
  value?.filter (· < base)

def readNumber (base limit : Nat) (places : Option Nat) (leadingZero : Bool) (t : List Char) :
    Option (Nat × List Char) :=
  let digits := t.takeWhile fun c => (digitValue? base c).isSome
  let value := digits.foldl (fun n c => n * base + (digitValue? base c).getD 0) 0
  let tooLong := match places with
    | some places => places < digits.length
    | none => false
  if digits.isEmpty || tooLong || limit ≤ value then none
  else if !leadingZero && digits.head? = some '0' && 1 < digits.length then none
  else some (value,t.drop digits.length)

def readMark (c : Char) (t : List Char) : Option (List Char) :=
  if t.head? = some c then some (t.drop 1) else none

def readOctet (t : List Char) : Option (Nat × List Char) := readNumber 10 256 (some 3) false t

def readIpv4 (t : List Char) : Option (Nat × List Char) := do
  let (a,t) ← readOctet t
  let (b,t) ← readOctet (← readMark '.' t)
  let (c,t) ← readOctet (← readMark '.' t)
  let (d,t) ← readOctet (← readMark '.' t)
  return (((a * 256 + b) * 256 + c) * 256 + d,t)

structure Groups where
  groups : List Nat
  endsIpv4 : Bool
  rest : List Char

def readGroups : (room : Nat) → (seen : List Nat) → List Char → Groups
  | 0,seen,t => ⟨seen,false,t⟩
  | room + 1,seen,t =>
    let start := if seen.isEmpty then some t else readMark ':' t
    match (if room = 0 then none else start.bind readIpv4) with
    | some (address,rest) => ⟨seen ++ [address / 65536,address % 65536],true,rest⟩
    | none =>
      match start.bind (readNumber 16 65536 (some 4) true) with
      | some (group,rest) => readGroups room (seen ++ [group]) rest
      | none => ⟨seen,false,t⟩

def readIpv6 (t : List Char) : Option (List Nat × List Char) := do
  let head := readGroups 8 [] t
  if head.groups.length = 8 then return (head.groups,head.rest)
  else if head.endsIpv4 then none
  else
    let rest ← readMark ':' (← readMark ':' head.rest)
    let tail := readGroups (7 - head.groups.length) [] rest
    let zeros := 8 - head.groups.length - tail.groups.length
    return (head.groups ++ List.replicate zeros 0 ++ tail.groups,tail.rest)

def readPort (t : List Char) : Option Nat := do
  let (port,rest) ← readNumber 10 65536 none true (← readMark ':' t)
  if rest.isEmpty then some port else none

def readScope (t : List Char) : Option (Nat × List Char) :=
  match t with
  | '%' :: rest => readNumber 10 0x100000000 none true rest
  | t => some (0,t)

def readV4 (t : List Char) : Option SocketAddress := do
  let (address,rest) ← readIpv4 t
  return .v4 address (← readPort rest)

def readV6 (t : List Char) : Option SocketAddress := do
  let (groups,rest) ← readIpv6 (← readMark '[' t)
  let (scope,rest) ← readScope rest
  return .v6 groups scope (← readPort (← readMark ']' rest))

def parse? (text : String) : Option SocketAddress := (readV4 text.toList).or (readV6 text.toList)

def groupsText : List Nat → String
  | [0,0,0,0,0,0xffff,a,b] => "::ffff:" ++ ipv4Text (a * 65536 + b)
  | groups => ipv6Text groups

def text : SocketAddress → String
  | .v4 address port => s!"{ipv4Text address}:{port}"
  | .v6 groups scope port =>
    let zone := if scope = 0 then "" else "%" ++ toString scope
    "[" ++ groupsText groups ++ zone ++ "]:" ++ toString port

end SocketAddress
end Playground.Net
