/-! The written forms of internet addresses. Of the runs of zero groups in an IPv6 address the
longest one is left out, the first of equally long ones. -/
namespace Playground.Net

def hexText (n : Nat) : String := String.ofList (Nat.toDigits 16 n)

def longestZeroRun (groups : List Nat) : Option (Nat × Nat) :=
  let runAt (i : Nat) : Nat := ((groups.drop i).takeWhile (· == 0)).length
  (List.range groups.length).foldl (fun best i =>
    let length := runAt i
    match best with
    | some (_,longest) => if longest < length then some (i,length) else best
    | none => if 1 < length then some (i,length) else none) none

def ipv6Text (groups : List Nat) : String :=
  let joined (part : List Nat) : String := String.intercalate ":" (part.map hexText)
  match longestZeroRun groups with
  | some (place,length) => joined (groups.take place) ++ "::" ++ joined (groups.drop (place + length))
  | none => joined groups

def ipv4Text (value : Nat) : String :=
  String.intercalate "." ([24,16,8,0].map fun shift => toString (value / Nat.pow 2 shift % 256))

end Playground.Net
