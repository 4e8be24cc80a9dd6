/-! JSON values. The members of an object that is read or put together are in ascending order of their
keys, each key once, so that two such objects with the same members are equal. A record is written in
the order of its fields. -/
namespace Playground

inductive Json.Number where
  | int (value : Int)
  | float (value : Float)
  deriving DecidableEq

inductive Json where
  | null
  | bool (value : Bool)
  | number (value : Json.Number)
  | string (value : String)
  | array (items : List Json)
  | object (members : List (String × Json))

abbrev Json.Members := List (String × Json)

namespace Json

def Members.insert (key : String) (value : Json) : Members → Members
  | [] => [(key,value)]
  | (k,v) :: rest =>
    if key = k then (key,value) :: rest
    else if key < k then (key,value) :: (k,v) :: rest
    else (k,v) :: Members.insert key value rest

def Members.ofList (members : List (String × Json)) : Members :=
  members.foldl (fun known (key,value) => Members.insert key value known) []

def Members.get? (members : Members) (key : String) : Option Json := members.lookup key

def Members.erase (members : Members) (key : String) : Members :=
  members.filter fun member => member.1 != key

def ofNat (n : Nat) : Json := .number (.int (Int.ofNat n))

def ofInt (n : Int) : Json := .number (.int n)

def mkObject (members : List (String × Json)) : Json := .object (Members.ofList members)

def get? (value : Json) (key : String) : Option Json :=
  match value with
  | .object members => Members.get? members key
  | _ => none

def asString? : Json → Option String
  | .string s => some s
  | _ => none

def asArray? : Json → Option (List Json)
  | .array items => some items
  | _ => none

def asNat? : Json → Option Nat
  | .number (.int (.ofNat n)) => some n
  | _ => none

def asInt? : Json → Option Int
  | .number (.int n) => some n
  | _ => none

def asBool? : Json → Option Bool
  | .bool b => some b
  | _ => none

end Json
end Playground
