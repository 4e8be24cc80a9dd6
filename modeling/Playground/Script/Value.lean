import Playground.Script.Numeral
import Playground.Script.Units

/-! Values of scripts and the texts they turn into. Objects do not change once they are made; those
that refer to themselves and those with conversions of their own have constructors of their own. -/
namespace Playground.Script

inductive Console where
  | host
  | capturing (run : Nat)
  | counting
  | gotten
  | fixed
  deriving DecidableEq, Repr

inductive Callee where
  | nothing
  | own
  | builtin (name : String)
  | reader (run : Nat) (takesPrompt : Bool)
  | getter (console : Console)
  deriving DecidableEq, Repr

inductive Value where
  | undefined
  | null
  | bool (value : Bool)
  | number (value : Float)
  | bigint (value : Int)
  | text (units : Units)
  | symbol (description : Units)
  | function (callee : Callee)
  | array (items : List Value)
  | object (entries : List (Units × Value))
  | error (name : String) (message : Units)
  | boxed (content : Value)
  | console (console : Console)
  | selfObject
  /- An array that holds itself between a one and a letter. -/
  | selfArray
  | selfBare
  | jsonForm (form : Value)
  /- An object whose JSON form fails and whose text is that of another value. -/
  | textForm (form : Value)
  | unprintable
  | badMessage
  deriving Inhabited

namespace Value

def ofString (text : String) : Value := .text (.ofString text)

def typeError (message : String) : Value := .error "TypeError" (.ofString message)

def referenceError (name : String) : Value :=
  .error "ReferenceError" (.ofString s!"{name} is not defined")

def typeName : Value → String
  | .undefined => "undefined"
  | .bool _ => "boolean"
  | .number _ => "number"
  | .bigint _ => "bigint"
  | .text _ => "string"
  | .symbol _ => "symbol"
  | .function _ => "function"
  | _ => "object"

def isObject (v : Value) : Bool :=
  match v with
  | .null => false
  | v => v.typeName == "object"

abbrev Conversion (α : Type) := Except Value α

def notConvertible : Value := typeError "cannot convert object to primitive value"

def symbolConversion : Value := typeError "can't convert symbol to string"

def conversionFailure : Value := .error "Error" (.ofString "no conversion")

def errorText (name : String) (message : Units) : Units :=
  if message.isEmpty then .ofString name else Units.ofString (name ++ ": ") ++ message

def calleeName : Callee → String
  | .builtin name => name
  | _ => ""

def functionText (callee : Callee) : Units :=
  .ofString s!"function {calleeName callee}() \x7b [native code] \x7d"

def plainObjectText : Units := .ofString "[object Object]"

def plainText : Value → Conversion Units
  | .undefined => .ok (.ofString "undefined")
  | .null => .ok (.ofString "null")
  | .bool value => .ok (.ofString (if value then "true" else "false"))
  | .number value => .ok (.ofString (Numeral.text value))
  | .bigint value => .ok (.ofString (toString value))
  | .text units => .ok units
  | .symbol _ => .error symbolConversion
  | _ => .error notConvertible

mutual

def toText : Value → Conversion Units
  | .array items => joinTexts items
  | .object _ => .ok plainObjectText
  | .jsonForm _ => .ok plainObjectText
  | .selfObject => .ok plainObjectText
  | .console _ => .ok plainObjectText
  | .selfArray => .ok (.ofString "1,,z")
  | .error name message => .ok (errorText name message)
  | .function callee => .ok (functionText callee)
  | .boxed content => plainText content
  | .textForm form => plainText form
  | .badMessage => .ok (.ofString "bad message")
  | .unprintable => .error conversionFailure
  | v => plainText v

def joinTexts : List Value → Conversion Units
  | [] => .ok []
  | [item] => itemText item
  | item :: next :: rest => do
    let first ← itemText item
    let others ← joinTexts (next :: rest)
    return first ++ Units.ofString "," ++ others

def itemText : Value → Conversion Units
  | .undefined => .ok []
  | .null => .ok []
  | v => toText v

end

def shownText? : Value → Conversion Units
  | .symbol description => .ok (Units.ofString "Symbol(" ++ description ++ Units.ofString ")")
  | v => v.toText

def shownText (v : Value) : Units :=
  match v.shownText? with
  | .ok units => units
  | .error _ => .ofString "[unprintable]"

def toPrimitive : Value → Conversion Value
  | .boxed content => .ok content
  | .textForm form => if form.isObject then .error notConvertible else .ok form
  | v =>
    match v with
    | .undefined | .null | .bool _ | .number _ | .bigint _ | .text _ | .symbol _ => .ok v
    | v => v.toText.map .text

def toNumber : Value → Conversion Float
  | .undefined => .ok Numeral.nan
  | .null => .ok 0.0
  | .bool value => .ok (if value then 1.0 else 0.0)
  | .number value => .ok value
  | .symbol _ => .error (typeError "argument must not be a symbol")
  | _ => .error (typeError "cannot mix BigInt and other types")

def add (a b : Value) : Conversion Value := do
  let a ← a.toPrimitive
  let b ← b.toPrimitive
  match a,b with
  | .text x,y => return .text (x ++ (← plainText y))
  | x,.text y => return .text ((← plainText x) ++ y)
  | .bigint x,.bigint y => return .bigint (x + y)
  | x,y => return .number ((← x.toNumber) + (← y.toNumber))

/-! ## Objects -/

def position? (key : Units) : Option Nat := do
  let text ← key.text?
  let digits := text.toList
  if digits.isEmpty || digits.any (fun c => !c.isDigit) then none
  else if digits.head? = some '0' && 1 < digits.length then none
  else
    let n := Numeral.natOf 10 digits
    if n < 0xffffffff then some n else none

def putEntry (key : Units) (value : Value) : List (Units × Value) → List (Units × Value)
  | [] => [(key,value)]
  | (known,old) :: rest =>
    if known = key then (known,value) :: rest else (known,old) :: putEntry key value rest

def insertPosition (entry : Nat × Units × Value) :
    List (Nat × Units × Value) → List (Nat × Units × Value)
  | [] => [entry]
  | first :: rest =>
    if entry.1 < first.1 then entry :: first :: rest else first :: insertPosition entry rest

/- Positions come first, in ascending order; the other keys follow as they came. -/
def orderEntries (entries : List (Units × Value)) : List (Units × Value) :=
  let placed := entries.filterMap fun e => (position? e.1).map fun n => (n,e)
  let others := entries.filter fun e => (position? e.1).isNone
  (placed.foldl (fun known e => insertPosition e known) []).map Prod.snd ++ others

def ofEntries (entries : List (Units × Value)) : Value :=
  .object (orderEntries (entries.foldl (fun known (key,value) => putEntry key value known) []))

def box : Value → Value
  | .undefined => .object []
  | .null => .object []
  | .function callee => .function callee
  | v => if v.isObject then v else .boxed v

def member (v : Value) (name : String) : Conversion Value :=
  match v with
  | .undefined => .error (typeError "cannot convert 'null' or 'undefined' to object")
  | .null => .error (typeError "cannot convert 'null' or 'undefined' to object")
  | .object entries => .ok ((entries.lookup (.ofString name)).getD .undefined)
  | .error kind message =>
    if name == "message" then .ok (.text message)
    else if name == "name" then .ok (.ofString kind)
    else .ok .undefined
  | .badMessage => if name == "message" then .error conversionFailure else .ok .undefined
  | _ => .ok .undefined

end Value
end Playground.Script
