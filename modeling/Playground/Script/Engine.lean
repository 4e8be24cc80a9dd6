import Playground.Script.Course
import Playground.Script.Value

/-! The values of documents as those of an engine, and the names that are there from the start. -/
namespace Playground.Script

namespace Value

def role : Value → Role
  | .console .host => .host
  | .console (.capturing run) => .console run
  | .function (.reader run takesPrompt) => .reader run takesPrompt
  | v => if v.isObject then .object else .other

/- Objects that are no functions or consoles are made anew each time, and are the same as no other. -/
def same : Value → Value → Bool
  | .undefined,.undefined => true
  | .null,.null => true
  | .bool a,.bool b => a == b
  | .number a,.number b => a.toBits == b.toBits
  | .bigint a,.bigint b => a == b
  | .text a,.text b => a == b
  | .function a,.function b => a == b
  | .console a,.console b => a == b
  | _,_ => false

end Value

instance : Values Value where
  undefined := .undefined
  hostConsole := .console .host
  console := fun run => .console (.capturing run)
  reader := fun run takesPrompt => .function (.reader run takesPrompt)
  role := Value.role
  same := Value.same
  hostRole := rfl
  consoleRole := fun _ => rfl
  readerRole := fun _ _ => rfl

def builtin? (name : String) : Option Value :=
  let functions := ["Object","Function","Array","String","Number","Boolean","Symbol","BigInt",
    "Date","Promise","RegExp","Error","TypeError","RangeError","SyntaxError","ReferenceError",
    "EvalError","URIError","AggregateError","Map","Set","WeakMap","WeakSet","WeakRef","Proxy",
    "ArrayBuffer","DataView","parseInt","parseFloat","isNaN","isFinite","eval","escape",
    "unescape","encodeURI","encodeURIComponent","decodeURI","decodeURIComponent",
    "__workbenchRun","__workbenchDrainHostLog"]
  if functions.contains name then some (.function (.builtin name))
  else if ["JSON","Math","Reflect","Atomics","globalThis"].contains name then some (.object [])
  else match name with
    | "__workbenchHostConsole" => some (.console .host)
    | "NaN" => some (.number Numeral.nan)
    | "Infinity" => some (.number Numeral.infinity)
    | "undefined" => some .undefined
    | _ => none

def isReadOnly (name : String) : Bool :=
  ["NaN","Infinity","undefined","__workbenchHostConsole","__workbenchRun","__workbenchDrainHostLog"].contains name

end Playground.Script
