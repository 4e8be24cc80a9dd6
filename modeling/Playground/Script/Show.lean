import Playground.Script.Value

/-! How values are shown: texts as they are, objects in their JSON form with two spaces of indent
per level, and where there is none, as the text they convert to. -/
namespace Playground.Script.Value

abbrev Form := Except Unit (Option String)

def indent (level : Nat) : String := "\n" ++ String.ofList (List.replicate (2 * level) ' ')

def numberForm (x : Float) : String := if x.isFinite then Numeral.text x else "null"

def lay (level : Nat) (left right : String) : List String → String
  | [] => left ++ right
  | lines =>
    left ++ indent (level + 1) ++ String.intercalate ("," ++ indent (level + 1)) lines ++
      indent level ++ right

def flatForm : Value → Form
  | .null => .ok (some "null")
  | .bool value => .ok (some (if value then "true" else "false"))
  | .number value => .ok (some (numberForm value))
  | .text units => .ok (some units.quoted)
  | .bigint _ => .error ()
  | .error _ _ => .ok (some "\x7b\x7d")
  | _ => .ok none

def boxedForm : Value → Form
  | .symbol _ => .ok (some "\x7b\x7d")
  | v => flatForm v

def consoleForm (level : Nat) : Console → String
  | .counting => lay level "\x7b" "\x7d" ["\"warn\": 5"]
  | _ => "\x7b\x7d"

mutual

def form (level : Nat) : Value → Form
  | .jsonForm own => ownForm level own
  | .array items => (itemForms (level + 1) items).map fun lines => some (lay level "[" "]" lines)
  | .object entries =>
    (entryForms (level + 1) entries).map fun lines => some (lay level "\x7b" "\x7d" lines)
  | .console which => .ok (some (consoleForm level which))
  | .boxed content => boxedForm content
  | .selfObject => .error ()
  | .selfArray => .error ()
  | .selfBare => .error ()
  | .textForm _ => .error ()
  | .unprintable => .error ()
  | .badMessage => .error ()
  | v => flatForm v

def ownForm (level : Nat) : Value → Form
  | .jsonForm _ => .ok (some "\x7b\x7d")
  | .textForm _ => .ok (some "\x7b\x7d")
  | .unprintable => .ok (some "\x7b\x7d")
  | .array items => (itemForms (level + 1) items).map fun lines => some (lay level "[" "]" lines)
  | .object entries =>
    (entryForms (level + 1) entries).map fun lines => some (lay level "\x7b" "\x7d" lines)
  | .console which => .ok (some (consoleForm level which))
  | .boxed content => boxedForm content
  | .selfObject => .error ()
  | .selfArray => .error ()
  | .selfBare => .error ()
  | .badMessage => .error ()
  | v => flatForm v

def itemForms (level : Nat) : List Value → Except Unit (List String)
  | [] => .ok []
  | item :: rest => do
    let first ← form level item
    let others ← itemForms level rest
    return first.getD "null" :: others

def entryForms (level : Nat) : List (Units × Value) → Except Unit (List String)
  | [] => .ok []
  | (key,value) :: rest => do
    let first ← form level value
    let others ← entryForms level rest
    match first with
    | some layout => return (key.quoted ++ ": " ++ layout) :: others
    | none => return others

end

def shown (v : Value) : Units :=
  if v.isObject then
    match form 0 v with
    | .ok (some layout) => .ofString layout
    | _ => v.shownText
  else v.shownText

def description (v : Value) : Units :=
  match v.member "message" with
  | .ok .undefined => v.shownText
  | .ok message =>
    match message.shownText? with
    | .ok units => units
    | .error _ => v.shownText
  | .error _ => v.shownText

def printed : List Value → Units
  | [] => []
  | [v] => v.shown
  | v :: rest => v.shown ++ Units.ofString " " ++ printed rest

def inspected : Value → Units
  | .text units => units
  | .bigint value => .ofString (toString value ++ "n")
  | .number value =>
    match Number.partsOf value with
    | .finite true 0 _ => .ofString "-0"
    | _ => .ofString (Numeral.text value)
  | v => v.shownText

end Playground.Script.Value
