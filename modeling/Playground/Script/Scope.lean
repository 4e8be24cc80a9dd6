/-! The scope that all scripts share: an object whose properties anybody may define, redefine and
delete. A property is a value or is computed, and what can still be changed of it depends on whether
it is configurable; nothing is added to an object that is no longer extensible. -/
namespace Playground.Script

/- What a host can tell of a value. -/
inductive Role where
  | host
  | console (run : Nat)
  | reader (run : Nat) (takesPrompt : Bool)
  | object
  | other
  deriving DecidableEq, Repr

def Role.isObject : Role → Bool
  | .host | .console _ | .object => true
  | .reader _ _ | .other => false

class Values (V : Type) where
  undefined : V
  hostConsole : V
  console : Nat → V
  reader : Nat → Bool → V
  role : V → Role
  same : V → V → Bool
  hostRole : role hostConsole = .host
  consoleRole : ∀ run, role (console run) = .console run
  readerRole : ∀ run takesPrompt, role (reader run takesPrompt) = .reader run takesPrompt

inductive Slot (V : Type) where
  | data (value : V) (writable : Bool)
  | accessor (getter setter : V)

structure Property (V : Type) where
  slot : Slot V
  enumerable : Bool := true
  configurable : Bool := true

inductive Content (V : Type) where
  | unsaid
  | data (value : Option V) (writable : Option Bool)
  | accessor (getter setter : Option V)

structure Change (V : Type) where
  content : Content V := .unsaid
  enumerable : Option Bool := none
  configurable : Option Bool := none

variable {V : Type}

namespace Property

def plain (value : V) : Property V := { slot := .data value true }

def change (p : Property V) : Change V where
  content := match p.slot with
    | .data value writable => .data (some value) (some writable)
    | .accessor getter setter => .accessor (some getter) (some setter)
  enumerable := some p.enumerable
  configurable := some p.configurable

end Property

section Definitions

variable [Values V]

def Content.filled : Content V → Slot V
  | .unsaid => .data Values.undefined false
  | .data value writable => .data (value.getD Values.undefined) (writable.getD false)
  | .accessor getter setter => .accessor (getter.getD Values.undefined) (setter.getD Values.undefined)

namespace Slot

def changed (slot : Slot V) (content : Content V) : Slot V :=
  match slot,content with
  | slot,.unsaid => slot
  | .data value writable,.data value' writable' => .data (value'.getD value) (writable'.getD writable)
  | .accessor getter setter,.accessor getter' setter' => .accessor (getter'.getD getter) (setter'.getD setter)
  | _,content => content.filled

def isWritable : Slot V → Bool
  | .data _ writable => writable
  | .accessor _ _ => false

def admits (slot : Slot V) (content : Content V) : Bool :=
  match slot,content with
  | _,.unsaid => true
  | .data _ true,.data _ _ => true
  | .data value false,.data value' writable' => writable' != some true && value'.all (Values.same value)
  | .accessor getter setter,.accessor getter' setter' =>
    getter'.all (Values.same getter) && setter'.all (Values.same setter)
  | _,_ => false

end Slot

/- A property as a definition leaves it, unless it is refused. What a slot that cannot be written admits is
what it holds already. -/
def Property.changed (p : Property V) (change : Change V) : Option (Property V) :=
  let enumerable := change.enumerable.getD p.enumerable
  if p.configurable then
    some { slot := p.slot.changed change.content, enumerable, configurable := change.configurable.getD true }
  else if change.configurable = some true || enumerable != p.enumerable || !p.slot.admits change.content then none
  else some { p with slot := if p.slot.isWritable then p.slot.changed change.content else p.slot }

def Change.made (change : Change V) : Property V where
  slot := change.content.filled
  enumerable := change.enumerable.getD false
  configurable := change.configurable.getD false

end Definitions

structure Scope (V : Type) where
  get? : String → Option (Property V)
  extensible : Bool := true

namespace Scope

def put (scope : Scope V) (name : String) (property : Option (Property V)) : Scope V :=
  { scope with get? := fun other => if other = name then property else scope.get? other }

def isOpen (scope : Scope V) (name : String) : Bool :=
  match scope.get? name with
  | some p => p.configurable
  | none => scope.extensible

def delete? (scope : Scope V) (name : String) : Option (Scope V) :=
  match scope.get? name with
  | some p => if p.configurable then some (scope.put name none) else none
  | none => some scope

variable [Values V]

def first : Scope V where
  get? := fun name => if name = "console" then some (.plain Values.hostConsole) else none

def define? (scope : Scope V) (name : String) (change : Change V) : Option (Scope V) :=
  match scope.get? name with
  | some p => (p.changed change).map fun p => scope.put name (some p)
  | none => if scope.extensible then some (scope.put name (some change.made)) else none

def install (scope : Scope V) (name : String) (value : V) : Scope V :=
  (scope.define? name (Property.plain value).change).getD scope

def restore (scope : Scope V) (name : String) : Option (Property V) → Scope V
  | some p => (scope.define? name p.change).getD scope
  | none => (scope.delete? name).getD scope

end Scope
end Playground.Script
