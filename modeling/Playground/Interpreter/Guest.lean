import Playground.Interpreter.Machine
import Playground.Interpreter.Output
import Playground.Text.Utf8

/-! One run of a guest. A store is made for it, the guest is instantiated, and its entry point is
called. What a guest does is not known here; of fuel it is known what metering does to any guest. -/
namespace Playground.Interpreter

structure Store (machine : Machine) where
  fuel : Nat := 0

namespace Store
variable {machine : Machine}

def setFuel (_ : Store machine) (fuel : Nat) : Except String (Store machine) :=
  if machine.metered then .ok ⟨fuel⟩ else .error "fuel is not configured in this store"

def getFuel (store : Store machine) : Option Nat := if machine.metered then some store.fuel else none

def create (machine : Machine) (fuel : Option Nat) : Except Fault (Store machine) :=
  let store : Store machine := {}
  match machine.metered,fuel with
  | true,some given => (store.setFuel given).mapError fun cause => .invalidConfig s!"Failed to set fuel: {cause}"
  | _,_ => .ok store

def consumed (initial : Nat) (store : Store machine) : Option Nat := store.getFuel.map (initial - ·)

end Store

structure Launch where
  arguments : List String
  environment : List (String × String) := []
  stdin : List UInt8 := []
  deriving DecidableEq, Repr

def Settings.launch (settings : Settings) (source : String) (stdin : Option String) : Launch where
  arguments := settings.argv ++ [source]
  environment := settings.env
  stdin := Text.encode (stdin.getD "")

inductive Failure where
  | exited (status : Int)
  | outOfFuel
  | trapped (message : String)

def Failure.classify : Except Failure Unit → Exit
  | .ok () => .code 0
  | .error (.exited status) => .code status
  | .error .outOfFuel => .outOfFuel
  | .error (.trapped message) => .trap message

structure Called (machine : Machine) where
  ended : Except Failure Unit
  stdout : List UInt8
  stderr : List UInt8
  store : Store machine

/- Any guest, on any machine. To instantiate it adds no fuel. Without metering its call never runs out, and
where fuel is metered and none is left it does at once. -/
structure Guest where
  Instance : Type
  Entry : Type
  instantiate {machine : Machine} : Launch → Store machine → Except String (Instance × Store machine)
  entry : Instance → Except String Entry
  call {machine : Machine} : Entry → Launch → Nat → Store machine → Called machine
  unfed : ∀ {machine : Machine} {launch : Launch} {store later : Store machine} {linked : Instance},
    instantiate launch store = .ok (linked,later) → later.fuel ≤ store.fuel
  unmetered : ∀ {machine : Machine} (entry : Entry) (launch : Launch) (capacity : Nat) (store : Store machine),
    machine.metered = false → (call entry launch capacity store).ended ≠ .error .outOfFuel
  dry : ∀ {machine : Machine} (entry : Entry) (launch : Launch) (capacity : Nat) (store : Store machine),
    machine.metered = true → store.fuel = 0 → (call entry launch capacity store).ended = .error .outOfFuel

def Guest.output (guest : Guest) {machine : Machine} (settings : Settings) (launch : Launch) (entry : guest.Entry)
    (store : Store machine) : Output :=
  let called := guest.call entry launch settings.maxOutputBytes store
  { stdout := Text.decodeLossy called.stdout
    stderr := Text.decodeLossy called.stderr
    exit := Failure.classify called.ended
    fuelConsumed := settings.fuel.bind fun given => called.store.consumed given }

def instantiationFault (cause : String) : Fault := .trap s!"Failed to instantiate interpreter: {cause}"

def entryFault (cause : String) : Fault := .compilationFailed s!"Missing _start export: {cause}"

def Machine.runGuest (machine : Machine) (files : Files) (guest : Guest) (settings : Settings) (source : String)
    (stdin : Option String) : Except Fault Output := do
  mount files settings
  let store ← Store.create machine settings.fuel
  let launch := settings.launch source stdin
  let (linked,store) ← (guest.instantiate launch store).mapError instantiationFault
  let entry ← (guest.entry linked).mapError entryFault
  return guest.output settings launch entry store

/- What the engine of a machine does with the modules that it compiles: which of them it takes, how it writes
them out and reads them back, by which bytes it tells the artifacts of other settings apart, and how it runs
them. -/
class Modules (M : Type) where
  takes : Machine → M → Bool
  ofNotation? : String → Option M
  serialize : M → List UInt8
  deserialize? : Machine → List UInt8 → Option M
  compatibility : Machine → List UInt8
  guest : M → Guest

def Machine.run [Modules M] (machine : Machine) (files : Files) (m : M) (settings : Settings) (source : String)
    (stdin : Option String) : Except Fault Output :=
  machine.runGuest files (Modules.guest m) settings source stdin

end Playground.Interpreter
