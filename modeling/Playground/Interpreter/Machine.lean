import Playground.Config
import Playground.Fault
import Playground.Files
import Playground.Interpreter.Settings

/-! The machine that runs modules. It may meter fuel, and it may keep its instances in a pool of
slots. -/
namespace Playground.Interpreter

structure Pool where
  slots : Nat
  slotBytes : Nat
  deriving DecidableEq, Repr

structure Machine where
  metered : Bool := false
  pool : Option Pool := none
  deriving DecidableEq, Repr

namespace Machine

def slotReservation : Nat := 0x100000000

def guardBytes : Nat := 0x2000000

def addressSpace : Nat := 0x800000000000

def poolFits (pool : Pool) : Bool :=
  pool.slotBytes ≤ slotReservation && pool.slots * (slotReservation + guardBytes) < addressSpace

def ofConfig (config : Config.Engine) : Except Fault Machine :=
  if !config.poolingAllocator then .ok { metered := config.fuelMetering }
  else
    let pool : Pool := ⟨config.maxInstances,config.instanceMemoryMb * 1024 * 1024⟩
    if poolFits pool then .ok { metered := config.fuelMetering, pool := some pool }
    else .error (.invalidConfig "Failed to create Wasmtime engine: the pool cannot be reserved")

def mount (files : Files) (settings : Settings) : Except Fault Unit :=
  match settings.mount with
  | none => .ok ()
  | some mount =>
    match files.openDirectory mount.host with
    | .ok _ => .ok ()
    | .error cause =>
      .error (.invalidConfig s!"cannot mount {mount.host} at {mount.guest}: {cause.message}")

end Machine
end Playground.Interpreter
