import Playground.Proofs.Interpreter.Runs
import Playground.Wasm.Document

/-! The fuel of a run. A machine meters it or not, and a run is given a budget or not. Both are asked
when the store is made, and both when fuel is reported. Of the guest nothing is known but what
metering does to any program. Main statement: in which of the four cases a run can end without fuel,
and in which the fuel is reported. Where a machine meters and no budget is given, no run ends in
another way. -/
namespace Playground.Interpreter
variable {machine : Machine}

theorem Store.consumedIf (initial : Nat) (store : Store machine) :
    store.consumed initial = if machine.metered then some (initial - store.fuel) else none := by
  unfold consumed getFuel
  split <;> rfl

theorem Failure.classifiedIff (ended : Except Failure Unit) :
    classify ended = .outOfFuel ↔ ended = .error .outOfFuel := by
  rcases ended with (_ | _ | _) | _ <;> simp [classify]

theorem Guest.ranCalled {guest : Guest} {files : Files} {settings : Settings} {source : String} {stdin : Option String}
    {output : Output} (ran : machine.runGuest files guest settings source stdin = .ok output) :
    ∃ launch entry, ∃ store : Store machine, output = guest.output settings launch entry store ∧
      store.fuel ≤ if machine.metered then settings.fuel.getD 0 else 0 := by
  rw [Machine.runGuestCases] at ran
  split at ran
  · contradiction
  split at ran
  · contradiction
  rename_i linked store made
  split at ran
  · contradiction
  rename_i entry found
  cases ran
  exact ⟨_,entry,store,rfl,guest.unfed made⟩

/- What is known of the fuel of every output. -/
structure FuelLaw (machine : Machine) (settings : Settings) (output : Output) : Prop where
  metered : output.exit = .outOfFuel → machine.metered = true
  budgeted : ∀ given, settings.fuel = some given → output.exit = .outOfFuel →
    ∃ used ≤ given, output.fuelConsumed = some used
  unbudgeted : settings.fuel = none → (output.exit = .outOfFuel ↔ machine.metered = true)
  reported : output.fuelConsumed.isSome = true ↔ machine.metered = true ∧ settings.fuel.isSome = true
  bounded : ∀ given used, settings.fuel = some given → output.fuelConsumed = some used → used ≤ given

theorem Guest.outputLaw {guest : Guest} {machine : Machine} {files : Files} {settings : Settings} {source : String}
    {stdin : Option String} {output : Output} (ran : machine.runGuest files guest settings source stdin = .ok output) :
    FuelLaw machine settings output := by
  obtain ⟨launch,entry,store,rfl,fuel⟩ := ranCalled ran
  let called := guest.call entry launch settings.maxOutputBytes store
  have exits : (guest.output settings launch entry store).exit = .outOfFuel ↔ called.ended = .error .outOfFuel :=
    Failure.classifiedIff _
  have reports : (guest.output settings launch entry store).fuelConsumed =
      settings.fuel.bind fun given => called.store.consumed given := rfl
  simp only [Store.consumedIf] at reports
  generalize guest.output settings launch entry store = output at exits reports ⊢
  cases metered : machine.metered with
  | false =>
    have running : output.exit ≠ .outOfFuel :=
      mt exits.mp (guest.unmetered entry launch settings.maxOutputBytes store metered)
    have unreported : output.fuelConsumed = none := by
      rw [reports,metered]
      cases settings.fuel <;> rfl
    constructor
    · exact fun dry => absurd dry running
    · exact fun _ _ dry => absurd dry running
    · exact fun _ => iff_of_false running (by simp [metered])
    · simp [unreported,metered]
    · intro given used _ reported
      rw [unreported] at reported
      contradiction
  | true =>
    have reported : output.fuelConsumed = settings.fuel.map (· - called.store.fuel) := by
      rw [reports,metered]
      cases settings.fuel <;> rfl
    constructor
    · exact fun _ => metered
    · intro given set _
      exact ⟨given - called.store.fuel,Nat.sub_le _ _,by rw [reported,set,Option.map_some]⟩
    · intro unset
      rw [metered,unset] at fuel
      have empty := guest.dry entry launch settings.maxOutputBytes store metered (Nat.le_zero.mp fuel)
      exact iff_of_true (exits.mpr empty) metered
    · simp [reported,metered]
    · intro given used set shown
      rw [reported,set,Option.map_some] at shown
      exact Option.some.inj shown ▸ Nat.sub_le _ _

theorem pythonBudget {config : Config.Components} {machine : Machine}
    (made : Machine.ofConfig config.engine = .ok machine) :
    (Settings.python config).fuel.isSome = true ↔ machine.metered = true := by
  have same : machine.metered = config.engine.fuelMetering := by
    unfold Machine.ofConfig at made
    split at made
    · cases made
      rfl
    · dsimp only at made
      split at made
      · cases made
        rfl
      · contradiction
  rw [same,Settings.python]
  cases config.engine.fuelMetering <;> simp

theorem runsOutOnlyWhereMetered [Modules M] (machine : Machine) (files : Files) (settings : Settings) (source : String)
    (stdin : Option String) :
    (∀ (guest : Guest) (output : Output), machine.runGuest files guest settings source stdin = .ok output →
      FuelLaw machine settings output) ∧
    (∀ (m : M) (output : Output), machine.run files m settings source stdin = .ok output →
      FuelLaw machine settings output) ∧
    ∀ config, Machine.ofConfig config.engine = .ok machine → settings = Settings.python config →
      (settings.fuel.isSome = true ↔ machine.metered = true) := by
  refine ⟨fun _ _ => Guest.outputLaw,fun _ _ => Guest.outputLaw,?_⟩
  rintro config made rfl
  exact pythonBudget made

theorem spentBudgetReported :
    let machine : Machine := { metered := true }
    let settings : Settings := { fuel := some 5 }
    let output : Output := { exit := .outOfFuel, fuelConsumed := some 5 }
    let spinning : Wasm.Module := { code := [], entry := some [.spin] }
    machine.run {} spinning settings "x" none = .ok output ∧ FuelLaw machine settings output := by
  intro machine settings output spinning
  have ran : machine.run {} spinning settings "x" none = .ok output := rfl
  exact ⟨ran,(runsOutOnlyWhereMetered machine {} settings "x" none).2.1 spinning output ran⟩

theorem unbudgetedOutOfFuel :
    let machine : Machine := { metered := true }
    let settings : Settings := {}
    let empty : Wasm.Module := { code := [], entry := some [] }
    settings.fuel = none ∧
      machine.run {} empty settings "x" none = .ok { exit := .outOfFuel, fuelConsumed := none } :=
  ⟨rfl,rfl⟩

end Playground.Interpreter
