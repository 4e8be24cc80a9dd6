import Playground.Interpreter.Guest

/-! What a run of a guest comes to: a directory that cannot be mounted, a guest that cannot be
instantiated or has no entry point, or an output. To set the fuel does not fail, since it is set only
where it is metered. -/
namespace Playground.Interpreter
variable {machine : Machine}

def Store.given (machine : Machine) (fuel : Option Nat) : Store machine := ⟨if machine.metered then fuel.getD 0 else 0⟩

theorem Store.created (machine : Machine) (fuel : Option Nat) : create machine fuel = .ok (given machine fuel) := by
  unfold given
  cases metered : machine.metered with
  | false => simp [create,metered]
  | true =>
    cases fuel with
    | none => simp [create,metered]
    | some given =>
      simp only [create,metered,setFuel,if_true]
      rfl

theorem Machine.runGuestCases (machine : Machine) (files : Files) (guest : Guest) (settings : Settings)
    (source : String) (stdin : Option String) :
    machine.runGuest files guest settings source stdin =
      match mount files settings with
      | .error fault => .error fault
      | .ok () =>
        match guest.instantiate (settings.launch source stdin) (Store.given machine settings.fuel) with
        | .error cause => .error (instantiationFault cause)
        | .ok (linked,store) =>
          match guest.entry linked with
          | .error cause => .error (entryFault cause)
          | .ok entry => .ok (guest.output settings (settings.launch source stdin) entry store) := by
  unfold runGuest
  rw [Store.created]
  cases mount files settings with
  | error fault => rfl
  | ok _ =>
    simp only [bind,Except.bind]
    cases guest.instantiate (settings.launch source stdin) (Store.given machine settings.fuel) with
    | error cause => rfl
    | ok made =>
      have entered : ((guest.entry made.1).mapError entryFault).bind (fun entry =>
          (.ok (guest.output settings (settings.launch source stdin) entry made.2) : Except Fault Output)) =
          match guest.entry made.1 with
          | .error cause => .error (entryFault cause)
          | .ok entry => .ok (guest.output settings (settings.launch source stdin) entry made.2) := by
        cases guest.entry made.1 <;> rfl
      exact entered

end Playground.Interpreter
