import Playground.Proofs.Engine.ControlKeys
import Playground.Proofs.Interpreter.Runs
import Playground.Wasm.Document

/-! What becomes of a Python program that the machine refuses to run. A refusal has nothing to do with
the program: it is decided by the files, the settings, the machine and what its engine makes of the
interpreter's module. Its report shows the class of guests all the same, and no other report on a
ready runtime does. -/
namespace Playground.Interpreter

/- Why a machine runs no program at all. Fuel is no reason: it is set only where the machine meters it. -/
inductive Refuses (machine : Machine) (files : Files) (guest : Guest) (settings : Settings) (launch : Launch) :
    Fault → Prop where
  | unmounted {mount cause} (given : settings.mount = some mount)
      (closed : files.openDirectory mount.host = .error cause) :
      Refuses machine files guest settings launch
        (.invalidConfig s!"cannot mount {mount.host} at {mount.guest}: {cause.message}")
  | unlinked {cause} (mounted : Machine.mount files settings = .ok ())
      (failed : guest.instantiate launch (Store.given machine settings.fuel) = .error cause) :
      Refuses machine files guest settings launch (.trap s!"Failed to instantiate interpreter: {cause}")
  | entryless {linked store cause} (mounted : Machine.mount files settings = .ok ())
      (made : guest.instantiate launch (Store.given machine settings.fuel) = .ok (linked,store))
      (absent : guest.entry linked = .error cause) :
      Refuses machine files guest settings launch (.compilationFailed s!"Missing _start export: {cause}")

theorem mountRefused {files : Files} {settings : Settings} {fault : Fault}
    (refused : Machine.mount files settings = .error fault) : ∃ mount cause, settings.mount = some mount ∧
      files.openDirectory mount.host = .error cause ∧
      fault = .invalidConfig s!"cannot mount {mount.host} at {mount.guest}: {cause.message}" := by
  unfold Machine.mount at refused
  split at refused
  · contradiction
  · rename_i mount given
    split at refused
    · contradiction
    · rename_i cause closed
      cases refused
      exact ⟨mount,cause,given,closed,rfl⟩

theorem refusedIff (machine : Machine) (files : Files) (guest : Guest) (settings : Settings) (source : String)
    (stdin : Option String) (fault : Fault) :
    machine.runGuest files guest settings source stdin = .error fault ↔
      Refuses machine files guest settings (settings.launch source stdin) fault := by
  rw [Machine.runGuestCases]
  constructor
  · intro refused
    split at refused
    · rename_i unmounted
      obtain ⟨mount,cause,given,closed,rfl⟩ := mountRefused unmounted
      cases refused
      exact .unmounted given closed
    · rename_i mounted
      split at refused
      · rename_i failed
        cases refused
        exact .unlinked mounted failed
      · rename_i made
        split at refused
        · rename_i absent
          cases refused
          exact .entryless mounted made absent
        · contradiction
  · intro refuses
    cases refuses with
    | unmounted given closed => simp only [Machine.mount,given,closed]
    | unlinked mounted failed =>
      simp only [mounted,failed]
      rfl
    | entryless mounted made absent =>
      simp only [mounted,made,absent]
      rfl

theorem refusedGuest {machine : Machine} {files : Files} {guest : Guest} {settings : Settings} {launch : Launch}
    {fault : Fault} (refuses : Refuses machine files guest settings launch fault) : fault.faultClass = .guest := by
  cases refuses <;> rfl

theorem outputClass (output : Output) : (output.report "Python").metadata.get? Report.errorClassKey =
    if output.exit = .outOfFuel then some (.string FaultClass.resourceLimit.name) else none := by
  have exited : (output.exitReport "Python").metadata.get? Report.errorClassKey =
      if output.exit = .outOfFuel then some (.string FaultClass.resourceLimit.name) else none := by
    unfold Output.exitReport
    cases output.exit with
    | code value => by_cases zero : value = 0 <;> simp only [zero,if_true,if_false] <;> rfl
    | trap message => rfl
    | outOfFuel => rfl
  unfold Output.report
  cases output.fuelConsumed with
  | none => exact exited
  | some fuel => exact (Engine.metadataAt _ _ _ _).trans exited

end Playground.Interpreter

namespace Playground.Engine
open Playground.Interpreter (Compiled Machine Modules Output Refuses)

variable {W M : Type} [Modules M]

def InterpretsBy (c : Collaborators (Workplace W) (Compiled M)) (machine : Machine)
    (settings : Interpreter.Settings) : Prop :=
  ∀ compiled source stdin place, (c.runGuest compiled source stdin).run place =
    (machine.run place.files compiled.module settings source stdin,place)

theorem assembledInterprets {equipment : Equipment W M} {config : Config.Components}
    {c : Collaborators (Workplace W) (Compiled M)} (assembled : assemble equipment config = .ok c) :
    ∃ machine, Machine.ofConfig config.engine = .ok machine ∧
      InterpretsBy c machine (Interpreter.Settings.python config) := by
  unfold assemble at assembled
  simp only [bind,Except.bind] at assembled
  split at assembled
  · contradiction
  rename_i machine made
  split at assembled
  · contradiction
  split at assembled
  · contradiction
  cases assembled
  exact ⟨machine,made,fun _ _ _ _ => rfl⟩

theorem readyRuns {c : Collaborators W H} {handle : H} (source : String) (stdin : Option String) {s : Session W H}
    (ready : ((ensureReady c).run s).1 = .ok handle) :
    ((runTagged c ⟨source,.python,stdin⟩).run s).1 = tagged ⟨source,.python,stdin⟩
      (guestReport ((c.runGuest handle source stdin).run ((ensureReady c).run s).2.world).1) := by
  have interpreted : ((runInterpreted c ⟨source,.python,stdin⟩).run s).1 =
      guestReport ((c.runGuest handle source stdin).run ((ensureReady c).run s).2.world).1 := by
    unfold runInterpreted
    rw [StateT.run_bind]
    simp only [bind,ready]
    rfl
  have ends : ((runTagged c ⟨source,.python,stdin⟩).run s).1 =
      tagged ⟨source,.python,stdin⟩ ((runInterpreted c ⟨source,.python,stdin⟩).run s).1 := rfl
  rw [ends,interpreted]

theorem refusedRunsClassedGuest {c : Collaborators (Workplace W) (Compiled M)} {machine : Machine}
    {settings : Interpreter.Settings} (interprets : InterpretsBy c machine settings) {source name : String}
    {stdin : Option String} (started : Started c source name stdin .python) (s : Session (Workplace W) (Compiled M))
    {compiled : Compiled M}
    (ready : ((ensureReady c).run ((effectiveInput c source .python stdin).run s).2).1 = .ok compiled) :
    let input := (effectiveInput c source .python stdin).run s
    let files := ((ensureReady c).run input.2).2.world.files
    let result := machine.run files compiled.module settings source input.1
    let report := ((run c source name stdin).run s).1
    (∀ fault, result = .error fault ↔
      Refuses machine files (Modules.guest compiled.module) settings (settings.launch source input.1) fault) ∧
    (∀ fault, result = .error fault → report.status = .error ∧ report.message = "Python Error: " ++ fault.message) ∧
    (report.metadata.get? Report.errorClassKey = some (.string FaultClass.guest.name) ↔
      ∃ fault, result = .error fault) := by
  intro input files result report
  have ends : report = tagged ⟨source,.python,input.1⟩ (guestReport result) := by
    simp only [report,startedRuns started s]
    rw [readyRuns source input.1 ready,interprets]
  have shown : report.metadata.get? Report.errorClassKey =
      (guestReport result).metadata.get? Report.errorClassKey := by
    rw [ends,taggedAt,if_neg (by decide),if_neg (by decide)]
  have decided (fault : Fault) :=
    Interpreter.refusedIff machine files (Modules.guest compiled.module) settings source input.1 fault
  refine ⟨decided,fun fault refused => ?_,?_⟩
  · rw [ends,refused]
    exact ⟨rfl,rfl⟩
  · rw [shown]
    cases outcome : result with
    | error fault =>
      have guest := Interpreter.refusedGuest ((decided fault).mp outcome)
      refine iff_of_true ?_ ⟨fault,rfl⟩
      have cls : (guestReport (.error fault)).metadata.get? Report.errorClassKey =
          some (.string fault.faultClass.name) := rfl
      rw [cls,guest]
    | ok output =>
      refine iff_of_false ?_ (by simp)
      have cls : (guestReport (.ok output)).metadata.get? Report.errorClassKey =
        if output.exit = .outOfFuel then some (.string FaultClass.resourceLimit.name) else none :=
          Interpreter.outputClass output
      rw [cls]
      split <;> simp [FaultClass.name]

def plain : Equipment Unit where
  carrier := fun _ => pure (.error .notConnected)
  readScript := fun _ => []
  translate := fun _ => none

def unshelved : Config.Components :=
  { interpreter := { bundlePath := some "python.wasm", stdlibDir := some "lib" } }

def loadedWith (m : Wasm.Module) : Session (Workplace Unit) (Compiled Wasm.Module) where
  lifecycle := { phase := .ready ⟨m,""⟩ }
  world := { files := {}, outside := () }

theorem unmountedRunClassedGuest : ∃ c, assemble plain unshelved = .ok c ∧
    Started c "print(2)" "python" none .python ∧
    let report := ((run c "print(2)" "python" none).run (loadedWith { code := [], entry := some [] })).1
    report.status = .error ∧ report.message = "Python Error: " ++
      "Invalid configuration: cannot mount lib at /usr/local/lib: No such file or directory (os error 2)" ∧
    report.metadata.get? Report.errorClassKey = some (.string "guest") := by
  obtain ⟨c,assembled⟩ : ∃ c, assemble plain unshelved = .ok c := ⟨_,rfl⟩
  have started : Started c "print(2)" "python" none .python :=
    ⟨by cbv,by cbv,fun unanswerable => absurd unanswerable.2.2.1 (by cbv; decide)⟩
  obtain ⟨machine,made,interprets⟩ := assembledInterprets assembled
  refine ⟨c,assembled,started,?_⟩
  cases assembled
  obtain ⟨decided,told,classed⟩ :=
    refusedRunsClassedGuest interprets started (loadedWith { code := [], entry := some [] }) rfl
  have refused := (decided _).mpr (.unmounted rfl rfl)
  exact ⟨(told _ refused).1,(told _ refused).2,classed.mpr ⟨_,refused⟩⟩

def shelved : Config.Components := { interpreter := { bundlePath := some "python.wasm" } }

def UnbegunGuest (config : Config.Components) (m : Wasm.Module) : Prop :=
  ∃ c, assemble plain config = .ok c ∧
    (∃ fault, ((c.runGuest ⟨m,""⟩ "print(2)" none).run (loadedWith m).world).1 = .error fault) ∧
    let report := ((run c "print(2)" "python" none).run (loadedWith m)).1
    report.status = .error ∧ report.metadata.get? Report.errorClassKey = some (.string "guest")

/- An import that the host does not offer, a module without an entry point, and a directory that is
not there. -/
theorem unbegunRunsClassedGuest : UnbegunGuest shelved { code := [], missing := some "env::now" } ∧
    UnbegunGuest shelved { code := [] } ∧ UnbegunGuest unshelved { code := [], entry := some [] } := by
  refine ⟨?_,?_,?_⟩ <;> exact ⟨_,rfl,⟨_,rfl⟩,rfl,rfl⟩

end Playground.Engine
