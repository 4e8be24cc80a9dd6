import Playground.Proofs.Script.Restoration

/-! Probes: scripts that only print texts and read lines, through the console and the readers that
they find in the scope. Where their names can be bound and the console before theirs prints to the
host or is no object, what they print is captured and what they read is their input, whatever was done
on the host before. -/
namespace Playground.Script

inductive Reader where
  | input | readline | prompt

namespace Reader

def name : Reader → String
  | .input => "input"
  | .readline => "readline"
  | .prompt => "prompt"

def takesPrompt : Reader → Bool
  | .input | .prompt => true
  | .readline => false

end Reader

inductive Probe where
  | ends (error value : Option Units)
  | prints (method : ConsoleMethod) (line : Units) (next : Probe)
  | reads (reader : Reader) (next : String → Probe)

variable {V S W : Type} [Values V] [Inhabited S]

def Property.role : Option (Property V) → Role
  | some { slot := .data value _, .. } => Values.role value
  | _ => .other

namespace Probe

def passOn (otherwise next : Course V Conclusion) (method : ConsoleMethod) (line : Units) :
    Option V → Course V Conclusion
  | none => next
  | some previous =>
    match Values.role previous with
    | .host => (Course.act (.log method line)).bind fun _ => next
    | _ => otherwise

def printing (otherwise next : Course V Conclusion) (method : ConsoleMethod) (line : Units) : Role → Course V Conclusion
  | .host => (Course.act (.log method line)).bind fun _ => next
  | .console run => (Course.capture run method.stream line).bind (passOn otherwise next method line)
  | _ => otherwise

def reading (otherwise : Course V Conclusion) (next : String → Course V Conclusion) : Role → Course V Conclusion
  | .reader run _ => (Course.readLine run (.done ()) fun _ => true).bind fun
    | .line text | .answered _ text => next text
    | .refused _ => otherwise
  | _ => otherwise

/- What an engine does with a probe. Where it finds something else behind a name it may do anything. -/
def course (otherwise : Probe → Course V Conclusion) : Probe → Course V Conclusion
  | .ends error value => .done (.ended error value)
  | .prints method line next => (Course.act .look).bind fun bridge =>
    printing (otherwise (.prints method line next)) (next.course otherwise) method line
      (Property.role (bridge.scope.get? "console"))
  | .reads reader next => (Course.act .look).bind fun bridge =>
    reading (otherwise (.reads reader next)) (fun line => (next line).course otherwise)
      (Property.role (bridge.scope.get? reader.name))

def turn (probe : Probe) (otherwise : Probe → Course V Conclusion) (later : S → Course V (Bool × S))
    (stdin : Option String) (ask : Ask W) : Turn V S W where
  conduct := { body := fun memory => (probe.course otherwise).bind fun conclusion => .done (conclusion,memory), later }
  stdin
  ask

def told (ask : Ask W) : Probe → List String → W → Record × W
  | .ends error value,_,world => (⟨[],error,value⟩,world)
  | .prints method line next,lines,world =>
    let (rest,world) := next.told ask lines world
    ({ rest with logs := (method.stream,line) :: rest.logs },world)
  | .reads _ next,line :: lines,world => (next line).told ask lines world
  | .reads _ next,[],world =>
    let (line,world) := askLine ask world
    (next line).told ask [] world

def ReadsNothing : Probe → Prop
  | .ends _ _ => True
  | .prints _ _ next => next.ReadsNothing
  | .reads _ _ => False

end Probe

def Quiet (console : V) : Prop := Values.role console = .host ∨ (Values.role console).isObject = false

/- A scope that takes every name of an evaluation, in which the console that is there is quiet. -/
structure Scope.Admits (scope : Scope V) (hasInput : Bool) : Prop where
  names : ∀ name, Taken hasInput name → scope.isOpen name = true
  quiet : Quiet (previousConsole scope)

structure Bridge.Attends (bridge : Bridge V) (number : Nat) (e : Evaluation V) (hasInput : Bool) : Prop where
  console : Property.role (bridge.scope.get? "console") = .console number
  readers : hasInput = true → ∀ reader : Reader,
    Property.role (bridge.scope.get? reader.name) = .reader number reader.takesPrompt
  evaluation : bridge.evaluations[number]? = some e
  heard : e.heard = true
  quiet : Quiet e.previous

variable {bridge : Bridge V} {number : Nat} {e : Evaluation V} {hasInput : Bool}

theorem attendsUpdate (attends : bridge.Attends number e hasInput) {f : Evaluation V → Evaluation V}
    (heard : (f e).heard = e.heard) (previous : (f e).previous = e.previous) :
    (bridge.update number f).Attends number (f e) hasInput where
  console := attends.console
  readers := attends.readers
  evaluation := by simp [Bridge.update,attends.evaluation]
  heard := heard.trans attends.heard
  quiet := previous ▸ attends.quiet

namespace Probe

theorem captureRuns (ask : Ask W) (stream : Stream) (line : Units) (attends : bridge.Attends number e hasInput)
    (rest : Option V → Course V Conclusion) (world : W) :
    ((Course.capture number stream line).bind rest).run ask bridge world =
      (rest ((some e.previous).filter fun v => (Values.role v).isObject)).run ask
        (bridge.update number (Evaluation.captured stream line)) world := by
  have there : (bridge.update number (Evaluation.captured stream line)).evaluations[number]? =
      some (e.captured stream line) := by simp [Bridge.update,attends.evaluation]
  have previous : (e.captured stream line).previous = e.previous := by
    unfold Evaluation.captured
    split <;> rfl
  rw [Course.runBind]
  show (rest ((((bridge.update number (Evaluation.captured stream line)).evaluations[number]?).map
    Evaluation.previous).filter _)).run _ _ _ = _
  rw [there,Option.map_some,previous]
  rfl

theorem printsCaptured (ask : Ask W) (otherwise : Probe → Course V Conclusion) (method : ConsoleMethod) (line : Units)
    (next : Probe) (attends : bridge.Attends number e hasInput) (world : W) :
    ∃ bridge', ((Probe.prints method line next).course otherwise).run ask bridge world =
        (next.course otherwise).run ask bridge' world ∧
      bridge'.Attends number { e with logs := e.logs ++ [(method.stream,line)] } hasInput := by
  have captured : e.captured method.stream line = { e with logs := e.logs ++ [(method.stream,line)] } :=
    if_pos attends.heard
  have attended := attendsUpdate attends (f := Evaluation.captured method.stream line)
    (by rw [captured]) (by rw [captured])
  rw [captured] at attended
  show ∃ bridge', (printing (otherwise (.prints method line next)) (next.course otherwise) method line
    (Property.role (bridge.scope.get? "console"))).run ask bridge world = _ ∧ _
  rw [attends.console]
  unfold printing
  rw [captureRuns ask method.stream line attends]
  rcases attends.quiet with host | none
  · refine ⟨((Step.log method line).perform (bridge.update number (Evaluation.captured method.stream line))).2,?_,?_⟩
    · simp only [Option.filter_some,host,Role.isObject,if_true,passOn]
      rfl
    · exact ⟨attended.console,attended.readers,attended.evaluation,attended.heard,attended.quiet⟩
  · refine ⟨_,?_,attended⟩
    simp only [Option.filter_some,none,Bool.false_eq_true,if_false,passOn]

theorem readsAttended (ask : Ask W) (otherwise : Probe → Course V Conclusion) (reader : Reader) (next : String → Probe)
    (attends : bridge.Attends number e true) (world : W) :
    (∀ line lines, e.lines = line :: lines → ∃ bridge',
      ((Probe.reads reader next).course otherwise).run ask bridge world =
          ((next line).course otherwise).run ask bridge' world ∧
        bridge'.Attends number { e with lines } true) ∧
    (e.lines = [] → ((Probe.reads reader next).course otherwise).run ask bridge world =
      ((next (askLine ask world).1).course otherwise).run ask bridge (askLine ask world).2) := by
  have left : bridge.left number = e.lines := by simp [Bridge.left,attends.evaluation]
  have looked : ((Probe.reads reader next).course otherwise).run ask bridge world =
      (reading (otherwise (.reads reader next)) (fun line => (next line).course otherwise)
        (.reader number reader.takesPrompt)).run ask bridge world := by
    rw [← attends.readers rfl reader]
    rfl
  constructor
  · intro line lines given
    have taken : bridge.take? number = some (line,bridge.update number fun e => { e with lines }) := by
      simp only [Bridge.take?,left,given]
    refine ⟨_,?_,attendsUpdate attends (f := fun e => { e with lines }) rfl rfl⟩
    rw [looked]
    show (Course.read number _ _ _).run ask bridge world = _
    simp only [Course.run,taken]
    rfl
  · intro empty
    have untaken : bridge.take? number = none := by simp only [Bridge.take?,left,empty]
    rw [looked]
    show (Course.read number _ _ _).run ask bridge world = _
    simp only [Course.run,untaken,if_true]
    rfl

theorem courseTold (ask : Ask W) (otherwise : Probe → Course V Conclusion) (probe : Probe)
    (reads : hasInput = false → probe.ReadsNothing) (bridge : Bridge V) (e : Evaluation V) (world : W)
    (attends : bridge.Attends number e hasInput) :
    ∃ bridge', (probe.course otherwise).run ask bridge world =
        ((.ended (probe.told ask e.lines world).1.error (probe.told ask e.lines world).1.value,bridge'),
          (probe.told ask e.lines world).2) ∧
      bridge'.logs number = e.logs ++ (probe.told ask e.lines world).1.logs := by
  induction probe generalizing bridge e world with
  | ends error value =>
    refine ⟨bridge,rfl,?_⟩
    simp [Bridge.logs,attends.evaluation,told]
  | prints method line next ih =>
    obtain ⟨between,runs,attended⟩ := printsCaptured ask otherwise method line next attends world
    obtain ⟨bridge',ran,logs⟩ := ih reads between _ world attended
    refine ⟨bridge',runs.trans ran,logs.trans ?_⟩
    simp [told]
  | reads reader next ih =>
    have given : hasInput = true := by
      cases hasInput with
      | false => exact (reads rfl).elim
      | true => rfl
    subst given
    obtain ⟨takes,asks⟩ := readsAttended ask otherwise reader next attends world
    cases lines : e.lines with
    | cons line rest =>
      obtain ⟨between,runs,attended⟩ := takes line rest lines
      obtain ⟨bridge',ran,logs⟩ := ih line nofun between _ world attended
      exact ⟨bridge',runs.trans ran,logs⟩
    | nil =>
      obtain ⟨bridge',ran,logs⟩ := ih (askLine ask world).1 nofun bridge e (askLine ask world).2 attends
      rw [lines] at ran logs
      exact ⟨bridge',(asks lines).trans ran,logs⟩

end Probe

namespace Turn

variable {s : Realm V S × W}

theorem readerBound (reader : Reader) : reader.name ∈ boundNames true ∧
    ∀ number, boundValue (V := V) number reader.name = Values.reader number reader.takesPrompt := by
  cases reader <;> exact ⟨by decide,fun _ => rfl⟩

theorem openedAttends {realm : Realm V S} {stdin : Option String} (admits : realm.scope.Admits stdin.isSome) :
    (realm.opened stdin).Attends realm.evaluations.length
      ⟨previousConsole realm.scope,inputLines stdin,true,[]⟩ stdin.isSome where
  console := by
    have taken : Taken stdin.isSome "console" := .console
    rw [openedScope,if_pos (takenIff.mp taken),(Scope.installedIff _ _ _).mpr (admits.names _ taken)]
    exact Values.consoleRole _
  readers := by
    intro given reader
    obtain ⟨bound,value⟩ := readerBound (V := V) reader
    rw [← given] at bound
    rw [openedScope,if_pos bound,(Scope.installedIff _ _ _).mpr (admits.names _ (takenIff.mpr bound)),value]
    exact Values.readerRole _ _
  evaluation := by
    have heard := admits.names "console" .console
    simp [Realm.opened,Bridge.begin,heard]
  heard := rfl
  quiet := admits.quiet

/- On any host that admits it, a probe is answered by what it is told. -/
theorem probeAnswered (probe : Probe) (otherwise : Probe → Course V Conclusion) (later : S → Course V (Bool × S))
    (stdin : Option String) (ask : Ask W) (reads : stdin = none → probe.ReadsNothing)
    (admits : s.1.scope.Admits stdin.isSome) :
    let next := probe.turn otherwise later stdin ask
    next.record s = (probe.told ask (inputLines stdin) s.2).1 ∧ next.conclusion s ≠ .exhausted ∧
      (next.ended s).2 = (probe.told ask (inputLines stdin) s.2).2 := by
  intro next
  have silent : stdin.isSome = false → probe.ReadsNothing := fun none => reads (by simpa using none)
  obtain ⟨bridge',ran,logs⟩ := Probe.courseTold ask otherwise probe silent _ _ s.2 (openedAttends admits)
  have ended : next.ended s = ((.ended (probe.told ask (inputLines stdin) s.2).1.error
      (probe.told ask (inputLines stdin) s.2).1.value,{ s.1 with toBridge := bridge' }),
      (probe.told ask (inputLines stdin) s.2).2) := by
    have body : (next.conduct.body (s.1.opened stdin).memory).run ask (s.1.opened stdin).toBridge s.2 =
        (((.ended (probe.told ask (inputLines stdin) s.2).1.error (probe.told ask (inputLines stdin) s.2).1.value,
          s.1.memory),bridge'),(probe.told ask (inputLines stdin) s.2).2) := by
      show ((probe.course otherwise).bind _).run ask _ s.2 = _
      rw [Course.runBind,ran]
      rfl
    exact runsTo body
  have logs : ((next.ended s).1.2).logs s.1.evaluations.length = (probe.told ask (inputLines stdin) s.2).1.logs := by
    rw [ended]
    exact logs
  unfold record conclusion atEnd
  rw [logs,ended]
  exact ⟨rfl,nofun,rfl⟩

end Turn
end Playground.Script
