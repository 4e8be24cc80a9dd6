import Mathlib
import Playground.Proofs.Script.Probes

/-! How far turns are kept apart. After any history a turn leaves the names that it bound as it found
them, and a probe that follows is answered as if it were the first; what stands against it are
properties that a script has fixed, scopes that it has closed, and names that were bound after they
were put back. -/
namespace Playground.Script

variable {V S W : Type} [Values V] [Inhabited S]

def Probe.Answered (probe : Probe) (otherwise : Probe → Course V Conclusion) (later : S → Course V (Bool × S))
    (stdin : Option String) (ask : Ask W) (s : Realm V S × W) : Prop :=
  let next := probe.turn otherwise later stdin ask
  ¬ next.RunsAway s ∧ ((next.after s).1.stopped = false →
    next.outcome s = (probe.told ask (inputLines stdin) s.2).1.outcome)

namespace Turn

variable {s : Realm V S × W}

theorem admittedAnswered (probe : Probe) (otherwise : Probe → Course V Conclusion) (later : S → Course V (Bool × S))
    (stdin : Option String) (ask : Ask W) (reads : stdin = none → probe.ReadsNothing)
    (admits : s.1.scope.Admits stdin.isSome) : probe.Answered otherwise later stdin ask s := by
  obtain ⟨told,ends,-⟩ := probeAnswered probe otherwise later stdin ask reads admits
  refine ⟨fun away => ends away.2,fun goesOn => ?_⟩
  rw [outcomeRecord ends goesOn,told]

theorem freshAdmits (world : W) (hasInput : Bool) : (fresh world : Realm V S × W).1.scope.Admits hasInput where
  names := by
    intro name taken
    show Scope.first.isOpen name = true
    unfold Scope.isOpen Scope.first
    by_cases console : name = "console" <;> simp [console,Property.plain]
  quiet := .inl Values.hostRole

theorem restoredAdmits {history : List (Turn V S W)} {world : W} (restore : AllRestore history (fresh world))
    {hasInput : Bool} (readers : hasInput = true → ∀ reader : Reader,
      (afterAll history (fresh world)).1.scope.isOpen reader.name = true) :
    (afterAll history (fresh world)).1.scope.Admits hasInput := by
  have kept := consoleKept restore
  have start := freshAdmits (V := V) (S := S) world hasInput
  refine ⟨fun name taken => ?_,?_⟩
  · cases taken with
    | console =>
      have free := start.names "console" .console
      unfold Scope.isOpen at free ⊢
      rw [kept]
      exact free
    | input given => exact readers given .input
    | readline given => exact readers given .readline
    | prompt given => exact readers given .prompt
  · have quiet := start.quiet
    unfold previousConsole at quiet ⊢
    rw [kept]
    exact quiet

theorem closedRecord (turn : Turn V S W) (closed : s.1.scope.isOpen "console" = false) : (turn.record s).logs = [] := by
  have unheard : (s.1.opened turn.stdin).Unheard s.1.evaluations.length :=
    ⟨⟨previousConsole s.1.scope,inputLines turn.stdin,false,[]⟩,by simp [Realm.opened,Bridge.begin,closed],rfl,rfl⟩
  obtain ⟨e,there,-,empty⟩ := Course.runUnheard turn.ask (turn.conduct.body s.1.memory) _ s.2 unheard
  have logs : (turn.atEnd s).logs s.1.evaluations.length = [] := by
    unfold Bridge.logs
    rw [show (turn.atEnd s).evaluations[s.1.evaluations.length]? = some e from there]
    exact empty
  unfold record
  rw [logs]
  split <;> rfl

theorem restoredUnlessFixedOrUnsettled (history : List (Turn V S W)) (turn : Turn V S W) (world : W) :
    let before := afterAll history (fresh world)
    let after := turn.after before
    (¬ turn.RunsAway before → (turn.Restores before ↔ ¬ turn.Fixes before ∧ ¬ turn.Unsettles before)) ∧
    (turn.Fixes before → ∀ later, ∃ name, Taken turn.stdin.isSome name ∧
      (afterAll later after).1.scope.get? name ≠ before.1.scope.get? name) ∧
    (∀ (probe : Probe) otherwise later stdin (ask : Ask W), (stdin = none → probe.ReadsNothing) →
      probe.Answered otherwise later stdin ask (fresh world : Realm V S × W) ∧
      (after.1.scope.Admits stdin.isSome → probe.Answered otherwise later stdin ask after)) ∧
    (AllRestore (history ++ [turn]) (fresh world) → ∀ hasInput,
      (hasInput = true → ∀ reader : Reader, after.1.scope.isOpen reader.name = true) →
      after.1.scope.Admits hasInput) ∧
    (after.1.scope.isOpen "console" = false → ∀ later (next : Turn V S W),
      (next.record (afterAll later after)).logs = []) := by
  intro before after
  have reached : afterAll (history ++ [turn]) (fresh world) = after := List.foldl_append
  refine ⟨restoresIff,leakStays,fun probe otherwise later stdin ask reads => ?_,fun restore hasInput readers => ?_,
    fun closed later next => ?_⟩
  · exact ⟨admittedAnswered probe otherwise later stdin ask reads (freshAdmits world _),
      admittedAnswered probe otherwise later stdin ask reads⟩
  · rw [← reached] at readers ⊢
    exact restoredAdmits restore readers
  · exact closedRecord next (Scope.closedKept (historyFollows later after) closed)

def stepping (step : Step Value Bool) (error : Option Units) (later : Option (Step Value Bool))
    (stdin : Option String) :
    Turn Value Unit Unit where
  conduct := {
    body := fun _ => .step step fun _ => .done (.ended error none,())
    later := fun _ => match later with
      | some step => .step step fun _ => .done (true,())
      | none => .done (true,()) }
  stdin
  ask := none

def nulling : Turn Value Unit Unit :=
  stepping (.delete "none") none (some (.define "console" { content := .data (some .null) none })) none

def tossing : Turn Value Unit Unit := stepping (.delete "console") (some (.ofString "boom")) none (some "a\nb")

def pinning : Turn Value Unit Unit :=
  stepping (.define "input" { content := .data (some (.number 1)) none, configurable := some false })
    none none (some "a")

def bolting : Turn Value Unit Unit := stepping (.define "console" { configurable := some false }) none none none

def echo : Probe := .reads .input fun line => .prints .log (.ofString line) (.ends none none)

/- The console that a job has set is back after a script that deletes it and throws, and the first script to
do so leaves all as it was. What is made what it is for good stays so, and a console that is leaves nothing to
be captured. -/
theorem tossingRestores :
    let before := afterAll [nulling] (fresh ())
    let echoing := echo.turn (fun _ => .done .exhausted) tossing.conduct.later (some "x") none
    (tossing.Restores before ∧ echoing.outcome (tossing.after before) = echoing.outcome (fresh ())) ∧
    (tossing.after (fresh ())).1.scope.Admits true ∧
    (∀ later, ∃ name, Taken true name ∧ (afterAll later (pinning.after (fresh ()))).1.scope.get? name ≠
      (fresh () : Realm Value Unit × Unit).1.scope.get? name) ∧
    ∀ later (next : Turn Value Unit Unit), (next.record (afterAll later (bolting.after (fresh ())))).logs = [] := by
  intro before echoing
  have puts : ∀ s : Realm Value Unit × Unit, (∀ name, Taken true name →
      (tossing.atEnd s).scope.LetsBack name (s.1.scope.get? name)) → ¬ tossing.Fixes s := by
    rintro s each ⟨-,name,taken,shut⟩
    exact shut (each name taken)
  have settles : ∀ s, ¬ tossing.Unsettles s := by
    rintro s ⟨-,name,-,changed⟩
    exact changed rfl
  refine ⟨?_,?_,?_,?_⟩
  · obtain ⟨restores,-,probes,-⟩ := restoredUnlessFixedOrUnsettled [nulling] tossing ()
    have ends : ¬ tossing.RunsAway before := by
      rintro ⟨-,away⟩
      cases away
    have unfixed : ¬ tossing.Fixes before := by
      apply puts
      intro name taken
      cases taken <;> rfl
    have admits : (tossing.after before).1.scope.Admits true := by
      refine ⟨?_,.inr rfl⟩
      intro name taken
      cases taken <;> rfl
    obtain ⟨onFresh,onUsed⟩ := probes echo (fun _ => .done .exhausted) tossing.conduct.later (some "x") none nofun
    exact ⟨(restores ends).mpr ⟨unfixed,settles before⟩,((onUsed admits).2 rfl).trans (onFresh.2 rfl).symm⟩
  · obtain ⟨restores,-,-,admits,-⟩ := restoredUnlessFixedOrUnsettled [] tossing ()
    have ends : ¬ tossing.RunsAway (fresh ()) := by
      rintro ⟨-,away⟩
      cases away
    have unfixed : ¬ tossing.Fixes (fresh ()) := by
      apply puts
      intro name taken
      cases taken <;> rfl
    refine admits ⟨(restores ends).mpr ⟨unfixed,settles _⟩,trivial⟩ true fun _ reader => ?_
    cases reader <;> rfl
  · obtain ⟨-,leaks,-⟩ := restoredUnlessFixedOrUnsettled [] pinning ()
    exact leaks ⟨rfl,"input",.input rfl,Bool.false_ne_true⟩
  · obtain ⟨-,-,-,-,silent⟩ := restoredUnlessFixedOrUnsettled [] bolting ()
    exact silent rfl

def leaving : Turn Value Memory Unit := ofSource "[[\"later\",[\"break\",\"console_null\"]]]" none none

def fixing : Turn Value Memory Unit := ofSource "[[\"break\",\"console_fixed\"]]" none none

def echoing : Turn Value Memory Unit := ofSource "[[\"log\",\x7b\"read\":[\"input\"]\x7d]]" (some "x") none

theorem leavingBody : leaving = ofBody [.later [.tamper .nullConsole]] none none := by
  have body : Document.read "[[\"later\",[\"break\",\"console_null\"]]]" = [.later [.tamper .nullConsole]] := by cbv
  unfold leaving ofSource
  rw [body]

theorem fixingBody : fixing = ofBody [.tamper .fixedConsole] none none := by
  have body : Document.read "[[\"break\",\"console_fixed\"]]" = [.tamper .fixedConsole] := by cbv
  unfold fixing ofSource
  rw [body]

theorem echoingBody : echoing = ofBody [.print .log [.read "input" none]] (some "x") none := by
  have body : Document.read "[[\"log\",\x7b\"read\":[\"input\"]\x7d]]" = [.print .log [.read "input" none]] := by cbv
  unfold echoing ofSource
  rw [body]

theorem leavingLeaks : ¬ leaving.RunsAway (fresh ()) ∧ ¬ leaving.Restores (fresh ()) ∧
    (leaving.after (fresh ())).1.scope.get? "console" = some (.plain .null) := by
  have nulled : (leaving.after (fresh ())).1.scope.get? "console" = some (.plain .null) := by
    rw [leavingBody]
    rfl
  refine ⟨?_,fun back => ?_,nulled⟩
  · rw [leavingBody]
    rintro ⟨-,away⟩
    cases away
  · have kept := nulled.symm.trans (back "console" .console)
    cases kept

theorem fixingLeaks : ¬ fixing.RunsAway (leaving.after (fresh ())) ∧ ¬ fixing.Restores (leaving.after (fresh ())) ∧
    (fixing.after (leaving.after (fresh ()))).1.scope.isOpen "console" = false := by
  have closed : (fixing.after (leaving.after (fresh ()))).1.scope.isOpen "console" = false := by
    rw [fixingBody,leavingBody]
    rfl
  refine ⟨?_,fun back => ?_,closed⟩
  · rw [fixingBody,leavingBody]
    rintro ⟨-,away⟩
    cases away
  · have kept := (back "console" .console).trans leavingLeaks.2.2
    unfold Scope.isOpen at closed
    rw [kept] at closed
    cases closed

theorem pinningLeaks : ¬ pinning.RunsAway (fresh ()) ∧ ¬ pinning.Restores (fresh ()) := by
  constructor
  · rintro ⟨-,away⟩
    contradiction
  · intro back
    have now : ((pinning.after (fresh ())).1.scope.get? "input").isSome = true := rfl
    rw [back "input" (.input rfl)] at now
    cases now

/- Neither the console that a job sets nor the one that a script fixes is taken back, and nothing that is
printed after the latter is captured. A reader that is made a value for good stays as well. -/
theorem bindingsLeak :
    let between := leaving.after (fresh ())
    let last := fixing.after between
    (¬ leaving.RunsAway (fresh ()) ∧ ¬ leaving.Restores (fresh ())) ∧
    (¬ fixing.RunsAway between ∧ ¬ fixing.Restores between) ∧
    ((echoing.record (fresh ())).logs = [(.stdout,.ofString "x")] ∧ (echoing.record last).logs = []) ∧
    ¬ pinning.RunsAway (fresh ()) ∧ ¬ pinning.Restores (fresh ()) := by
  have printed : (echoing.record (fresh ())).logs = [(.stdout,.ofString "x")] := by
    rw [echoingBody]
    cbv
  obtain ⟨ends,leaks,-⟩ := leavingLeaks
  obtain ⟨ends',leaks',closed⟩ := fixingLeaks
  exact ⟨⟨ends,leaks⟩,⟨ends',leaks'⟩,⟨printed,closedRecord echoing closed⟩,pinningLeaks⟩

end Turn
end Playground.Script
