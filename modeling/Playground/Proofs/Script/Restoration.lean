import Playground.Proofs.Script.Turns

/-! What a turn leaves of the scope where it took places in it. Every name is put back whatever the
script did to it, unless the script made a property that cannot be put back, which nothing undoes;
what was left for later runs only then, and may bind the names again. -/
namespace Playground.Script

variable {V S W : Type} [Values V] [Inhabited S]

/- The names that an evaluation binds anew. -/
inductive Taken (hasInput : Bool) : String → Prop where
  | console : Taken hasInput "console"
  | input (given : hasInput = true) : Taken hasInput "input"
  | readline (given : hasInput = true) : Taken hasInput "readline"
  | prompt (given : hasInput = true) : Taken hasInput "prompt"

theorem takenIff {hasInput : Bool} {name : String} : Taken hasInput name ↔ name ∈ boundNames hasInput := by
  constructor
  · intro taken
    cases taken with
    | console => cases hasInput <;> decide
    | input given | readline given | prompt given => subst given; decide
  · intro bound
    cases hasInput with
    | false =>
      cases List.mem_singleton.mp bound
      exact .console
    | true =>
      simp only [boundNames,if_true,List.mem_cons,List.not_mem_nil,or_false] at bound
      rcases bound with rfl | rfl | rfl | rfl
      · exact .console
      · exact .input rfl
      · exact .readline rfl
      · exact .prompt rfl

namespace Turn

variable {turn : Turn V S W} {s : Realm V S × W}

def Restores (turn : Turn V S W) (s : Realm V S × W) : Prop :=
  ∀ name, Taken turn.stdin.isSome name → (turn.after s).1.scope.get? name = s.1.scope.get? name

def Fixes (turn : Turn V S W) (s : Realm V S × W) : Prop :=
  s.1.stopped = false ∧ ∃ name, Taken turn.stdin.isSome name ∧
    ¬ (turn.atEnd s).scope.LetsBack name (s.1.scope.get? name)

/- What was left for later leaves another property than the one that was put back. -/
def Unsettles (turn : Turn V S W) (s : Realm V S × W) : Prop :=
  s.1.stopped = false ∧ ∃ name, Taken turn.stdin.isSome name ∧
    (turn.settled s).scope.get? name ≠ (turn.restored s).scope.get? name

theorem restoredIff {name : String} (taken : Taken turn.stdin.isSome name) :
    (turn.restored s).scope.get? name = s.1.scope.get? name ↔
      (turn.atEnd s).scope.LetsBack name (s.1.scope.get? name) := by
  rw [restoredScope,if_pos (takenIff.mp taken)]
  exact Scope.restoredIff _ _ _

theorem fixesStays (fixes : turn.Fixes s) : ∃ name, Taken turn.stdin.isSome name ∧
    ¬ (turn.after s).1.scope.LetsBack name (s.1.scope.get? name) := by
  obtain ⟨started,name,taken,shut⟩ := fixes
  refine ⟨name,taken,?_⟩
  by_cases away : turn.RunsAway s
  · rw [afterRunaway away]
    exact shut
  · rw [(afterSettled started away).1]
    exact Scope.shutFollows (settledFollows turn s) shut

theorem leakStays (fixes : turn.Fixes s) (later : List (Turn V S W)) : ∃ name, Taken turn.stdin.isSome name ∧
    (afterAll later (turn.after s)).1.scope.get? name ≠ s.1.scope.get? name := by
  obtain ⟨name,taken,shut⟩ := fixesStays fixes
  exact ⟨name,taken,fun same => Scope.shutFollows (historyFollows later _) shut (Scope.letsBackSame same)⟩

/- The names are exactly as before unless the script shut one of them or what it left for later
changed one. -/
theorem restoresIff (ends : ¬ turn.RunsAway s) : turn.Restores s ↔ ¬ turn.Fixes s ∧ ¬ turn.Unsettles s := by
  cases stopped : s.1.stopped with
  | true =>
    have same : turn.Restores s := fun name _ => by rw [afterStopped stopped]
    simp [Fixes,Unsettles,stopped,same]
  | false =>
    have settled := (afterSettled stopped ends).1
    constructor
    · intro back
      have unfixed : ¬ turn.Fixes s := by
        intro fixes
        obtain ⟨name,taken,leaks⟩ := leakStays fixes []
        exact leaks (back name taken)
      refine ⟨unfixed,?_⟩
      rintro ⟨-,name,taken,changed⟩
      have restored : (turn.restored s).scope.get? name = s.1.scope.get? name :=
        (restoredIff taken).mpr (Classical.byContradiction fun shut => unfixed ⟨stopped,name,taken,shut⟩)
      rw [restored,← settled] at changed
      exact changed (back name taken)
    · rintro ⟨unfixed,unchanged⟩ name taken
      have restored : (turn.restored s).scope.get? name = s.1.scope.get? name :=
        (restoredIff taken).mpr (Classical.byContradiction fun shut => unfixed ⟨stopped,name,taken,shut⟩)
      rw [settled,← restored]
      exact Classical.byContradiction fun changed => unchanged ⟨stopped,name,taken,changed⟩

def AllRestore : List (Turn V S W) → Realm V S × W → Prop
  | [],_ => True
  | turn :: rest,s => turn.Restores s ∧ AllRestore rest (turn.after s)

theorem consoleKept {history : List (Turn V S W)} (restore : AllRestore history s) :
    (afterAll history s).1.scope.get? "console" = s.1.scope.get? "console" := by
  induction history generalizing s with
  | nil => rfl
  | cons turn rest ih => exact (ih restore.2).trans (restore.1 "console" .console)

end Turn
end Playground.Script
