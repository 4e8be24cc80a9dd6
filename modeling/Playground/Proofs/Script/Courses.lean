import Playground.Script.Course
import Playground.Proofs.Script.Properties

/-! What every course keeps of the bridge, whatever it does there. A step lemma says what one step at
the bridge keeps, and by induction on the course the same holds of its run. -/
namespace Playground.Script

variable {V W α β : Type} [Values V]

namespace Bridge

theorem updateLeft (bridge : Bridge V) (run : Nat) {f : Evaluation V → Evaluation V}
    (same : ∀ e, (f e).lines = e.lines) (other : Nat) : (bridge.update run f).left other = bridge.left other := by
  simp only [left,update]
  by_cases found : run = other
  · subst found
    rw [List.getElem?_modify_eq]
    cases bridge.evaluations[run]? with
    | none => rfl
    | some e => exact same e
  · rw [List.getElem?_modify_ne _ _ found]

theorem takenLeft {bridge bridge' : Bridge V} {run : Nat} {line : String}
    (taken : bridge.take? run = some (line,bridge')) :
    bridge.left run = line :: bridge'.left run ∧ (∀ other, other ≠ run → bridge'.left other = bridge.left other) ∧
      bridge'.evaluations.length = bridge.evaluations.length ∧ bridge'.scope = bridge.scope := by
  unfold take? at taken
  split at taken
  · rename_i rest there
    cases taken
    refine ⟨?_,fun other differs => ?_,List.length_modify ..,rfl⟩
    · rw [there]
      unfold left at there ⊢
      cases found : bridge.evaluations[run]? with
      | none => simp [found] at there
      | some e => simp [update,found]
    · unfold left update
      rw [List.getElem?_modify_ne _ _ (Ne.symm differs)]
  · contradiction

theorem untakenLeft {bridge : Bridge V} {run : Nat} (none : bridge.take? run = none) : bridge.left run = [] := by
  unfold take? at none
  split at none
  · contradiction
  · assumption

end Bridge

/-! ### Steps -/

section Steps

variable (act : Step V β) (bridge : Bridge V)

theorem rescopeFollows {scope? : Option (Scope V)}
    (follows : ∀ scope, scope? = some scope → bridge.scope.Follows scope) :
    bridge.scope.Follows (bridge.rescope scope?).2.scope := by
  cases scope? with
  | some scope => exact follows scope rfl
  | none => exact Scope.followsSame _

theorem rescopeKeeps (scope? : Option (Scope V)) :
    (bridge.rescope scope?).2.evaluations = bridge.evaluations := by
  cases scope? <;> rfl

theorem stepFollows : bridge.scope.Follows (act.perform bridge).2.scope := by
  cases act with
  | define name change => exact rescopeFollows bridge fun _ => Scope.defineFollows
  | delete name => exact rescopeFollows bridge fun _ => Scope.deleteFollows
  | preventExtensions => exact Scope.closedFollows _
  | look | enter previous lines | capture run stream line | log method line | drain => exact Scope.followsSame _

theorem stepKnown : bridge.evaluations.length ≤ (act.perform bridge).2.evaluations.length ∧
    ∀ run < bridge.evaluations.length, (act.perform bridge).2.left run = bridge.left run := by
  cases act with
  | define name change => simp only [Step.perform,Bridge.left,rescopeKeeps,Nat.le_refl,implies_true,and_self]
  | delete name => simp only [Step.perform,Bridge.left,rescopeKeeps,Nat.le_refl,implies_true,and_self]
  | enter previous lines =>
    refine ⟨by simp [Step.perform],fun run known => ?_⟩
    simp only [Step.perform,Bridge.left,List.getElem?_append_left known]
  | capture run stream line =>
    refine ⟨Nat.le_of_eq (List.length_modify ..).symm,fun other _ => ?_⟩
    refine Bridge.updateLeft bridge run (fun e => ?_) other
    unfold Evaluation.captured
    split <;> rfl
  | look | preventExtensions | log method line | drain => exact ⟨Nat.le_refl _,fun _ _ => rfl⟩

/- An evaluation whose console found no place and that has nothing to show. -/
def Bridge.Unheard (bridge : Bridge V) (run : Nat) : Prop :=
  ∃ e, bridge.evaluations[run]? = some e ∧ e.heard = false ∧ e.logs = []

theorem updateUnheard {bridge : Bridge V} {run other : Nat} {f : Evaluation V → Evaluation V}
    (same : ∀ e, e.heard = false → (f e).heard = false ∧ (f e).logs = e.logs) (unheard : bridge.Unheard run) :
    (bridge.update other f).Unheard run := by
  obtain ⟨e,there,silent,empty⟩ := unheard
  unfold Bridge.Unheard Bridge.update
  simp only [List.getElem?_modify,there]
  by_cases found : other = run
  · exact ⟨f e,by simp [found],(same e silent).1,(same e silent).2.trans empty⟩
  · exact ⟨e,by simp [found],silent,empty⟩

theorem stepUnheard {run : Nat} (unheard : bridge.Unheard run) : (act.perform bridge).2.Unheard run := by
  cases act with
  | define name change => simpa only [Step.perform,Bridge.Unheard,rescopeKeeps] using unheard
  | delete name => simpa only [Step.perform,Bridge.Unheard,rescopeKeeps] using unheard
  | enter previous lines =>
    obtain ⟨e,there,silent⟩ := unheard
    exact ⟨e,(List.getElem?_append_left (List.getElem?_eq_some_iff.mp there).1).trans there,silent⟩
  | capture other stream line =>
    refine updateUnheard (fun e silent => ?_) unheard
    simp [Evaluation.captured,silent]
  | look | preventExtensions | log method line | drain => exact unheard

end Steps

/-! ### Runs -/

namespace Course

theorem runBind (ask : Ask W) (c : Course V α) (rest : α → Course V β) (bridge : Bridge V) (world : W) :
    (c.bind rest).run ask bridge world =
      (rest (c.run ask bridge world).1.1).run ask (c.run ask bridge world).1.2 (c.run ask bridge world).2 := by
  induction c generalizing bridge world with
  | done result => rfl
  | step act next ih => exact ih _ _ _ _
  | read run conversion isText next _ ih =>
    simp only [bind,Course.run]
    split
    · exact ih _ _ _ _
    · split
      · exact ih _ _ _ _
      · exact ih _ _ _ _

theorem runKeeps (keeps : Bridge V → Prop)
    (steps : ∀ {β : Type} (act : Step V β) (bridge : Bridge V), keeps bridge → keeps (act.perform bridge).2)
    (takes : ∀ {bridge bridge' : Bridge V} {run : Nat} {line : String},
      bridge.take? run = some (line,bridge') → keeps bridge → keeps bridge')
    (ask : Ask W) (c : Course V α) (bridge : Bridge V) (world : W) (kept : keeps bridge) :
    keeps (c.run ask bridge world).1.2 := by
  induction c generalizing bridge world with
  | done result => exact kept
  | step act next ih => exact ih _ _ _ (steps act bridge kept)
  | read run conversion isText next converts ih =>
    simp only [Course.run]
    split
    · rename_i line bridge' taken
      exact ih _ _ _ (takes taken kept)
    · have converted := converts bridge world kept
      split
      · exact ih _ _ _ converted
      · exact ih _ _ _ converted

theorem runFollows (ask : Ask W) (c : Course V α) (bridge : Bridge V) (world : W) :
    bridge.scope.Follows (c.run ask bridge world).1.2.scope := by
  refine runKeeps (fun bridge' => bridge.scope.Follows bridge'.scope) (fun act bridge' follows => ?_)
    (fun taken follows => ?_) ask c bridge world (Scope.followsSame _)
  · exact Scope.followsTrans follows (stepFollows act bridge')
  · rwa [(Bridge.takenLeft taken).2.2.2]

theorem runLonger (ask : Ask W) (c : Course V α) (bridge : Bridge V) (world : W) :
    bridge.evaluations.length ≤ (c.run ask bridge world).1.2.evaluations.length := by
  refine runKeeps (fun bridge' => bridge.evaluations.length ≤ bridge'.evaluations.length)
    (fun act bridge' longer => Nat.le_trans longer (stepKnown act bridge').1)
    (fun taken longer => ?_) ask c bridge world
    (Nat.le_refl _)
  rwa [(Bridge.takenLeft taken).2.2.1]

theorem runUnheard (ask : Ask W) (c : Course V α) (bridge : Bridge V) (world : W) {run : Nat}
    (unheard : bridge.Unheard run) : (c.run ask bridge world).1.2.Unheard run := by
  refine runKeeps (·.Unheard run) (fun act bridge => stepUnheard act bridge)
    (fun taken unheard => ?_) ask c bridge world
    unheard
  unfold Bridge.take? at taken
  split at taken
  · cases taken
    exact updateUnheard (fun _ silent => ⟨silent,rfl⟩) unheard
  · contradiction

end Course
end Playground.Script
