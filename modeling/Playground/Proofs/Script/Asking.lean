import Playground.Proofs.Drift
import Playground.Script.Host

/-! What scripts do to the world outside. They reach it only where a read asks for a line, so whatever
covers whoever is asked covers every course, and every evaluation. -/
namespace Playground.Script

variable {V S W : Type} [Values V] [Inhabited S] {d : Drift W} {ask : Ask W}

theorem askDrifts (asked : d.CoversAny ask) (world : W) : d.leads world (askLine ask world).2 := by
  cases ask with
  | none => exact d.stays world
  | some request => exact asked request rfl world

theorem courseDrifts (asked : d.CoversAny ask) {α : Type} (c : Course V α) (bridge : Bridge V) (world : W) :
    d.leads world (c.run ask bridge world).2 := by
  induction c generalizing bridge world with
  | done result => exact d.stays world
  | step act next ih => exact ih _ _ _
  | read run conversion isText next converts ih =>
    simp only [Course.run]
    split
    · exact ih _ _ _
    · have converted := converts bridge world
      split
      · exact d.goesOn converted (d.goesOn (askDrifts asked _) (ih _ _ _))
      · exact d.goesOn converted (ih _ _ _)

namespace Realm

theorem runsDrifts (asked : d.CoversAny ask) {α : Type} (act : S → Course V (α × S)) :
    d.CoversWith (runs ask act) :=
  fun realm => courseDrifts asked (act realm.memory) realm.toBridge

theorem evaluateDrifts (asked : d.CoversAny ask) (conduct : Conduct V S) (stdin : Option String) :
    d.CoversWith (evaluate ask conduct stdin) := by
  refine Drift.withBind Drift.withGet fun before => ?_
  split
  · exact Drift.withPure _
  · refine Drift.withBind (Drift.withSet _) fun _ =>
      Drift.withBind (runsDrifts asked conduct.body) fun conclusion => ?_
    split
    · exact Drift.withBind Drift.withGet fun _ => Drift.withBind (Drift.withSet _) fun _ => Drift.withPure _
    · refine Drift.withBind Drift.withGet fun _ => Drift.withBind (Drift.withSet _) fun _ =>
        Drift.withBind (runsDrifts asked conduct.later) fun ends => ?_
      split
      · exact Drift.withBind Drift.withGet fun _ => Drift.withBind (Drift.withSet _) fun _ => Drift.withPure _
      · exact Drift.withBind (Drift.withModify _) fun _ => Drift.withPure _

end Realm

theorem evaluateScriptDrifts (asked : d.CoversAny ask) (body : List Statement) (stdin : Option String) :
    d.CoversWith (evaluateScript ask body stdin) :=
  Realm.evaluateDrifts asked _ stdin

end Playground.Script
