import Playground.Engine.Assembly
import Playground.Proofs.Engine.Drifts
import Playground.Proofs.Script.Asking

/-! What assembled engines do to the world outside their workplace. They reach it through the carrier
of requests and through whoever is asked for input; files, scripts and the count of requests are
inside. -/
namespace Playground.Engine
open Playground.Interpreter (Bundle Compiled Download Loader Modules)

variable {W α M : Type} {d : Drift W}

def ofWorkplaces (d : Drift W) : Drift (Workplace W) := d.via Workplace.outside

theorem outsideCovered {act : StateM W α} (covered : d.Covers act) :
    (ofWorkplaces d).Covers (Workplace.ofOutside act) :=
  fun place => covered place.outside

theorem filesCovered {act : StateT Files (StateM W) α} (covered : d.CoversWith act) :
    (ofWorkplaces d).Covers (Workplace.ofFiles act) :=
  fun place => covered place.files place.outside

theorem requestsCovered {act : StateT Nat (StateM W) α} (covered : d.CoversWith act) :
    (ofWorkplaces d).Covers (Workplace.ofRequests act) :=
  fun place => covered place.requestCount place.outside

theorem scriptsCovered {act : StateT Script.Host (StateM (Workplace W)) α}
    (covered : (ofWorkplaces d).CoversWith act) : (ofWorkplaces d).Covers (Workplace.ofScripts act) :=
  fun place => covered place.scripts place

section Requests

variable {carrier : Net.Carrier W} (carried : ∀ request, d.Covers (carrier request))
include carried

theorem sendCovered (request : Net.Request) : d.Covers (Net.send carrier request) := by
  unfold Net.send
  split
  · exact carried request
  · exact d.coversPure _

theorem followedCovered (left : Nat) (request : Net.Request) : d.Covers (Net.followed carrier left request) := by
  induction left generalizing request with
  | zero =>
    refine Drift.coversBind (carried request) fun reply => ?_
    split
    · exact d.coversPure _
    · exact d.coversPure _
  | succ left ih =>
    refine Drift.coversBind (carried request) fun reply => ?_
    split
    · exact d.coversPure _
    · exact sendCovered ih _

theorem downloadCovered (download : Download) : d.CoversWith (download.fetch carrier) := by
  refine Drift.withBind Drift.withGet fun files => ?_
  split
  · exact Drift.withPure _
  · refine Drift.withBind (Drift.withLift (sendCovered carried _)) fun answer => ?_
    split
    · exact Drift.withPure _
    · exact Drift.withBind (Drift.withModify _) fun _ => Drift.withPure _

theorem bundleCovered (bundle : Bundle) : d.CoversWith (bundle.fetch carrier) := by
  cases bundle with
  | download download => exact downloadCovered carried download
  | file path =>
    refine Drift.withBind Drift.withGet fun files => ?_
    split
    · exact Drift.withPure _
    · exact Drift.withPure _

theorem loaderCovered [Modules M] (loader : Loader M) : d.CoversWith (loader.load carrier) := by
  refine Drift.withBind (bundleCovered carried loader.bundle) fun fetched => ?_
  split
  · exact Drift.withPure _
  · refine Drift.withBind Drift.withGet fun files => Drift.withBind (Drift.withSet _) fun _ => ?_
    split
    · exact Drift.withPure _
    · exact Drift.withPure _

theorem interpreterCovered [Modules M] (loader : Loader M) :
    (ofWorkplaces d).Covers (loadInterpreter loader carrier) := by
  refine Drift.coversBind (filesCovered (loaderCovered carried loader)) fun outcome => ?_
  split
  · exact (ofWorkplaces d).coversPure _
  · exact (ofWorkplaces d).coversPure _

theorem clientCovered (client : Remote.Client) (submission : Submission) :
    d.CoversWith (client.run carrier submission) := by
  unfold Remote.Client.run
  split
  · exact Drift.withPure _
  · exact Drift.withBind (Drift.withModify _) fun _ =>
      Drift.withBind (Drift.withLift (sendCovered carried _)) fun _ => Drift.withPure _

end Requests

theorem sourceCovered (equipment : Equipment W M) (source : String) (stdin : Option String)
    {prompt : Option (StateM (Workplace W) (Option String))} (asked : (ofWorkplaces d).CoversAny prompt) :
    (ofWorkplaces d).Covers (evaluateSource equipment source stdin prompt) :=
  Drift.coversBind (scriptsCovered (Script.evaluateScriptDrifts asked _ _)) fun _ => (ofWorkplaces d).coversPure _

theorem assembledWithin [Modules M] {equipment : Equipment W M} {config : Config.Components}
    {c : Collaborators (Workplace W) (Compiled M)} (carried : ∀ request, d.Covers (equipment.carrier request))
    (answered : ∀ ask, equipment.requestInput = some ask → ∀ language, d.Covers (ask language))
    (assembled : assemble equipment config = .ok c) : c.Within (ofWorkplaces d) := by
  unfold assemble at assembled
  simp only [bind,Except.bind] at assembled
  split at assembled
  · contradiction
  split at assembled
  · contradiction
  split at assembled
  · contradiction
  cases assembled
  have followed := followedCovered carried Net.redirectLimit
  exact {
    evaluate := fun source stdin _ asked => sourceCovered equipment source stdin asked
    load := interpreterCovered followed _
    runGuest := fun _ _ _ place => d.stays place.outside
    remote := by
      intro remote there submission
      obtain ⟨client,-,rfl⟩ := Option.map_eq_some_iff.mp there
      exact requestsCovered (clientCovered followed client submission)
    requestInput := by
      intro ask there language
      obtain ⟨asks,given,rfl⟩ := Option.map_eq_some_iff.mp there
      exact outsideCovered (answered asks given language) }

end Playground.Engine
