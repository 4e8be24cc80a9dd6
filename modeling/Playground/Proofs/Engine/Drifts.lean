import Playground.Engine.Session
import Playground.Proofs.Drift

/-! What a run does to the world of its collaborators: no more than they do. Scripts are handed a way
to ask for input, and do no more than it does. -/
namespace Playground.Engine
open Playground.Interpreter (Lifecycle Outcome)

variable {W H α : Type} {d : Drift W} {c : Collaborators W H}

structure Collaborators.Within (c : Collaborators W H) (d : Drift W) : Prop where
  evaluate : ∀ source stdin prompt, d.CoversAny prompt → d.Covers (c.evaluate source stdin prompt)
  load : d.Covers c.load
  runGuest : ∀ handle source stdin, d.Covers (c.runGuest handle source stdin)
  remote : ∀ remote, c.remote = some remote → ∀ submission, d.Covers (remote.run submission)
  requestInput : ∀ ask, c.requestInput = some ask → ∀ language, d.Covers (ask language)

def ofSessions (d : Drift W) : Drift (Session W H) := d.via Session.world

theorem worldCovered {act : StateM W α} (covered : d.Covers act) :
    (ofSessions d).Covers (inWorld act : Run W H α) :=
  fun s => covered s.world

theorem previewCovered (act : StateM Preview α) : (ofSessions d).Covers (inPreview act : Run W H α) :=
  fun s => d.stays s.world

theorem awaitCovered {load : StateM W (Outcome H)} (covered : d.Covers load) (attempt : Nat) (l : Lifecycle H) :
    d.Covers (l.await load attempt) := by
  unfold Lifecycle.await
  split
  · exact d.coversPure _
  · exact Drift.coversBind covered fun _ => d.coversPure _

theorem ensureCovered {load : StateM W (Outcome H)} (covered : d.Covers load) (l : Lifecycle H) :
    d.Covers (l.ensure load) := by
  unfold Lifecycle.ensure
  cases l.phase with
  | uninitialized => exact Drift.coversBind (awaitCovered covered _ _) fun _ => d.coversPure _
  | loading attempt => exact Drift.coversBind (awaitCovered covered _ _) fun _ => d.coversPure _
  | ready handle => exact Drift.coversBind (d.coversPure _) fun _ => d.coversPure _

theorem readyCovered (within : c.Within d) : (ofSessions d).Covers (ensureReady c) :=
  fun s => ensureCovered within.load s.lifecycle s.world

theorem remoteCovered (within : c.Within d) {language : Language} {remote : RemoteExecutor W}
    (there : remoteFor c language = some remote) (request : Submission) :
    (ofSessions d).Covers (inWorld (remote.run request) : Run W H Report) :=
  worldCovered (within.remote remote (Option.eq_some_of_filter_eq_some there) request)

theorem scriptCovered (within : c.Within d) (request : Submission) :
    (ofSessions d).Covers (runScript c request) := by
  refine Drift.coversBind (worldCovered (within.evaluate _ _ _ fun prompt asked => ?_)) fun _ =>
    (ofSessions d).coversPure _
  obtain ⟨ask,given,rfl⟩ := Option.map_eq_some_iff.mp asked
  exact within.requestInput ask given request.language

theorem interpretedCovered (within : c.Within d) (request : Submission) :
    (ofSessions d).Covers (runInterpreted c request) := by
  refine Drift.coversBind (readyCovered within) fun answer => ?_
  cases answer with
  | ok handle =>
    exact Drift.coversBind (worldCovered (within.runGuest _ _ _)) fun _ => (ofSessions d).coversPure _
  | error fault =>
    simp only
    split
    · rename_i remote there
      exact Drift.coversBind (remoteCovered within there request) fun _ => (ofSessions d).coversPure _
    · exact (ofSessions d).coversPure _

theorem checkedCovered (within : c.Within d) (request : Submission) :
    (ofSessions d).Covers (runChecked c request) := by
  unfold runChecked
  split
  · exact (ofSessions d).coversPure _
  · split
    · rename_i remote there
      exact remoteCovered within there request
    · exact (ofSessions d).coversPure _

theorem markupCovered (markup : Markup) (source : String) :
    (ofSessions d).Covers (runMarkup markup source : Run W H Report) :=
  Drift.coversBind (previewCovered _) fun _ => (ofSessions d).coversPure _

theorem passiveCovered (request : Submission) :
    (ofSessions d).Covers (runPassive request : Run W H Report) := by
  unfold runPassive
  split
  · exact markupCovered _ _
  · exact markupCovered _ _
  · exact (ofSessions d).coversPure _
  · exact (ofSessions d).coversPure _
  · exact (ofSessions d).coversPure _

theorem strategyCovered (within : c.Within d) (request : Submission) :
    (ofSessions d).Covers (runStrategy c request) := by
  unfold runStrategy
  split
  · exact scriptCovered within request
  · exact interpretedCovered within request
  · exact checkedCovered within request
  · exact passiveCovered request

theorem taggedCovered (within : c.Within d) (request : Submission) :
    (ofSessions d).Covers (runTagged c request) :=
  Drift.coversBind (strategyCovered within request) fun _ => (ofSessions d).coversPure _

theorem requestCovered (within : c.Within d) (request : Submission) :
    (ofSessions d).Covers (runRequest c request) := by
  unfold runRequest
  split
  · exact (ofSessions d).coversPure _
  · split
    · split
      · exact (ofSessions d).coversPure _
      · rename_i ask given
        exact Drift.coversBind (worldCovered (within.requestInput ask given _)) fun _ => taggedCovered within _
    · exact taggedCovered within request

theorem runCovered (within : c.Within d) (source name : String) (stdin : Option String) :
    (ofSessions d).Covers (run c source name stdin) := by
  unfold run
  split
  · exact (ofSessions d).coversPure _
  · exact requestCovered within _

end Playground.Engine
