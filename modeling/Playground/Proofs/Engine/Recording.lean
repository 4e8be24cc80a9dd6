import Playground.Engine.Session

/-! A record of what is submitted to the remote service. The recorded collaborators are the given ones in a
world that also keeps the submissions in their order. `Follows` says that a recorded run does what the
run itself does and which submissions it adds; it composes along the steps of a run. -/
namespace Playground.Engine
open Playground.Interpreter (Lifecycle Outcome)

structure Recorded (W : Type) where
  world : W
  submissions : List Submission

def silently (act : StateM W α) : StateM (Recorded W) α := fun r =>
  let (result,world) := act.run r.world
  (result,{ r with world })

def unrecorded (act : StateM (Recorded W) α) : StateM W α := fun world =>
  let (result,r) := act.run ⟨world,[]⟩
  (result,r.world)

def RemoteExecutor.recorded (remote : RemoteExecutor W) : RemoteExecutor (Recorded W) where
  supports := remote.supports
  run := fun submission r =>
    let (report,world) := (remote.run submission).run r.world
    (report,⟨world,r.submissions ++ [submission]⟩)

def Collaborators.recorded (c : Collaborators W H) : Collaborators (Recorded W) H where
  evaluate := fun source stdin prompt => silently (c.evaluate source stdin (prompt.map unrecorded))
  load := silently c.load
  runGuest := fun handle source stdin => silently (c.runGuest handle source stdin)
  remote := c.remote.map RemoteExecutor.recorded
  requestInput := c.requestInput.map fun ask language => silently (ask language)
  solicitInput := c.solicitInput

def Session.recorded (s : Session W H P) (log : List Submission) : Session (Recorded W) H P where
  lifecycle := s.lifecycle
  preview := s.preview
  world := ⟨s.world,log⟩

/- From the session `s` both runs give the same result and reach the same session, and the recorded one has
`sent` added to its log. -/
def Follows (act' : RunOn P (Recorded W) H α) (act : RunOn P W H α) (s : Session W H P) (sent : List Submission) :
    Prop :=
  ∀ log, act'.run (s.recorded log) = ((act.run s).1,(act.run s).2.recorded (log ++ sent))

theorem followsPure (a : α) (s : Session W H P) : Follows (pure a) (pure a) s [] := by
  intro log
  simp only [List.append_nil]
  rfl

theorem followsBind {act' : RunOn P (Recorded W) H α} {act : RunOn P W H α} {next' : α → RunOn P (Recorded W) H β}
    {next : α → RunOn P W H β} {s : Session W H P} {sent more : List Submission}
    (first : Follows act' act s sent)
    (rest : Follows (next' (act.run s).1) (next (act.run s).1) (act.run s).2 more) :
    Follows (act' >>= next') (act >>= next) s (sent ++ more) := by
  intro log
  have tail := rest (log ++ sent)
  rw [List.append_assoc] at tail
  simp only [StateT.run_bind,first log]
  exact tail

theorem followsWorld (act : StateM W α) (s : Session W H P) : Follows (inWorld (silently act)) (inWorld act) s [] := by
  intro log
  simp only [List.append_nil]
  rfl

theorem followsPreview (act : StateM P α) (s : Session W H P) :
    Follows (inPreview act) (inPreview act) s [] := by
  intro log
  simp only [List.append_nil]
  rfl

theorem followsRemote (remote : RemoteExecutor W) (request : Submission) (s : Session W H P) :
    Follows (inWorld (remote.recorded.run request)) (inWorld (remote.run request)) s [request] :=
  fun _ => rfl

theorem awaitSilently (load : StateM W (Outcome H)) (attempt : Nat) (l : Lifecycle H) :
    l.await (silently load) attempt = silently (l.await load attempt) := by
  unfold Lifecycle.await
  split <;> rfl

theorem ensureSilently (load : StateM W (Outcome H)) (l : Lifecycle H) :
    l.ensure (silently load) = silently (l.ensure load) := by
  unfold Lifecycle.ensure
  cases l.phase with
  | uninitialized => simp only [awaitSilently]; rfl
  | loading attempt => simp only [awaitSilently]; rfl
  | ready handle => rfl

theorem followsEnsure (c : Collaborators W H) (s : Session W H P) :
    Follows (ensureReady c.recorded) (ensureReady c) s [] := by
  intro log
  have same : s.lifecycle.ensure c.recorded.load = silently (s.lifecycle.ensure c.load) :=
    ensureSilently c.load s.lifecycle
  simp only [ensureReady,StateT.run,Session.recorded,same,List.append_nil]
  rfl

theorem remoteForRecorded (c : Collaborators W H) (language : Language) :
    remoteFor c.recorded language = (remoteFor c language).map RemoteExecutor.recorded := by
  unfold remoteFor Collaborators.recorded
  cases c.remote with
  | none => rfl
  | some remote =>
    cases supported : remote.supports language with
    | true => simp [Option.filter,RemoteExecutor.recorded,supported]
    | false => simp [Option.filter,RemoteExecutor.recorded,supported]

end Playground.Engine
