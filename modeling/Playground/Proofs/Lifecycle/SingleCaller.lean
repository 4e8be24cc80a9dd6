import Playground.Proofs.Lifecycle.Callers

/-! One caller at a time. A call of an idle runtime makes one load and hands out its result; a call of
a runtime that is ready makes none. What a caller leaves with is what the lifecycle has told it. -/
namespace Playground.Interpreter.Lifecycle

def phaseAfter : Outcome H → Phase H
  | .loaded handle => .ready handle
  | .failed _ => .uninitialized
  | .aborted _ => .uninitialized

theorem askedAttempts {l : Lifecycle H} {k : Nat} (loading : l.phase = .loading k) (c : Nat) :
    (l.ask c).attempts = l.attempts := by
  simp only [ask,loading]
  rfl

theorem endedBy {l : Lifecycle H} {k : Nat} (due : l.IsOpen k) (unended : l.outcome? k = none) (o : Outcome H) :
    (l.run [.begin k,.finish k o]).outcome? k = some o := by
  obtain ⟨⟨progress,noticed⟩,found,-⟩ := due
  have ran : l.run [.begin k,.finish k o] = (l.begin k).finish k o := rfl
  have running : (l.begin k).attempts[k]? = some ⟨.running,noticed⟩ := by
    cases progress with
    | scheduled =>
      simp only [begin,found]
      exact (setAt found _ k).trans (if_pos rfl)
    | running => simp only [begin,found]
    | ended o' => simp [outcome?,found,Attempt.outcome?] at unended
  rw [ran,finish,running]
  cases o <;> simp [outcome?,setAttempt,setAt running,Attempt.outcome?]

theorem awaitTold {l : Lifecycle H} {k : Nat} (due : l.IsOpen k) (waits : l.caller? 0 = some (.waiting k))
    (load : StateM S (Outcome H)) (s : S) :
    let awaited := ((l.await load k).run s).1
    awaited.2.answer? 0 = some awaited.1 := by
  cases ended : l.outcome? k with
  | some o =>
    simp only [await,ended]
    exact (answerAt _ 0 _).mpr (pollEnded waits ended)
  | none =>
    have kept (o : Outcome H) : (l.run [.begin k,.finish k o]).callers = l.callers :=
      (finishCallers _ k o).trans (beginCallers l k)
    have waiting (o : Outcome H) : (l.run [.begin k,.finish k o]).caller? 0 = some (.waiting k) :=
      (congrArg (List.lookup 0) (kept o)).trans waits
    simp only [await,ended]
    exact (answerAt _ 0 _).mpr (pollEnded (waiting _) (endedBy due ended _))

theorem ensureJoins {l : Lifecycle H} (sound : Sound l) (unready : ¬ ∃ handle, l.phase = .ready handle)
    (load : StateM S (Outcome H)) (s : S) :
    ∃ k, (l.ask 0).phase = .loading k ∧ (l.ask 0).IsOpen k ∧ (l.ask 0).caller? 0 = some (.waiting k) ∧
      let told := ((l.ask 0).await load k).run s
      (l.ensure load).run s = ((told.1.1,told.1.2.leave 0),told.2) := by
  cases phase : l.phase with
  | ready handle => exact absurd ⟨handle,phase⟩ unready
  | loading k =>
    have asked : (l.ask 0).phase = .loading k := by
      simp only [ask,phase]
      exact phase
    have due : (l.ask 0).IsOpen k := by
      rw [IsOpen,askedAttempts phase]
      exact (sound.loading k).mp phase
    refine ⟨k,asked,due,askWaits 0 (.inl phase),?_⟩
    simp only [ensure,phase]
    rfl
  | uninitialized =>
    obtain ⟨asked,attempts⟩ := startIdle (e := .ask 0) phase rfl
    have due : (l.ask 0).IsOpen l.loadCount :=
      (openStart (show (l.ask 0).attempts = _ from attempts) _).mpr (.inl rfl)
    refine ⟨l.loadCount,asked,due,askWaits 0 (.inr ⟨phase,rfl⟩),?_⟩
    simp only [ensure,phase]
    rfl

theorem ensureAnswered {l : Lifecycle H} {handle : H} (ready : l.phase = .ready handle)
    (load : StateM S (Outcome H)) (s : S) :
    (l.ensure load).run s = ((.ok handle,(l.ask 0).leave 0),s) ∧
      (l.ask 0).caller? 0 = some (.answered (.ok handle)) := by
  refine ⟨by simp only [ensure,ready]; rfl,?_⟩
  simp only [ask,ready]
  rw [setCallerAt,if_pos rfl]

theorem ensureTold {l : Lifecycle H} (sound : Sound l) (load : StateM S (Outcome H)) (s : S) :
    ∃ told : Lifecycle H, ((l.ensure load).run s).1.2 = told.leave 0 ∧
      told.answer? 0 = some ((l.ensure load).run s).1.1 := by
  by_cases there : ∃ handle, l.phase = .ready handle
  · obtain ⟨handle,ready⟩ := there
    obtain ⟨called,told⟩ := ensureAnswered ready load s
    rw [called]
    exact ⟨_,rfl,(answerAt _ 0 _).mpr told⟩
  · obtain ⟨k,-,due,waits,called⟩ := ensureJoins sound there load s
    rw [called]
    exact ⟨_,rfl,awaitTold due waits load s⟩

theorem ranThrough {l : Lifecycle H} {k : Nat} (scheduled : l.attempts[k]? = some ⟨.scheduled,false⟩)
    (o : Outcome H) :
    (l.run [.begin k,.finish k o]).attempts[k]? = some ⟨.ended o,false⟩ ∧
    (l.run [.begin k,.finish k o]).callers = l.callers ∧
    ((l.run [.begin k,.finish k o]).notice k o).phase = phaseAfter o := by
  have begun : l.begin k = l.setAttempt k ⟨.running,false⟩ := by simp only [begin,scheduled]
  have running : (l.begin k).attempts[k]? = some ⟨.running,false⟩ := by
    rw [begun]
    exact (setAt scheduled _ k).trans (if_pos rfl)
  have ran : l.run [.begin k,.finish k o] = (l.begin k).finish k o := rfl
  have callers : (l.run [.begin k,.finish k o]).callers = l.callers :=
    (finishCallers _ k o).trans (beginCallers l k)
  refine ⟨?_,callers,?_⟩
  · rw [ran,finish,running]
    cases o <;> exact (setAt running _ k).trans (if_pos rfl)
  · rw [ran,finish,running]
    cases o <;> rfl

theorem ensureIdle {l : Lifecycle H} (idle : l.phase = .uninitialized) (load : StateM S (Outcome H)) (s : S) :
    ∃ left, (l.ensure load).run s = (((load.run s).1.answer,left),(load.run s).2) ∧
      left.phase = phaseAfter (load.run s).1 := by
  obtain ⟨-,attempts⟩ := startIdle (e := .ask 0) idle rfl
  have scheduled : (l.ask 0).attempts[l.loadCount]? = some ⟨.scheduled,false⟩ := by
    rw [show (l.ask 0).attempts = _ from attempts]
    simp [loadCount]
  have waits : (l.ask 0).caller? 0 = some (.waiting l.loadCount) := askWaits 0 (.inr ⟨idle,rfl⟩)
  have unended : (l.ask 0).outcome? l.loadCount = none := by simp [outcome?,scheduled,Attempt.outcome?]
  generalize ended : (load.run s).1 = o
  obtain ⟨found,callers,phase⟩ := ranThrough scheduled o
  have called : (l.ensure load).run s =
      ((o.answer,(((l.ask 0).run [.begin l.loadCount,.finish l.loadCount o]).poll 0).leave 0),(load.run s).2) := by
    simp only [ensure,idle,await,unended,← ended]
    rfl
  refine ⟨_,called,?_⟩
  generalize (l.ask 0).run [.begin l.loadCount,.finish l.loadCount o] = m at found callers phase
  have waiting : m.callers.lookup 0 = some (.waiting l.loadCount) := callers ▸ waits
  have polled : m.poll 0 = (m.notice l.loadCount o).setCaller 0 (.answered o.answer) := by
    simp only [poll,waiting,found]
    rfl
  rw [polled]
  exact phase

theorem ensureReady {l : Lifecycle H} {handle : H} (ready : l.phase = .ready handle)
    (load : StateM S (Outcome H)) (s : S) :
    ∃ left, (l.ensure load).run s = ((.ok handle,left),s) ∧ left.phase = .ready handle := by
  refine ⟨_,(ensureAnswered ready load s).1,?_⟩
  simp only [ask,ready]
  exact ready

def Still (l : Lifecycle H) : Prop := ∀ (k : Nat) (noticed : Bool), l.attempts[k]? ≠ some ⟨.running,noticed⟩

theorem awaitSettles {l : Lifecycle H} {k : Nat} (loading : l.phase = .loading k) (due : l.IsOpen k) (still : l.Still)
    (load : StateM S (Outcome H)) (s : S) :
    ((l.await load k).run s).1.2 = ((l.settle load).run s).1.poll 0 ∧
    ((l.await load k).run s).2 = ((l.settle load).run s).2 := by
  obtain ⟨⟨progress,noticed⟩,found,-⟩ := due
  cases progress with
  | scheduled =>
    have unended : l.outcome? k = none := by simp [outcome?,found,Attempt.outcome?]
    have pending : l.pending? = some k := by simp only [pending?,loading,found]
    simp only [await,settle,unended,pending]
    exact ⟨rfl,rfl⟩
  | running => exact absurd found (still k noticed)
  | ended o =>
    have ended : l.outcome? k = some o := by simp [outcome?,found,Attempt.outcome?]
    have pending : l.pending? = none := by simp only [pending?,loading,found]
    simp only [await,settle,ended,pending]
    exact ⟨rfl,rfl⟩

theorem askStill {l : Lifecycle H} (still : l.Still) (c : Nat) : (l.ask c).Still := by
  intro k noticed running
  cases phase : l.phase with
  | uninitialized =>
    obtain ⟨-,attempts⟩ := startIdle (e := .ask c) phase rfl
    rw [startAt (show (l.ask c).attempts = _ from attempts)] at running
    split at running
    · cases running
    · exact still k noticed running
  | loading attempt =>
    rw [askedAttempts phase] at running
    exact still k noticed running
  | ready handle =>
    simp only [ask,phase] at running
    exact still k noticed running

/- A caller that asks by itself is told the same as the one caller of several. -/
theorem ensureAlone {l : Lifecycle H} (sound : Sound l) (still : l.Still) (load : StateM S (Outcome H)) (s : S) :
    (l.ensureAll load [0]).run s =
      (([((l.ensure load).run s).1.1],((l.ensure load).run s).1.2),((l.ensure load).run s).2) := by
  have together : (l.ensureAll load [0]).run s =
      let settled := ((l.ask 0).settle load).run s
      (([0].filterMap (settled.1.poll 0).answer?,(settled.1.poll 0).leave 0),settled.2) := rfl
  simp only [together]
  by_cases there : ∃ handle, l.phase = .ready handle
  · obtain ⟨handle,ready⟩ := there
    obtain ⟨called,told⟩ := ensureAnswered ready load s
    have settled : ((l.ask 0).settle load).run s = (l.ask 0,s) := by
      have idle : (l.ask 0).pending? = none := by simp only [ask,pending?,setCaller,ready]
      simp only [settle,idle]
      rfl
    have polled : (l.ask 0).poll 0 = l.ask 0 := pollIdle fun k waits => by
      rw [told] at waits
      cases waits
    rw [called,settled]
    simp only [polled,List.filterMap_cons,(answerAt _ 0 _).mpr told,List.filterMap_nil]
  · obtain ⟨k,loading,due,waits,called⟩ := ensureJoins sound there load s
    obtain ⟨left,world⟩ := awaitSettles loading due (askStill still 0) load s
    have told := awaitTold due waits load s
    rw [called,← left,← world]
    simp only [List.filterMap_cons,told,List.filterMap_nil]

end Playground.Interpreter.Lifecycle
