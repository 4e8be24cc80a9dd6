import Playground.Proofs.Lifecycle.Invariant

/-! What one event does to a caller. Nobody but the caller itself changes what it waits for or was
told; an end that an attempt has come to stays its end, and whatever a caller was told is such an end. -/
namespace Playground.Interpreter.Lifecycle

theorem lookupFilter (callers : List (Nat × Caller H)) (c d : Nat) :
    (callers.filter fun known => known.1 != c).lookup d =
      if d = c then none else callers.lookup d := by
  induction callers with
  | nil => simp
  | cons head rest ih =>
    obtain ⟨name,state⟩ := head
    by_cases dropped : name = c
    · subst name
      by_cases same : d = c
      · simp [same] at ih ⊢; exact ih
      · have other : (d == c) = false := by simpa using same
        simp [same,List.lookup_cons,other] at ih ⊢; exact ih
    · rw [List.filter_cons_of_pos (by simpa using dropped),List.lookup_cons,List.lookup_cons,ih]
      by_cases found : d = name
      · simp [found,dropped]
      · have other : (d == name) = false := by simpa using found
        simp [other]

theorem setCallerAt (l : Lifecycle H) (c d : Nat) (state : Caller H) :
    (l.setCaller c state).caller? d = if d = c then some state else l.caller? d := by
  simp only [caller?,setCaller,List.lookup_cons,lookupFilter]
  by_cases same : d = c
  · simp [same]
  · have other : (d == c) = false := by simpa using same
    simp [same,other]

theorem leaveAt (l : Lifecycle H) (c d : Nat) :
    (l.leave c).caller? d = if d = c then none else l.caller? d :=
  lookupFilter l.callers c d

theorem answerAt (l : Lifecycle H) (c : Nat) (answer : Except LoadFault H) :
    l.answer? c = some answer ↔ l.caller? c = some (.answered answer) := by
  unfold answer? caller?
  split
  · rename_i given found
    simp [found]
  · rename_i unanswered
    constructor
    · intro impossible; contradiction
    · intro found; exact absurd found (unanswered answer)

theorem noticeCallers (l : Lifecycle H) (k : Nat) (o : Outcome H) : (l.notice k o).callers = l.callers := by
  cases o <;> rfl

theorem finishCallers (l : Lifecycle H) (k : Nat) (o : Outcome H) : (l.finish k o).callers = l.callers := by
  unfold finish
  split
  · cases o <;> rfl
  · rfl

theorem beginCallers (l : Lifecycle H) (k : Nat) : (l.begin k).callers = l.callers := by
  unfold begin
  split <;> rfl

theorem preloadCallers (l : Lifecycle H) : l.preload.callers = l.callers := by
  unfold preload
  split <;> rfl

theorem askOther (l : Lifecycle H) {c d : Nat} (other : d ≠ c) :
    (l.ask c).caller? d = l.caller? d := by
  unfold ask
  split
  · rw [setCallerAt,if_neg other]
  · rw [setCallerAt,if_neg other]
  · rw [setCallerAt,if_neg other]
    rfl

theorem pollOther (l : Lifecycle H) {c d : Nat} (other : d ≠ c) :
    (l.poll c).caller? d = l.caller? d := by
  unfold poll
  split
  · split
    · rw [setCallerAt,if_neg other]
      split
      · rfl
      · simp only [caller?,noticeCallers]
    · rfl
  · rfl

theorem stepOther (l : Lifecycle H) {c : Nat} {e : Event H} (ask : e ≠ .ask c) (poll : e ≠ .poll c)
    (leave : e ≠ .leave c) : (l.step e).caller? c = l.caller? c := by
  cases e with
  | ask d => exact askOther l (fun same => ask (by rw [same]))
  | preload => exact congrArg (List.lookup c) (preloadCallers l)
  | begin k => exact congrArg (List.lookup c) (beginCallers l k)
  | finish k o => exact congrArg (List.lookup c) (finishCallers l k o)
  | poll d => exact pollOther l (fun same => poll (by rw [same]))
  | leave d =>
    have other : c ≠ d := fun same => leave (by rw [same])
    exact (leaveAt l d c).trans (if_neg other)

theorem outcomeAt {l : Lifecycle H} {k o} (ended : l.outcome? k = some o) :
    ∃ noticed, l.attempts[k]? = some ⟨.ended o,noticed⟩ := by
  unfold outcome? at ended
  obtain ⟨⟨progress,noticed⟩,found,own⟩ := Option.bind_eq_some_iff.mp ended
  cases progress with
  | ended o' => cases own; exact ⟨noticed,found⟩
  | scheduled => contradiction
  | running => contradiction

theorem pollEnded {l : Lifecycle H} {c k o} (waits : l.caller? c = some (.waiting k))
    (ended : l.outcome? k = some o) : (l.poll c).caller? c = some (.answered o.answer) := by
  obtain ⟨noticed,found⟩ := outcomeAt ended
  have waits : l.callers.lookup c = some (.waiting k) := waits
  simp only [poll,waits,found]
  rw [setCallerAt,if_pos rfl]

theorem pollUnended {l : Lifecycle H} {c k} (waits : l.caller? c = some (.waiting k))
    (unended : l.outcome? k = none) : l.poll c = l := by
  have waits : l.callers.lookup c = some (.waiting k) := waits
  simp only [poll,waits]
  split
  · rename_i o noticed found
    simp [outcome?,found,Attempt.outcome?] at unended
  · rfl

theorem pollIdle {l : Lifecycle H} {c} (idle : ∀ k, l.caller? c ≠ some (.waiting k)) : l.poll c = l := by
  unfold poll
  split
  · rename_i k waits
    exact absurd waits (idle k)
  · rfl

theorem waitedBefore {l : Lifecycle H} {c k} {e : Event H} (quiet : e.isCall = false)
    (waits : (l.step e).caller? c = some (.waiting k)) : l.caller? c = some (.waiting k) := by
  cases e with
  | ask d => contradiction
  | preload => contradiction
  | poll d =>
    by_cases same : c = d
    · subst d
      have polled : (l.poll c).caller? c = some (.waiting k) := waits
      by_cases waited : ∃ j, l.caller? c = some (.waiting j)
      · obtain ⟨j,waited⟩ := waited
        cases ended : l.outcome? j with
        | some o => rw [pollEnded waited ended] at polled; cases polled
        | none => rwa [pollUnended waited ended] at polled
      · rwa [pollIdle (fun j found => waited ⟨j,found⟩)] at polled
    · exact (pollOther l same).symm.trans waits
  | leave d =>
    have left := (leaveAt l d c).symm.trans waits
    split at left
    · contradiction
    · exact left
  | _ => exact (stepOther l (by simp) (by simp) (by simp)).symm.trans waits

theorem stepOutcome {l : Lifecycle H} {k o} (ended : l.outcome? k = some o) (e : Event H) :
    (l.step e).outcome? k = some o := by
  cases stepMoves l e with
  | stay phase attempts => simpa only [outcome?,attempts] using ended
  | start call idle phase attempts => exact (outcomeStart attempts k).trans ended
  | notice waits found phase attempts => exact (noticeOutcomes found attempts k).trans ended
  | begin due phase attempts => exact (beginOutcomes due attempts k).trans ended
  | finish running phase attempts =>
    rw [outcomeSet running attempts]
    split
    · subst k; simp [outcome?,running,Attempt.outcome?] at ended
    · exact ended

theorem runOutcome {l : Lifecycle H} {k o} (ended : l.outcome? k = some o) (events : List (Event H)) :
    (l.run events).outcome? k = some o := by
  induction events generalizing l with
  | nil => exact ended
  | cons e rest ih => exact ih (stepOutcome ended e)

theorem askWaits {l : Lifecycle H} {k} (c : Nat)
    (joined : l.phase = .loading k ∨ l.phase = .uninitialized ∧ k = l.loadCount) :
    (l.ask c).caller? c = some (.waiting k) := by
  rcases joined with loading | ⟨idle,rfl⟩
  · simp only [ask,loading]
    rw [setCallerAt,if_pos rfl]
  · simp only [ask,idle]
    rw [setCallerAt,if_pos rfl]
    rfl

/- Every answer given is the end of some attempt. -/
def Truthful (l : Lifecycle H) : Prop :=
  ∀ c answer, l.caller? c = some (.answered answer) → ∃ k o, l.outcome? k = some o ∧ answer = o.answer

theorem initialTruthful : Truthful ({} : Lifecycle H) := by
  intro c answer told
  simp [caller?] at told

theorem askTruthful {l : Lifecycle H} (sound : Sound l) {c answer}
    (told : (l.ask c).caller? c = some (.answered answer)) :
    ∃ k o, l.outcome? k = some o ∧ answer = o.answer := by
  unfold ask at told
  split at told
  · rename_i h ready
    obtain ⟨k,loaded⟩ := (sound.ready h).mp ready
    rw [setCallerAt,if_pos rfl] at told
    cases told
    exact ⟨k,_,loaded,rfl⟩
  · simp [setCallerAt] at told
  · simp [setCallerAt] at told

theorem pollTruthful {l : Lifecycle H} (truthful : Truthful l) {c answer}
    (told : (l.poll c).caller? c = some (.answered answer)) :
    ∃ k o, l.outcome? k = some o ∧ answer = o.answer := by
  by_cases waits : ∃ k, l.caller? c = some (.waiting k)
  · obtain ⟨k,waits⟩ := waits
    cases ended : l.outcome? k with
    | none => rw [pollUnended waits ended] at told; exact truthful c answer told
    | some o => rw [pollEnded waits ended] at told; cases told; exact ⟨k,o,ended,rfl⟩
  · rw [pollIdle (fun k found => waits ⟨k,found⟩)] at told
    exact truthful c answer told

theorem stepTruthful {l : Lifecycle H} (sound : Sound l) (truthful : Truthful l) (e : Event H) :
    Truthful (l.step e) := by
  intro c answer told
  have source : ∃ k o, l.outcome? k = some o ∧ answer = o.answer := by
    cases e with
    | ask d =>
      by_cases same : c = d
      · subst d; exact askTruthful sound told
      · exact truthful c answer ((askOther l same).symm.trans told)
    | poll d =>
      by_cases same : c = d
      · subst d; exact pollTruthful truthful told
      · exact truthful c answer ((pollOther l same).symm.trans told)
    | leave d =>
      have left := (leaveAt l d c).symm.trans told
      split at left
      · contradiction
      · exact truthful c answer left
    | _ => exact truthful c answer ((stepOther l (by simp) (by simp) (by simp)).symm.trans told)
  obtain ⟨k,o,ended,same⟩ := source
  exact ⟨k,o,stepOutcome ended e,same⟩

theorem runTruthful {l : Lifecycle H} (sound : Sound l) (truthful : Truthful l)
    (events : List (Event H)) : Truthful (l.run events) := by
  induction events generalizing l with
  | nil => exact truthful
  | cons e rest ih => exact ih (stepSound sound e) (stepTruthful sound truthful e)

end Playground.Interpreter.Lifecycle
