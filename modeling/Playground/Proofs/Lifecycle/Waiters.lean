import Playground.Proofs.Lifecycle.Callers

/-! Whose outcome a caller is told. A call that is not answered at once belongs to one attempt, the one
the lifecycle is loading when the call is made or the one that the call starts. Whatever happens before the
caller is polled, later attempts included, it is told how that attempt ended. -/
namespace Playground.Interpreter.Lifecycle

/- After `before` the caller asks and has to wait for attempt `k`; during `after` it neither asks again nor
leaves. -/
structure Waits (before : List (Event H)) (c k : Nat) (after : List (Event H)) : Prop where
  joined : (run {} before).phase = .loading k ∨
    (run {} before).phase = .uninitialized ∧ k = (run {} before).loadCount
  held : ∀ e ∈ after, e ≠ .ask c ∧ e ≠ .leave c

def Told (schedule : List (Event H)) (c k : Nat) (answer : Except LoadFault H) : Prop :=
  ∃ before after, before ++ .ask c :: after <+: schedule ∧ Waits before c k after ∧
    (run {} (before ++ .ask c :: after)).answer? c = some answer

theorem answeredStep {l : Lifecycle H} {c answer} {e : Event H}
    (told : l.caller? c = some (.answered answer)) (ask : e ≠ .ask c) (leave : e ≠ .leave c) :
    (l.step e).caller? c = some (.answered answer) := by
  by_cases poll : e = .poll c
  · subst e
    change (l.poll c).caller? c = _
    rw [pollIdle (by simp [told])]
    exact told
  · exact (stepOther l ask poll leave).trans told

theorem answeredRun {l : Lifecycle H} {c answer} {after : List (Event H)}
    (told : l.caller? c = some (.answered answer)) (held : ∀ e ∈ after, e ≠ .ask c ∧ e ≠ .leave c) :
    (l.run after).caller? c = some (.answered answer) := by
  induction after generalizing l with
  | nil => exact told
  | cons e rest ih =>
    have own := held e List.mem_cons_self
    exact ih (answeredStep told own.1 own.2) (fun d mem => held d (List.mem_cons_of_mem _ mem))

/- A waiting caller waits on until it is polled after the end of its attempt. -/
theorem waitingRun {l : Lifecycle H} {c k} {after : List (Event H)}
    (waits : l.caller? c = some (.waiting k)) (held : ∀ e ∈ after, e ≠ .ask c ∧ e ≠ .leave c) :
    ((l.run after).caller? c = some (.waiting k) ∧
      ∀ mid rest, after = mid ++ .poll c :: rest → (l.run mid).outcome? k = none) ∨
    ∃ mid rest o, after = mid ++ .poll c :: rest ∧ (l.run mid).outcome? k = some o ∧
      (l.run after).caller? c = some (.answered o.answer) := by
  induction after generalizing l with
  | nil => exact .inl ⟨waits,by simp⟩
  | cons e tail ih =>
    have own := held e List.mem_cons_self
    have later : ∀ d ∈ tail, d ≠ .ask c ∧ d ≠ .leave c := fun d mem => held d (List.mem_cons_of_mem _ mem)
    by_cases ends : e = .poll c ∧ ∃ o, l.outcome? k = some o
    · obtain ⟨rfl,o,ended⟩ := ends
      have told : (l.step (.poll c)).caller? c = some (.answered o.answer) := pollEnded waits ended
      have stays : ((l.step (.poll c)).run tail).caller? c = some (.answered o.answer) :=
        answeredRun told later
      exact .inr ⟨[],tail,o,rfl,ended,stays⟩
    · have unended : e = .poll c → l.outcome? k = none := by
        intro poll
        cases ended : l.outcome? k with
        | none => rfl
        | some o => exact absurd ⟨poll,o,ended⟩ ends
      have stays : (l.step e).caller? c = some (.waiting k) := by
        by_cases poll : e = .poll c
        · subst e
          change (l.poll c).caller? c = _
          rw [pollUnended waits (unended rfl)]
          exact waits
        · exact (stepOther l own.1 poll own.2).trans waits
      rcases ih stays later with ⟨still,none⟩ | ⟨mid,rest,o,same,ended,told⟩
      · refine .inl ⟨still,?_⟩
        intro mid rest same
        cases mid with
        | nil => cases same; exact unended rfl
        | cons d mid => cases same; exact none mid rest rfl
      · exact .inr ⟨e :: mid,rest,o,by rw [same]; rfl,ended,told⟩

theorem answeredIff {before : List (Event H)} {c k} {after : List (Event H)}
    (call : Waits before c k after) (answer : Except LoadFault H) :
    (run {} (before ++ .ask c :: after)).answer? c = some answer ↔
      ∃ mid rest o, after = mid ++ .poll c :: rest ∧
        (run {} (before ++ .ask c :: mid)).outcome? k = some o ∧ answer = o.answer := by
  have reached : ∀ events, run {} (before ++ .ask c :: events) = ((run {} before).ask c).run events :=
    fun events => runAppend {} before (.ask c :: events)
  have waits := askWaits c call.joined
  simp only [answerAt,reached]
  rcases waitingRun waits call.held with ⟨still,none⟩ | ⟨mid,rest,o,split,ended,told⟩
  · constructor
    · intro told
      rw [still] at told
      cases told
    · rintro ⟨mid,rest,o,same,ended,-⟩
      rw [none mid rest same] at ended
      contradiction
  · -- two polls after the end of an attempt see the same end
    have final : ∀ {mid rest o}, after = mid ++ .poll c :: rest →
        (((run {} before).ask c).run mid).outcome? k = some o →
        (((run {} before).ask c).run after).outcome? k = some o := by
      intro mid rest o same ended
      rw [same,runAppend]
      exact runOutcome ended _
    rw [told]
    constructor
    · intro same
      cases same
      exact ⟨mid,rest,o,split,ended,rfl⟩
    · rintro ⟨mid',rest',o',split',ended',rfl⟩
      have same := (final split ended).symm.trans (final split' ended')
      cases same
      rfl

theorem toldOutcome {schedule : List (Event H)} {c k answer} (told : Told schedule c k answer) :
    ∃ o, (run {} schedule).outcome? k = some o ∧ answer = o.answer := by
  obtain ⟨before,after,⟨more,rfl⟩,call,told⟩ := told
  obtain ⟨mid,rest,o,split,ended,same⟩ := (answeredIff call answer).mp told
  refine ⟨o,?_,same⟩
  have parts : before ++ .ask c :: after ++ more =
      (before ++ .ask c :: mid) ++ (.poll c :: rest ++ more) := by simp [split]
  rw [parts,runAppend]
  exact runOutcome ended _

theorem countFromIdle {l : Lifecycle H} (sound : Sound l) (idle : l.phase = .uninitialized)
    {events : List (Event H)} (unfinished : ∀ e ∈ events, e.isFinish = false)
    (call : ∃ e ∈ events, e.isCall = true) : (l.run events).loadCount = l.loadCount + 1 := by
  induction events generalizing l with
  | nil => simp at call
  | cons e rest ih =>
    have later : ∀ d ∈ rest, d.isFinish = false := fun d mem => unfinished d (List.mem_cons_of_mem _ mem)
    cases own : e.isCall with
    | true =>
      obtain ⟨loading,attempts⟩ := startIdle idle own
      have fresh : (l.step e).outcome? l.loadCount = none := by
        rw [outcomeStart attempts]
        simp [outcome?,loadCount]
      have count := busyRun (stepSound sound e) loading fresh later
      exact count.trans (by simp [loadCount,attempts])
    | false =>
      obtain ⟨stays,count⟩ := idleStep sound idle own
      have others : ∃ d ∈ rest, d.isCall = true := by simpa [own] using call
      exact (ih (stepSound sound e) stays later others).trans (by rw [count])

theorem waitersShareOneOutcome (schedule : List (Event H)) :
    (∀ (before after : List (Event H)) c k answer, Waits before c k after →
      ((run {} (before ++ .ask c :: after)).answer? c = some answer ↔
        ∃ mid rest o, after = mid ++ .poll c :: rest ∧
          (run {} (before ++ .ask c :: mid)).outcome? k = some o ∧ answer = o.answer)) ∧
    (∀ c k answer, Told schedule c k answer →
      ∃ o, (run {} schedule).outcome? k = some o ∧ answer = o.answer) ∧
    (∀ c d k answer answer', Told schedule c k answer → Told schedule d k answer' →
      answer = answer') ∧
    (∀ before together : List (Event H), (run {} before).phase = .uninitialized →
      (∀ e ∈ together, e.isFinish = false) → (∃ e ∈ together, e.isCall = true) →
      (run {} (before ++ together)).loadCount = (run {} before).loadCount + 1) := by
  refine ⟨fun before after c k answer call => answeredIff call answer,fun c k answer => toldOutcome,?_,?_⟩
  · intro c d k answer answer' first second
    obtain ⟨o,ended,rfl⟩ := toldOutcome first
    obtain ⟨o',ended',rfl⟩ := toldOutcome second
    rw [ended] at ended'
    cases ended'
    rfl
  · intro before together idle unfinished call
    rw [runAppend]
    exact countFromIdle (reachedSound before) idle unfinished call

theorem lateWaitersToldTheirFailure :
    let schedule : List (Event Nat) := [.ask 0,.ask 1,.begin 0,.finish 0 (.failed (.status "bundle" 503)),
      .ask 2,.begin 1,.finish 1 (.loaded 7),.poll 2,.poll 1,.poll 0]
    (run {} schedule).answer? 2 = some (.ok 7) ∧
      Told schedule 0 0 (.error (.status "bundle" 503)) ∧
      ∀ d answer, Told schedule d 0 answer → answer = .error (.status "bundle" 503) := by
  intro schedule
  have told : Told schedule 0 0 (.error (.status "bundle" 503)) :=
    ⟨[],schedule.tail,List.prefix_rfl,⟨.inr ⟨rfl,rfl⟩,by simp [schedule]⟩,rfl⟩
  exact ⟨rfl,told,fun d answer other =>
    (waitersShareOneOutcome schedule).2.2.1 d 0 0 answer _ other told⟩

end Playground.Interpreter.Lifecycle
