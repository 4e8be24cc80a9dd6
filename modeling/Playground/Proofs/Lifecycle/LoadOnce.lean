import Playground.Proofs.Lifecycle.Callers

/-! One load at a time, and none once the runtime is there. Nothing is assumed of the schedule: the
events of a run come in any order and number, those that do not fit the state included. -/
namespace Playground.Interpreter

def Progress.isScheduled : Progress H → Bool
  | .scheduled => true
  | _ => false

def Progress.isRunning : Progress H → Bool
  | .running => true
  | _ => false

namespace Lifecycle

def callsBegun (l : Lifecycle H) : Nat := l.attempts.countP fun a => !a.progress.isScheduled

def callsRunning (l : Lifecycle H) : Nat := l.attempts.countP fun a => a.progress.isRunning

theorem countSingle {p : α → Bool} {xs : List α}
    (single : ∀ (i j : Nat) a b, xs[i]? = some a → xs[j]? = some b → p a = true → p b = true → i = j) :
    xs.countP p ≤ 1 := by
  induction xs with
  | nil => simp
  | cons x rest ih =>
    by_cases first : p x = true
    · have none : rest.countP p = 0 := by
        rw [List.countP_eq_zero]
        intro b member second
        obtain ⟨j,found⟩ := List.mem_iff_getElem?.mp member
        have same := single 0 (j + 1) x b rfl found first second
        omega
      simp [first,none]
    · have tail : rest.countP p ≤ 1 := ih fun i j a b left right pa pb => by
        have same := single (i + 1) (j + 1) a b left right pa pb
        omega
      simpa [first] using tail

theorem openCount {l : Lifecycle H} (sound : Sound l) : l.attempts.countP Attempt.isOpen ≤ 1 := by
  apply countSingle
  intro i j a b left right openA openB
  exact (onlyOpen sound ⟨b,right,openB⟩ i).mp ⟨a,left,openA⟩

theorem runningCount {l : Lifecycle H} (sound : Sound l) : l.callsRunning ≤ 1 := by
  refine Nat.le_trans (List.countP_mono_left ?_) (openCount sound)
  intro a _ running
  obtain ⟨progress,noticed⟩ := a
  cases progress <;> simp_all [Progress.isRunning,Attempt.isOpen]

theorem scheduledCount {l : Lifecycle H} (sound : Sound l) :
    (l.attempts.countP fun a => a.progress.isScheduled) ≤ 1 := by
  refine Nat.le_trans (List.countP_mono_left ?_) (openCount sound)
  intro a _ scheduled
  obtain ⟨progress,noticed⟩ := a
  cases progress <;> simp_all [Progress.isScheduled,Attempt.isOpen]

/- Every attempt has had its call made but one at most. -/
theorem begunBounds {l : Lifecycle H} (sound : Sound l) :
    l.callsBegun ≤ l.loadCount ∧ l.loadCount ≤ l.callsBegun + 1 := by
  have split := List.length_eq_countP_add_countP (fun a : Attempt H => a.progress.isScheduled) (l := l.attempts)
  have most := scheduledCount sound
  have rest : l.callsBegun =
      l.attempts.countP fun a => decide (¬a.progress.isScheduled = true) := by
    simp [callsBegun]
  unfold loadCount
  omega

theorem countGrows {l : Lifecycle H} {e : Event H} (grows : (l.step e).loadCount ≠ l.loadCount) :
    l.phase = .uninitialized ∧ (l.step e).phase = .loading l.loadCount ∧
      (l.step e).loadCount = l.loadCount + 1 := by
  unfold loadCount at grows ⊢
  cases stepMoves l e with
  | start call idle phase attempts => exact ⟨idle,phase,by simp [attempts]⟩
  | stay phase attempts => exact absurd (by rw [attempts]) grows
  | begin due phase attempts => exact absurd (by simp [attempts]) grows
  | finish running phase attempts => exact absurd (by simp [attempts]) grows
  | notice waits ended phase attempts => exact absurd (by simp [attempts]) grows

theorem readyStep {l : Lifecycle H} {h} (sound : Sound l) (ready : l.phase = .ready h) (e : Event H) :
    (l.step e).phase = .ready h ∧ (l.step e).loadCount = l.loadCount := by
  obtain ⟨k,loaded⟩ := (sound.ready h).mp ready
  refine ⟨((stepSound sound e).ready h).mpr ⟨k,stepOutcome loaded e⟩,?_⟩
  by_cases same : (l.step e).loadCount = l.loadCount
  · exact same
  · have idle := (countGrows same).1
    simp [ready] at idle

theorem readyRun {l : Lifecycle H} {h} (sound : Sound l) (ready : l.phase = .ready h)
    (later : List (Event H)) :
    (l.run later).phase = .ready h ∧ (l.run later).loadCount = l.loadCount := by
  induction later generalizing l with
  | nil => exact ⟨ready,rfl⟩
  | cons e rest ih =>
    have next := readyStep sound ready e
    have last := ih (stepSound sound e) next.1
    exact ⟨last.1,last.2.trans next.2⟩

theorem askReady {l : Lifecycle H} {h} (ready : l.phase = .ready h) (c : Nat) :
    (l.ask c).answer? c = some (.ok h) := by
  rw [answerAt]
  simp only [ask,ready]
  rw [setCallerAt,if_pos rfl]

theorem okReady {l : Lifecycle H} (sound : Sound l) (truthful : Truthful l) {c h}
    (told : l.answer? c = some (.ok h)) : l.phase = .ready h := by
  obtain ⟨k,o,ended,same⟩ := truthful c _ ((answerAt l c _).mp told)
  cases o with
  | loaded h' => cases same; exact (sound.ready h).mpr ⟨k,ended⟩
  | failed fault => contradiction
  | aborted detail => contradiction

theorem loadsOneByOneUntilReady (events : List (Event H)) :
    let l := run {} events
    l.callsRunning ≤ 1 ∧
    (∀ e, (l.step e).loadCount ≠ l.loadCount →
      l.phase = .uninitialized ∧ (l.step e).phase = .loading l.loadCount ∧
        (l.step e).loadCount = l.loadCount + 1) ∧
    (l.callsBegun ≤ l.loadCount ∧ l.loadCount ≤ l.callsBegun + 1) ∧
    (∀ h later, l.phase = .ready h →
      (l.run later).phase = .ready h ∧ (l.run later).loadCount = l.loadCount ∧
        ∀ c, ((l.run later).ask c).answer? c = some (.ok h)) ∧
    (∀ later c d h h', l.answer? c = some (.ok h) → (l.run later).answer? d = some (.ok h') →
      h = h') := by
  intro l
  have sound : Sound l := runSound initialSound events
  have truthful : Truthful l := runTruthful initialSound initialTruthful events
  refine ⟨runningCount sound,fun e => countGrows,begunBounds sound,?_,?_⟩
  · intro h later ready
    obtain ⟨stays,count⟩ := readyRun sound ready later
    exact ⟨stays,count,askReady stays⟩
  · intro later c d h h' first second
    have before := (readyRun sound (okReady sound truthful first) later).1
    have after := okReady (runSound sound later) (runTruthful sound truthful later) second
    rw [before] at after
    cases after
    rfl

theorem secondLoadStaysReady :
    let l : Lifecycle Nat := run {} [.ask 0,.begin 0,.finish 0 (.aborted "exit"),.ask 1,.poll 0,.poll 1,
      .preload,.ask 0,.begin 1,.finish 1 (.loaded 7),.poll 0]
    l.answer? 0 = some (.ok 7) ∧ l.loadCount = 2 ∧
      ∀ later d h', (l.run later).answer? d = some (.ok h') → 7 = h' := by
  refine ⟨rfl,rfl,?_⟩
  intro later d h' second
  exact (loadsOneByOneUntilReady _).2.2.2.2 later 0 d 7 h' rfl second

end Lifecycle
end Playground.Interpreter
