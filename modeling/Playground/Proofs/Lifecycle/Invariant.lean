import Playground.Interpreter.Lifecycle

/-! What one event does to the phase and the attempts of a lifecycle, and the invariant that follows.
An attempt is open exactly while the lifecycle is loading it; a handle was loaded exactly when the
lifecycle is ready with it; callers are answered with the ends of attempts and with nothing else. -/
namespace Playground.Interpreter

def Event.isCall : Event H → Bool
  | .ask _ | .preload => true
  | _ => false

def Event.isFinish : Event H → Bool
  | .finish .. => true
  | _ => false

def Outcome.phaseAfter (before : Phase H) : Outcome H → Phase H
  | .loaded handle => .ready handle
  | .failed _ => .uninitialized
  | .aborted _ => before

def Outcome.phaseNoticed (before : Phase H) : Outcome H → Phase H
  | .aborted _ => .uninitialized
  | _ => before

def Attempt.isOpen : Attempt H → Bool
  | ⟨.ended (.aborted _),noticed⟩ => !noticed
  | ⟨.ended _,_⟩ => false
  | _ => true

namespace Lifecycle

def caller? (l : Lifecycle H) (caller : Nat) : Option (Caller H) := l.callers.lookup caller

def IsOpen (l : Lifecycle H) (k : Nat) : Prop := ∃ a, l.attempts[k]? = some a ∧ a.isOpen = true

/- All that one event can do to the phase and the attempts. -/
inductive Moves (l : Lifecycle H) : Event H → Lifecycle H → Prop where
  | stay {e m} (phase : m.phase = l.phase) (attempts : m.attempts = l.attempts) : Moves l e m
  | start {e m} (call : e.isCall = true) (idle : l.phase = .uninitialized)
      (phase : m.phase = .loading l.attempts.length) (attempts : m.attempts = l.attempts ++ [⟨.scheduled,false⟩]) :
      Moves l e m
  | begin {k noticed m} (due : l.attempts[k]? = some ⟨.scheduled,noticed⟩)
      (phase : m.phase = l.phase) (attempts : m.attempts = l.attempts.set k ⟨.running,noticed⟩) :
      Moves l (.begin k) m
  | finish {k noticed o m} (running : l.attempts[k]? = some ⟨.running,noticed⟩)
      (phase : m.phase = o.phaseAfter l.phase)
      (attempts : m.attempts = l.attempts.set k ⟨.ended o,noticed⟩) : Moves l (.finish k o) m
  | notice {c k o m} (waits : l.caller? c = some (.waiting k))
      (ended : l.attempts[k]? = some ⟨.ended o,false⟩) (phase : m.phase = o.phaseNoticed l.phase)
      (attempts : m.attempts = l.attempts.set k ⟨.ended o,true⟩) : Moves l (.poll c) m

theorem askMoves (l : Lifecycle H) (c : Nat) : Moves l (.ask c) (l.ask c) := by
  unfold ask
  split
  · exact .stay rfl rfl
  · exact .stay rfl rfl
  · exact .start rfl (by assumption) rfl rfl

theorem preloadMoves (l : Lifecycle H) : Moves l .preload l.preload := by
  unfold preload
  split
  · exact .start rfl (by assumption) rfl rfl
  · exact .stay rfl rfl

theorem beginMoves (l : Lifecycle H) (k : Nat) : Moves l (.begin k) (l.begin k) := by
  unfold begin
  split
  · exact .begin (by assumption) rfl rfl
  · exact .stay rfl rfl

theorem finishMoves (l : Lifecycle H) (k : Nat) (o : Outcome H) : Moves l (.finish k o) (l.finish k o) := by
  unfold finish
  split
  · exact .finish (by assumption) (by cases o <;> rfl) (by cases o <;> rfl)
  · exact .stay rfl rfl

theorem pollMoves (l : Lifecycle H) (c : Nat) : Moves l (.poll c) (l.poll c) := by
  unfold poll
  split
  · rename_i k waits
    split
    · rename_i o noticed ended
      cases noticed with
      | true => exact .stay rfl rfl
      | false => exact .notice waits ended (by cases o <;> rfl) (by cases o <;> rfl)
    · exact .stay rfl rfl
  · exact .stay rfl rfl

theorem stepMoves (l : Lifecycle H) (e : Event H) : Moves l e (l.step e) := by
  cases e with
  | ask c => exact askMoves l c
  | preload => exact preloadMoves l
  | begin k => exact beginMoves l k
  | finish k o => exact finishMoves l k o
  | poll c => exact pollMoves l c
  | leave c => exact .stay rfl rfl

theorem setAt {xs : List α} {k : Nat} {old : α} (found : xs[k]? = some old) (new : α) (j : Nat) :
    (xs.set k new)[j]? = if j = k then some new else xs[j]? := by
  obtain ⟨bound,_⟩ := List.getElem?_eq_some_iff.mp found
  rw [List.getElem?_set]
  by_cases same : j = k
  · simp [same,bound]
  · simp [same,Ne.symm same]

theorem openSet {l m : Lifecycle H} {k old new} (found : l.attempts[k]? = some old)
    (attempts : m.attempts = l.attempts.set k new) (j : Nat) :
    m.IsOpen j ↔ if j = k then new.isOpen = true else l.IsOpen j := by
  unfold IsOpen
  rw [attempts,setAt found]
  by_cases same : j = k <;> simp [same]

theorem outcomeSet {l m : Lifecycle H} {k old new} (found : l.attempts[k]? = some old)
    (attempts : m.attempts = l.attempts.set k new) (j : Nat) :
    m.outcome? j = if j = k then new.outcome? else l.outcome? j := by
  unfold outcome?
  rw [attempts,setAt found]
  by_cases same : j = k <;> simp [same]

theorem startAt {l m : Lifecycle H} (attempts : m.attempts = l.attempts ++ [⟨.scheduled,false⟩])
    (j : Nat) : m.attempts[j]? =
      if j = l.attempts.length then some ⟨.scheduled,false⟩ else l.attempts[j]? := by
  rw [attempts,List.getElem?_append]
  grind

theorem openStart {l m : Lifecycle H} (attempts : m.attempts = l.attempts ++ [⟨.scheduled,false⟩])
    (j : Nat) : m.IsOpen j ↔ j = l.attempts.length ∨ l.IsOpen j := by
  unfold IsOpen
  rw [startAt attempts]
  by_cases same : j = l.attempts.length
  · simp [same,Attempt.isOpen]
  · simp [same]

theorem outcomeStart {l m : Lifecycle H}
    (attempts : m.attempts = l.attempts ++ [⟨.scheduled,false⟩]) (j : Nat) :
    m.outcome? j = l.outcome? j := by
  unfold outcome?
  rw [startAt attempts]
  by_cases same : j = l.attempts.length
  · simp [same,Attempt.outcome?]
  · simp [same]

structure Sound (l : Lifecycle H) : Prop where
  loading : ∀ k, l.phase = .loading k ↔ l.IsOpen k
  ready : ∀ h, l.phase = .ready h ↔ ∃ k, l.outcome? k = some (.loaded h)
  noticed : ∀ {k : Nat} {a : Attempt H}, l.attempts[k]? = some a → a.noticed = true →
    a.outcome? ≠ none

theorem initialSound : Sound ({} : Lifecycle H) where
  loading := by intro k; simp [IsOpen]
  ready := by intro h; simp [outcome?]
  noticed := by intro k a found; simp at found

theorem staySound {l m : Lifecycle H} (sound : Sound l) (phase : m.phase = l.phase)
    (attempts : m.attempts = l.attempts) : Sound m where
  loading := by simpa only [IsOpen,phase,attempts] using sound.loading
  ready := by simpa only [outcome?,phase,attempts] using sound.ready
  noticed := by rw [attempts]; exact sound.noticed

theorem startSound {l m : Lifecycle H} (sound : Sound l) (idle : l.phase = .uninitialized)
    (phase : m.phase = .loading l.attempts.length)
    (attempts : m.attempts = l.attempts ++ [⟨.scheduled,false⟩]) : Sound m where
  loading := by
    intro k
    have closed : ¬ l.IsOpen k := by simp [← sound.loading,idle]
    simp [openStart attempts,phase,closed,eq_comm]
  ready := by
    intro h
    have unloaded : ¬ ∃ k, l.outcome? k = some (.loaded h) := by simp [← sound.ready,idle]
    simpa [phase,outcomeStart attempts] using unloaded
  noticed := by
    intro k a found noticed
    rw [startAt attempts] at found
    split at found
    · cases found
      contradiction
    · exact sound.noticed found noticed

theorem noticedSet {l m : Lifecycle H} {k old new} (sound : Sound l)
    (found : l.attempts[k]? = some old) (attempts : m.attempts = l.attempts.set k new)
    (own : new.noticed = true → new.outcome? ≠ none) {j : Nat} {a : Attempt H}
    (at_ : m.attempts[j]? = some a) (seen : a.noticed = true) : a.outcome? ≠ none := by
  rw [attempts,setAt found] at at_
  split at at_
  · cases at_
    exact own seen
  · exact sound.noticed at_ seen

theorem beginOutcomes {l m : Lifecycle H} {k noticed}
    (due : l.attempts[k]? = some ⟨.scheduled,noticed⟩)
    (attempts : m.attempts = l.attempts.set k ⟨.running,noticed⟩) (j : Nat) :
    m.outcome? j = l.outcome? j := by
  rw [outcomeSet due attempts]
  split
  · subst j; simp [outcome?,due,Attempt.outcome?]
  · rfl

theorem noticeOutcomes {l m : Lifecycle H} {k o} (ended : l.attempts[k]? = some ⟨.ended o,false⟩)
    (attempts : m.attempts = l.attempts.set k ⟨.ended o,true⟩) (j : Nat) :
    m.outcome? j = l.outcome? j := by
  rw [outcomeSet ended attempts]
  split
  · subst j; simp [outcome?,ended,Attempt.outcome?]
  · rfl

theorem beginSound {l m : Lifecycle H} {k noticed} (sound : Sound l)
    (due : l.attempts[k]? = some ⟨.scheduled,noticed⟩) (phase : m.phase = l.phase)
    (attempts : m.attempts = l.attempts.set k ⟨.running,noticed⟩) : Sound m where
  loading := by
    intro j
    have isOpen : l.IsOpen k := ⟨_,due,rfl⟩
    rw [openSet due attempts,phase,sound.loading]
    by_cases same : j = k <;> simp [same,isOpen,Attempt.isOpen]
  ready := by simpa only [beginOutcomes due attempts,phase] using sound.ready
  noticed := noticedSet sound due attempts (fun seen => absurd rfl (sound.noticed due seen))

theorem onlyOpen {l : Lifecycle H} {k} (sound : Sound l) (isOpen : l.IsOpen k) (j : Nat) :
    l.IsOpen j ↔ j = k := by
  rw [← sound.loading,(sound.loading k).mpr isOpen]
  simp [eq_comm]

theorem openUnloaded {l : Lifecycle H} {k} (sound : Sound l) (isOpen : l.IsOpen k) (j : Nat) (h : H) :
    l.outcome? j ≠ some (.loaded h) := by
  intro loaded
  have ready := (sound.ready h).mpr ⟨j,loaded⟩
  simp [(sound.loading k).mpr isOpen] at ready

theorem runningUnnoticed {l : Lifecycle H} {k : Nat} {noticed : Bool} (sound : Sound l)
    (running : l.attempts[k]? = some ⟨.running,noticed⟩) : noticed = false := by
  cases noticed with
  | false => rfl
  | true => exact absurd rfl (sound.noticed running rfl)

theorem finishSound {l m : Lifecycle H} {k noticed o} (sound : Sound l)
    (running : l.attempts[k]? = some ⟨.running,noticed⟩) (phase : m.phase = o.phaseAfter l.phase)
    (attempts : m.attempts = l.attempts.set k ⟨.ended o,noticed⟩) : Sound m := by
  have isOpen : l.IsOpen k := ⟨_,running,rfl⟩
  have loading := (sound.loading k).mpr isOpen
  have unnoticed := runningUnnoticed sound running
  refine ⟨?_,?_,noticedSet sound running attempts (fun _ => nofun)⟩
  · -- the attempt that ends was the only open one, and it stays open if it aborts
    intro j
    rw [openSet running attempts,onlyOpen sound isOpen,phase,loading]
    by_cases same : j = k
    · cases o <;> simp [same,unnoticed,Attempt.isOpen,Outcome.phaseAfter]
    · cases o <;> simp [same,Ne.symm same,Outcome.phaseAfter]
  · intro h
    have unloaded := fun j => openUnloaded sound isOpen j h
    simp only [outcomeSet running attempts,phase,loading]
    constructor
    · intro ready
      cases o with
      | loaded h' => cases ready; exact ⟨k,by simp [Attempt.outcome?]⟩
      | failed fault => contradiction
      | aborted detail => contradiction
    · rintro ⟨j,loaded⟩
      split at loaded
      · cases loaded; rfl
      · exact absurd loaded (unloaded j)

/- The late reset: the aborted attempt is still the one being loaded, so nothing newer is overwritten. -/
theorem noticeAborted {l m : Lifecycle H} {k detail} (sound : Sound l)
    (ended : l.attempts[k]? = some ⟨.ended (.aborted detail),false⟩) (phase : m.phase = .uninitialized)
    (attempts : m.attempts = l.attempts.set k ⟨.ended (.aborted detail),true⟩) : Sound m := by
  have isOpen : l.IsOpen k := ⟨_,ended,rfl⟩
  refine ⟨?_,?_,noticedSet sound ended attempts (fun _ => nofun)⟩
  · intro j
    rw [openSet ended attempts,onlyOpen sound isOpen,phase]
    by_cases same : j = k <;> simp [same,Attempt.isOpen]
  · intro h
    have unloaded := fun j => openUnloaded sound isOpen j h
    simp [noticeOutcomes ended attempts,phase,unloaded]

theorem noticeSettled {l m : Lifecycle H} {k o} (sound : Sound l)
    (ended : l.attempts[k]? = some ⟨.ended o,false⟩)
    (settled : ∀ seen, (⟨.ended o,seen⟩ : Attempt H).isOpen = false) (phase : m.phase = l.phase)
    (attempts : m.attempts = l.attempts.set k ⟨.ended o,true⟩) : Sound m := by
  have closed : ¬ l.IsOpen k := by simp [IsOpen,ended,settled]
  refine ⟨?_,?_,noticedSet sound ended attempts (fun _ => nofun)⟩
  · intro j
    rw [openSet ended attempts,phase,sound.loading]
    by_cases same : j = k <;> simp [same,settled,closed]
  · simpa only [noticeOutcomes ended attempts,phase] using sound.ready

theorem noticeSound {l m : Lifecycle H} {k o} (sound : Sound l)
    (ended : l.attempts[k]? = some ⟨.ended o,false⟩) (phase : m.phase = o.phaseNoticed l.phase)
    (attempts : m.attempts = l.attempts.set k ⟨.ended o,true⟩) : Sound m := by
  cases o with
  | aborted detail => exact noticeAborted sound ended phase attempts
  | loaded h => exact noticeSettled sound ended (fun _ => rfl) phase attempts
  | failed fault => exact noticeSettled sound ended (fun _ => rfl) phase attempts

theorem stepSound {l : Lifecycle H} (sound : Sound l) (e : Event H) : Sound (l.step e) := by
  cases stepMoves l e with
  | stay phase attempts => exact staySound sound phase attempts
  | start call idle phase attempts => exact startSound sound idle phase attempts
  | begin due phase attempts => exact beginSound sound due phase attempts
  | finish running phase attempts => exact finishSound sound running phase attempts
  | notice waits ended phase attempts => exact noticeSound sound ended phase attempts

theorem runSound {l : Lifecycle H} (sound : Sound l) (events : List (Event H)) :
    Sound (l.run events) := by
  induction events generalizing l with
  | nil => exact sound
  | cons e rest ih => exact ih (stepSound sound e)

theorem runCons (l : Lifecycle H) (e : Event H) (rest : List (Event H)) :
    l.run (e :: rest) = (l.step e).run rest := rfl

theorem runAppend (l : Lifecycle H) (first second : List (Event H)) :
    l.run (first ++ second) = (l.run first).run second :=
  List.foldl_append

theorem reachedSound (events : List (Event H)) : Sound (run {} events) := runSound initialSound events

theorem idleStep {l : Lifecycle H} {e : Event H} (sound : Sound l) (idle : l.phase = .uninitialized)
    (quiet : e.isCall = false) :
    (l.step e).phase = .uninitialized ∧ (l.step e).loadCount = l.loadCount := by
  unfold loadCount
  cases stepMoves l e with
  | stay phase attempts => exact ⟨phase.trans idle,by rw [attempts]⟩
  | start call _ phase attempts => rw [quiet] at call; contradiction
  | begin due phase attempts => exact ⟨phase.trans idle,by simp [attempts]⟩
  | finish running phase attempts =>
    have loading := (sound.loading _).mpr ⟨_,running,rfl⟩
    rw [idle] at loading
    contradiction
  | @notice c k o _ waits ended phase attempts =>
    refine ⟨?_,by simp [attempts]⟩
    rw [phase,idle]
    cases o <;> rfl

theorem startIdle {l : Lifecycle H} {e : Event H} (idle : l.phase = .uninitialized)
    (call : e.isCall = true) :
    (l.step e).phase = .loading l.loadCount ∧
      (l.step e).attempts = l.attempts ++ [⟨.scheduled,false⟩] := by
  cases e with
  | ask c => simp only [step,ask,idle]; exact ⟨rfl,rfl⟩
  | preload => simp only [step,preload,idle]; exact ⟨rfl,rfl⟩
  | _ => contradiction

theorem busyStep {l : Lifecycle H} {e : Event H} {k} (sound : Sound l) (loading : l.phase = .loading k)
    (unended : l.outcome? k = none) (quiet : e.isFinish = false) :
    (l.step e).phase = .loading k ∧ (l.step e).outcome? k = none ∧
      (l.step e).loadCount = l.loadCount := by
  unfold loadCount
  cases stepMoves l e with
  | stay phase attempts => exact ⟨phase.trans loading,by simpa [outcome?,attempts] using unended,by rw [attempts]⟩
  | start call idle phase attempts => rw [loading] at idle; contradiction
  | begin due phase attempts =>
    exact ⟨phase.trans loading,(beginOutcomes due attempts k).trans unended,by simp [attempts]⟩
  | finish running phase attempts => contradiction
  | @notice c j o _ waits ended phase attempts =>
    refine ⟨?_,(noticeOutcomes ended attempts k).trans unended,by simp [attempts]⟩
    rw [phase]
    cases o with
    | aborted detail =>
      have same := (onlyOpen sound ((sound.loading k).mp loading) j).mp ⟨_,ended,rfl⟩
      subst j
      simp [outcome?,ended,Attempt.outcome?] at unended
    | loaded h => exact loading
    | failed fault => exact loading

theorem busyRun {l : Lifecycle H} {k} (sound : Sound l) (loading : l.phase = .loading k)
    (unended : l.outcome? k = none) {events : List (Event H)}
    (quiet : ∀ e ∈ events, e.isFinish = false) : (l.run events).loadCount = l.loadCount := by
  induction events generalizing l with
  | nil => rfl
  | cons e rest ih =>
    obtain ⟨stays,still,count⟩ := busyStep sound loading unended (quiet e List.mem_cons_self)
    have tail := ih (stepSound sound e) stays still (fun d mem => quiet d (List.mem_cons_of_mem _ mem))
    exact tail.trans count

end Lifecycle
end Playground.Interpreter
