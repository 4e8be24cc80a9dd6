import Playground.Proofs.Lifecycle.Callers

/-! What a failed load leaves behind. A load that fails by itself sets the lifecycle back; one that aborts
leaves it loading until a caller that waits for it is polled. Main statement: these are the only ways back,
and as long as none is taken the next caller is handed the failure that is already over. -/
namespace Playground.Interpreter.Lifecycle

def Noticed (l : Lifecycle H) (k : Nat) (events : List (Event H)) : Prop :=
  ∃ pre c post, events = pre ++ .poll c :: post ∧ (l.run pre).caller? c = some (.waiting k)

/- Attempt `k` has aborted and nobody has been told. -/
def Lingers (l : Lifecycle H) (k : Nat) (detail : String) : Prop :=
  l.phase = .loading k ∧ l.attempts[k]? = some ⟨.ended (.aborted detail),false⟩

def StartsAnew (l : Lifecycle H) : Prop :=
  l.preload.phase = .loading l.loadCount ∧ l.preload.loadCount = l.loadCount + 1 ∧
  ∀ c, (l.ask c).phase = .loading l.loadCount ∧ (l.ask c).loadCount = l.loadCount + 1 ∧
    (l.ask c).caller? c = some (.waiting l.loadCount)

/- The next call starts nothing: a preload finds the lifecycle loading, and whoever asks is given this answer
at the first poll. Only then is the lifecycle set back. -/
def HandsOut (l : Lifecycle H) (k : Nat) (answer : Except LoadFault H) : Prop :=
  l.phase = .loading k ∧ l.preload.phase = .loading k ∧ l.preload.loadCount = l.loadCount ∧
  ∀ c, (l.ask c).loadCount = l.loadCount ∧ ((l.ask c).poll c).answer? c = some answer ∧
    ((l.ask c).poll c).phase = .uninitialized

theorem idleStartsAnew {l : Lifecycle H} (idle : l.phase = .uninitialized) : StartsAnew l := by
  have fresh : ∀ e : Event H, e.isCall = true → (l.step e).phase = .loading l.loadCount ∧
      (l.step e).loadCount = l.loadCount + 1 := by
    intro e call
    obtain ⟨phase,attempts⟩ := startIdle idle call
    exact ⟨phase,by simp [loadCount,attempts]⟩
  have preload := fresh .preload rfl
  refine ⟨preload.1,preload.2,?_⟩
  intro c
  have ask := fresh (.ask c) rfl
  exact ⟨ask.1,ask.2,askWaits c (.inr ⟨idle,rfl⟩)⟩

theorem lingerPolled {l : Lifecycle H} {c k detail} (lingers : Lingers l k detail)
    (waits : l.caller? c = some (.waiting k)) : (l.poll c).phase = .uninitialized := by
  obtain ⟨-,found⟩ := lingers
  have waits : l.callers.lookup c = some (.waiting k) := waits
  simp only [poll,waits,found]
  rfl

theorem lingerHandsOut {l : Lifecycle H} {k detail} (lingers : Lingers l k detail) :
    HandsOut l k (Outcome.aborted detail : Outcome H).answer := by
  obtain ⟨loading,found⟩ := lingers
  have ended : l.outcome? k = some (.aborted detail) := by simp [outcome?,found,Attempt.outcome?]
  have same : l.preload = l := by simp only [preload,loading]
  refine ⟨loading,by rw [same]; exact loading,by rw [same],?_⟩
  intro c
  have joins : l.ask c = l.setCaller c (.waiting k) := by simp only [ask,loading]
  have waits : (l.ask c).caller? c = some (.waiting k) := askWaits c (.inl loading)
  have stays : Lingers (l.ask c) k detail := by rw [joins]; exact ⟨loading,found⟩
  have known : (l.ask c).outcome? k = some (.aborted detail) := by rw [joins]; exact ended
  exact ⟨by rw [joins]; rfl,(answerAt _ c _).mpr (pollEnded waits known),lingerPolled stays waits⟩

theorem lingerStep {l : Lifecycle H} {k detail} {e : Event H} (sound : Sound l)
    (lingers : Lingers l k detail) (quiet : e.isCall = false)
    (unnoticed : ∀ c, e = .poll c → l.caller? c ≠ some (.waiting k)) :
    Lingers (l.step e) k detail := by
  obtain ⟨loading,found⟩ := lingers
  have isOpen := (sound.loading k).mp loading
  cases stepMoves l e with
  | stay phase attempts => exact ⟨phase.trans loading,by rw [attempts]; exact found⟩
  | start call idle phase attempts => rw [quiet] at call; contradiction
  | @begin j _ _ due phase attempts =>
    have same := (onlyOpen sound isOpen j).mp ⟨_,due,rfl⟩
    subst j
    rw [found] at due
    cases due
  | @finish j _ _ _ running phase attempts =>
    have same := (onlyOpen sound isOpen j).mp ⟨_,running,rfl⟩
    subst j
    rw [found] at running
    cases running
  | @notice c j o _ waits ended phase attempts =>
    have other : k ≠ j := fun same => unnoticed c rfl (same ▸ waits)
    refine ⟨?_,?_⟩
    · rw [phase]
      cases o with
      | aborted _ => exact absurd ((onlyOpen sound isOpen j).mp ⟨_,ended,rfl⟩) (Ne.symm other)
      | loaded h => exact loading
      | failed fault => exact loading
    · rw [attempts,setAt ended,if_neg other]
      exact found

theorem noticedCons {l : Lifecycle H} {k} {e : Event H} {rest : List (Event H)} :
    Noticed l k (e :: rest) ↔
      (∃ c, e = .poll c ∧ l.caller? c = some (.waiting k)) ∨ Noticed (l.step e) k rest := by
  constructor
  · rintro ⟨pre,c,post,split,waits⟩
    cases pre with
    | nil => cases split; exact .inl ⟨c,rfl,waits⟩
    | cons d pre => cases split; exact .inr ⟨pre,c,post,rfl,waits⟩
  · rintro (⟨c,rfl,waits⟩ | ⟨pre,c,post,rfl,waits⟩)
    · exact ⟨[],c,rest,rfl,waits⟩
    · exact ⟨e :: pre,c,post,rfl,waits⟩

theorem idleRun {l : Lifecycle H} {events : List (Event H)} (sound : Sound l)
    (idle : l.phase = .uninitialized) (quiet : ∀ e ∈ events, e.isCall = false) :
    (l.run events).phase = .uninitialized := by
  induction events generalizing l with
  | nil => exact idle
  | cons e rest ih =>
    have next := (idleStep sound idle (quiet e List.mem_cons_self)).1
    exact ih (stepSound sound e) next (fun d mem => quiet d (List.mem_cons_of_mem _ mem))

theorem lingerRun {l : Lifecycle H} {k detail} {events : List (Event H)} (sound : Sound l)
    (lingers : Lingers l k detail) (quiet : ∀ e ∈ events, e.isCall = false) :
    (Noticed l k events ∧ (l.run events).phase = .uninitialized) ∨
      (¬ Noticed l k events ∧ Lingers (l.run events) k detail) := by
  induction events generalizing l with
  | nil => exact .inr ⟨by simp [Noticed],lingers⟩
  | cons e rest ih =>
    have later : ∀ d ∈ rest, d.isCall = false := fun d mem => quiet d (List.mem_cons_of_mem _ mem)
    by_cases now : ∃ c, e = .poll c ∧ l.caller? c = some (.waiting k)
    · refine .inl ⟨noticedCons.mpr (.inl now),?_⟩
      obtain ⟨c,rfl,waits⟩ := now
      have idle : (l.step (.poll c)).phase = .uninitialized := lingerPolled lingers waits
      rw [runCons]
      exact idleRun (stepSound sound _) idle later
    · have stays := lingerStep sound lingers (quiet e List.mem_cons_self)
        (fun c same waits => now ⟨c,same,waits⟩)
      have shift : Noticed l k (e :: rest) ↔ Noticed (l.step e) k rest := by
        rw [noticedCons]
        simp [now]
      rw [shift]
      exact ih (stepSound sound e) stays later

theorem polledNoticed {l : Lifecycle H} {c k} {events : List (Event H)}
    (waits : l.caller? c = some (.waiting k)) (held : ∀ e ∈ events, e ≠ .ask c ∧ e ≠ .leave c)
    (polled : .poll c ∈ events) : Noticed l k events := by
  induction events generalizing l with
  | nil => simp at polled
  | cons e rest ih =>
    rw [noticedCons]
    by_cases now : e = .poll c
    · exact .inl ⟨c,now,waits⟩
    · have own := held e List.mem_cons_self
      have stays := (stepOther l own.1 now own.2).trans waits
      have later : .poll c ∈ rest := by simpa [Ne.symm now] using polled
      exact .inr (ih stays (fun d mem => held d (List.mem_cons_of_mem _ mem)) later)

theorem noticedWaited {l : Lifecycle H} {k} {events : List (Event H)}
    (quiet : ∀ e ∈ events, e.isCall = false) (noticed : Noticed l k events) :
    ∃ c, l.caller? c = some (.waiting k) := by
  induction events generalizing l with
  | nil => simp [Noticed] at noticed
  | cons e rest ih =>
    rcases noticedCons.mp noticed with ⟨c,-,waits⟩ | later
    · exact ⟨c,waits⟩
    · obtain ⟨c,waits⟩ := ih (fun d mem => quiet d (List.mem_cons_of_mem _ mem)) later
      exact ⟨c,waitedBefore (quiet e List.mem_cons_self) waits⟩

theorem noticedIffWaited {l : Lifecycle H} {k} {events : List (Event H)}
    (quiet : ∀ e ∈ events, e.isCall = false)
    (drained : ∀ c, l.caller? c = some (.waiting k) → .poll c ∈ events ∧ .leave c ∉ events) :
    Noticed l k events ↔ ∃ c, l.caller? c = some (.waiting k) := by
  constructor
  · exact noticedWaited quiet
  · rintro ⟨c,waits⟩
    obtain ⟨polled,stays⟩ := drained c waits
    refine polledNoticed waits ?_ polled
    intro e mem
    refine ⟨?_,fun same => stays (same ▸ mem)⟩
    rintro rfl
    exact absurd (quiet _ mem) (by simp [Event.isCall])

theorem finishAborted {l : Lifecycle H} {k noticed detail} (sound : Sound l)
    (running : l.attempts[k]? = some ⟨.running,noticed⟩) :
    Lingers (l.finish k (.aborted detail)) k detail := by
  have loading := (sound.loading k).mpr ⟨_,running,rfl⟩
  have unnoticed := runningUnnoticed sound running
  subst noticed
  simp only [finish,running]
  exact ⟨loading,(setAt running _ k).trans (if_pos rfl)⟩

theorem finishFailed {l : Lifecycle H} {k noticed fault}
    (running : l.attempts[k]? = some ⟨.running,noticed⟩) :
    (l.finish k (.failed fault)).phase = .uninitialized := by
  simp only [finish,running]

theorem failedLoadResets (events rest : List (Event H)) {k noticed} {o : Outcome H}
    (running : (run {} events).attempts[k]? = some ⟨.running,noticed⟩)
    (fails : ∀ h, o ≠ .loaded h) (quiet : ∀ e ∈ rest, e.isCall = false) :
    let ended := (run {} events).finish k o
    let l := ended.run rest
    (l.phase = .uninitialized ↔ (∃ fault, o = .failed fault) ∨ Noticed ended k rest) ∧
    ((∀ c, ended.caller? c = some (.waiting k) → .poll c ∈ rest ∧ .leave c ∉ rest) →
      (l.phase = .uninitialized ↔
        (∃ fault, o = .failed fault) ∨ ∃ c, ended.caller? c = some (.waiting k))) ∧
    (l.phase = .uninitialized → StartsAnew l) ∧
    (l.phase ≠ .uninitialized → HandsOut l k o.answer) := by
  intro ended l
  have sound := reachedSound events
  have endedSound : Sound ended := stepSound sound (.finish k o)
  have exact : (l.phase = .uninitialized ↔ (∃ fault, o = .failed fault) ∨ Noticed ended k rest) ∧
      (l.phase ≠ .uninitialized → HandsOut l k o.answer) := by
    cases o with
    | loaded h => exact absurd rfl (fails h)
    | failed fault =>
      have idle : l.phase = .uninitialized := idleRun endedSound (finishFailed running) quiet
      exact ⟨by simp [idle],fun stuck => absurd idle stuck⟩
    | aborted detail =>
      have lingers : Lingers ended k detail := finishAborted sound running
      rcases lingerRun endedSound lingers quiet with ⟨noticed,idle⟩ | ⟨unnoticed,lingers⟩
      · have idle : l.phase = .uninitialized := idle
        exact ⟨by simp [idle,noticed],fun stuck => absurd idle stuck⟩
      · have lingers : Lingers l k detail := lingers
        exact ⟨by simp [lingers.1,unnoticed],fun _ => lingerHandsOut lingers⟩
  refine ⟨exact.1,?_,idleStartsAnew,exact.2⟩
  intro drained
  rw [exact.1,noticedIffWaited quiet drained]

theorem attendedAbortResets :
    let running : Lifecycle Nat := run {} [.preload,.ask 0,.begin 0]
    let l := (running.finish 0 (.aborted "exit")).run [.poll 0]
    running.attempts[0]? = some ⟨.running,false⟩ ∧ l.phase = .uninitialized ∧ StartsAnew l := by
  have resets := failedLoadResets (H := Nat) [.preload,.ask 0,.begin 0] [.poll 0] (k := 0)
    (o := .aborted "exit") rfl nofun (by simp [Event.isCall])
  have idle := resets.1.mpr (.inr ⟨[],0,[],rfl,rfl⟩)
  exact ⟨rfl,idle,resets.2.2.1 idle⟩

/- Attempt 0 aborts after a preload: nobody waits, the lifecycle is loading for good, and the next caller is
told of the abort. -/
theorem unattendedAbortLingers :
    let ended : Lifecycle Nat := (run {} [.preload,.begin 0]).finish 0 (.aborted "exit")
    ended.callers.length = 0 ∧ ended.phase = .loading 0 ∧ ended.preload.loadCount = 1 ∧
      ((ended.ask 0).poll 0).loadCount = 1 ∧
      ((ended.ask 0).poll 0).answer? 0 =
        some (.error (.invalid "runtime load task failed: exit")) :=
  ⟨rfl,rfl,rfl,rfl,rfl⟩

end Playground.Interpreter.Lifecycle
