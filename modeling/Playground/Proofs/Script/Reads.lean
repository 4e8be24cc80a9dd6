import Mathlib
import Playground.Proofs.Script.Dialogues
import Playground.Proofs.Script.Probes

/-! The lines of an input and the reads that get them, over the turns of a host. Each input is given
to the readers of its own evaluation, line by line, however many turns it takes; past its end whoever
is to be asked in the turn is asked once for each read. Only a prompt that does not convert to a text
keeps a read from asking. -/
namespace Playground.Script

variable {V S W : Type} [Values V] [Inhabited S]

def notingAct {α : Type} (act : S → Course V (α × S)) (memory : S × List Read) : Course V (α × S × List Read) :=
  (act memory.1).noting.bind fun noted => .done (noted.1.1,noted.1.2,memory.2 ++ noted.2)

def Realm.noted (realm : Realm V S) (reads : List Read) : Realm V (S × List Read) where
  toBridge := realm.toBridge
  memory := (realm.memory,reads)
  stopped := realm.stopped

theorem notingRuns {α : Type} (ask : Ask W) (act : S → Course V (α × S)) (realm : Realm V S) (reads : List Read)
    (world : W) : Realm.runs ask (notingAct act) (realm.noted reads) world =
      (((Realm.runs ask act realm world).1.1,(Realm.runs ask act realm world).1.2.noted
        (reads ++ (act realm.memory).reads ask realm.toBridge world)),(Realm.runs ask act realm world).2) := by
  refine runsTo ?_
  show ((act realm.memory).noting.bind _).run ask realm.toBridge world = _
  rw [Course.runBind,Course.notingRun]
  rfl

namespace Turn

def noting (turn : Turn V S W) : Turn V (S × List Read) W where
  conduct := { body := notingAct turn.conduct.body, later := notingAct turn.conduct.later }
  stdin := turn.stdin
  ask := turn.ask

def reads (turn : Turn V S W) (s : Realm V S × W) : List Read := (turn.noting.after (s.1.noted [],s.2)).1.memory.2

variable {turn : Turn V S W} {s : Realm V S × W}

def bodyReads (turn : Turn V S W) (s : Realm V S × W) : List Read :=
  (turn.conduct.body s.1.memory).reads turn.ask (s.1.begin turn.stdin) s.2

def laterReads (turn : Turn V S W) (s : Realm V S × W) : List Read :=
  (turn.conduct.later (turn.restored s).memory).reads turn.ask (turn.restored s).toBridge (turn.ended s).2

theorem notingEnded (turn : Turn V S W) (s : Realm V S × W) : turn.noting.ended (s.1.noted [],s.2) =
    ((turn.conclusion s,(turn.atEnd s).noted (turn.bodyReads s)),(turn.ended s).2) :=
  notingRuns turn.ask turn.conduct.body (s.1.opened turn.stdin) [] s.2

theorem notingWorked (turn : Turn V S W) (s : Realm V S × W) : turn.noting.worked (s.1.noted [],s.2) =
    (((turn.worked s).1.1,(turn.settled s).noted (turn.bodyReads s ++ turn.laterReads s)),(turn.worked s).2) := by
  have restored : turn.noting.restored (s.1.noted [],s.2) = (turn.restored s).noted (turn.bodyReads s) := by
    unfold Turn.restored atEnd
    rw [notingEnded]
    rfl
  unfold worked
  rw [restored,notingEnded]
  exact notingRuns turn.ask turn.conduct.later (turn.restored s) (turn.bodyReads s) (turn.ended s).2

theorem notingStarted (started : s.1.stopped = false) : turn.noting.after (s.1.noted [],s.2) =
    ((turn.after s).1.noted (match turn.conclusion s with
      | .exhausted => turn.bodyReads s
      | .ended _ _ => turn.bodyReads s ++ turn.laterReads s),(turn.after s).2) := by
  have ended := notingEnded turn s
  have worked := notingWorked turn s
  have conclusion : turn.noting.conclusion (s.1.noted [],s.2) = turn.conclusion s := congrArg (fun run => run.1.1) ended
  have noted : turn.noting.after (s.1.noted [],s.2) = _ := afterStarted started
  unfold settled at noted worked
  rw [noted,conclusion,worked,afterStarted started]
  unfold atEnd at ended ⊢
  rw [ended]
  cases turn.conclusion s with
  | exhausted => rfl
  | ended error value => cases (turn.worked s).1.1 <;> rfl

theorem notingStopped (stopped : s.1.stopped = true) : turn.noting.after (s.1.noted [],s.2) = (s.1.noted [],s.2) :=
  afterStopped stopped

theorem readsStopped (stopped : s.1.stopped = true) : turn.reads s = [] := by
  unfold reads
  rw [notingStopped stopped]
  rfl

theorem notingAfter (turn : Turn V S W) (s : Realm V S × W) :
    turn.noting.after (s.1.noted [],s.2) = ((turn.after s).1.noted (turn.reads s),(turn.after s).2) := by
  cases stopped : s.1.stopped with
  | true => rw [readsStopped stopped,notingStopped stopped,afterStopped stopped]
  | false =>
    unfold reads
    rw [notingStarted stopped]
    rfl

theorem readsStarted (started : s.1.stopped = false) : turn.reads s = match turn.conclusion s with
    | .exhausted => turn.bodyReads s
    | .ended _ _ => turn.bodyReads s ++ turn.laterReads s := by
  unfold reads
  rw [notingStarted started]
  rfl

/-! ### What the reads of a turn are given -/

theorem openedLeft (realm : Realm V S) (stdin : Option String) :
    (realm.opened stdin).left realm.evaluations.length = inputLines stdin ∧
      ∀ run < realm.evaluations.length, (realm.opened stdin).left run = realm.left run := by
  refine ⟨by simp [Realm.opened,Bridge.begin,Bridge.left],fun run earlier => ?_⟩
  unfold Bridge.left
  exact congrArg (fun e => (e.map Evaluation.lines).getD []) (List.getElem?_append_left earlier)

theorem openedLength (realm : Realm V S) (stdin : Option String) :
    (realm.opened stdin).evaluations.length = realm.evaluations.length + 1 :=
  List.length_append

theorem endLength (turn : Turn V S W) (s : Realm V S × W) :
    s.1.evaluations.length + 1 ≤ (turn.atEnd s).evaluations.length := by
  have longer := Course.runLonger turn.ask (turn.conduct.body s.1.memory) (s.1.begin turn.stdin) s.2
  rwa [show (s.1.begin turn.stdin).evaluations.length = _ from openedLength s.1 turn.stdin] at longer

theorem settledLength (turn : Turn V S W) (s : Realm V S × W) :
    (turn.atEnd s).evaluations.length ≤ (turn.settled s).evaluations.length :=
  Course.runLonger turn.ask (turn.conduct.later (turn.restored s).memory) (turn.restored s).toBridge (turn.ended s).2

theorem afterLonger (started : s.1.stopped = false) :
    s.1.evaluations.length + 1 ≤ (turn.after s).1.evaluations.length := by
  by_cases away : turn.RunsAway s
  · rw [afterRunaway away]
    exact endLength turn s
  · rw [(afterSettled started away).2.1]
    exact Nat.le_trans (endLength turn s) (settledLength turn s)

theorem turnServes (turn : Turn V S W) (started : s.1.stopped = false) {run : Nat}
    (known : run < s.1.evaluations.length + 1) :
    Serves ((s.1.opened turn.stdin).left run) (suppliesOf run (turn.reads s)) ((turn.after s).1.left run) := by
  have body : Serves ((s.1.opened turn.stdin).left run) (suppliesOf run (turn.bodyReads s))
      ((turn.atEnd s).left run) := by
    refine courseServes turn.ask (turn.conduct.body s.1.memory) run (s.1.begin turn.stdin) s.2 ?_
    rwa [show (s.1.begin turn.stdin).evaluations.length = _ from openedLength s.1 turn.stdin]
  have later : Serves ((turn.atEnd s).left run) (suppliesOf run (turn.laterReads s)) ((turn.settled s).left run) :=
    courseServes turn.ask (turn.conduct.later (turn.restored s).memory) run (turn.restored s).toBridge (turn.ended s).2
      (Nat.lt_of_lt_of_le known (endLength turn s))
  rw [readsStarted started]
  by_cases away : turn.RunsAway s
  · rw [afterRunaway away,away.2]
    exact body
  · have left : (turn.after s).1.left run = (turn.settled s).left run := by
      unfold Bridge.left
      rw [(afterSettled started away).2.1]
    rw [left]
    cases ended : turn.conclusion s with
    | exhausted => exact absurd ⟨started,ended⟩ away
    | ended error value =>
      rw [suppliesAppend]
      exact servesTrans body later

theorem turnAsks (started : s.1.stopped = false) : Asks turn.ask (turn.reads s) s.2 (turn.after s).2 := by
  have body : Asks turn.ask (turn.bodyReads s) s.2 (turn.ended s).2 := courseAsks _ _ _ _
  have later : Asks turn.ask (turn.laterReads s) (turn.ended s).2 (turn.worked s).2 := courseAsks _ _ _ _
  rw [readsStarted started]
  by_cases away : turn.RunsAway s
  · rw [afterRunaway away,away.2]
    exact body
  · rw [(afterSettled started away).2.2]
    cases ended : turn.conclusion s with
    | exhausted => exact absurd ⟨started,ended⟩ away
    | ended error value => exact asksTrans body later

theorem earlierServes {run : Nat} (earlier : run < s.1.evaluations.length) :
    Serves (s.1.left run) (suppliesOf run (turn.reads s)) ((turn.after s).1.left run) := by
  cases stopped : s.1.stopped with
  | true =>
    rw [readsStopped stopped,afterStopped stopped]
    exact servesNothing _
  | false =>
    have served := turnServes turn stopped (Nat.lt_succ_of_lt earlier)
    rwa [(openedLeft s.1 turn.stdin).2 run earlier] at served

def readsAll : List (Turn V S W) → Realm V S × W → List Read
  | [],_ => []
  | turn :: rest,s => turn.reads s ++ readsAll rest (turn.after s)

theorem historyServes (history : List (Turn V S W)) {run : Nat} (earlier : run < s.1.evaluations.length) :
    Serves (s.1.left run) (suppliesOf run (readsAll history s)) ((afterAll history s).1.left run) := by
  induction history generalizing s with
  | nil => exact servesNothing _
  | cons turn rest ih =>
    have known : run < (turn.after s).1.evaluations.length := by
      cases stopped : s.1.stopped with
      | true => rwa [afterStopped stopped]
      | false => exact Nat.lt_of_lt_of_le (Nat.lt_succ_of_lt earlier) (afterLonger stopped)
    unfold readsAll
    rw [suppliesAppend]
    exact servesTrans (earlierServes earlier) (ih known)

/- What becomes of the lines of one input, and of the reads in its turn. -/
theorem readsServedInOrder (before later : List (Turn V S W)) (turn : Turn V S W) (world : W)
    (started : (afterAll before (fresh world)).1.stopped = false) :
    let s := afterAll before (fresh world)
    let number := s.1.evaluations.length
    (turn.stdin.isSome = true → ∀ reader : Reader, s.1.scope.isOpen reader.name = true →
      (s.1.opened turn.stdin).scope.get? reader.name = some (.plain (Values.reader number reader.takesPrompt))) ∧
    turn.noting.after (s.1.noted [],s.2) = ((turn.after s).1.noted (turn.reads s),(turn.after s).2) ∧
    Serves (inputLines turn.stdin) (suppliesOf number (turn.reads s ++ readsAll later (turn.after s)))
      ((afterAll later (turn.after s)).1.left number) ∧
    (∀ earlier < number,
      Serves (s.1.left earlier) (suppliesOf earlier (turn.reads s)) ((turn.after s).1.left earlier)) ∧
    Asks turn.ask (turn.reads s) s.2 (turn.after s).2 := by
  intro s number
  refine ⟨fun given reader free => ?_,notingAfter turn s,?_,fun earlier less => earlierServes less,turnAsks started⟩
  · obtain ⟨bound,value⟩ := readerBound (V := V) reader
    rw [← given] at bound
    rw [openedScope,if_pos bound,(Scope.installedIff _ _ _).mpr free,value]
  · have own := turnServes turn started (Nat.lt_succ_self number)
    rw [(openedLeft s.1 turn.stdin).1] at own
    rw [suppliesAppend]
    exact servesTrans own (historyServes later (Nat.lt_of_lt_of_le (Nat.lt_succ_self number) (afterLonger started)))

def typing (answer : String) : Ask Nat := some fun count => (some answer,count + 1)

def readingThrice : Turn Value Memory Nat :=
  ofBody [.print .log [.read "prompt" none],.print .log [.read "readline" none,.read "input" none]] (some "a\r\nb")
    (typing "typed\nmore")

theorem thirdReadAsks : (afterAll [] (fresh 0 : Host × Nat)).1.stopped = false ∧
    (readingThrice.record (fresh 0)).logs = [(.stdout,.ofString "a"),(.stdout,.ofString "b typed")] ∧
    readingThrice.reads (fresh 0) = [⟨0,.given "a"⟩,⟨0,.given "b"⟩,⟨0,.asked "typed"⟩] ∧
    Serves ["a","b"] [.given "a",.given "b",.asked "typed"] [] ∧
    Asks (typing "typed\nmore") [⟨0,.given "a"⟩,⟨0,.given "b"⟩,⟨0,.asked "typed"⟩] 0 1 := by
  have started : (afterAll [] (fresh 0 : Host × Nat)).1.stopped = false := rfl
  have printed : (readingThrice.record (fresh 0)).logs = [(.stdout,.ofString "a"),(.stdout,.ofString "b typed")] := by
    cbv
  have given : inputLines readingThrice.stdin = ["a","b"] := by decide
  have left : (readingThrice.after (fresh 0)).1.left 0 = [] := by cbv
  have counted : (readingThrice.after (fresh 0)).2 = 1 := by cbv
  have reads : readingThrice.reads (fresh 0) = [⟨0,.given "a"⟩,⟨0,.given "b"⟩,⟨0,.asked "typed"⟩] := by cbv
  obtain ⟨-,-,lines,-,asks⟩ := readsServedInOrder [] [] readingThrice 0 started
  have first : (fresh 0 : Host × Nat).1.evaluations.length = 0 := rfl
  have own : suppliesOf 0 [⟨0,.given "a"⟩,⟨0,.given "b"⟩,⟨0,.asked "typed"⟩] =
      [.given "a",.given "b",.asked "typed"] := rfl
  simp only [afterAll,readsAll,List.foldl_nil,List.append_nil,first,given,left,counted,reads,own] at lines asks
  exact ⟨started,printed,reads,lines,asks⟩

def symbolPrompt : Turn Value Memory Nat :=
  ofBody [.print .log [.read "input" (some (.literal (.symbol (.ofString "x"))))]] (some "") (typing "typed")

def keeping : Turn Value Memory Nat := ofBody [.setGlobal "kept" (.variable "input")] (some "a\nb") none

def borrowing : Turn Value Memory Nat :=
  ofBody [.setGlobal "input" (.global "kept"),.print .log [.read "input" none]] (some "x") none

theorem symbolRefused : (symbolPrompt.after (fresh 0)).2 = 0 ∧ (symbolPrompt.record (fresh 0)).logs = [] ∧
    (symbolPrompt.record (fresh 0)).error = some (.ofString "can't convert symbol to string") :=
  ⟨by cbv,by cbv,by cbv⟩

/- A read past the input throws and nobody is asked; and a turn takes a line of the input of the turn before
it, and none of its own. -/
theorem readsRefusedAndBorrowed :
    ((symbolPrompt.after (fresh 0)).2 = 0 ∧ (symbolPrompt.record (fresh 0)).logs = [] ∧
      (symbolPrompt.record (fresh 0)).error = some (.ofString "can't convert symbol to string")) ∧
    let between := keeping.after (fresh 0)
    between.1.left 0 = ["a","b"] ∧
      (borrowing.after between).1.left 0 = ["b"] ∧ (borrowing.after between).1.left 1 = ["x"] :=
  ⟨symbolRefused,rfl,rfl,rfl⟩

end Turn
end Playground.Script
