import Playground.Proofs.Script.Courses

/-! What a course reads, apart from all else that it does. Every read is noted when it is served, with
what came back to the script. However a course goes on, the reads of one evaluation are given its
lines in their order, and those past them are asked for one by one. -/
namespace Playground.Script

inductive Supply where
  | given (line : String)
  | asked (line : String)
  | refused

def Supply.line? : Supply → Option String
  | .given line => some line
  | .asked _ | .refused => none

structure Read where
  run : Nat
  supply : Supply

def suppliesOf (run : Nat) (reads : List Read) : List Supply :=
  (reads.filter fun read => read.run == run).map Read.supply

theorem suppliesAppend (run : Nat) (first rest : List Read) :
    suppliesOf run (first ++ rest) = suppliesOf run first ++ suppliesOf run rest := by
  simp [suppliesOf]

theorem suppliesOwn (run : Nat) (supply : Supply) (rest : List Read) :
    suppliesOf run (⟨run,supply⟩ :: rest) = supply :: suppliesOf run rest := by
  simp [suppliesOf]

theorem suppliesOther {run other : Nat} (differs : other ≠ run) (supply : Supply) (rest : List Read) :
    suppliesOf run (⟨other,supply⟩ :: rest) = suppliesOf run rest := by
  simp [suppliesOf,differs]

variable {V W α : Type} [Values V]

namespace Course

/- The course that notes its reads. A conversion that reads is noted before the read that it is for. -/
def noting : {α : Type} → Course V α → Course V (α × List Read)
  | _,.done result => .done (result,[])
  | _,.step act next => .step act fun back => (next back).noting
  | _,.read run conversion isText next => .read run conversion.noting (fun noted => isText noted.1) fun
    | .line text => (next (.line text)).noting.bind fun rest => .done (rest.1,⟨run,.given text⟩ :: rest.2)
    | .answered noted text => (next (.answered noted.1 text)).noting.bind fun rest =>
      .done (rest.1,noted.2 ++ ⟨run,.asked text⟩ :: rest.2)
    | .refused noted => (next (.refused noted.1)).noting.bind fun rest =>
      .done (rest.1,noted.2 ++ ⟨run,.refused⟩ :: rest.2)

def reads (ask : Ask W) (c : Course V α) (bridge : Bridge V) (world : W) : List Read :=
  (c.noting.run ask bridge world).1.1.2

theorem notingRun (ask : Ask W) (c : Course V α) (bridge : Bridge V) (world : W) :
    c.noting.run ask bridge world =
      ((((c.run ask bridge world).1.1,c.reads ask bridge world),(c.run ask bridge world).1.2),
        (c.run ask bridge world).2) := by
  unfold reads
  induction c generalizing bridge world with
  | done result => rfl
  | step act next ih => exact ih _ _ _
  | read run conversion isText next converts ih =>
    simp only [noting,Course.run]
    cases bridge.take? run with
    | some taken =>
      simp only [runBind]
      rw [ih]
      rfl
    | none =>
      simp only
      rw [converts bridge world]
      simp only
      split
      · simp only [runBind]
        rw [ih]
        rfl
      · simp only [runBind]
        rw [ih]
        rfl

variable {γ : Type} {run : Nat} {conversion : Course V γ} {isText : γ → Bool} {next : Reply γ → Course V α}
  {ask : Ask W} {bridge bridge' : Bridge V} {world : W} {line : String}

theorem readsTaken (taken : bridge.take? run = some (line,bridge')) :
    (Course.read run conversion isText next).reads ask bridge world =
      ⟨run,.given line⟩ :: (next (.line line)).reads ask bridge' world := by
  simp only [reads,noting,Course.run,taken,runBind]

theorem readsAsked (untaken : bridge.take? run = none)
    (text : isText (conversion.run ask bridge world).1.1 = true) :
    let past := conversion.run ask bridge world
    let asked := askLine ask past.2
    (Course.read run conversion isText next).reads ask bridge world = conversion.reads ask bridge world ++
      ⟨run,.asked asked.1⟩ :: (next (.answered past.1.1 asked.1)).reads ask past.1.2 asked.2 := by
  intro past asked
  have noted := notingRun ask conversion bridge world
  simp only [reads,noting,Course.run,untaken] at noted ⊢
  rw [noted]
  simp only [text,if_true,runBind]
  rfl

theorem readsRefused (untaken : bridge.take? run = none)
    (refused : isText (conversion.run ask bridge world).1.1 = false) :
    let past := conversion.run ask bridge world
    (Course.read run conversion isText next).reads ask bridge world = conversion.reads ask bridge world ++
      ⟨run,.refused⟩ :: (next (.refused past.1.1)).reads ask past.1.2 past.2 := by
  intro past
  have noted := notingRun ask conversion bridge world
  simp only [reads,noting,Course.run,untaken] at noted ⊢
  rw [noted]
  simp only [refused,Bool.false_eq_true,if_false,runBind]
  rfl

end Course

/-! ### What reads are given -/

/- Lines are given as they come, none is left out and none is given twice, and past them no line is given. -/
structure Serves (lines : List String) (supplies : List Supply) (left : List String) : Prop where
  inOrder : ∀ (i : Nat) (supply : Supply), supplies[i]? = some supply → supply.line? = lines[i]?
  left : left = lines.drop supplies.length

theorem servesNothing (lines : List String) : Serves lines [] lines := ⟨by simp,rfl⟩

theorem servesFirst {lines left : List String} {supply : Supply} {supplies : List Supply}
    (first : supply.line? = lines.head?) (rest : Serves lines.tail supplies left) :
    Serves lines (supply :: supplies) left where
  inOrder := by
    intro i found there
    cases i with
    | zero =>
      cases there
      rw [first,List.head?_eq_getElem?]
    | succ i =>
      rw [rest.inOrder i found there,List.getElem?_tail]
  left := by rw [rest.left,List.length_cons,← List.drop_one,List.drop_drop,Nat.add_comm]

theorem servesTrans {lines between left : List String} {first rest : List Supply} (before : Serves lines first between)
    (after : Serves between rest left) : Serves lines (first ++ rest) left where
  inOrder := by
    intro i supply there
    by_cases early : i < first.length
    · rw [List.getElem?_append_left early] at there
      exact before.inOrder i supply there
    · have late : first.length ≤ i := Nat.le_of_not_lt early
      rw [List.getElem?_append_right late] at there
      rw [after.inOrder _ supply there,before.left,List.getElem?_drop,Nat.add_sub_cancel' late]
  left := by rw [after.left,before.left,List.drop_drop,List.length_append]

theorem servesEmpty {supplies : List Supply} {left : List String} (serves : Serves [] supplies left) : left = [] := by
  rw [serves.left,List.drop_nil]

theorem servesRead {lines left : List String} {run other : Nat} {supply : Supply} {rest : List Read}
    (own : other = run → supply.line? = lines.head? ∧ Serves lines.tail (suppliesOf run rest) left)
    (others : other ≠ run → Serves lines (suppliesOf run rest) left) :
    Serves lines (suppliesOf run (⟨other,supply⟩ :: rest)) left := by
  by_cases same : other = run
  · subst same
    rw [suppliesOwn]
    exact servesFirst (own rfl).1 (own rfl).2
  · rw [suppliesOther same]
    exact others same

theorem servesPast {lines left : List String} {run other : Nat} {supply : Supply} {rest : List Read}
    (ungiven : supply.line? = none) (past : other = run → lines = [])
    (served : Serves lines (suppliesOf run rest) left) :
    Serves lines (suppliesOf run (⟨other,supply⟩ :: rest)) left := by
  refine servesRead (fun own => ?_) fun _ => served
  rw [past own] at served ⊢
  exact ⟨ungiven,served⟩

theorem courseServes (ask : Ask W) (c : Course V α) (run : Nat) (bridge : Bridge V) (world : W)
    (known : run < bridge.evaluations.length) :
    Serves (bridge.left run) (suppliesOf run (c.reads ask bridge world)) ((c.run ask bridge world).1.2.left run) := by
  induction c generalizing bridge world with
  | done result => exact servesNothing _
  | step act next ih =>
    obtain ⟨longer,same⟩ := stepKnown act bridge
    have rest := ih (act.perform bridge).1 (act.perform bridge).2 world (Nat.lt_of_lt_of_le known longer)
    rwa [same run known] at rest
  | read other conversion isText next converts ih =>
    cases taken : bridge.take? other with
    | some found =>
      obtain ⟨line,bridge'⟩ := found
      obtain ⟨given,apart,length,-⟩ := Bridge.takenLeft taken
      have rest := ih (.line line) bridge' world (length ▸ known)
      rw [Course.readsTaken taken]
      simp only [Course.run,taken]
      refine servesRead (fun own => ?_) fun differs => ?_
      · subst own
        rw [given]
        exact ⟨rfl,rest⟩
      · rwa [← apart run (Ne.symm differs)]
    | none =>
      have empty := Bridge.untakenLeft taken
      have first := converts bridge world known
      have longer := Course.runLonger ask conversion bridge world
      have known' := Nat.lt_of_lt_of_le known longer
      have past : other = run → (conversion.run ask bridge world).1.2.left run = [] := by
        intro own
        subst own
        rw [empty] at first
        exact servesEmpty first
      cases text : isText (conversion.run ask bridge world).1.1 with
      | true =>
        rw [Course.readsAsked taken text,suppliesAppend]
        simp only [Course.run,taken,text,if_true]
        exact servesTrans first (servesPast rfl past (ih _ _ _ known'))
      | false =>
        rw [Course.readsRefused taken text,suppliesAppend]
        simp only [Course.run,taken,text,Bool.false_eq_true,if_false]
        exact servesTrans first (servesPast rfl past (ih _ _ _ known'))

/-! ### Who is asked -/

/- The line that a read is given of an answer, which may be declined or hold no line. -/
inductive FirstLine : Option String → String → Prop where
  | declined : FirstLine none ""
  | lineless {text : String} (lines : Text.lines text.toList = []) : FirstLine (some text) ""
  | typed {text : String} {first : List Char} {rest : List (List Char)}
      (lines : Text.lines text.toList = first :: rest) : FirstLine (some text) (String.ofList first)

theorem firstLineFound (answer : Option String) : FirstLine answer (firstLine answer) := by
  cases answer with
  | none => exact .declined
  | some text =>
    unfold firstLine
    rw [Option.getD_some]
    cases lines : Text.lines text.toList with
    | nil => exact .lineless lines
    | cons first rest => exact .typed lines

/- Somebody is asked once for each read that says so, in their order, and whatever happens to the world
happens then. Nobody is asked on account of a line that is given, or of a prompt that is no text. -/
inductive Asks (ask : Ask W) : List Read → W → W → Prop where
  | nothing (world : W) : Asks ask [] world world
  | given {run line reads world world'} (rest : Asks ask reads world world') :
      Asks ask (⟨run,.given line⟩ :: reads) world world'
  | refused {run reads world world'} (rest : Asks ask reads world world') :
      Asks ask (⟨run,.refused⟩ :: reads) world world'
  | unasked {run reads world world'} (nobody : ask = none) (rest : Asks ask reads world world') :
      Asks ask (⟨run,.asked ""⟩ :: reads) world world'
  | asked {run line reads world world' request} (somebody : ask = some request)
      (typed : FirstLine (request.run world).1 line) (rest : Asks ask reads (request.run world).2 world') :
      Asks ask (⟨run,.asked line⟩ :: reads) world world'

theorem asksLine {ask : Ask W} {run : Nat} {reads : List Read} {world world' : W}
    (rest : Asks ask reads (askLine ask world).2 world') :
    Asks ask (⟨run,.asked (askLine ask world).1⟩ :: reads) world world' := by
  cases ask with
  | none => exact .unasked rfl rest
  | some request => exact .asked rfl (firstLineFound _) rest

theorem asksTrans {ask : Ask W} {first rest : List Read} {world between world' : W}
    (before : Asks ask first world between)
    (after : Asks ask rest between world') : Asks ask (first ++ rest) world world' := by
  induction before with
  | nothing world => exact after
  | given _ ih => exact .given (ih after)
  | refused _ ih => exact .refused (ih after)
  | unasked nobody _ ih => exact .unasked nobody (ih after)
  | asked somebody typed _ ih => exact .asked somebody typed (ih after)

theorem courseAsks (ask : Ask W) (c : Course V α) (bridge : Bridge V) (world : W) :
    Asks ask (c.reads ask bridge world) world (c.run ask bridge world).2 := by
  induction c generalizing bridge world with
  | done result => exact .nothing world
  | step act next ih => exact ih _ _ _
  | read run conversion isText next converts ih =>
    cases taken : bridge.take? run with
    | some found =>
      rw [Course.readsTaken taken]
      simp only [Course.run,taken]
      exact .given (ih _ _ _)
    | none =>
      have first := converts bridge world
      cases text : isText (conversion.run ask bridge world).1.1 with
      | true =>
        rw [Course.readsAsked taken text]
        simp only [Course.run,taken,text,if_true]
        exact asksTrans first (asksLine (ih _ _ _))
      | false =>
        rw [Course.readsRefused taken text]
        simp only [Course.run,taken,text,Bool.false_eq_true,if_false]
        exact asksTrans first (.refused (ih _ _ _))

end Playground.Script
