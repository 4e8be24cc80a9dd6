import Playground.Proofs.Drift
import Playground.Terminal.Console

/-! Lines that programs take. One request takes the lines of one input, which are those up to the
first that ends it, and gives its program what they say; nothing else takes any. -/
namespace Playground.Terminal
open Console

/- The lines of an input, and the lines after it. Where no line ends it, there are none after it. -/
inductive IsInput : List Line → List Line → Prop where
  | ended {body : List Line} {last : Line} (goesOn : ∀ line ∈ body, isLast line = false)
      (ends : isLast last = true) (left : List Line) : IsInput (body ++ [last]) left
  | unended {body : List Line} (goesOn : ∀ line ∈ body, isLast line = false) : IsInput body []

theorem inputLast {line : Line} (ends : isLast line = true) (left : List Line) : IsInput [line] left :=
  show IsInput ([] ++ [line]) left from .ended (List.forall_mem_nil _) ends left

theorem inputCons {line : Line} {taken left : List Line} (goesOn : isLast line = false)
    (input : IsInput taken left) : IsInput (line :: taken) left := by
  cases input with
  | ended body ends => exact .ended (List.forall_mem_cons.mpr ⟨goesOn,body⟩) ends left
  | unended body => exact .unended (List.forall_mem_cons.mpr ⟨goesOn,body⟩)

inductive Taken : List Line → List (List Line) → List Line → Prop where
  | nothing (typed : List Line) : Taken typed [] typed
  | input {taken rest left : List Line} {inputs : List (List Line)} (first : IsInput taken rest)
      (others : Taken rest inputs left) : Taken (taken ++ rest) (taken :: inputs) left

theorem takenTrans {typed between left : List Line} {before after : List (List Line)}
    (first : Taken typed before between) (rest : Taken between after left) :
    Taken typed (before ++ after) left := by
  induction first with
  | nothing typed => exact rest
  | input first others ih => exact .input first (ih rest)

theorem takenLines {typed left : List Line} {inputs : List (List Line)} (taken : Taken typed inputs left) :
    typed = inputs.flatten ++ left := by
  induction taken with
  | nothing typed => rfl
  | input first others ih => rw [List.flatten_cons,List.append_assoc,← ih]

theorem takenFewer {typed left : List Line} {inputs : List (List Line)} (taken : Taken typed inputs left) :
    left.length ≤ typed.length := by
  rw [takenLines taken,List.length_append]
  exact Nat.le_add_left _ _

theorem collectLast {line : Line} (ends : isLast line = true) (collected : List String) (rest : List Line) :
    collect collected (line :: rest) = ((collect collected [line]).1,rest) := by
  cases line with
  | error flaw => rfl
  | ok text =>
    simp only [collect]
    split
    · rfl
    · rename_i stays
      have empty : text.isEmpty = true := by simpa only [isLast,stays,Bool.false_or] using ends
      simp only [empty,if_true]

theorem collectMore {line : Line} (goesOn : isLast line = false) (collected : List String) (rest : List Line) :
    ∃ text, line = .ok text ∧ collect collected (line :: rest) = collect (collected ++ [text]) rest := by
  cases line with
  | error flaw => contradiction
  | ok text =>
    obtain ⟨stays,filled⟩ := Bool.or_eq_false_iff.mp goesOn
    refine ⟨text,rfl,?_⟩
    simp only [collect,stays,filled,Bool.false_eq_true,if_false]

theorem collectTakes (typed : List Line) : ∀ collected, ∃ taken, IsInput taken (collect collected typed).2 ∧
    typed = taken ++ (collect collected typed).2 ∧
    (collect collected typed).1 = (collect collected taken).1 := by
  induction typed with
  | nil => exact fun collected => ⟨[],.unended nofun,rfl,rfl⟩
  | cons line rest ih =>
    intro collected
    cases last : isLast line with
    | true =>
      rw [collectLast last]
      exact ⟨[line],inputLast last rest,rfl,rfl⟩
    | false =>
      obtain ⟨text,rfl,more⟩ := collectMore last collected rest
      obtain ⟨taken,input,parts,same⟩ := ih (collected ++ [text])
      obtain ⟨_,again,alone⟩ := collectMore last collected taken
      cases again
      rw [more]
      exact ⟨.ok text :: taken,inputCons last input,congrArg _ parts,same.trans (congrArg _ alone.symm)⟩

section Consoles

variable {W : Type}

theorem printKeeps (text : String) (console : Console W) :
    ((Console.print text).run console).2.typed = console.typed := by
  change (if console.isWaiting then console else _).typed = console.typed
  split <;> rfl

theorem complainKeeps (text : String) (console : Console W) :
    ((Console.complain text).run console).2.typed = console.typed := by
  change (if console.isWaiting then console else _).typed = console.typed
  split <;> rfl

theorem requestTakes (language : Language) (console : Console W) :
    ∃ taken, IsInput taken ((requestInput language).run console).2.typed ∧
      console.typed = taken ++ ((requestInput language).run console).2.typed ∧
      ((requestInput language).run console).1 = (collect [] taken).1.map inputText := by
  obtain ⟨taken,input,parts,same⟩ := collectTakes ((complain (banner language)).run console).2.typed []
  refine ⟨taken,input,?_,congrArg (Option.map inputText) same⟩
  rw [← complainKeeps (banner language) console]
  exact parts

def reading : Drift (Console W) where
  leads := fun before after => ∃ inputs, Taken before.typed inputs after.typed
  stays := fun console => ⟨[],.nothing console.typed⟩
  goesOn := fun ⟨before,first⟩ ⟨after,rest⟩ => ⟨before ++ after,takenTrans first rest⟩

theorem requestReads (language : Language) : (reading (W := W)).Covers (requestInput language) := by
  intro console
  obtain ⟨taken,input,parts,-⟩ := requestTakes language console
  refine ⟨[taken],?_⟩
  rw [parts]
  exact .input input (.nothing _)

theorem outsideReads {α : Type} (act : StateM W α) : reading.Covers (ofOutside act) :=
  fun console => reading.stays console

end Consoles
end Playground.Terminal
