import Mathlib
import Playground.Script.Evaluation
import Playground.Proofs.Terminal.Inputs
import Playground.Proofs.Text.Lines

/-! What becomes of the lines that are typed for a program. They are joined to a text, and whoever
reads the text splits it again. Lines come back as they were typed unless there are none or one of
them ends in a carriage return: no line at all reads as an empty one, and a carriage return at the end
of a line is lost. -/
namespace Playground.Terminal
open Console

structure Typed (line : String) : Prop where
  unbroken : '\n' ∉ line.toList
  filled : line ≠ ""
  goesOn : Text.trimmed line ≠ cancelMark

theorem typedGoesOn {line : String} (typed : Typed line) : isLast (.ok line) = false := by
  simp [isLast,typed.filled,typed.goesOn]

theorem collectTyped {lines : List String} (typed : ∀ line ∈ lines, Typed line) (collected : List String)
    (rest : List Line) : collect collected (lines.map .ok ++ rest) = collect (collected ++ lines) rest := by
  induction lines generalizing collected with
  | nil => rw [List.append_nil]; rfl
  | cons line lines ih =>
    obtain ⟨first,others⟩ := List.forall_mem_cons.mp typed
    obtain ⟨_,same,more⟩ := collectMore (typedGoesOn first) collected (lines.map .ok ++ rest)
    cases same
    rw [List.map_cons,List.cons_append,more,ih others,List.append_assoc]
    rfl

theorem inputSplit {lines : List String} (typed : ∀ line ∈ lines, Typed line) : Text.lines (inputText lines).toList =
    if lines = [] then [[]] else lines.map fun line => Text.stripEnd '\r' line.toList := by
  induction lines with
  | nil => rfl
  | cons line lines ih =>
    obtain ⟨first,others⟩ := List.forall_mem_cons.mp typed
    rw [if_neg (List.cons_ne_nil _ _),List.map_cons]
    by_cases alone : lines = []
    · subst alone
      have text : (inputText [line]).toList = line.toList ++ '\n' :: [] := by simp [inputText]
      rw [text,Text.linesEnded first.unbroken]
      rfl
    · have text : (inputText (line :: lines)).toList = line.toList ++ '\n' :: (inputText lines).toList := by
        simp [inputText,String.intercalate_cons_of_ne_nil alone]
      rw [text,Text.linesEnded first.unbroken,ih others,if_neg alone]

def unreturned (line : String) : String := String.ofList (Text.stripEnd '\r' line.toList)

theorem unreturnedIff (line : String) : unreturned line = line ↔ line.toList.getLast? ≠ some '\r' := by
  unfold unreturned Text.stripEnd
  split
  · rename_i ends
    refine iff_of_false (fun same => ?_) (fun open' => open' ends)
    have shorter := congrArg (fun text => text.toList.length) same
    have filled : line.toList ≠ [] := fun empty => by simp [empty] at ends
    have positive := List.length_pos_iff.mpr filled
    simp only [String.toList_ofList,List.length_dropLast] at shorter
    omega
  · rename_i ends
    exact iff_of_true String.ofList_toList ends

theorem typedRead {lines : List String} (typed : ∀ line ∈ lines, Typed line) :
    Script.inputLines (some (inputText lines)) = if lines = [] then [""] else lines.map unreturned := by
  unfold Script.inputLines
  simp only [Option.map_some,Option.getD_some,inputSplit typed]
  split
  · rfl
  · simp [unreturned,Function.comp_def]

theorem requestCollects (language : Language) (console : Console W) :
    ((requestInput language).run console).1 = (collect [] console.typed).1.map inputText ∧
    ((requestInput language).run console).2.typed = (collect [] console.typed).2 := by
  rw [← complainKeeps (banner language) console]
  exact ⟨rfl,rfl⟩

/- The text of an input, where it leaves off, and what its lines are when it is read. -/
theorem typedLinesReadUnlessReturned (language : Language) {lines : List String}
    (typed : ∀ line ∈ lines, Typed line) (console : Console W) :
    let request := (requestInput language).run console
    let read := Script.inputLines (some (inputText lines))
    (∀ rest, console.typed = lines.map .ok ++ .ok "" :: rest →
      request.1 = some (inputText lines) ∧ request.2.typed = rest) ∧
    (console.typed = lines.map .ok →
      request.1 = (if lines = [] then none else some (inputText lines)) ∧ request.2.typed = []) ∧
    read = (if lines = [] then [""] else lines.map unreturned) ∧
    (read = lines ↔ lines ≠ [] ∧ ∀ line ∈ lines, line.toList.getLast? ≠ some '\r') := by
  intro request read
  obtain ⟨given,left⟩ := requestCollects language console
  refine ⟨fun rest ended => ?_,fun ended => ?_,typedRead typed,?_⟩
  · have collected : collect [] console.typed = (some lines,rest) := by
      rw [ended,collectTyped typed]
      rfl
    exact ⟨given.trans (by rw [collected]; rfl),left.trans (by rw [collected])⟩
  · have collected : collect [] console.typed = (if lines = [] then none else some lines,[]) := by
      have whole := collectTyped typed [] []
      rw [List.append_nil] at whole
      rw [ended,whole]
      simp [collect]
    refine ⟨given.trans ?_,left.trans (by rw [collected])⟩
    rw [collected]
    split <;> rfl
  · have same : lines.map unreturned = lines ↔ ∀ line ∈ lines, line.toList.getLast? ≠ some '\r' := by
      simp only [← unreturnedIff]
      have each := List.map_inj_left (l := lines) (f := unreturned) (g := id)
      rwa [List.map_id] at each
    rw [show read = _ from typedRead typed]
    by_cases empty : lines = []
    · simp [empty]
    · simp [empty,same]

def awaiting (lines : List Line) : Console Unit := { typed := lines, outside := () }

theorem twoLinesReadBack : let console := awaiting [.ok "Ada",.ok "36",.ok "",.ok "run it"]
    let request := (requestInput .python).run console
    (∀ line ∈ ["Ada","36"], Typed line) ∧ request.1 = some "Ada\n36\n" ∧ request.2.typed = [.ok "run it"] ∧
      Script.inputLines (some "Ada\n36\n") = ["Ada","36"] := by
  intro console request
  have typed : ∀ line ∈ ["Ada","36"], Typed line := by
    simp only [List.forall_mem_cons,List.not_mem_nil,false_implies,implies_true,and_true]
    exact ⟨⟨by decide,by decide,by decide⟩,⟨by decide,by decide,by decide⟩⟩
  obtain ⟨ended,-,-,back⟩ := typedLinesReadUnlessReturned .python typed console
  obtain ⟨given,left⟩ := ended [.ok "run it"] rfl
  have text : inputText ["Ada","36"] = "Ada\n36\n" := by decide
  rw [text] at given back
  exact ⟨typed,given,left,back.mpr (by decide)⟩

theorem noLinesReadAsOne :
    let given (lines : List Line) := ((requestInput .python).run (awaiting lines)).1
    (given [.ok ""] = some "\n" ∧ Script.inputLines (some "\n") = [""]) ∧
    (given [.ok "a\r",.ok ""] = some "a\r\n" ∧ Script.inputLines (some "a\r\n") = ["a"]) ∧
    linesOf (Text.encode "a\r\r\n\n") = [.ok "a\r",.ok ""] :=
  ⟨⟨by decide,by decide⟩,⟨by decide,by decide⟩,by cbv⟩

end Playground.Terminal
