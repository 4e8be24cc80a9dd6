import Playground.Proofs.Engine.Drifts
import Playground.Proofs.Text.Trimming
import Playground.Terminal.Session

/-! What the commands of a terminal do: they run sources, and read a file or the date; every line that
is not blank is remembered, and only an exit command ends the session. -/
namespace Playground.Terminal

theorem parseEmpty (line : String) : Command.parse line = .empty ↔ Text.isBlankString line = true := by
  unfold Text.isBlankString
  rcases Text.trimCases line.toList with ⟨blank,trimmed⟩ | ⟨filled,c,rest,visible,trimmed⟩
  · simp only [Command.parse,trimmed,blank]
    exact iff_of_true rfl trivial
  · simp only [Command.parse,trimmed,filled,Bool.false_eq_true,iff_false]
    have worded : (Command.split (c :: rest)).1 = c :: rest.takeWhile (!Text.isBlank ·) := by
      simp only [Command.split,List.takeWhile_cons,visible,Bool.not_false,if_true]
    rw [worded]
    split
    · rename_i same
      exact absurd (String.ofList_eq_empty_iff.mp same) (by simp [Text.lowerAscii])
    all_goals exact nofun

section Acts

variable {W H : Type} {c : Engine.Collaborators W H} {access : Access W} {d : Drift (Session W H)}

theorem runBind {α β : Type} (act : Act W H α) (next : α → Act W H β) (session : Session W H) :
    (act >>= next).run session = (next (act.run session).1).run (act.run session).2 :=
  rfl

theorem performCovered (runs : ∀ source language, d.Covers (inEngine (Engine.run c source language none)))
    (opens : ∀ path, d.Covers (inWorld (access.readText path))) (dates : d.Covers (inWorld access.date))
    (command : Command) : d.Covers (perform c access command) := by
  have source : ∀ source language, d.Covers (runSource c source language) :=
    fun source language => Drift.coversBind (runs source language.id) fun _ => d.coversPure _
  cases command with
  | empty => exact d.coversPure _
  | help => exact d.coversPure _
  | clear => exact d.coversPure _
  | exit => exact d.coversPure _
  | echo text => exact d.coversPure _
  | list => exact d.coversPure _
  | unknown name => exact d.coversPure _
  | date => exact Drift.coversBind dates fun _ => d.coversPure _
  | js code =>
    simp only [perform]
    split
    · exact d.coversPure _
    · exact source code .javaScript
  | py code =>
    simp only [perform]
    split
    · exact d.coversPure _
    · exact source code .python
  | run path =>
    simp only [perform,runFile]
    split
    · exact d.coversPure _
    · split
      · exact d.coversPure _
      · refine Drift.coversBind (opens path) fun outcome => ?_
        split
        · exact source _ _
        · exact d.coversPure _

def keepsHistory : Drift (Session W H) where
  leads := fun before after => after.history = before.history
  stays := fun _ => rfl
  goesOn := fun first rest => rest.trans first

theorem engineKeeps {α : Type} (act : Engine.Run W H α) : keepsHistory.Covers (inEngine act) := fun _ => rfl

theorem performKeeps (command : Command) (session : Session W H) :
    ((perform c access command).run session).2.history = session.history :=
  performCovered (fun _ _ => engineKeeps _) (fun _ => engineKeeps _) (engineKeeps _) command session

def remembered (lines : List String) : List String :=
  (lines.filter fun line => !Text.isBlankString line).map Text.trimmed

theorem rememberedCons (line : String) (lines : List String) :
    remembered (line :: lines) = remembered [line] ++ remembered lines := by
  unfold remembered
  rw [← List.map_append,← List.filter_append,List.singleton_append]

theorem executeRemembers (line : String) (session : Session W H) :
    ((execute c access line).run session).2.history = session.history ++ remembered [line] := by
  cases blank : Text.isBlankString line with
  | true =>
    have nothing : remembered [line] = [] := by simp [remembered,blank]
    simp only [execute,(parseEmpty line).mpr blank,nothing,ne_eq,not_true_eq_false,if_false,List.append_nil]
    exact performKeeps _ session
  | false =>
    have one : remembered [line] = [Text.trimmed line] := by simp [remembered,blank]
    have command : Command.parse line ≠ .empty := fun empty => by simp [(parseEmpty line).mp empty] at blank
    simp only [execute,one,command,ne_eq,not_false_eq_true,if_true,runBind]
    exact performKeeps _ _

theorem sourcePrints (source : String) (language : Language) (session : Session W H) :
    ∃ text, ((runSource c source language).run session).1.shown? = some text := by
  rw [runSource,runBind]
  exact ⟨_,rfl⟩

theorem performReplies {command : Command} (stays : command ≠ .exit) (session : Session W H) :
    ∃ text, ((perform c access command).run session).1.shown? = some text := by
  cases command with
  | exit => contradiction
  | empty => exact ⟨_,rfl⟩
  | help => exact ⟨_,rfl⟩
  | clear => exact ⟨_,rfl⟩
  | echo text => exact ⟨_,rfl⟩
  | list => exact ⟨_,rfl⟩
  | unknown name => exact ⟨_,rfl⟩
  | date => exact ⟨_,rfl⟩
  | js code =>
    simp only [perform]
    split
    · exact ⟨_,rfl⟩
    · exact sourcePrints code .javaScript session
  | py code =>
    simp only [perform]
    split
    · exact ⟨_,rfl⟩
    · exact sourcePrints code .python session
  | run path =>
    simp only [perform,runFile]
    split
    · exact ⟨_,rfl⟩
    · split
      · exact ⟨_,rfl⟩
      · rw [runBind]
        generalize (inWorld (access.readText path)).run session = read
        obtain ⟨outcome,between⟩ := read
        cases outcome with
        | ok source => exact sourcePrints source _ between
        | error cause => exact ⟨_,rfl⟩

theorem executeReplies {line : String} (stays : Command.parse line ≠ .exit) (session : Session W H) :
    ∃ text, ((execute c access line).run session).1.shown? = some text := by
  unfold execute
  simp only
  split
  · rw [runBind]
    exact performReplies stays _
  · exact performReplies stays session

theorem executeExits {line : String} (exits : Command.parse line = .exit) (session : Session W H) :
    (execute c access line).run session =
      (.exit,{ session with history := session.history ++ [Text.trimmed line] }) := by
  simp only [execute,exits]
  rfl

end Acts

end Playground.Terminal
