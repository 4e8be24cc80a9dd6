import Mathlib
import Playground.CommandLine.Program
import Playground.Proofs.Engine.Assembled
import Playground.Proofs.Terminal.Commands
import Playground.Proofs.Terminal.Inputs

/-! Sessions at the terminal, turn by turn. A turn takes the line of a command, and the lines that the
program of the command reads; a session takes turns until a command ends it or no line is left. -/
namespace Playground.Terminal
open Playground.CommandLine (Stage Surroundings accessOf prompt)

section Turns

variable {W H : Type}

def typed (session : Session (Stage W) H) : List Line := session.engine.world.outside.typed

def askForLine : Act (Stage W) H (Option Line) := do
  inWorld (prompt.print promptMark)
  inWorld prompt.next

def asked (session : Session (Stage W) H) : Session (Stage W) H := (askForLine.run session).2

def shown (text : String) (session : Session (Stage W) H) : Session (Stage W) H :=
  ((inWorld (prompt.print text)).run session).2

theorem shownTyped (text : String) (session : Session (Stage W) H) : typed (shown text session) = typed session :=
  printKeeps text session.engine.world.outside

theorem shownHistory (text : String) (session : Session (Stage W) H) :
    (shown text session).history = session.history :=
  rfl

theorem askedHistory (session : Session (Stage W) H) : (asked session).history = session.history := rfl

theorem nextTakes (console : Console W) : (Console.next.run console).1 = console.typed.head? ∧
    (Console.next.run console).2.typed = console.typed.tail := by
  obtain ⟨typed,hasEnded,isWaiting,output,errors,outside⟩ := console
  cases typed with
  | nil => exact ⟨rfl,rfl⟩
  | cons line rest => exact ⟨rfl,rfl⟩

theorem askTakes (session : Session (Stage W) H) :
    (askForLine.run session).1 = (typed session).head? ∧ typed (asked session) = (typed session).tail := by
  have takes := nextTakes (shown promptMark session).engine.world.outside
  rw [show (shown promptMark session).engine.world.outside.typed = typed session from
    shownTyped promptMark session] at takes
  exact takes

def reads : Drift (Session (Stage W) H) := (Engine.ofSessions (Engine.ofWorkplaces reading)).via Session.engine

theorem readsTaken {before after : Session (Stage W) H} (leads : reads.leads before after) :
    ∃ inputs, Taken (typed before) inputs (typed after) :=
  leads

theorem engineReads {α : Type} {act : Engine.Run (Stage W) H α}
    (covered : (Engine.ofSessions (Engine.ofWorkplaces reading)).Covers act) : reads.Covers (inEngine act) :=
  fun session => covered session.engine

theorem executeReads {c : Engine.Collaborators (Stage W) H} (within : c.Within (Engine.ofWorkplaces reading))
    (s : Surroundings W) (line : String) : reads.Covers (execute c (accessOf s) line) := by
  have opens : ∀ path, reads.Covers (inWorld (H := H) ((accessOf s).readText path)) :=
    fun _ session => reads.stays session
  have dates : reads.Covers (inWorld (H := H) (accessOf s).date) := fun session => reads.stays session
  have performs : reads.Covers (perform c (accessOf s) (Command.parse line)) :=
    performCovered (fun source language => engineReads (Engine.runCovered within source language none)) opens dates _
  unfold execute
  simp only
  split
  · exact Drift.coversBind (fun session => reads.stays session) fun _ => performs
  · exact performs

structure Turn where
  line : String
  inputs : List (List Line)

def Turn.lines (turn : Turn) : List Line := .ok turn.line :: turn.inputs.flatten

section Sessions

variable (c : Engine.Collaborators (Stage W) H) (access : Access (Stage W))

def performed (line : String) (before : Session (Stage W) H) : Reply × Session (Stage W) H :=
  (execute c access line).run (asked before)

theorem performedReplies {line : String} (stays : Command.parse line ≠ .exit) (before : Session (Stage W) H) :
    ∃ text, (performed c access line before).1.shown? = some text :=
  executeReplies stays _

theorem performedExits {line : String} (exits : Command.parse line = .exit) (before : Session (Stage W) H) :
    (performed c access line before).1.shown? = none := by
  rw [performed,executeExits exits]
  rfl

/- A session from its turns: where it starts, how it ends, and where. -/
inductive Conversed :
    Session (Stage W) H → List Turn → Except Text.Flaw Unit → Session (Stage W) H → Prop where
  | ended {before} (empty : typed before = []) : Conversed before [] (.ok ()) (asked before)
  | unreadable {before flaw rest} (next : typed before = .error flaw :: rest) :
      Conversed before [] (.error flaw) (asked before)
  | left {before line rest} (next : typed before = .ok line :: rest) (exits : Command.parse line = .exit) :
      Conversed before [⟨line,[]⟩] (.ok ()) (performed c access line before).2
  | turn {before line rest inputs text turns result last} (next : typed before = .ok line :: rest)
      (stays : Command.parse line ≠ .exit)
      (replies : (performed c access line before).1.shown? = some text)
      (taken : Taken rest inputs (typed (performed c access line before).2))
      (others : Conversed (shown text (performed c access line before).2) turns result last) :
      Conversed before (⟨line,inputs⟩ :: turns) result last

end Sessions

def stopLine : Except Text.Flaw Unit → List Line
  | .ok () => []
  | .error flaw => [.error flaw]

section Conversations

variable {c : Engine.Collaborators (Stage W) H} {access : Access (Stage W)}
variable {before last : Session (Stage W) H} {turns : List Turn} {result : Except Text.Flaw Unit}

theorem performedHistory (line : String) (before : Session (Stage W) H) :
    (performed c access line before).2.history = before.history ++ remembered [line] := by
  rw [performed,executeRemembers,askedHistory]

theorem conversedLines (conversed : Conversed c access before turns result last) :
    typed before = turns.flatMap Turn.lines ++ stopLine result ++ typed last := by
  induction conversed with
  | ended empty =>
    rw [(askTakes _).2,empty]
    rfl
  | unreadable next =>
    rw [(askTakes _).2,next]
    rfl
  | @left before line rest next exits =>
    have kept : typed (performed c access line before).2 = rest := by
      rw [performed,executeExits exits,← show (typed before).tail = rest by rw [next]; rfl]
      exact (askTakes before).2
    rw [next,kept]
    rfl
  | turn next stays replies taken others ih =>
    rw [shownTyped] at ih
    rw [next,takenLines taken,ih]
    simp [Turn.lines]

theorem conversedHistory (conversed : Conversed c access before turns result last) :
    last.history = before.history ++ remembered (turns.map Turn.line) := by
  induction conversed with
  | ended empty => exact (List.append_nil _).symm
  | unreadable next => exact (List.append_nil _).symm
  | left next exits => exact performedHistory _ _
  | turn next stays replies taken others ih =>
    rw [ih,shownHistory,performedHistory,List.append_assoc,List.map_cons,← rememberedCons]

theorem conversedExit (conversed : Conversed c access before turns result last) :
    ∀ turn ∈ turns.dropLast, Command.parse turn.line ≠ .exit := by
  induction conversed with
  | ended empty => exact nofun
  | unreadable next => exact nofun
  | left next exits => exact nofun
  | @turn before line rest inputs text turns result last next stays replies taken others ih =>
    cases turns with
    | nil => exact nofun
    | cons turn turns =>
      rw [List.dropLast_cons_cons]
      exact List.forall_mem_cons.mpr ⟨stays,ih⟩

theorem conversedEnd (conversed : Conversed c access before turns result last) (well : result = .ok ()) :
    (∃ turn, turns.getLast? = some turn ∧ Command.parse turn.line = .exit) ∨ typed last = [] := by
  induction conversed with
  | ended empty =>
    rw [(askTakes _).2,empty]
    exact .inr rfl
  | unreadable next => contradiction
  | left next exits => exact .inl ⟨_,rfl,exits⟩
  | turn next stays replies taken others ih =>
    refine (ih well).imp_left fun ⟨turn,final,exits⟩ => ⟨turn,?_,exits⟩
    rw [List.getLast?_cons,final]
    rfl

theorem conversedReadable (conversed : Conversed c access before turns result last)
    (readable : ∀ flaw, .error flaw ∉ typed before) : result = .ok () := by
  cases result with
  | ok _ => rfl
  | error flaw =>
    have among : .error flaw ∈ typed before := by
      rw [conversedLines conversed,List.append_assoc]
      exact List.mem_append_right _ List.mem_cons_self
    exact absurd among (readable flaw)

end Conversations

section Prompts

variable {c : Engine.Collaborators (Stage W) H} {access : Access (Stage W)} {start : Session (Stage W) H}

def follow (c : Engine.Collaborators (Stage W) H) (access : Access (Stage W)) (turns : Nat) :
    Option Line → Act (Stage W) H (Except Text.Flaw Unit)
  | none => return .ok ()
  | some (.error flaw) => return .error flaw
  | some (.ok line) => do
    match (← execute c access line).shown? with
    | none => return .ok ()
    | some text =>
      inWorld (prompt.print text)
      converse c access prompt turns

theorem converseAsks (turns : Nat) :
    (converse c access prompt (turns + 1)).run start =
      (follow c access turns (typed start).head?).run (asked start) := by
  have asks : converse c access prompt (turns + 1) = askForLine >>= follow c access turns := by
    unfold askForLine
    rw [bind_assoc]
    rfl
  rw [asks,runBind,(askTakes start).1,asked]

theorem followPerforms (turns : Nat) (line : String) :
    (follow c access turns (some (.ok line))).run (asked start) =
      match (performed c access line start).1.shown? with
      | none => (.ok (),(performed c access line start).2)
      | some text => (converse c access prompt turns).run (shown text (performed c access line start).2) := by
  unfold follow performed
  rw [runBind]
  generalize (execute c access line).run (asked start) = reached
  obtain ⟨reply,between⟩ := reached
  cases reply with
  | exit => rfl
  | clear => rfl
  | nothing => rfl
  | print text => rfl

end Prompts

section Whole

variable {c : Engine.Collaborators (Stage W) H} (within : c.Within (Engine.ofWorkplaces reading))
  (s : Surroundings W)
include within

theorem performedTakes {line : String} {rest : List Line} {before : Session (Stage W) H}
    (next : typed before = .ok line :: rest) :
    ∃ inputs, Taken rest inputs (typed (performed c (accessOf s) line before).2) := by
  have rested : typed (asked before) = rest := by rw [(askTakes before).2,next,List.tail_cons]
  rw [performed,← rested]
  exact readsTaken (executeReads within s line (asked before))

theorem converseConversed (turns : Nat) : ∀ start : Session (Stage W) H, (typed start).length < turns →
    ∃ held, Conversed c (accessOf s) start held ((converse c (accessOf s) prompt turns).run start).1
      ((converse c (accessOf s) prompt turns).run start).2 := by
  induction turns with
  | zero => exact fun _ enough => absurd enough (Nat.not_lt_zero _)
  | succ turns ih =>
    intro start enough
    rw [converseAsks]
    cases next : typed start with
    | nil => exact ⟨[],.ended next⟩
    | cons first rest =>
      cases first with
      | error flaw => exact ⟨[],.unreadable next⟩
      | ok line =>
        rw [List.head?_cons,followPerforms]
        by_cases exits : Command.parse line = .exit
        · simp only [performedExits c (accessOf s) exits]
          exact ⟨[⟨line,[]⟩],.left next exits⟩
        · obtain ⟨text,replies⟩ := performedReplies c (accessOf s) exits start
          obtain ⟨inputs,taken⟩ := performedTakes within s next
          -- The line of the command is gone, and programs give no lines back.
          have fewer : (typed (shown text (performed c (accessOf s) line start).2)).length < turns := by
            rw [next,List.length_cons] at enough
            rw [shownTyped]
            exact Nat.lt_of_le_of_lt (takenFewer taken) (Nat.lt_of_succ_lt_succ enough)
          obtain ⟨held,others⟩ := ih _ fewer
          simp only [replies]
          exact ⟨⟨line,inputs⟩ :: held,.turn next exits replies taken others⟩

/- Commands and programs share the lines that are typed. Every line is either the command of a turn, or
one of an input that its program reads, or the one at which the session breaks off, or left when the
session is over. -/
theorem linesTakenInOrder (start : Session (Stage W) H) {turns : Nat} (enough : (typed start).length < turns) :
    ∃ held result last, (converse c (accessOf s) prompt turns).run start = (result,last) ∧
      Conversed c (accessOf s) start held result last ∧
      typed start = held.flatMap Turn.lines ++ stopLine result ++ typed last ∧
      last.history = start.history ++ remembered (held.map Turn.line) ∧
      (∀ turn ∈ held.dropLast, Command.parse turn.line ≠ .exit) ∧
      (result = .ok () →
        (∃ turn, held.getLast? = some turn ∧ Command.parse turn.line = .exit) ∨ typed last = []) ∧
      ((∀ flaw, .error flaw ∉ typed start) → result = .ok ()) := by
  obtain ⟨held,conversed⟩ := converseConversed within s turns start enough
  exact ⟨held,_,_,rfl,conversed,conversedLines conversed,conversedHistory conversed,conversedExit conversed,
    conversedEnd conversed,conversedReadable conversed⟩

end Whole

end Turns

section Assembled

variable {W : Type}

theorem assembledReads (s : Surroundings W) {asksForInput : Bool} {config : Config.Components}
    {c : CommandLine.Collaborators W} (assembled : Engine.assemble (s.equipment asksForInput) config = .ok c) :
    c.Within (Engine.ofWorkplaces reading) := by
  refine Engine.assembledWithin (fun request => outsideReads (s.carrier request)) ?_ assembled
  intro ask given language
  obtain ⟨-,same⟩ := Option.ite_none_right_eq_some.mp given
  cases same
  exact requestReads language

def greeted (s : Surroundings W) (config : Config) : Session (Stage W) Interpreter.Compiled :=
  shown greeting { engine := Engine.openSession config.components (s.stage (linesOf s.input)) }

theorem greetedTyped (s : Surroundings W) (config : Config) : typed (greeted s config) = linesOf s.input :=
  shownTyped greeting _

def courseAfter (last : Session (Stage W) Interpreter.Compiled) : Except Text.Flaw Unit → CommandLine.Course W
  | .ok () => CommandLine.courseOf last.engine.world.outside 0
  | .error flaw =>
    let failure : CommandLine.Failure := ⟨flaw.message,[]⟩
    CommandLine.courseOf ((Console.complain failure.render).run last.engine.world.outside).2 1

theorem terminalConverses {s : Surroundings W} {config : Config} {c : CommandLine.Collaborators W}
    (assembled : Engine.assemble (s.equipment true) config.components = .ok c) :
    ∃ held result last, Conversed c (accessOf s) (greeted s config) held result last ∧
      CommandLine.runTerminal s config = .ok (courseAfter last result) := by
  have enough : (typed (greeted s config)).length < (linesOf s.input).length + 1 := by
    rw [greetedTyped]
    exact Nat.lt_succ_self _
  obtain ⟨held,conversed⟩ := converseConversed (assembledReads s assembled) s _ _ enough
  refine ⟨held,_,_,conversed,?_⟩
  have opened : ((inWorld (prompt.print greeting)).run
      { engine := Engine.openSession config.components (s.stage (linesOf s.input)) }).2 = greeted s config := rfl
  rw [CommandLine.runTerminal,assembled]
  change ((pure c : Except CommandLine.Failure _) >>= _) = _
  simp only [pure_bind,runBind,opened]
  obtain ⟨⟨result,last⟩,reached⟩ : ∃ reached,
      (converse c (accessOf s) prompt ((linesOf s.input).length + 1)).run (greeted s config) = reached := ⟨_,rfl⟩
  rw [reached]
  cases result with
  | ok _ => rfl
  | error flaw => rfl

end Assembled

def asking : Surroundings Unit where
  readScript := fun _ => [.print .log [.read "input" none]]
  translate := fun _ => none
  carrier := fun _ => pure (.error .notConnected)
  date := pure ""
  bindFault? := fun _ => none
  outside := ()

def settings : Config.Components := { interpreter := { bundlePath := some "python.wasm" } }

def opened : Session (Stage Unit) Interpreter.Compiled where
  engine := Engine.openSession settings
    (asking.stage [.ok "js input()",.ok "4",.ok "",.ok " ",.ok "exit",.ok "never"])

theorem inputBetweenCommands : ∃ c, Engine.assemble (asking.equipment true) settings = .ok c ∧
    c.Within (Engine.ofWorkplaces reading) ∧ (typed opened).length < 7 ∧
    ∃ held result last, (converse c (accessOf asking) prompt 7).run opened = (result,last) ∧
      Conversed c (accessOf asking) opened held result last ∧
      held.flatMap Turn.lines ++ stopLine result = [.ok "js input()",.ok "4",.ok "",.ok " ",.ok "exit"] ∧
      typed last = [.ok "never"] ∧ last.history = ["js input()","exit"] := by
  have assembled : Engine.assemble (asking.equipment true) settings = .ok _ := rfl
  have within := assembledReads asking assembled
  have enough : (typed opened).length < 7 := by decide
  refine ⟨_,assembled,within,enough,?_⟩
  obtain ⟨held,result,last,ran,conversed,lines,-⟩ := linesTakenInOrder within asking opened enough
  have left : typed last = [.ok "never"] := by
    rw [show last = _ from (congrArg Prod.snd ran).symm]
    decide +kernel
  refine ⟨held,result,last,ran,conversed,?_,left,?_⟩
  · rw [left] at lines
    exact List.append_cancel_right (lines.symm.trans rfl)
  · rw [show last = _ from (congrArg Prod.snd ran).symm]
    decide +kernel

end Playground.Terminal
