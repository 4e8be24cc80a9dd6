import Playground.Engine.Session

/-! What a report says of a program that printed nothing but line ends. Whether there was output is
decided on the entries of the transcript, and the message is their rendered text; a block loses one
line end before it is split into lines, so a block with more of them leaves entries without text. -/
namespace Playground

namespace Text

theorem stripEndIff (c : Char) (t rest : List Char) :
    stripEnd c t = rest ↔ t = rest ++ [c] ∨ t = rest ∧ t.getLast? ≠ some c := by
  unfold stripEnd
  by_cases ends : t.getLast? = some c
  · obtain ⟨front,rfl⟩ := List.getLast?_eq_some_iff.mp ends
    simp
  · rw [if_neg ends]
    constructor
    · exact fun same => .inr ⟨same,ends⟩
    · rintro (rfl | ⟨same,-⟩)
      · exact absurd List.getLast?_concat ends
      · exact same

theorem stripEndNil (c : Char) (t : List Char) : stripEnd c t = [] ↔ t = [] ∨ t = [c] := by
  rw [stripEndIff]
  constructor
  · rintro (single | ⟨none,-⟩)
    · exact .inr single
    · exact .inl none
  · rintro (rfl | rfl)
    · exact .inr ⟨rfl,by simp⟩
    · exact .inl rfl

theorem memStripEnd {c x : Char} {t : List Char} (found : x ∈ stripEnd c t) : x ∈ t := by
  unfold stripEnd at found
  split at found
  · exact List.dropLast_subset t found
  · exact found

theorem memIntercalate {mark part : List Char} {parts : List (List Char)} {x : Char}
    (member : part ∈ parts) (found : x ∈ part) : x ∈ mark.intercalate parts := by
  induction parts with
  | nil => contradiction
  | cons head rest ih =>
    cases rest with
    | nil =>
      obtain rfl := List.mem_singleton.mp member
      rwa [List.intercalate_singleton]
    | cons next rest =>
      rw [List.intercalate_cons_cons]
      rcases List.mem_cons.mp member with rfl | later
      · simp [found]
      · simp [ih later]

theorem intercalateMem {mark : List Char} {parts : List (List Char)} {x : Char}
    (found : x ∈ mark.intercalate parts) : x ∈ mark ∨ ∃ part ∈ parts, x ∈ part := by
  induction parts with
  | nil => simp at found
  | cons head rest ih =>
    cases rest with
    | nil =>
      rw [List.intercalate_singleton] at found
      exact .inr ⟨head,List.mem_cons_self,found⟩
    | cons next rest =>
      rw [List.intercalate_cons_cons] at found
      rcases List.mem_append.mp found with first | later
      · rcases List.mem_append.mp first with first | between
        · exact .inr ⟨head,List.mem_cons_self,first⟩
        · exact .inl between
      · rcases ih later with between | ⟨part,member,inside⟩
        · exact .inl between
        · exact .inr ⟨part,List.mem_cons_of_mem _ member,inside⟩

theorem memSplitOn {c x : Char} {t part : List Char} (member : part ∈ t.splitOn c) (found : x ∈ part) :
    x ∈ t := by
  have whole : [c].intercalate (t.splitOn c) = t := List.intercalate_splitOn c
  rw [← whole]
  exact memIntercalate member found

end Text

namespace Transcript

def idleTexts : List String := ["","\n","\r","\r\n"]

def hollowTexts : List String := ["\r\r","\r\r\n"]

theorem idleIff (text : String) : text ∈ idleTexts ↔
    text.toList = [] ∨ text.toList = ['\n'] ∨ text.toList = ['\r'] ∨ text.toList = ['\r','\n'] := by
  simp only [idleTexts,List.mem_cons,List.not_mem_nil,or_false,← String.toList_inj]
  exact Iff.rfl

theorem hollowIff (text : String) : text ∈ hollowTexts ↔
    text.toList = ['\r','\r'] ∨ text.toList = ['\r','\r','\n'] := by
  simp only [hollowTexts,List.mem_cons,List.not_mem_nil,or_false,← String.toList_inj]
  exact Iff.rfl

def body (block : List Char) : List Char := Text.stripEnd '\r' (Text.stripEnd '\n' block)

theorem blockLinesBody (block : List Char) : blockLines block =
    if body block = [] then [] else ((body block).splitOn '\n').map (Text.stripEnd '\r') := by
  unfold blockLines body
  cases Text.stripEnd '\r' (Text.stripEnd '\n' block) with
  | nil => rfl
  | cons c rest => rfl

theorem bodyIdle (text : String) : body text.toList = [] ↔ text ∈ idleTexts := by
  rw [idleIff,body,Text.stripEndNil,Text.stripEndNil,Text.stripEndIff]
  constructor
  · rintro ((none | one) | (both | ⟨one,-⟩))
    · exact .inl none
    · exact .inr (.inl one)
    · exact .inr (.inr (.inr both))
    · exact .inr (.inr (.inl one))
  · rintro (none | one | one | both)
    · exact .inl (.inl none)
    · exact .inl (.inr one)
    · exact .inr (.inr ⟨one,by simp [one]⟩)
    · exact .inr (.inl both)

theorem bodyHollow (text : String) : body text.toList = ['\r'] ↔ text ∈ hollowTexts := by
  rw [hollowIff,body,Text.stripEndIff]
  constructor
  · rintro (two | ⟨one,other⟩)
    · rcases (Text.stripEndIff '\n' text.toList _).mp two with ended | ⟨plain,-⟩
      · exact .inr ended
      · exact .inl plain
    · exact absurd (by rw [one]; rfl) other
  · rintro (two | three)
    · exact .inl ((Text.stripEndIff '\n' text.toList _).mpr (.inr ⟨two,by rw [two]; decide⟩))
    · exact .inl ((Text.stripEndIff '\n' text.toList _).mpr (.inl three))

theorem noLines (text : String) : blockLines text.toList = [] ↔ text ∈ idleTexts := by
  rw [blockLinesBody,← bodyIdle]
  split
  · simp [*]
  · simp [*,List.splitOn_ne_nil]

theorem oneHollowLine (text : String) : blockLines text.toList = [[]] ↔ text ∈ hollowTexts := by
  rw [blockLinesBody,← bodyHollow]
  constructor
  · intro hollow
    split at hollow
    · contradiction
    · rename_i some
      obtain ⟨part,parts,stripped⟩ := List.map_eq_singleton_iff.mp hollow
      have joined : ['\n'].intercalate ((body text.toList).splitOn '\n') = body text.toList :=
        List.intercalate_splitOn '\n'
      have whole : part = body text.toList := by
        rw [← joined,parts,List.intercalate_singleton]
      rcases (Text.stripEndNil '\r' part).mp stripped with none | one
      · exact absurd (whole ▸ none) some
      · exact whole ▸ one
  · intro one
    rw [one]
    rfl

abbrev Block := Stream × String

def blockEntries (block : Block) : List Block :=
  (blockLines block.2.toList).map fun line => (block.1,String.ofList line)

def ofBlocks (blocks : List Block) : Transcript :=
  blocks.foldl (fun t (stream,text) => t.pushBlock stream text) {}

theorem pushedEntries (blocks : List Block) (start : Transcript) :
    (blocks.foldl (fun t (stream,text) => t.pushBlock stream text) start).entries =
      start.entries ++ blocks.flatMap blockEntries := by
  induction blocks generalizing start with
  | nil => simp
  | cons block rest ih =>
    rw [List.foldl_cons,ih,List.flatMap_cons,← List.append_assoc]
    rfl

theorem ofBlocksEntries (blocks : List Block) : (ofBlocks blocks).entries = blocks.flatMap blockEntries :=
  pushedEntries blocks {}

theorem noEntries (block : Block) : blockEntries block = [] ↔ block.2 ∈ idleTexts := by
  rw [blockEntries,List.map_eq_nil_iff,noLines]

theorem oneHollowEntry (block : Block) :
    blockEntries block = [(.stdout,"")] ↔ block.1 = .stdout ∧ block.2 ∈ hollowTexts := by
  obtain ⟨stream,text⟩ := block
  rw [← oneHollowLine]
  constructor
  · intro single
    obtain ⟨line,lines,same⟩ := List.map_eq_singleton_iff.mp single
    obtain ⟨rfl,empty⟩ := Prod.mk.inj same
    have none : line = [] := by simpa using congrArg String.toList empty
    exact ⟨rfl,none ▸ lines⟩
  · rintro ⟨own,lines⟩
    have own : stream = .stdout := own
    have lines : blockLines text.toList = [[]] := lines
    rw [blockEntries,own,lines]
    rfl

theorem flatMapSingleton {α β : Type} (f : α → List β) (parts : List α) (b : β) :
    parts.flatMap f = [b] ↔ ∃ before part after, parts = before ++ part :: after ∧ f part = [b] ∧
      ∀ other ∈ before ++ after, f other = [] := by
  constructor
  · intro single
    induction parts with
    | nil => contradiction
    | cons head rest ih =>
      rw [List.flatMap_cons] at single
      rcases List.append_eq_singleton_iff.mp single with ⟨none,later⟩ | ⟨here,none⟩
      · obtain ⟨before,part,after,rfl,own,others⟩ := ih later
        exact ⟨head :: before,part,after,rfl,own,List.forall_mem_cons.mpr ⟨none,others⟩⟩
      · exact ⟨[],head,rest,rfl,here,List.flatMap_eq_nil_iff.mp none⟩
  · rintro ⟨before,part,after,rfl,own,others⟩
    obtain ⟨front,back⟩ := List.forall_mem_append.mp others
    rw [List.flatMap_append,List.flatMap_cons,List.flatMap_eq_nil_iff.mpr front,own,
      List.flatMap_eq_nil_iff.mpr back]
    rfl

theorem renderEmpty (t : Transcript) : t.render = "" ↔ t.entries = [] ∨ t.entries = [(.stdout,"")] := by
  obtain ⟨entries⟩ := t
  match entries with
  | [] => exact ⟨fun _ => .inl rfl,fun _ => rfl⟩
  | [(stream,text)] =>
    simp only [render,List.map_cons,List.map_nil,String.intercalate_singleton]
    cases stream <;> simp [Stream.label]
  | first :: second :: rest =>
    simp only [render,List.map_cons,String.intercalate_cons_cons]
    simp

def Hollow (blocks : List Block) : Prop :=
  ∃ before text after, blocks = before ++ (.stdout,text) :: after ∧ text ∈ hollowTexts ∧
    ∀ other ∈ before ++ after, other.2 ∈ idleTexts

theorem hollowEntries (blocks : List Block) :
    (ofBlocks blocks).entries = [(.stdout,"")] ↔ Hollow blocks := by
  rw [ofBlocksEntries,flatMapSingleton]
  simp only [oneHollowEntry,noEntries]
  constructor
  · rintro ⟨before,⟨stream,text⟩,after,split,⟨rfl,hollow⟩,others⟩
    exact ⟨before,text,after,split,hollow,others⟩
  · rintro ⟨before,text,after,split,hollow,others⟩
    exact ⟨before,_,after,split,⟨rfl,hollow⟩,others⟩

theorem idleEntries (blocks : List Block) :
    (ofBlocks blocks).entries = [] ↔ ∀ block ∈ blocks, block.2 ∈ idleTexts := by
  rw [ofBlocksEntries,List.flatMap_eq_nil_iff]
  simp only [noEntries]

theorem emptyMessageShown (status : Status) (language : String) :
    ')' ∈ (emptyMessage status language).toList := by
  cases status <;> exact String.toList_append ▸ List.mem_append_right _ (by decide)

theorem messageEmpty (t : Transcript) (status : Status) (language : String) :
    (t.report status language).message = "" ↔ t.entries = [(.stdout,"")] := by
  unfold report isEmpty
  cases entries : t.entries with
  | nil =>
    have shown : emptyMessage status language ≠ "" := fun none => by
      simpa [none] using emptyMessageShown status language
    simp [shown]
  | cons entry rest =>
    simp only [List.isEmpty_cons,Bool.false_eq_true,if_false]
    rw [renderEmpty,entries]
    simp

def LineEnds (text : String) : Prop := ∀ c ∈ text.toList, c = '\n' ∨ c = '\r'
instance (text) : Decidable (LineEnds text) := List.decidableBAll _ text.toList

theorem entryLineEnds {block entry : Block} (ends : LineEnds block.2) (member : entry ∈ blockEntries block) :
    LineEnds entry.2 := by
  obtain ⟨line,inside,rfl⟩ := List.mem_map.mp member
  intro c found
  have found : c ∈ line := by simpa using found
  refine ends c ?_
  rw [blockLinesBody] at inside
  split at inside
  · contradiction
  · obtain ⟨part,piece,rfl⟩ := List.mem_map.mp inside
    exact Text.memStripEnd (Text.memStripEnd (Text.memSplitOn piece (Text.memStripEnd found)))

theorem renderChars {t : Transcript} {c : Char} (found : c ∈ t.render.toList) :
    c = '\n' ∨ ∃ entry ∈ t.entries, c ∈ entry.1.label.toList ∨ c ∈ entry.2.toList := by
  rw [render,String.toList_intercalate] at found
  rcases Text.intercalateMem found with between | ⟨part,member,inside⟩
  · exact .inl (List.mem_singleton.mp between)
  · rw [List.map_map] at member
    obtain ⟨entry,entered,rfl⟩ := List.mem_map.mp member
    exact .inr ⟨entry,entered,List.mem_append.mp (String.toList_append ▸ inside)⟩

theorem entriesLineEnds {blocks : List Block} (ends : ∀ block ∈ blocks, LineEnds block.2) :
    ∀ entry ∈ (ofBlocks blocks).entries, LineEnds entry.2 := by
  intro entry member
  rw [ofBlocksEntries] at member
  obtain ⟨block,own,inside⟩ := List.mem_flatMap.mp member
  exact entryLineEnds (ends block own) inside

theorem filledMessage {t : Transcript} (status : Status) (language : String) (filled : t.entries ≠ []) :
    (t.report status language).message = t.render := by
  simp [report,isEmpty,filled]

structure LineEndsTold (message language : String) (blocks : List Block) : Prop where
  fixed : message = emptyMessage .success language ↔ ∀ block ∈ blocks, block.2 ∈ idleTexts
  bare : (∀ block ∈ blocks, block.1 ≠ .stdout → block.2 ∈ idleTexts) →
    (∃ block ∈ blocks, block.2 ∉ idleTexts) → LineEnds message

theorem unfixedRender {t : Transcript} (language : String) (ends : ∀ entry ∈ t.entries, LineEnds entry.2) :
    t.render ≠ emptyMessage .success language := by
  intro same
  have found : ')' ∈ t.render.toList := same ▸ emptyMessageShown .success language
  rcases renderChars found with between | ⟨⟨stream,text⟩,member,label | inside⟩
  · contradiction
  · have plain : ')' ∉ stream.label.toList := by cases stream <;> decide
    exact plain label
  · exact absurd (ends _ member _ inside) (by decide)

theorem bareRender {t : Transcript} (ends : ∀ entry ∈ t.entries, LineEnds entry.2)
    (plain : ∀ entry ∈ t.entries, entry.1 = .stdout) : LineEnds t.render := by
  intro c found
  rcases renderChars found with between | ⟨entry,member,label | inside⟩
  · exact .inl between
  · rw [plain entry member] at label
    exact absurd label (List.not_mem_nil)
  · exact ends entry member c inside

theorem stdoutEntries {blocks : List Block} (others : ∀ block ∈ blocks, block.1 ≠ .stdout → block.2 ∈ idleTexts) :
    ∀ entry ∈ (ofBlocks blocks).entries, entry.1 = .stdout := by
  intro entry member
  rw [ofBlocksEntries] at member
  obtain ⟨block,own,inside⟩ := List.mem_flatMap.mp member
  obtain ⟨line,-,rfl⟩ := List.mem_map.mp inside
  refine Classical.byContradiction fun other => ?_
  rw [(noEntries block).mpr (others block own other)] at inside
  contradiction

theorem lineEndsTold {blocks : List Block} (language : String) (ends : ∀ block ∈ blocks, LineEnds block.2) :
    LineEndsTold ((ofBlocks blocks).report .success language).message language blocks := by
  have inner := entriesLineEnds ends
  by_cases idle : ∀ block ∈ blocks, block.2 ∈ idleTexts
  · have none := (idleEntries blocks).mpr idle
    have fixed : ((ofBlocks blocks).report .success language).message = emptyMessage .success language := by
      simp [report,isEmpty,none]
    refine ⟨⟨fun _ => idle,fun _ => fixed⟩,?_⟩
    rintro - ⟨block,own,filled⟩
    exact absurd (idle block own) filled
  · rw [filledMessage .success language fun none => idle ((idleEntries blocks).mp none)]
    exact ⟨⟨fun fixed => absurd fixed (unfixedRender language inner),fun all => absurd all idle⟩,
      fun others _ => bareRender inner (stdoutEntries others)⟩

end Transcript

namespace Engine
open Transcript (Hollow LineEnds LineEndsTold hollowTexts idleTexts)

theorem thrownMessage {outcome : ScriptOutcome} {message : String} (thrown : outcome.error = some message) :
    outcome.report.message = "JavaScript Error: " ++ message := by
  unfold ScriptOutcome.report
  rw [thrown]
  simp only
  split <;> rfl

theorem returnedMessage {outcome : ScriptOutcome} {value : String} (ended : outcome.error = none)
    (returned : outcome.value = some value) :
    outcome.report.message ≠ "" := by
  unfold ScriptOutcome.report
  rw [ended,returned]
  intro empty
  rcases List.append_eq_singleton_iff.mp ((Transcript.messageEmpty _ _ _).mp empty) with ⟨-,last⟩ | ⟨-,last⟩
  · cases last
  · cases last

theorem plainReport {outcome : ScriptOutcome} (ended : outcome.error = none) (unvalued : outcome.value = none) :
    outcome.report = (Transcript.ofBlocks outcome.logs).report .success "JavaScript" := by
  unfold ScriptOutcome.report
  rw [ended,unvalued]
  rfl

theorem scriptMessageEmpty (outcome : ScriptOutcome) :
    outcome.report.message = "" ↔ outcome.error = none ∧ outcome.value = none ∧ Hollow outcome.logs := by
  cases ended : outcome.error with
  | some message => simp [thrownMessage ended]
  | none =>
    cases returned : outcome.value with
    | some value => simp [returnedMessage ended returned]
    | none =>
      rw [plainReport ended returned,Transcript.messageEmpty,Transcript.hollowEntries]
      simp

end Engine

namespace Interpreter.Output
open Transcript (Hollow hollowTexts idleTexts)

def printed (output : Output) : List Transcript.Block :=
  [(.stdout,output.stdout),(.stderr,output.stderr)]

def status (output : Output) : Status := if output.succeeded then .success else .error

theorem reportedMessage (output : Output) (language : String) :
    (output.report language).message =
      ((Transcript.ofBlocks output.printed).report output.status language).message := by
  have exited : (output.exitReport language).message =
      ((Transcript.ofBlocks output.printed).report output.status language).message := by
    unfold exitReport status succeeded
    cases output.exit with
    | code value =>
      by_cases zero : value = 0
      · subst zero
        rfl
      · have failed : (Exit.code value == Exit.code 0) = false := by simp [zero]
        simp only [zero,failed,if_false]
        rfl
    | trap message => rfl
    | outOfFuel => rfl
  unfold report
  cases output.fuelConsumed <;> exact exited

theorem printedHollow (output : Output) :
    Hollow output.printed ↔ output.stdout ∈ hollowTexts ∧ output.stderr ∈ idleTexts := by
  constructor
  · rintro ⟨before,text,after,split,hollow,others⟩
    match before with
    | [] =>
      obtain ⟨own,rest⟩ := List.cons.inj split
      cases own
      exact ⟨hollow,others _ (rest ▸ List.mem_cons_self)⟩
    | [first] =>
      obtain ⟨second,-⟩ := List.cons.inj (List.cons.inj split).2
      cases second
    | _ :: _ :: _ =>
      obtain ⟨-,none⟩ := List.cons.inj (List.cons.inj split).2
      exact absurd none.symm (by simp)
  · rintro ⟨hollow,idle⟩
    exact ⟨[],output.stdout,[(.stderr,output.stderr)],rfl,hollow,by simpa using idle⟩

end Interpreter.Output

namespace Engine
open Transcript (Hollow LineEnds LineEndsTold hollowTexts idleTexts)

/- Exactly which runs are told by an empty message, and what is told of those that print line ends alone. -/
theorem emptyMessagesTold (outcome : ScriptOutcome) (output : Interpreter.Output) :
    let script := (scriptReport (.ok outcome)).message
    let guest := (guestReport (.ok output)).message
    (script = "" ↔ outcome.error = none ∧ outcome.value = none ∧ Hollow outcome.logs) ∧
    (guest = "" ↔ output.stdout ∈ hollowTexts ∧ output.stderr ∈ idleTexts) ∧
    (outcome.error = none → outcome.value = none → (∀ log ∈ outcome.logs, LineEnds log.2) →
      LineEndsTold script "JavaScript" outcome.logs) ∧
    (output.exit = .code 0 → (∀ stream ∈ output.printed, LineEnds stream.2) →
      LineEndsTold guest "Python" output.printed) := by
  intro script guest
  have told : guest = ((Transcript.ofBlocks output.printed).report output.status "Python").message :=
    output.reportedMessage "Python"
  refine ⟨scriptMessageEmpty outcome,?_,?_,?_⟩
  · rw [told,Transcript.messageEmpty,Transcript.hollowEntries,output.printedHollow]
  · intro ended unvalued ends
    have told : script = ((Transcript.ofBlocks outcome.logs).report .success "JavaScript").message :=
      congrArg Report.message (plainReport ended unvalued)
    rw [told]
    exact Transcript.lineEndsTold "JavaScript" ends
  · intro ended ends
    have success : output.status = .success := by
      simp [Interpreter.Output.status,Interpreter.Output.succeeded,ended]
    rw [told,success]
    exact Transcript.lineEndsTold "Python" ends

def breaking : ScriptOutcome := { logs := [(.stdout,"\n\n"),(.stderr,"\r")] }

def returning : Interpreter.Output := { stdout := "\r\r", stderr := "\n" }

theorem breaksShownBare :
    let script := (scriptReport (.ok breaking)).message
    (script ≠ Transcript.emptyMessage .success "JavaScript" ∧ script ≠ "" ∧ LineEnds script) ∧
      (guestReport (.ok returning)).message = "" := by
  intro script
  obtain ⟨scriptEmpty,guestEmpty,scriptTold,-⟩ := emptyMessagesTold breaking returning
  have ends : ∀ log ∈ breaking.logs, LineEnds log.2 := by decide
  have filled : ∃ log ∈ breaking.logs, log.2 ∉ idleTexts := ⟨_,List.mem_cons_self,by decide⟩
  obtain ⟨fixed,bare⟩ := scriptTold rfl rfl ends
  refine ⟨⟨?_,?_,bare (by decide) filled⟩,guestEmpty.mpr (by decide)⟩
  · exact fun same => absurd (fixed.mp same) (by decide)
  · intro empty
    exact absurd ((Transcript.hollowEntries _).mpr (scriptEmpty.mp empty).2.2) (by decide)

theorem doubledLineEndsShown :
    let script (text : String) := (scriptReport (.ok { logs := [(.stdout,text)] })).message
    let guest (text : String) := (guestReport (.ok { stdout := text })).message
    script "\r\r" = "" ∧ script "\n\n" = "\n" ∧ guest "\r\r" = "" ∧ guest "\n\n" = "\n" := by
  decide

end Engine
end Playground
