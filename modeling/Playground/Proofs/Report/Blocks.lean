import Playground.Proofs.Report.Messages
import Playground.Proofs.Text.Lines

/-! The entries of a captured text. The text is split at its newlines once one line end has been
dropped from its very end, not all of them: what is left of further ones is split off as lines of its
own. -/
namespace Playground.Transcript

def isLineEnd (c : Char) : Bool := c == '\n' || c == '\r'

def said (block : List Char) : List Char := Text.dropEndWhile isLineEnd block

def trailing (block : List Char) : List Char := (block.reverse.takeWhile isLineEnd).reverse

def linesWithin (text : List Char) : List (List Char) :=
  if text = [] then [] else (text.splitOn '\n').map (Text.stripEnd '\r')

theorem saidTrailing (block : List Char) : said block ++ trailing block = block := by
  rw [said,Text.dropEndWhile,trailing,← List.reverse_append,List.takeWhile_append_dropWhile,List.reverse_reverse]

theorem saidOpen {x : Char} (ends : isLineEnd x = true) (block : List Char) : (said block).getLast? ≠ some x := by
  intro last
  rw [said,Text.dropEndWhile,List.getLast?_reverse] at last
  have first := List.head?_dropWhile_not isLineEnd block.reverse
  rw [last] at first
  simp [ends] at first

theorem trailingEnds (block : List Char) : LineEnds (String.ofList (trailing block)) := by
  intro c member
  rw [String.toList_ofList,trailing,List.mem_reverse] at member
  have ends : isLineEnd c = true := List.all_eq_true.mp List.all_takeWhile c member
  simpa [isLineEnd] using ends

theorem bodySaid (block : List Char) : body block = said block ++ body (trailing block) := by
  have whole := saidTrailing block
  conv => lhs; rw [← whole]
  rw [body,body,Text.stripEndBehind (saidOpen (by decide) block),Text.stripEndBehind (saidOpen (by decide) block)]

theorem blockLinesWithin (block : List Char) :
    blockLines block = linesWithin (said block ++ body (trailing block)) := by
  rw [blockLinesBody,bodySaid]
  rfl

theorem lineUnbroken {text line : List Char} (member : line ∈ linesWithin text) : '\n' ∉ line := by
  unfold linesWithin at member
  split at member
  · contradiction
  · obtain ⟨part,piece,rfl⟩ := List.mem_map.mp member
    exact fun found => Text.splitUnbroken piece (Text.memStripEnd found)

theorem linesContinued {block : List Char} (filled : said block ≠ []) : ∃ lines last,
    linesWithin (said block) = lines ++ [last] ∧ ∀ back,
      linesWithin (said block ++ back) =
        lines ++ ((back.splitOn '\n').modifyHead (last ++ ·)).map (Text.stripEnd '\r') := by
  obtain ⟨lines,last,parts,suffix,continued⟩ := Text.splitContinued '\n' (said block)
  have kept : Text.stripEnd '\r' last = last := by
    refine (Text.stripEndIff '\r' last last).mpr (.inr ⟨rfl,fun ends => ?_⟩)
    obtain ⟨front,whole⟩ := suffix
    have some : last ≠ [] := fun none => by simp [none] at ends
    refine saidOpen (x := '\r') (by decide) block ?_
    rw [← whole,Text.lastBehind front some,ends]
  refine ⟨lines.map (Text.stripEnd '\r'),last,?_,fun back => ?_⟩
  · rw [linesWithin,if_neg filled,parts,List.map_append,List.map_singleton,kept]
  · rw [linesWithin,if_neg (List.append_ne_nil_of_left_ne_nil filled back),continued,List.map_append]

theorem linesSame {block : List Char} (filled : said block ≠ []) (back : List Char) :
    linesWithin (said block ++ back) = linesWithin (said block) ↔ back = [] ∨ back = ['\r'] := by
  obtain ⟨lines,last,own,continued⟩ := linesContinued filled
  constructor
  · intro same
    rw [own,continued,List.append_cancel_left_eq] at same
    obtain ⟨part,parts,stripped⟩ := List.map_eq_singleton_iff.mp same
    cases split : back.splitOn '\n' with
    | nil => exact absurd split (List.splitOn_ne_nil '\n' back)
    | cons head rest =>
      rw [split,List.modifyHead_cons] at parts
      obtain ⟨rfl,rfl⟩ := List.cons_eq_cons.mp parts
      obtain ⟨rfl,-⟩ := Text.splitSingle.mp split
      rcases (Text.stripEndIff '\r' _ last).mp stripped with returned | ⟨unended,-⟩
      · exact .inr (List.append_cancel_left returned)
      · exact .inl (by simpa using unended)
  · rintro (rfl | rfl)
    · rw [List.append_nil]
    · have stripped : Text.stripEnd '\r' (last ++ ['\r']) = last :=
        (Text.stripEndIff '\r' _ last).mpr (.inl rfl)
      rw [own,continued,show ['\r'].splitOn '\n' = [['\r']] from rfl,List.modifyHead_cons,List.map_singleton,stripped]

theorem newlinesEntered {block : List Char} (filled : said block ≠ []) {count : Nat}
    (newlines : trailing block = List.replicate (count + 1) '\n') :
    blockLines block = linesWithin (said block) ++ List.replicate count [] := by
  have left : body (trailing block) = List.replicate count '\n' := by
    have ended : Text.stripEnd '\n' (trailing block) = List.replicate count '\n' := by
      rw [newlines,List.replicate_succ']
      exact (Text.stripEndIff '\n' _ _).mpr (.inl rfl)
    rw [body,ended]
    refine (Text.stripEndIff '\r' _ _).mpr (.inr ⟨rfl,fun last => ?_⟩)
    have member := List.eq_of_mem_replicate (List.mem_of_getLast? last)
    exact absurd member (by decide)
  have split : (List.replicate count '\n').splitOn '\n' = List.replicate (count + 1) [] := by
    clear newlines left
    induction count with
    | zero => rfl
    | succ count ih =>
      rw [List.replicate_succ,List.splitOn_cons_eq_if_modifyHead,ih]
      rfl
  obtain ⟨lines,last,own,continued⟩ := linesContinued filled
  have whole := continued []
  rw [List.append_nil,own] at whole
  have kept : Text.stripEnd '\r' last = last := by simpa using whole.symm
  have bare : Text.stripEnd '\r' [] = [] := rfl
  rw [blockLinesWithin,left,continued,split,own,List.replicate_succ,List.modifyHead_cons]
  simp [kept,bare]

/- The lines are those of the text without its trailing line ends where it says something and one line end
follows at most, or a carriage return before that, and where there is nothing but one line end. -/
theorem linesDue (block : List Char) : blockLines block = linesWithin (said block) ↔
    String.ofList (trailing block) ∈ idleTexts ∨
      said block ≠ [] ∧ String.ofList (trailing block) ∈ hollowTexts := by
  rw [blockLinesWithin,← bodyIdle,← bodyHollow,String.toList_ofList]
  by_cases empty : said block = []
  · rw [empty,List.nil_append]
    unfold linesWithin
    split <;> simp [*]
  · rw [linesSame empty]
    simp [empty]

def entriesOf (stream : Stream) (lines : List (List Char)) : List Block :=
  lines.map fun line => (stream,String.ofList line)

theorem entriesInjective {stream : Stream} {lines others : List (List Char)} :
    entriesOf stream lines = entriesOf stream others ↔ lines = others := by
  refine List.map_inj_right fun line other same => ?_
  exact String.ofList_injective (Prod.mk.inj same).2

/- What a block says and the line ends behind it; the entries that it comes to; and where they are the lines
of what it says and nothing more. -/
theorem lineEndsDroppedOnce (t : Transcript) (stream : Stream) (block : String) :
    let text := said block.toList
    let ends := trailing block.toList
    let pushed := t.pushBlock stream block
    (text ++ ends = block.toList ∧ LineEnds (String.ofList ends) ∧
      ∀ c ∈ text.getLast?, c ≠ '\n' ∧ c ≠ '\r') ∧
    pushed.entries = t.entries ++ entriesOf stream (linesWithin (text ++ body ends)) ∧
    (∀ line ∈ linesWithin (text ++ body ends), '\n' ∉ line) ∧
    (pushed.entries = t.entries ++ entriesOf stream (linesWithin text) ↔
      String.ofList ends ∈ idleTexts ∨ text ≠ [] ∧ String.ofList ends ∈ hollowTexts) ∧
    (∀ count, text ≠ [] → ends = List.replicate (count + 1) '\n' →
      pushed.entries = t.entries ++ entriesOf stream (linesWithin text ++ List.replicate count [])) ∧
    (pushed = t ↔ block ∈ idleTexts) := by
  intro text ends pushed
  have entered : pushed.entries = t.entries ++ entriesOf stream (blockLines block.toList) := rfl
  have lines : blockLines block.toList = linesWithin (text ++ body ends) := blockLinesWithin block.toList
  refine ⟨⟨saidTrailing block.toList,trailingEnds block.toList,fun c last => ?_⟩,lines ▸ entered,
    fun line => lineUnbroken,?_,fun count filled newlines => ?_,?_⟩
  · constructor
    · rintro rfl
      exact saidOpen (by decide) block.toList last
    · rintro rfl
      exact saidOpen (by decide) block.toList last
  · rw [entered,List.append_cancel_left_eq,entriesInjective]
    exact linesDue block.toList
  · rw [entered,newlinesEntered filled newlines]
  · rw [← noLines]
    constructor
    · rintro same
      have none := congrArg Transcript.entries same
      rw [entered] at none
      simpa [entriesOf] using none
    · intro none
      have kept : pushed.entries = t.entries := by rw [entered,none]; simp [entriesOf]
      exact congrArg Transcript.mk kept

theorem furtherNewlinesEntered :
    let pushed (text : String) := (({} : Transcript).pushBlock .stdout text).entries
    (linesWithin (said "a\n\n".toList) = [['a']] ∧ pushed "a\n\n" = [(.stdout,"a"),(.stdout,"")]) ∧
    (linesWithin (said "\n\n".toList) = [] ∧ pushed "\n\n" = [(.stdout,""),(.stdout,"")]) := by
  decide

end Playground.Transcript
