import Playground.Proofs.Check.Comments

/-! Lines that end with their semicolon. A line is cut at its first double slash before its end is
looked at, and literals are cut as well. Main statement: a line without comments is cited exactly if
such a cut leaves an end that does not count, and the line is taken for a statement that does not go
on. -/
namespace Playground.Check.Java
open Text (trim trimStart trimEnd isBlank FirstAt)

theorem stripComment (c : Char) (rest : List Char) : (strip .comment (c :: rest)).1.length ≤ rest.length := by
  unfold strip
  split
  any_goals contradiction
  · rename_i same
    cases same
    exact Nat.le_succ_of_le (stripLength _ _)
  · rename_i same
    cases same
    exact stripLength _ _

theorem commentUnbare (c : Char) (rest : List Char) : (strip .comment (c :: rest)).1 ≠ c :: rest := fun bare => by
  have short := stripComment c rest
  rw [bare] at short
  exact Nat.not_succ_le_self _ short

theorem openedUnbare (rest : List Char) : (strip .code ('/' :: '*' :: rest)).1 ≠ '/' :: '*' :: rest := fun bare => by
  have short := stripLength .comment rest
  rw [show strip .comment rest = strip .code ('/' :: '*' :: rest) from rfl,bare] at short
  exact Nat.not_succ_le_self _ (Nat.le_of_succ_le short)

theorem bareOutside {inside : Bool} {line : List Char} (bare : (stripLine inside line).1 = line) (filled : line ≠ []) :
    inside = false := by
  cases inside with
  | false => rfl
  | true =>
    cases line with
    | nil => exact absurd rfl filled
    | cons c rest => exact absurd bare (commentUnbare c rest)

theorem bareUnmarked {line : List Char} (bare : (strip .code line).1 = line) :
    ¬ Begins line ∧ ¬ ['/','/'] <+: trim line := by
  have parts : line.takeWhile isBlank ++ trimStart line = line := List.takeWhile_append_dropWhile
  have front : (strip .code (trimStart line)).1 = trimStart line := by
    have whole := bare
    rw [stripBlanks] at whole
    exact List.append_cancel_left (whole.trans parts.symm)
  refine ⟨fun begins => ?_,fun comment => ?_⟩
  · obtain ⟨rest,whole⟩ := (beginsIff line).mp begins
    rw [← whole] at front
    exact openedUnbare rest front
  · obtain ⟨rest,whole⟩ := (markTrimmed (by decide) line).mp comment
    rw [← whole] at front
    cases front

theorem bareStarred {line : List Char} (bare : (strip .code line).1 = line) (shown : trim line ≠ []) :
    isCommentLine (trim line) = ['*'].isPrefixOf (trim line) := by
  have filled : (trim line).isEmpty = false := by simpa using shown
  have slashes : ['/','/'].isPrefixOf (trim line) = false :=
    Bool.eq_false_iff.mpr fun starts => (bareUnmarked bare).2 (List.isPrefixOf_iff_prefix.mp starts)
  rw [isCommentLine,filled,slashes]
  rfl

theorem bareLiteral {region : Region} {before : List Char} (after : List Char)
    (bare : (strip region (before ++ '/' :: '/' :: after)).1 = before ++ '/' :: '/' :: after) :
    (strip region before).2 = .literal := by
  fun_induction strip region before with
  | case1 region =>
    cases region with
    | code => cases bare
    | literal => rfl
    | comment => exact absurd bare (commentUnbare _ _)
  | case2 rest => cases bare
  | case3 rest ih => exact absurd bare (openedUnbare _)
  | case4 c rest line block ih =>
    have noLine (more : List Char) (first : c = '/') (second : rest ++ '/' :: '/' :: after = '/' :: more) : False := by
      subst first
      cases rest with
      | nil => cases bare
      | cons d rest =>
        obtain ⟨rfl,-⟩ := List.cons_eq_cons.mp second
        exact line rest rfl rfl
    have noBlock (more : List Char) (first : c = '/') (second : rest ++ '/' :: '/' :: after = '*' :: more) : False := by
      cases rest with
      | nil => cases second
      | cons d rest =>
        obtain ⟨rfl,-⟩ := List.cons_eq_cons.mp second
        exact block rest first rfl
    rw [List.cons_append,strip] at bare
    · exact ih (List.cons_eq_cons.mp bare).2
    · exact noLine
    · exact noBlock
  | case5 c rest ih =>
    have inner := List.cons_eq_cons.mp (List.cons_eq_cons.mp bare).2
    exact ih inner.2
  | case6 c rest escaped ih =>
    by_cases lone : c = '\\' ∧ rest = []
    · obtain ⟨rfl,rfl⟩ := lone
      rfl
    · have unescaped (d : Char) (more : List Char) (first : c = '\\')
          (second : rest ++ '/' :: '/' :: after = d :: more) : False := by
        cases rest with
        | nil => exact lone ⟨first,rfl⟩
        | cons e rest => exact escaped e rest first rfl
      rw [List.cons_append,strip] at bare
      · exact ih (List.cons_eq_cons.mp bare).2
      · exact unescaped
  | case7 rest ih => exact absurd bare (commentUnbare _ _)
  | case8 c rest closed ih => exact absurd bare (commentUnbare _ _)

def Statement (line : List Char) : Prop :=
  ['*'].isPrefixOf line = false ∧ Text.matchesAt controlStart none line = false ∧ Text.occurs statementWords line = true

theorem cutEnds {line : List Char} (ended : line.getLast? = some ';') :
    endsWithOneOf endMarks (codeOf line) = false ↔
      ∃ before after, FirstAt ['/','/'] line before after ∧ endsWithOneOf endMarks (trimEnd before) = false := by
  unfold codeOf
  cases cut : Text.splitOnce ['/','/'] line with
  | none =>
    have whole : trimEnd line = line := by
      obtain ⟨front,rfl⟩ := List.getLast?_eq_some_iff.mp ended
      exact Text.dropEndStops (by decide) front []
    have counts : endsWithOneOf endMarks (trimEnd line) = true := by
      rw [whole,endsWithOneOf,ended]
      decide
    have nowhere : ¬ ['/','/'] <:+: line := (Text.splitOnceNone line).mp cut
    simp only [counts]
    refine iff_of_false (by decide) fun ⟨before,after,place,_⟩ => nowhere ⟨before,after,place.parts.symm⟩
  | some parts =>
    obtain ⟨before,after⟩ := parts
    have place := (Text.splitOnceIff (by decide) line before after).mp cut
    refine ⟨fun fails => ⟨before,after,place,fails⟩,fun ⟨front,back,other,fails⟩ => ?_⟩
    have same := (Text.splitOnceIff (by decide) line front back).mpr other
    rw [cut] at same
    cases same
    exact fails

/- Over the lines of which nothing is in a comment, so all their double slashes are in literals. -/
theorem terminatedLinesCitedIfCut (source : String) {index : Nat} {line : List Char}
    (found : (Text.lines source.toList)[index]? = some line)
    (bare : (stripLine (commented (Text.lines source.toList) index) line).1 = line)
    (ended : (trim line).getLast? = some ';') :
    (∀ before after, line = before ++ '/' :: '/' :: after → (strip .code before).2 = .literal) ∧
    (Cites source (index + 1) ↔
      (∃ before after, FirstAt ['/','/'] (trim line) before after ∧ endsWithOneOf endMarks (trimEnd before) = false) ∧
      Statement (trim line) ∧ continues ((Text.lines source.toList).drop (index + 1)) = false) := by
  have shown : trim line ≠ [] := fun empty => by
    rw [empty] at ended
    cases ended
  have filled : line ≠ [] := fun empty => shown (by rw [empty]; rfl)
  have outside : commented (Text.lines source.toList) index = false := bareOutside bare filled
  rw [outside] at bare
  have unpassed : passing (Text.lines source.toList) index = false := by
    refine Bool.eq_false_iff.mpr fun passed => ?_
    rw [passingCommented passed] at outside
    cases outside
  have unbegun := (bareUnmarked bare).1
  have shape := bareStarred bare shown
  refine ⟨fun before after whole => bareLiteral after (whole ▸ bare),(citesIff source index).trans ?_⟩
  rw [← cutEnds ended]
  constructor
  · rintro ⟨own,same,-,-,plain,lacks⟩
    rw [found] at same
    cases same
    rw [shape] at plain
    simp only [lacksSemicolon,Bool.and_eq_true,Bool.not_eq_true'] at lacks
    obtain ⟨⟨⟨control,words⟩,cut⟩,last⟩ := lacks
    exact ⟨cut,⟨plain,control,words⟩,last⟩
  · rintro ⟨cut,⟨plain,control,words⟩,last⟩
    refine ⟨line,found,unpassed,unbegun,shape.trans plain,?_⟩
    simp only [lacksSemicolon,control,words,cut,last]
    rfl

def address : String := "int n;\nString u = \"http://x\"; "

theorem addressUncited :
    let lines := Text.lines address.toList
    let line := "String u = \"http://x\"; ".toList
    lines[1]? = some line ∧ (stripLine (commented lines 1) line).1 = line ∧ (trim line).getLast? = some ';' ∧
      ¬ Cites address 2 := by
  intro lines line
  have found : lines[1]? = some line := by decide
  have bare : (stripLine (commented lines 1) line).1 = line := by decide
  have ended : (trim line).getLast? = some ';' := by decide
  refine ⟨found,bare,ended,fun cited => ?_⟩
  obtain ⟨cut,-,-⟩ := (terminatedLinesCitedIfCut address found bare ended).2.mp cited
  exact absurd ((cutEnds ended).mpr cut) (by decide)

def slashes : String :=
  "class A \x7b public static void main(String[] a) \x7b\nString u = \"//\";\n\x7d \x7d"

theorem terminatedLineCited :
    let lines := Text.lines slashes.toList
    let line := "String u = \"//\";".toList
    lines[1]? = some line ∧ (stripLine (commented lines 1) line).1 = line ∧ (trim line).getLast? = some ';' ∧
      Cites slashes 2 := by
  exact ⟨by decide,by decide,by decide,"String u = \"//\";".toList,by decide⟩

end Playground.Check.Java
