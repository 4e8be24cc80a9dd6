import Playground.Sql.Scan

/-! What the scan of a script comes to. In one pass it does what two would do that each look for
literals on their own: `uncommented` removes the comments, and `parted` cuts at the semicolons. Main
statement: so it is from any point of the scan on, whatever text follows. -/
namespace Playground.Sql

inductive Region where
  | code | literal | lineComment
  | blockComment (star : Bool)

def uncommented : Region → List Char → List Char
  | _,[] => []
  | .code,'-' :: '-' :: rest => uncommented .lineComment rest
  | .code,'/' :: '*' :: rest => ' ' :: uncommented (.blockComment false) rest
  | .code,c :: rest => c :: uncommented (if c = '\'' then .literal else .code) rest
  | .literal,c :: rest => c :: uncommented (if c = '\'' then .code else .literal) rest
  | .lineComment,c :: rest =>
    if c = '\n' then '\n' :: uncommented .code rest else uncommented .lineComment rest
  | .blockComment star,c :: rest =>
    uncommented (if star && c == '/' then .code else .blockComment (c == '*')) rest

def parted : (inLiteral : Bool) → List Char → List (List Char)
  | _,[] => [[]]
  | inLiteral,c :: rest =>
    if c = ';' ∧ inLiteral = false then [] :: parted false rest
    else (parted (inLiteral != (c == '\'')) rest).modifyHead (c :: ·)

def piecesFrom : Place → List Char → List (List Char)
  | .code,rest => parted false (uncommented .code rest)
  | .dash,rest => parted false (uncommented .code ('-' :: rest))
  | .slash,rest => parted false (uncommented .code ('/' :: rest))
  | .literal,rest => parted true (uncommented .literal rest)
  | .lineComment,rest => parted false (uncommented .lineComment rest)
  | .blockComment star,rest => parted false (uncommented (.blockComment star) rest)

theorem partedKeeps {inLiteral : Bool} {c : Char} (mark : c ≠ ';') (rest : List Char) :
    parted inLiteral (c :: rest) = (parted (inLiteral != (c == '\'')) rest).modifyHead (c :: ·) := by
  simp [parted,mark]

theorem codeKeeps {c : Char} {rest : List Char} (quote : c ≠ '\'') (mark : c ≠ ';')
    (dash : c = '-' → rest.head? ≠ some '-') (slash : c = '/' → rest.head? ≠ some '*') :
    piecesFrom .code (c :: rest) = (piecesFrom .code rest).modifyHead (c :: ·) := by
  have kept : uncommented .code (c :: rest) = c :: uncommented .code rest := by
    rw [uncommented,if_neg quote]
    · intro after first second
      exact dash first (by rw [second,List.head?_cons])
    · intro after first second
      exact slash first (by rw [second,List.head?_cons])
  have plain : (c == '\'') = false := beq_eq_false_iff_ne.mpr quote
  simp only [piecesFrom,kept]
  rw [partedKeeps mark,plain]
  rfl

namespace Scan

def extend (s : Scan) (pieces : List (List Char)) : List (List Char) :=
  s.finished.reverse ++ pieces.modifyHead (s.current.reverse ++ ·)

theorem extendKeep (s : Scan) (c : Char) (place : Place) (pieces : List (List Char)) :
    (s.keep c place).extend pieces = s.extend (pieces.modifyHead (c :: ·)) := by
  simp only [extend,keep,List.modifyHead_modifyHead,List.reverse_cons,List.append_assoc,List.singleton_append]
  rfl

theorem extendEnd (s : Scan) (pieces : List (List Char)) : s.endStatement.extend pieces = s.extend ([] :: pieces) := by
  cases pieces <;> simp [extend,endStatement]

theorem stepCodeExtends (s : Scan) (c : Char) (text : List Char) :
    (s.stepCode c).extend (piecesFrom (s.stepCode c).place text) = s.extend (piecesFrom .code (c :: text)) := by
  unfold stepCode
  split
  · have opened : piecesFrom .code ('\'' :: text) = (piecesFrom .literal text).modifyHead ('\'' :: ·) := by
      simp [piecesFrom,uncommented,partedKeeps]
    rw [extendKeep,opened]
    rfl
  · rfl
  · rfl
  · have ended : piecesFrom .code (';' :: text) = [] :: piecesFrom .code text := by
      simp [piecesFrom,uncommented,parted]
    rw [extendEnd,ended]
    rfl
  · rename_i quote dash slash mark
    rw [extendKeep,codeKeeps quote mark (fun first => (dash first).elim) (fun first => (slash first).elim)]
    rfl

/- One case for each place. What stays undecided changes nothing, and neither does what comments leave out. -/
theorem stepExtends (s : Scan) (c : Char) (text : List Char) :
    (s.step c).extend (piecesFrom (s.step c).place text) = s.extend (piecesFrom s.place (c :: text)) := by
  unfold step
  cases place : s.place with
  | code => exact stepCodeExtends s c text
  | dash =>
    by_cases second : c = '-'
    · subst second
      rfl
    · have kept : piecesFrom .dash (c :: text) = (piecesFrom .code (c :: text)).modifyHead ('-' :: ·) :=
        codeKeeps (by decide) (by decide) (fun _ => by simpa using second) fun same => absurd same (by decide)
      simp only [second,if_false]
      rw [stepCodeExtends,extendKeep,kept]
  | slash =>
    by_cases star : c = '*'
    · subst star
      have opened : piecesFrom .slash ('*' :: text) =
          (piecesFrom (.blockComment false) text).modifyHead (' ' :: ·) := by
        simp [piecesFrom,uncommented,partedKeeps]
      simp only [if_true]
      rw [extendKeep,opened]
      rfl
    · have kept : piecesFrom .slash (c :: text) = (piecesFrom .code (c :: text)).modifyHead ('/' :: ·) :=
        codeKeeps (by decide) (by decide) (fun same => absurd same (by decide)) fun _ => by simpa using star
      simp only [star,if_false]
      rw [stepCodeExtends,extendKeep,kept]
  | literal =>
    have kept : piecesFrom .literal (c :: text) =
        (piecesFrom (if c = '\'' then .code else .literal) text).modifyHead (c :: ·) := by
      by_cases quote : c = '\''
      · subst quote
        simp [piecesFrom,uncommented,partedKeeps]
      · have plain : (c == '\'') = false := beq_eq_false_iff_ne.mpr quote
        simp [piecesFrom,uncommented,parted,quote,plain]
    simp only
    rw [extendKeep,kept]
    rfl
  | lineComment =>
    by_cases ends : c = '\n'
    · subst ends
      have kept : piecesFrom .lineComment ('\n' :: text) = (piecesFrom .code text).modifyHead ('\n' :: ·) := by
        simp [piecesFrom,uncommented,partedKeeps]
      simp only [if_true]
      rw [extendKeep,kept]
      rfl
    · have skipped : piecesFrom .lineComment (c :: text) = piecesFrom .lineComment text := by
        simp [piecesFrom,uncommented,ends]
      simp only [ends,if_false]
      rw [place,skipped]
  | blockComment star =>
    have skipped : piecesFrom (.blockComment star) (c :: text) =
        piecesFrom (if star && c == '/' then .code else .blockComment (c == '*')) text := by
      cases ends : star && c == '/' <;> simp [piecesFrom,uncommented,ends]
    rw [skipped]
    rfl

theorem endExtends (s : Scan) : s.extend (piecesFrom s.place []) = s.pieces := by
  unfold extend pieces settle
  cases place : s.place <;> simp [piecesFrom,uncommented,parted,keep,endStatement]

/- By induction on the text; the pieces that are ahead stay the same with every step. -/
theorem runPieces (s : Scan) (text : List Char) : (s.run text).pieces = s.extend (piecesFrom s.place text) := by
  induction text generalizing s with
  | nil => exact (endExtends s).symm
  | cons c text ih => exact (ih (s.step c)).trans (stepExtends s c text)

theorem runAppend (s : Scan) (a b : List Char) : s.run (a ++ b) = (s.run a).run b := List.foldl_append

end Scan

def unblank (pieces : List (List Char)) : List (List Char) := (pieces.map Text.trim).filter (!·.isEmpty)

theorem unblankAppend (first last : List (List Char)) : unblank (first ++ last) = unblank first ++ unblank last := by
  simp [unblank]

theorem statementsUncommented (source : List Char) :
    statements source = unblank (parted false (uncommented .code source)) := by
  have pieces : (({} : Scan).run source).pieces = piecesFrom .code source := by
    rw [Scan.runPieces,Scan.extend]
    cases piecesFrom .code source <;> rfl
  rw [statements,pieces]
  rfl

end Playground.Sql
