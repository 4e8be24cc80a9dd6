import Playground.Proofs.Sql.Composition
import Playground.Proofs.Text.Trimming

/-! Which statements have an operation. The word that a statement begins with names one, but it is cut
at the first blank, with the opening parentheses at its end taken off. Main statement: so the word
counts exactly where nothing but such parentheses stands between it and a blank or the end. -/
namespace Playground.Sql
open Text (isBlank isIdentifierChar dropEndWhile)

def leadingWord (statement : List Char) : List Char := statement.takeWhile isIdentifierChar

def behindWord (statement : List Char) : List Char := statement.dropWhile isIdentifierChar

def named (statement : List Char) : Operation :=
  .ofKeyword (String.ofList (Text.upperAscii (leadingWord statement)))

/- Behind opening parentheses comes a blank or the end. -/
def SetOff (rest : List Char) : Prop := (rest.dropWhile (· == '(')).head?.all isBlank = true
instance (rest : List Char) : Decidable (SetOff rest) := inferInstanceAs (Decidable (_ = true))

theorem leadingBehind (statement : List Char) : leadingWord statement ++ behindWord statement = statement :=
  List.takeWhile_append_dropWhile

theorem leadingIdentifier {statement : List Char} {c : Char} (member : c ∈ leadingWord statement) :
    isIdentifierChar c = true :=
  List.all_eq_true.mp List.all_takeWhile c member

theorem behindHead {statement : List Char} {c : Char} {rest : List Char}
    (behind : behindWord statement = c :: rest) : isIdentifierChar c = false := by
  have first := List.head?_dropWhile_not isIdentifierChar statement
  rw [show statement.dropWhile isIdentifierChar = c :: rest from behind] at first
  exact first

theorem keywordBehind (statement : List Char) :
    keyword statement = dropEndWhile (· == '(')
      (leadingWord statement ++ (behindWord statement).takeWhile (!isBlank ·)) := by
  have visible : ∀ c ∈ leadingWord statement, (!isBlank c) = true := fun c member => by
    rw [Text.identifierVisible (leadingIdentifier member)]
    rfl
  have cut : (leadingWord statement ++ behindWord statement).takeWhile (!isBlank ·) =
      leadingWord statement ++ (behindWord statement).takeWhile (!isBlank ·) :=
    List.takeWhile_append_of_pos visible
  rw [leadingBehind] at cut
  rw [keyword,cut]

theorem keywordLetters {word : String} (known : Operation.ofKeyword word ≠ .unknown) {c : Char}
    (member : c ∈ word.toList) : c.isUpper = true := by
  have all : word.toList.all Char.isUpper = true := by
    unfold Operation.ofKeyword at known
    split at known <;> first | rfl | exact absurd rfl known
  exact List.all_eq_true.mp all c member

theorem upperIdentifier {c : Char} (upper : c.toUpper.isUpper = true) : isIdentifierChar c = true := by
  have letter : c.isAlpha = true ∧ c.toNat < 128 := by
    unfold Char.toUpper at upper
    split at upper
    · rename_i lower
      delta Char.isAlpha Char.isLower Char.isUpper at *
      simp only [Char.toNat,ge_iff_le,UInt32.le_iff_toNat_le,Bool.or_eq_true,Bool.and_eq_true,
        decide_eq_true_eq] at lower ⊢
      have last : 'z'.val.toNat = 122 := rfl
      omega
    · delta Char.isAlpha Char.isLower Char.isUpper at *
      simp only [Char.toNat,ge_iff_le,UInt32.le_iff_toNat_le,Bool.or_eq_true,Bool.and_eq_true,
        decide_eq_true_eq] at upper ⊢
      have last : 'Z'.val.toNat = 90 := rfl
      omega
  simp [isIdentifierChar,Text.isAlphanumeric,Char.isAlphanum,letter.1,letter.2]

theorem otherUnknown {word : List Char} {c : Char} (member : c ∈ word) (other : isIdentifierChar c = false) :
    Operation.ofKeyword (String.ofList (Text.upperAscii word)) = .unknown := by
  by_cases known : Operation.ofKeyword (String.ofList (Text.upperAscii word)) = .unknown
  · exact known
  · have upper : c.toUpper.isUpper = true := keywordLetters known (by
      rw [String.toList_ofList]
      exact List.mem_map_of_mem member)
    rw [upperIdentifier upper] at other
    contradiction

theorem behindVisible (rest : List Char) :
    rest.takeWhile (!isBlank ·) =
      rest.takeWhile (· == '(') ++ (rest.dropWhile (· == '(')).takeWhile (!isBlank ·) := by
  have visible : ∀ c ∈ rest.takeWhile (· == '('), (!isBlank c) = true := fun c member => by
    have paren : (c == '(') = true := List.all_eq_true.mp List.all_takeWhile c member
    rw [beq_iff_eq.mp paren]
    decide
  have cut : (rest.takeWhile (· == '(') ++ rest.dropWhile (· == '(')).takeWhile (!isBlank ·) = _ :=
    List.takeWhile_append_of_pos visible
  rwa [List.takeWhile_append_dropWhile] at cut

theorem setOffKeyword {statement : List Char} (setOff : SetOff (behindWord statement)) :
    keyword statement = leadingWord statement := by
  have nothing : ((behindWord statement).dropWhile (· == '(')).takeWhile (!isBlank ·) = [] := by
    unfold SetOff at setOff
    cases tail : (behindWord statement).dropWhile (· == '(') with
    | nil => rfl
    | cons c rest =>
      rw [tail] at setOff
      have blank : isBlank c = true := setOff
      simp [blank]
  have unmarked : ∀ c ∈ leadingWord statement, (c == '(') = false := fun c member =>
    beq_eq_false_iff_ne.mpr fun same => by
      have letter := leadingIdentifier member
      rw [same] at letter
      exact absurd letter (by decide)
  rw [keywordBehind,behindVisible,nothing,List.append_nil,
    Text.dropEndPast (List.all_eq_true.mp List.all_takeWhile),Text.dropEndKept unmarked]

theorem hiddenKeyword {statement : List Char} (hidden : ¬ SetOff (behindWord statement)) :
    ∃ c ∈ keyword statement, isIdentifierChar c = false := by
  cases tail : (behindWord statement).dropWhile (· == '(') with
  | nil =>
    refine absurd ?_ hidden
    unfold SetOff
    rw [tail]
    rfl
  | cons d rest =>
    have visible : isBlank d = false := by
      refine Bool.eq_false_iff.mpr fun blank => hidden ?_
      unfold SetOff
      rw [tail]
      exact blank
    have unmarked : (d == '(') = false := by
      have first := List.head?_dropWhile_not (· == '(') (behindWord statement)
      rw [tail] at first
      exact first
    let parens := (behindWord statement).takeWhile (· == '(')
    have behind : behindWord statement = parens ++ d :: rest := by
      rw [← tail]
      exact List.takeWhile_append_dropWhile.symm
    have word : keyword statement = leadingWord statement ++ parens ++
        d :: dropEndWhile (· == '(') (rest.takeWhile (!isBlank ·)) := by
      rw [keywordBehind,behindVisible,tail,List.takeWhile_cons_of_pos (by simp [visible]),← List.append_assoc]
      exact Text.dropEndStops (p := (· == '(')) unmarked _ _
    have member (c : Char) (found : c ∈ parens ++ [d]) : c ∈ keyword statement := by
      rw [word]
      rcases List.mem_append.mp found with paren | last
      · exact List.mem_append_left _ (List.mem_append_right _ paren)
      · rw [List.mem_singleton.mp last]
        exact List.mem_append_right _ List.mem_cons_self
    cases front : parens with
    | nil => exact ⟨d,member d (by simp),behindHead (by rw [behind,front]; rfl)⟩
    | cons c more => exact ⟨c,member c (by simp [front]),behindHead (by rw [behind,front]; rfl)⟩

theorem operationNamed (statement : List Char) :
    operation statement = if SetOff (behindWord statement) then named statement else .unknown := by
  split
  · rename_i setOff
    rw [operation,setOffKeyword setOff,named]
  · rename_i hidden
    obtain ⟨c,member,other⟩ := hiddenKeyword hidden
    exact otherUnknown member other

def plainStatements (source : List Char) : List (List Char) := unblank (parted false (uncommented .code source))

/- Over the statements of any script, in their order. -/
theorem keywordsCountSetOff (source : List Char) :
    (analyze source).operations = (plainStatements source).map (fun statement =>
      if SetOff (behindWord statement) then named statement else .unknown) ∧
    (noCommand ∈ (analyze source).issues ↔
      ∀ statement ∈ plainStatements source, SetOff (behindWord statement) → named statement = .unknown) := by
  have plain : statements source = plainStatements source := statementsUncommented source
  constructor
  · simp only [analyze,plain]
    exact List.map_congr_left fun statement _ => operationNamed statement
  · rw [noCommandIff,plain]
    simp only [operationNamed,ite_eq_right_iff]

def grouped : List Char := "SELECT(1) FROM t".toList

theorem parenthesisHidesKeyword :
    (plainStatements grouped).map named = [.select] ∧ (analyze grouped).operations = [.unknown] ∧
      noCommand ∈ (analyze grouped).issues := by
  decide +kernel

end Playground.Sql
