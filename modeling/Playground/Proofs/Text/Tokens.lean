import Playground.Proofs.Text.Lines

/-! Texts as tokens. A token is a run of characters of one class that goes as far as it can, or a
character outside the class. Main statements: a text has one list of tokens, and a word is one of them
exactly where it stands in the text with no character of the class on either side. -/
namespace Playground.Text

inductive Token where
  | word (letters : List Char)
  | mark (c : Char)
  deriving DecidableEq, Repr

/- The tokens of a text: a word is not empty, and what follows it begins with no character of the class. -/
inductive Tokens (p : Char → Bool) : List Char → List Token → Prop where
  | nil : Tokens p [] []
  | mark {c text tokens} (other : p c = false) (rest : Tokens p text tokens) :
      Tokens p (c :: text) (.mark c :: tokens)
  | word {letters text tokens} (filled : letters ≠ []) (own : ∀ c ∈ letters, p c = true)
      (ends : text.head?.any p = false) (rest : Tokens p text tokens) :
      Tokens p (letters ++ text) (.word letters :: tokens)

def leadWith (c : Char) : List Token → List Token
  | .word letters :: rest => .word (c :: letters) :: rest
  | rest => .word [c] :: rest

def tokens (p : Char → Bool) : List Char → List Token
  | [] => []
  | c :: text => if p c then leadWith c (tokens p text) else .mark c :: tokens p text

structure Alone (p : Char → Bool) (before letters after : List Char) : Prop where
  filled : letters ≠ []
  own : ∀ c ∈ letters, p c = true
  left : before.getLast?.any p = false
  right : after.head?.any p = false

variable {p : Char → Bool}

theorem leadAppend (c : Char) {front : List Token} (filled : front ≠ []) (back : List Token) :
    leadWith c (front ++ back) = leadWith c front ++ back := by
  cases front with
  | nil => exact absurd rfl filled
  | cons token front => cases token <;> rfl

theorem tokensNil {text : List Char} : tokens p text = [] ↔ text = [] := by
  cases text with
  | nil => exact iff_of_true rfl rfl
  | cons c text =>
    refine iff_of_false (fun none => ?_) (List.cons_ne_nil c text)
    unfold tokens at none
    split at none
    · unfold leadWith at none
      split at none <;> cases none
    · cases none

theorem leadsAlone (c : Char) {text : List Char} (outside : text.head?.any p = false) :
    leadWith c (tokens p text) = .word [c] :: tokens p text := by
  cases text with
  | nil => rfl
  | cons d text =>
    have other : p d = false := by simpa using outside
    simp [tokens,other,leadWith]

theorem tokensJoined {front back : List Char} (apart : (front.getLast?.any p && back.head?.any p) = false) :
    tokens p (front ++ back) = tokens p front ++ tokens p back := by
  induction front with
  | nil => rfl
  | cons c front ih =>
    cases front with
    | nil =>
      cases own : p c with
      | false => simp [tokens,own]
      | true =>
        have outside : back.head?.any p = false := by simpa [own] using apart
        have led : tokens p ([c] ++ back) = leadWith c (tokens p back) := by simp [tokens,own]
        rw [led,leadsAlone c outside]
        simp [tokens,own,leadWith]
    | cons d front =>
      rw [List.getLast?_cons_cons] at apart
      have some : tokens p (d :: front) ≠ [] := fun none => List.cons_ne_nil d front (tokensNil.mp none)
      have whole : tokens p (c :: (d :: front ++ back)) =
          if p c then leadWith c (tokens p (d :: front ++ back)) else .mark c :: tokens p (d :: front ++ back) := rfl
      have first : tokens p (c :: d :: front) =
          if p c then leadWith c (tokens p (d :: front)) else .mark c :: tokens p (d :: front) := rfl
      rw [List.cons_append,whole,first,ih apart]
      split
      · exact leadAppend c some _
      · rfl

theorem tokensWord {letters : List Char} (filled : letters ≠ []) (own : ∀ c ∈ letters, p c = true) :
    tokens p letters = [.word letters] := by
  induction letters with
  | nil => exact absurd rfl filled
  | cons c letters ih =>
    obtain ⟨here,rest⟩ := List.forall_mem_cons.mp own
    cases letters with
    | nil => simp [tokens,here,leadWith]
    | cons d letters => rw [tokens,if_pos here,ih (List.cons_ne_nil d letters) rest]; rfl

theorem tokensMarks {marks : List Char} (other : ∀ c ∈ marks, p c = false) (rest : List Char) :
    tokens p (marks ++ rest) = marks.map .mark ++ tokens p rest := by
  induction marks with
  | nil => rfl
  | cons c marks ih =>
    obtain ⟨here,others⟩ := List.forall_mem_cons.mp other
    rw [List.cons_append,tokens,ih others]
    simp [here]

theorem tokensAlone {before letters after : List Char} (alone : Alone p before letters after) :
    tokens p (before ++ (letters ++ after)) = tokens p before ++ .word letters :: tokens p after := by
  have behind : tokens p (letters ++ after) = .word letters :: tokens p after := by
    rw [tokensJoined (by rw [alone.right,Bool.and_false]),tokensWord alone.filled alone.own]
    rfl
  rw [tokensJoined (by rw [alone.left,Bool.false_and]),behind]

theorem leadHolds {c : Char} (own : p c = true) {text : List Char} {list : List Token} (held : Tokens p text list) :
    Tokens p (c :: text) (leadWith c list) := by
  have alone : ∀ d ∈ [c], p d = true := List.forall_mem_singleton.mpr own
  cases held with
  | nil => exact .word (List.cons_ne_nil c []) alone rfl .nil
  | mark other rest => exact .word (List.cons_ne_nil c []) alone (by simpa using other) (.mark other rest)
  | @word letters text list filled all ends rest =>
    have longer : ∀ d ∈ c :: letters, p d = true := List.forall_mem_cons.mpr ⟨own,all⟩
    exact .word (List.cons_ne_nil c letters) longer ends rest

theorem tokensHold (text : List Char) : Tokens p text (tokens p text) := by
  induction text with
  | nil => exact .nil
  | cons c text ih =>
    unfold tokens
    split
    · rename_i own
      exact leadHolds own ih
    · rename_i other
      exact .mark (Bool.eq_false_iff.mpr other) ih

theorem tokensIff {text : List Char} {list : List Token} : Tokens p text list ↔ list = tokens p text := by
  constructor
  · intro held
    induction held with
    | nil => rfl
    | mark other rest ih => simp [tokens,other,ih]
    | word filled own ends rest ih =>
      have alone : Alone p [] _ _ := ⟨filled,own,rfl,ends⟩
      rw [ih]
      exact (tokensAlone alone).symm
  · rintro rfl
    exact tokensHold text

theorem tokensCut {text : List Char} {front back : List Token} (held : Tokens p text (front ++ back)) :
    ∃ before after, text = before ++ after ∧ (before.getLast?.any p && after.head?.any p) = false ∧
      Tokens p before front ∧ Tokens p after back := by
  induction front generalizing text with
  | nil => exact ⟨[],text,rfl,rfl,.nil,held⟩
  | cons token front ih =>
    cases held with
    | @mark c text _ other rest =>
      obtain ⟨before,after,rfl,apart,left,right⟩ := ih rest
      refine ⟨c :: before,after,rfl,?_,.mark other left,right⟩
      cases before with
      | nil => simp [other]
      | cons d before => exact apart
    | @word run text _ filled own ends rest =>
      obtain ⟨before,after,rfl,apart,left,right⟩ := ih rest
      cases before with
      | nil => exact ⟨run ++ [],after,by simp,by rw [show after.head?.any p = false from ends,Bool.and_false],
          .word filled own rfl left,right⟩
      | cons d before =>
        refine ⟨run ++ d :: before,after,(List.append_assoc _ _ _).symm,?_,.word filled own ends left,right⟩
        rw [lastBehind run (List.cons_ne_nil d before)]
        exact apart

theorem marksCut (marks : List Char) {text : List Char} {back : List Token}
    (held : Tokens p text (marks.map .mark ++ back)) :
    ∃ rest, text = marks ++ rest ∧ Tokens p rest back := by
  induction marks generalizing text with
  | nil => exact ⟨text,rfl,held⟩
  | cons c marks ih =>
    cases held with
    | mark other held =>
      obtain ⟨rest,rfl,kept⟩ := ih held
      exact ⟨rest,rfl,kept⟩

theorem wordCut {text letters : List Char} {front back : List Token}
    (held : Tokens p text (front ++ .word letters :: back)) : ∃ before after,
      text = before ++ (letters ++ after) ∧ Alone p before letters after ∧
        Tokens p before front ∧ Tokens p after back := by
  obtain ⟨before,_,rfl,apart,left,right⟩ := tokensCut held
  cases right with
  | @word _ after _ filled own ends rest =>
    refine ⟨before,after,rfl,⟨filled,own,?_,ends⟩,left,rest⟩
    cases letters with
    | nil => exact absurd rfl filled
    | cons c letters => simpa [own c List.mem_cons_self] using apart

theorem wordIff (text letters : List Char) : .word letters ∈ tokens p text ↔
    ∃ before after, text = before ++ (letters ++ after) ∧ Alone p before letters after := by
  constructor
  · intro member
    obtain ⟨front,back,list⟩ := List.append_of_mem member
    obtain ⟨before,after,whole,alone,-⟩ := wordCut (list ▸ tokensHold text)
    exact ⟨before,after,whole,alone⟩
  · rintro ⟨before,after,rfl,alone⟩
    rw [tokensAlone alone]
    exact List.mem_append_right _ List.mem_cons_self

end Playground.Text
