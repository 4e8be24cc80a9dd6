import Playground.Json.Reader

/-! Reading numbers. A numeral that is read to its end is read alike in front of any text that does
not continue it, and what a reader leaves is an end of what it was given. -/
namespace Playground.Json
open Text (Glyph)

structure Delimits (rest : List Glyph) : Prop where
  digit : digit? rest = none
  point : startsWith '.' rest = false
  exponent : startsExponent rest = false

theorem delimitsEnd : Delimits [] := ⟨rfl,rfl,rfl⟩

theorem digitHead (g : Glyph) (rest : List Glyph) : digit? (g :: rest) = digit? [g] := by
  cases g <;> rfl

theorem Delimits.head {g : Glyph} {rest : List Glyph} (delimits : Delimits (g :: rest)) : digit? [g] = none :=
  (digitHead g rest).symm.trans delimits.digit

def isDigit (g : Glyph) : Bool := (digit? [g]).isSome

theorem skipDigitsWhile (rest : List Glyph) : skipDigits rest = rest.dropWhile isDigit := by
  unfold skipDigits
  congr 1
  funext g
  cases g with
  | char c => cases digit : c.isDigit <;> simp [isDigit,digit?,digit]
  | stray bytes => rfl

theorem digitsSkipped {rest : List Glyph} (delimits : Delimits rest) (left : List Glyph) :
    skipDigits (left ++ rest) = skipDigits left ++ rest := by
  have stays : rest.dropWhile isDigit = rest := by
    cases rest with
    | nil => rfl
    | cons g rest =>
      exact List.dropWhile_cons_of_neg (by simp [isDigit,delimits.head])
  rw [skipDigitsWhile,skipDigitsWhile,List.dropWhile_append,stays]
  split
  · rename_i nothing
    rw [List.isEmpty_iff.mp nothing,List.nil_append]
  · rfl

/-! ## Numerals read to their end -/

section
variable {negative : Bool} {n : Number} {rest : List Glyph} (delimits : Delimits rest)

theorem scaledEnd {significand : Nat} {exponent : Int} {text : List Glyph}
    (done : scaled negative significand exponent text = .ok (n,[])) :
    scaled negative significand exponent (text ++ rest) = .ok (n,rest) := by
  unfold scaled at done ⊢
  split at done
  · cases done
    rfl
  · contradiction

def ExponentDigits.before (found : ExponentDigits) (rest : List Glyph) : ExponentDigits :=
  match found with
  | .fits value left => .fits value (left ++ rest)
  | .overflows left => .overflows (left ++ rest)

include delimits

theorem exponentDigitsEnd (value : Nat) (text : List Glyph) :
    readExponentDigits value (text ++ rest) = (readExponentDigits value text).before rest := by
  induction text generalizing value with
  | nil =>
    cases rest with
    | nil => rfl
    | cons g rest =>
      simp only [List.nil_append,readExponentDigits,delimits.head,ExponentDigits.before]
  | cons g text ih =>
    simp only [List.cons_append,readExponentDigits]
    cases digit? [g] with
    | none => rfl
    | some d =>
      simp only
      split
      · exact ih _
      · rfl

theorem exponentEnd {significand : Nat} {exponent : Int} {text : List Glyph}
    (done : readExponent negative significand exponent text = .ok (n,[])) :
    readExponent negative significand exponent (text ++ rest) = .ok (n,rest) := by
  cases text with
  | nil => contradiction
  | cons mark after =>
    have signs (c : Char) : startsWith c (mark :: after ++ rest) = startsWith c (mark :: after) := rfl
    unfold readExponent at done ⊢
    simp only [signs] at done ⊢
    generalize startsWith '-' (mark :: after) = down at done ⊢
    -- the digits begin behind a sign or at once
    obtain ⟨digits,here,there⟩ : ∃ digits,
        (if down || startsWith '+' (mark :: after) then (mark :: after).drop 1 else mark :: after) = digits ∧
          (if down || startsWith '+' (mark :: after) then (mark :: after ++ rest).drop 1 else mark :: after ++ rest) =
            digits ++ rest := by
      refine ⟨_,rfl,?_⟩
      split <;> rfl
    rw [here] at done
    rw [there]
    cases digits with
    | nil => contradiction
    | cons g digits =>
      simp only [List.cons_append] at done ⊢
      cases first : digit? [g] with
      | none => simp [first] at done
      | some d =>
        simp only [first] at done ⊢
        rw [exponentDigitsEnd delimits]
        cases found : readExponentDigits d digits with
        | fits value left =>
          simp only [found] at done
          exact scaledEnd done
        | overflows left =>
          simp only [found] at done
          simp only [ExponentDigits.before]
          split at done
          · contradiction
          · rename_i small
            obtain ⟨same,ended⟩ := Prod.mk.inj (Except.ok.inj done)
            rw [if_neg small,same,digitsSkipped delimits,ended,List.nil_append]

theorem afterFractionEnd {significand : Nat} {exponent : Int} {text : List Glyph}
    (done : readAfterFraction negative significand exponent text = .ok (n,[])) :
    readAfterFraction negative significand exponent (text ++ rest) = .ok (n,rest) := by
  unfold readAfterFraction at done ⊢
  cases text with
  | nil =>
    rw [List.nil_append,if_neg (by simp [delimits.exponent])]
    exact scaledEnd done
  | cons g text =>
    have same : startsExponent (g :: text ++ rest) = startsExponent (g :: text) := rfl
    rw [same]
    split
    · rename_i marked
      rw [if_pos marked] at done
      exact exponentEnd delimits done
    · rename_i plain
      rw [if_neg plain] at done
      exact scaledEnd done

theorem fractionEnd {significand : Nat} {exponent : Int} {seen : Bool} {text : List Glyph}
    (done : readFraction negative significand exponent seen text = .ok (n,[])) :
    readFraction negative significand exponent seen (text ++ rest) = .ok (n,rest) := by
  induction text generalizing significand exponent seen with
  | nil =>
    cases seen with
    | false => contradiction
    | true =>
      have ended : readAfterFraction negative significand exponent ([] ++ rest) = .ok (n,rest) :=
        afterFractionEnd delimits done
      cases rest with
      | nil => exact done
      | cons g rest =>
        simp only [List.nil_append,readFraction,delimits.head,if_true] at ended ⊢
        exact ended
  | cons g text ih =>
    simp only [List.cons_append,readFraction] at done ⊢
    cases first : digit? [g] with
    | some d =>
      simp only [first] at done ⊢
      split
      · rename_i fits
        rw [if_pos fits] at done
        exact ih done
      · rename_i long
        rw [if_neg long] at done
        rw [← List.cons_append,digitsSkipped delimits]
        exact afterFractionEnd delimits done
    | none =>
      simp only [first] at done ⊢
      split at done
      · rename_i some
        rw [if_pos some]
        exact afterFractionEnd delimits done
      · unfold failPast at done
        contradiction

theorem longWholeEnd {significand : Nat} {exponent : Int} {text : List Glyph}
    (done : readLongWhole negative significand exponent text = .ok (n,[])) :
    readLongWhole negative significand exponent (text ++ rest) = .ok (n,rest) := by
  induction text generalizing exponent with
  | nil =>
    have ended : readAfterFraction negative significand exponent ([] ++ rest) = .ok (n,rest) :=
      afterFractionEnd delimits done
    cases rest with
    | nil => exact done
    | cons g rest =>
      have whole : g ≠ .char '.' := fun same => by simpa [startsWith,same] using delimits.point
      simp only [List.nil_append,readLongWhole,delimits.head,if_neg whole] at ended ⊢
      exact ended
  | cons g text ih =>
    simp only [List.cons_append,readLongWhole] at done ⊢
    cases first : digit? [g] with
    | some d =>
      simp only [first] at done ⊢
      exact ih done
    | none =>
      simp only [first] at done ⊢
      split
      · rename_i point
        rw [if_pos point] at done
        exact fractionEnd delimits done
      · rename_i whole
        rw [if_neg whole] at done
        exact afterFractionEnd delimits done

theorem afterWholeEnd {significand : Nat} {text : List Glyph}
    (done : readAfterWhole negative significand text = .ok (n,[])) :
    readAfterWhole negative significand (text ++ rest) = .ok (n,rest) := by
  cases text with
  | nil =>
    cases done
    unfold readAfterWhole
    rw [List.nil_append,if_neg (by simp [delimits.point]),if_neg (by simp [delimits.exponent])]
  | cons g text =>
    have point : startsWith '.' (g :: text ++ rest) = startsWith '.' (g :: text) := rfl
    have exponent : startsExponent (g :: text ++ rest) = startsExponent (g :: text) := rfl
    unfold readAfterWhole at done ⊢
    rw [point,exponent]
    split
    · rename_i marked
      rw [if_pos marked] at done
      exact fractionEnd delimits done
    · rename_i whole
      rw [if_neg whole] at done
      split
      · rename_i marked
        rw [if_pos marked] at done
        exact exponentEnd delimits done
      · rename_i plain
        rw [if_neg plain] at done
        obtain ⟨-,ended⟩ := Prod.mk.inj (Except.ok.inj done)
        contradiction

theorem wholeEnd {significand : Nat} {text : List Glyph}
    (done : readWhole negative significand text = .ok (n,[])) :
    readWhole negative significand (text ++ rest) = .ok (n,rest) := by
  induction text generalizing significand with
  | nil =>
    have ended : readAfterWhole negative significand ([] ++ rest) = .ok (n,rest) := afterWholeEnd delimits done
    cases rest with
    | nil => exact done
    | cons g rest =>
      simp only [List.nil_append,readWhole,delimits.head] at ended ⊢
      exact ended
  | cons g text ih =>
    simp only [List.cons_append,readWhole] at done ⊢
    cases first : digit? [g] with
    | some d =>
      simp only [first] at done ⊢
      split
      · rename_i fits
        rw [if_pos fits] at done
        exact ih done
      · rename_i long
        rw [if_neg long] at done
        exact longWholeEnd delimits done
    | none =>
      simp only [first] at done ⊢
      exact afterWholeEnd delimits done

theorem numberEnd {text : List Glyph} (done : readNumber negative text = .ok (n,[])) :
    readNumber negative (text ++ rest) = .ok (n,rest) := by
  cases text with
  | nil => contradiction
  | cons g text =>
    simp only [List.cons_append,readNumber] at done ⊢
    split at done
    · contradiction
    · split at done
      · unfold failPast at done
        contradiction
      · rename_i alone
        have single : ¬ (digit? (text ++ rest)).isSome := by
          cases text with
          | nil => simp [delimits.digit]
          | cons h text => rwa [List.cons_append,digitHead,← digitHead h text]
        rw [if_neg single]
        exact afterWholeEnd delimits done
    · exact wholeEnd delimits done

end

/-! ## What is left behind a number -/

def ExponentDigits.left : ExponentDigits → List Glyph
  | .fits _ left => left
  | .overflows left => left

section
variable {negative : Bool} {significand : Nat} {exponent : Int} {n : Number} {text left : List Glyph}

theorem scaledLeft (done : scaled negative significand exponent text = .ok (n,left)) : left <:+ text := by
  unfold scaled at done
  split at done
  · cases done
    exact List.suffix_rfl
  · contradiction

theorem exponentDigitsLeft (value : Nat) (text : List Glyph) : (readExponentDigits value text).left <:+ text := by
  induction text generalizing value with
  | nil => exact List.suffix_rfl
  | cons g text ih =>
    unfold readExponentDigits
    split
    · split
      · exact (ih _).trans (List.suffix_cons g text)
      · exact List.suffix_cons g text
    · exact List.suffix_rfl

theorem exponentLeft (done : readExponent negative significand exponent text = .ok (n,left)) : left <:+ text := by
  unfold readExponent at done
  extract_lets down digits at done
  have unsigned : digits <:+ text := by
    unfold digits
    split
    · exact List.drop_suffix 1 text
    · exact List.suffix_rfl
  clear_value digits
  split at done
  · contradiction
  · rename_i g after
    split at done
    · contradiction
    · rename_i first _
      have inner := ((exponentDigitsLeft first after).trans (List.suffix_cons g after)).trans unsigned
      split at done
      · rename_i read
        rw [read] at inner
        exact (scaledLeft done).trans inner
      · rename_i read
        rw [read] at inner
        split at done
        · contradiction
        · obtain ⟨-,rfl⟩ := Prod.mk.inj (Except.ok.inj done)
          exact (List.dropWhile_suffix _).trans inner

theorem afterFractionLeft (done : readAfterFraction negative significand exponent text = .ok (n,left)) :
    left <:+ text := by
  unfold readAfterFraction at done
  split at done
  · exact (exponentLeft done).trans (List.drop_suffix 1 text)
  · exact scaledLeft done

theorem fractionLeft {seen : Bool} (done : readFraction negative significand exponent seen text = .ok (n,left)) :
    left <:+ text := by
  induction text generalizing significand exponent seen with
  | nil =>
    unfold readFraction at done
    split at done
    · exact scaledLeft done
    · contradiction
  | cons g text ih =>
    unfold readFraction at done
    split at done
    · split at done
      · exact (ih done).trans (List.suffix_cons g text)
      · exact (afterFractionLeft done).trans (List.dropWhile_suffix _)
    · split at done
      · exact afterFractionLeft done
      · unfold failPast at done
        contradiction

theorem longWholeLeft (done : readLongWhole negative significand exponent text = .ok (n,left)) : left <:+ text := by
  induction text generalizing exponent with
  | nil => exact scaledLeft done
  | cons g text ih =>
    unfold readLongWhole at done
    split at done
    · exact (ih done).trans (List.suffix_cons g text)
    · split at done
      · exact (fractionLeft done).trans (List.suffix_cons g text)
      · exact afterFractionLeft done

theorem afterWholeLeft (done : readAfterWhole negative significand text = .ok (n,left)) : left <:+ text := by
  unfold readAfterWhole at done
  split at done
  · exact (fractionLeft done).trans (List.drop_suffix 1 text)
  · split at done
    · exact (exponentLeft done).trans (List.drop_suffix 1 text)
    · cases done
      exact List.suffix_rfl

theorem wholeLeft (done : readWhole negative significand text = .ok (n,left)) : left <:+ text := by
  induction text generalizing significand with
  | nil =>
    cases done
    exact List.suffix_rfl
  | cons g text ih =>
    unfold readWhole at done
    split at done
    · split at done
      · exact (ih done).trans (List.suffix_cons g text)
      · exact longWholeLeft done
    · exact afterWholeLeft done

theorem numberLeft (done : readNumber negative text = .ok (n,left)) : left <:+ text := by
  unfold readNumber at done
  split at done
  · contradiction
  · split at done
    · contradiction
    · split at done
      · unfold failPast at done
        contradiction
      · exact (afterWholeLeft done).trans (List.suffix_cons _ _)
    · exact (wholeLeft done).trans (List.suffix_cons _ _)

end

end Playground.Json
