import Playground.Check.Issue
import Playground.Proofs.Text.Lines

/-! Uses of a word in a text of several lines. Only the characters around an occurrence count, and a
line end is none of an identifier. Main statement: a text uses a word in one of its lines or not at
all. -/
namespace Playground.Check

variable {before before' : Option Char} {word : List Char}

theorem usesSame (same : identifierAt before = identifierAt before') (text : List Char) :
    usesWordFrom word before 0 text = usesWordFrom word before' 0 text := by
  cases text <;> simp only [usesWordFrom,same]

theorem usesEnded (single : '\n' ∉ word) (filled : word ≠ []) {skip : Nat} {line : List Char}
    (within : skip ≤ line.length) (rest : List Char) :
    usesWordFrom word before skip (line ++ '\n' :: rest) =
      (usesWordFrom word before skip line || usesWordFrom word none 0 rest) := by
  induction line generalizing before skip with
  | nil =>
    have here : word.isPrefixOf ('\n' :: rest) = false := by
      refine Bool.eq_false_iff.mpr fun found => ?_
      have empty := (Text.prefixStops single [] rest).mp (List.isPrefixOf_iff_prefix.mp found)
      exact filled (List.prefix_nil.mp empty)
    have apart : identifierAt (some '\n') = identifierAt none := by decide
    rw [Nat.le_zero.mp within,List.nil_append,usesWordFrom,usesWordFrom,here,usesSame apart]
    rfl
  | cons c line ih =>
    cases skip with
    | succ skip => exact ih (Nat.le_of_succ_le_succ within)
    | zero =>
      rw [List.cons_append,usesWordFrom,usesWordFrom]
      have starts : word.isPrefixOf (c :: (line ++ '\n' :: rest)) = word.isPrefixOf (c :: line) := by
        rw [Bool.eq_iff_iff,List.isPrefixOf_iff_prefix,List.isPrefixOf_iff_prefix]
        exact Text.prefixStops single (c :: line) rest
      rw [starts]
      split
      · rename_i found
        have length : word.length ≤ (c :: line).length := (List.isPrefixOf_iff_prefix.mp found).length_le
        have next : identifierAt ((c :: (line ++ '\n' :: rest)).drop word.length).head? =
            identifierAt ((c :: line).drop word.length).head? := by
          rw [← List.cons_append,List.drop_append_of_le_length length,List.head?_append]
          cases (c :: line).drop word.length <;> rfl
        rw [next,ih (by rw [List.length_cons] at length; omega),Bool.or_assoc]
      · exact ih (Nat.zero_le _)

theorem usesWordEnded (single : '\n' ∉ word) (filled : word ≠ []) (line rest : List Char) :
    usesWord (line ++ '\n' :: rest) word = (usesWord line word || usesWord rest word) :=
  usesEnded single filled (Nat.zero_le _) rest

end Playground.Check
