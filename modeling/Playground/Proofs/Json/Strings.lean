import Playground.Json.Printer
import Playground.Json.Reader

/-! Strings between quotes. Each character is read back from what it is escaped to, so a quoted string
is read back whole, whatever stands behind it. -/
namespace Playground.Json
open Text (Glyph)

theorem hexDigitValue : ∀ d < 16, hexValue? (.char (hexDigit d)) = some d := by decide

theorem hexDigitWidth : ∀ d < 16, (Glyph.char (hexDigit d)).width = 1 := by decide

theorem unitsRead {code : Nat} (control : code < 32) (rest : List Glyph) :
    readUnits (Text.glyphs ['0','0',hexDigit (code / 16),hexDigit (code % 16)] ++ rest) =
      .ok (Char.ofNat code,rest) := by
  have high : code / 16 < 16 := by omega
  have low : code % 16 < 16 := by omega
  have hex : readHex (Text.glyphs ['0','0',hexDigit (code / 16),hexDigit (code % 16)] ++ rest) = .ok (code,rest) := by
    have digits : ((0 * 16 + 0) * 16 + code / 16) * 16 + code % 16 = code := by omega
    have zero : hexValue? (.char '0') = some 0 := by decide
    have width : (Glyph.char '0').width = 1 := by decide
    simp only [readHex,Text.glyphs,List.map_cons,List.map_nil,List.cons_append,List.nil_append,List.take_succ_cons,
      List.take_zero,byteCount,List.foldl_cons,List.foldl_nil,width,hexDigitWidth _ high,hexDigitWidth _ low,
      List.mapM_cons,List.mapM_nil,zero,hexDigitValue _ high,hexDigitValue _ low,List.drop_succ_cons,List.drop_zero]
    rw [if_neg (by decide)]
    exact congrArg (fun n => Except.ok (n,rest)) digits
  unfold readUnits
  simp only [hex]
  rw [if_neg (by omega),if_pos (by omega)]

theorem escapeRead (c : Char) (fuel : Nat) (seen : List Char) (rest : List Glyph) :
    readString.go (fuel + 1) seen false (Text.glyphs (escapeChar c) ++ rest) =
      readString.go fuel (c :: seen) false rest := by
  unfold escapeChar
  split
  · rfl
  · rfl
  · rfl
  · rfl
  · rfl
  · rfl
  · rfl
  · rename_i quote slash _ _ _ _ _
    split
    · rename_i control
      have units := unitsRead control rest
      rw [Char.ofNat_toNat] at units
      simp only [Text.glyphs,List.map_cons,List.map_nil,List.cons_append,List.nil_append,readString.go,
        readEscape] at units ⊢
      rw [units]
    · rename_i printable
      simp only [Text.glyphs,List.map_cons,List.map_nil,List.cons_append,List.nil_append]
      rw [readString.go]
      · rw [if_neg printable]
      · exact quote
      · exact slash

theorem charactersRead (s : List Char) {fuel : Nat} (enough : s.length < fuel) (seen : List Char) (rest : List Glyph) :
    readString.go fuel seen false (Text.glyphs (s.flatMap escapeChar) ++ .char '"' :: rest) =
      .ok (String.ofList (seen.reverse ++ s),rest) := by
  induction s generalizing fuel seen with
  | nil =>
    cases fuel with
    | zero => contradiction
    | succ fuel => simp only [List.flatMap_nil,List.append_nil,Text.glyphs,List.map_nil,List.nil_append]; rfl
  | cons c s ih =>
    cases fuel with
    | zero => contradiction
    | succ fuel =>
      have step := escapeRead c fuel seen (Text.glyphs (s.flatMap escapeChar) ++ .char '"' :: rest)
      rw [List.flatMap_cons,Text.glyphs,List.map_append,List.append_assoc]
      refine step.trans ((ih (Nat.lt_of_succ_lt_succ enough) (c :: seen)).trans ?_)
      rw [List.reverse_cons,List.append_assoc,List.singleton_append]

theorem escapeNonempty (c : Char) : escapeChar c ≠ [] := by
  unfold escapeChar
  split
  all_goals first | exact List.cons_ne_nil _ _ | split <;> exact List.cons_ne_nil _ _

theorem escapedLength (s : List Char) : s.length ≤ (s.flatMap escapeChar).length := by
  induction s with
  | nil => exact Nat.le_refl 0
  | cons c s ih =>
    have some := List.length_pos_iff.mpr (escapeNonempty c)
    rw [List.flatMap_cons,List.length_append,List.length_cons]
    omega

theorem stringRead (s : String) (rest : List Glyph) :
    readString (Text.glyphs (s.toList.flatMap escapeChar) ++ .char '"' :: rest) = .ok (s,rest) := by
  have enough : s.toList.length < (Text.glyphs (s.toList.flatMap escapeChar) ++ .char '"' :: rest).length + 1 := by
    have escaped := escapedLength s.toList
    simp only [Text.glyphs,List.length_append,List.length_map]
    omega
  refine (charactersRead s.toList enough [] rest).trans ?_
  rw [List.reverse_nil,List.nil_append,String.ofList_toList]

theorem quotedGlyphs (s : String) :
    Text.glyphs (quoted s).toList = .char '"' :: (Text.glyphs (s.toList.flatMap escapeChar) ++ [.char '"']) := by
  have quote : "\"".toList = ['"'] := rfl
  simp only [quoted,String.toList_append,String.toList_ofList,Text.glyphs,List.map_append,quote,List.map_cons,
    List.map_nil]
  rfl

theorem quotedRead (s : String) (rest : List Glyph) :
    readScalar (Text.glyphs (quoted s).toList ++ rest) = .ok (.string s,rest) := by
  rw [quotedGlyphs,List.cons_append,List.append_assoc]
  simp only [readScalar,List.singleton_append,stringRead,Except.map]

end Playground.Json
