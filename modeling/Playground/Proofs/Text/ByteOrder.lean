import Mathlib.Data.String.Basic
import Playground.Text.Utf8

/-! The order of texts is the order of their bytes: characters compare as their encodings do, whatever follows
these. -/
namespace Playground.Text

theorem byteValue {n : Nat} (bound : n < 256) : (UInt8.ofNat n).toNat = n := by
  rw [UInt8.toNat_ofNat']
  exact Nat.mod_eq_of_lt bound

theorem byteBelowIff {a b : Nat} (small : a < 256) (other : b < 256) (front back : List UInt8) :
    UInt8.ofNat a :: front < UInt8.ofNat b :: back ↔ a < b ∨ a = b ∧ front < back := by
  rw [List.cons_lt_cons_iff,UInt8.lt_iff_toNat_lt,← UInt8.toNat_inj,byteValue small,byteValue other]

theorem codeBound (c : Char) : c.val.toNat < 0x110000 := by
  rcases c.valid with low | ⟨-,high⟩
  · exact Nat.lt_trans low (by decide)
  · exact high

theorem quotientBelow {a b : Nat} (below : a < b) : a / 64 < b / 64 ∨ a / 64 = b / 64 ∧ a % 64 < b % 64 := by
  omega

theorem encodingBelow {c d : Char} (below : c < d) (front back : List UInt8) :
    String.utf8EncodeChar c ++ front < String.utf8EncodeChar d ++ back := by
  have codes : c.val.toNat < d.val.toNat := below
  have bound := codeBound d
  unfold String.utf8EncodeChar
  generalize c.val.toNat = m at codes
  generalize d.val.toNat = n at codes bound
  -- each byte but the first holds six bits of the code
  have leading (k : Nat) (small : k < 0x110000) :
      k / 64 / 64 = k / 4096 ∧ k / 4096 / 64 = k / 262144 ∧ k / 262144 % 8 = k / 262144 := by omega
  have lower := leading m (by omega)
  have upper := leading n bound
  have last := quotientBelow codes
  have middle : m / 64 < n / 64 → _ := fun below => quotientBelow below
  have first : m / 4096 < n / 4096 → _ := fun below => quotientBelow below
  simp only
  -- one case for each pair of lengths
  repeat' split
  all_goals simp (disch := omega) only [List.cons_append,List.nil_append,byteBelowIff]
  all_goals omega

theorem bytesListed (bytes : ByteArray) : bytes.toList = bytes.data.toList := by
  have looped (i : Nat) (passed : List UInt8) :
      ByteArray.toList.loop bytes i passed = passed.reverse ++ bytes.data.toList.drop i := by
    fun_induction ByteArray.toList.loop bytes i passed with
    | case1 i passed inside ih =>
      have here : bytes.get! i = bytes.data[i] := by
        simp [ByteArray.get!,getElem!_pos,inside]
      rw [ih,here,List.reverse_cons,List.append_assoc,List.drop_eq_getElem_cons inside]
      rfl
    | case2 i passed outside =>
      have nothing : bytes.data.toList.drop i = [] := List.drop_eq_nil_of_le (Nat.not_lt.mp outside)
      rw [nothing,List.append_nil]
  exact looped 0 []

theorem encodeCharacters (s : String) : encode s = s.toList.flatMap String.utf8EncodeChar := by
  have bytes : s.toUTF8 = s.toList.utf8Encode := by
    rw [String.toUTF8_eq_toByteArray,← String.toByteArray_ofList,String.ofList_toList]
  rw [encode,bytes,List.utf8Encode,bytesListed,List.toList_data_toByteArray]

theorem charactersBelow {s t : List Char} (below : s < t) :
    s.flatMap String.utf8EncodeChar < t.flatMap String.utf8EncodeChar := by
  induction s generalizing t with
  | nil =>
    cases t with
    | nil => exact absurd below (List.lt_irrefl _)
    | cons d t =>
      rw [List.flatMap_nil,List.flatMap_cons]
      cases encoded : String.utf8EncodeChar d with
      | nil => exact absurd encoded (String.utf8EncodeChar_ne_nil)
      | cons byte bytes => exact List.nil_lt_cons _ _
  | cons c s ih =>
    cases t with
    | nil => exact absurd below (List.not_lt_nil _)
    | cons d t =>
      rw [List.flatMap_cons,List.flatMap_cons]
      rcases List.cons_lt_cons_iff.mp below with first | ⟨rfl,rest⟩
      · exact encodingBelow first _ _
      · exact List.append_left_lt (ih rest)

theorem encodeBelow {s t : String} (below : s < t) : encode s < encode t := by
  rw [encodeCharacters,encodeCharacters]
  exact charactersBelow (String.lt_iff_toList_lt.mp below)

end Playground.Text
