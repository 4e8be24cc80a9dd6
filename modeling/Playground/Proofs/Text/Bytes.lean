import Playground.Proofs.Text.ByteOrder

/-! Marks that are looked for in the bytes of a text. No byte of another character is an ASCII one,
and the case of ASCII letters shows in their bytes alone. So a mark of ASCII characters that is found
in lower-cased bytes stands at a character of the text, and the bytes before it are those of the
characters before it. -/
namespace Playground.Text

def lowerByte (b : UInt8) : UInt8 := if 0x41 ≤ b ∧ b ≤ 0x5a then b + 0x20 else b

def placeOf (mark : List UInt8) : List UInt8 → Option Nat
  | [] => if mark.isEmpty then some 0 else none
  | b :: bytes => if mark.isPrefixOf (b :: bytes) then some 0 else (placeOf mark bytes).map (· + 1)

def encoded (text : List Char) : List UInt8 := text.flatMap String.utf8EncodeChar

theorem encodeAppend (front back : String) : encode (front ++ back) = encode front ++ encode back := by
  simp only [encodeCharacters,String.toList_append,List.flatMap_append]

theorem encodeLength (s : String) : (encode s).length = s.utf8ByteSize := by
  rw [encode,bytesListed,Array.length_toList]
  exact String.size_toByteArray

theorem encodedLength (s : String) : (encoded s.toList).length = s.utf8ByteSize := by
  rw [← encodeLength,encodeCharacters,encoded]

def lowered (text : List Char) : List UInt8 := (encoded text).map lowerByte

def asciiByte (c : Char) : UInt8 := UInt8.ofNat c.toNat

def IsAscii (c : Char) : Prop := c.toNat < 0x80
instance (c) : Decidable (IsAscii c) := inferInstanceAs (Decidable (_ < _))

theorem asciiEncoded {c : Char} (ascii : IsAscii c) : String.utf8EncodeChar c = [asciiByte c] := by
  have small : c.val.toNat ≤ 0x7f := Nat.le_of_lt_succ ascii
  simp only [String.utf8EncodeChar,small,if_true]
  rfl

theorem wideEncoded {c : Char} (wide : ¬ IsAscii c) {b : UInt8} (member : b ∈ String.utf8EncodeChar c) :
    0x80 ≤ b.toNat := by
  have large : ¬ c.val.toNat ≤ 0x7f := fun small => wide (Nat.lt_succ_of_le small)
  unfold String.utf8EncodeChar at member
  generalize c.val.toNat = n at member large
  simp only [large,if_false] at member
  -- one case for each length, and one for each byte of it
  repeat' split at member
  all_goals
    simp only [List.mem_cons,List.not_mem_nil,or_false] at member
    rcases member with rfl | rfl | rfl | rfl <;> rw [byteValue (by omega)] <;> omega

theorem lowerWide {b : UInt8} (wide : 0x80 ≤ b.toNat) : lowerByte b = b := by
  refine if_neg fun letter => ?_
  have last : b.toNat ≤ 0x5a := letter.2
  omega

theorem lowerAsciiByte {c : Char} (ascii : IsAscii c) :
    lowerByte (asciiByte c) = asciiByte c.toLower ∧ IsAscii c.toLower := by
  have each : ∀ n < 0x80, lowerByte (asciiByte (Char.ofNat n)) = asciiByte (Char.ofNat n).toLower ∧
      IsAscii (Char.ofNat n).toLower := by decide +kernel
  have here := each c.toNat ascii
  rwa [Char.ofNat_toNat] at here

theorem lowerWideChar {c : Char} (wide : ¬ IsAscii c) : c.toLower = c := by
  refine dif_neg fun letter => wide ?_
  have last : c.val.toNat ≤ 0x5a := letter.2
  exact Nat.lt_of_le_of_lt last (by decide)

theorem asciiValue {c : Char} (ascii : IsAscii c) : (asciiByte c).toNat = c.toNat :=
  byteValue (Nat.lt_trans ascii (by decide))

theorem asciiByteInjective {a b : Char} (first : IsAscii a) (second : IsAscii b) :
    asciiByte a = asciiByte b ↔ a = b := by
  refine ⟨fun same => ?_,congrArg asciiByte⟩
  have codes := congrArg UInt8.toNat same
  rw [asciiValue first,asciiValue second] at codes
  rw [← Char.ofNat_toNat a,codes,Char.ofNat_toNat]

theorem wideApart {a c : Char} (ascii : IsAscii a) (wide : ¬ IsAscii c) : asciiByte a ∉ String.utf8EncodeChar c := by
  intro member
  have large := wideEncoded wide member
  rw [asciiValue ascii] at large
  exact Nat.not_lt.mpr large ascii

theorem loweredAscii {c : Char} (ascii : IsAscii c) (text : List Char) :
    lowered (c :: text) = asciiByte c.toLower :: lowered text := by
  simp [lowered,encoded,asciiEncoded ascii,(lowerAsciiByte ascii).1]

theorem loweredWide {c : Char} (wide : ¬ IsAscii c) (text : List Char) :
    lowered (c :: text) = String.utf8EncodeChar c ++ lowered text := by
  have same : (String.utf8EncodeChar c).map lowerByte = String.utf8EncodeChar c :=
    (List.map_congr_left fun b member => lowerWide (wideEncoded wide member)).trans (List.map_id _)
  simp [lowered,encoded,same]

theorem prefixLowered {mark : List Char} (ascii : ∀ c ∈ mark, IsAscii c) (text : List Char) :
    mark.map asciiByte <+: lowered text ↔ mark <+: lowerAscii text := by
  induction mark generalizing text with
  | nil => simp
  | cons a mark ih =>
    obtain ⟨first,others⟩ := List.forall_mem_cons.mp ascii
    cases text with
    | nil => simp [lowered,encoded,lowerAscii]
    | cons c text =>
      rw [List.map_cons,lowerAscii,List.map_cons]
      by_cases own : IsAscii c
      · rw [loweredAscii own,List.cons_prefix_cons,List.cons_prefix_cons,
          asciiByteInjective first (lowerAsciiByte own).2,ih others,lowerAscii]
      · have apart : a ≠ c := fun same => own (same ▸ first)
        rw [loweredWide own,lowerWideChar own,List.cons_prefix_cons]
        refine iff_of_false (fun found => ?_) fun found => apart found.1
        cases bytes : String.utf8EncodeChar c with
        | nil => exact String.utf8EncodeChar_ne_nil bytes
        | cons b more =>
          rw [bytes,List.cons_append,List.cons_prefix_cons] at found
          exact wideApart first own (by rw [bytes,found.1]; exact List.mem_cons_self)

theorem placePast {b : UInt8} {front : List UInt8} (absent : b ∉ front) (mark rest : List UInt8) :
    placeOf (b :: mark) (front ++ rest) = (placeOf (b :: mark) rest).map (· + front.length) := by
  induction front with
  | nil => simp
  | cons d front ih =>
    obtain ⟨apart,later⟩ := not_or.mp (mt List.mem_cons.mpr absent)
    have here : (b :: mark).isPrefixOf (d :: (front ++ rest)) = false := by simp [List.isPrefixOf,apart]
    rw [List.cons_append,placeOf,if_neg (by simp [here]),ih later,Option.map_map]
    congr 1

theorem placeCons {mark : List Char} (filled : mark ≠ []) (ascii : ∀ c ∈ mark, IsAscii c) (c : Char)
    (text : List Char) :
    placeOf (mark.map asciiByte) (lowered (c :: text)) =
      if mark <+: lowerAscii (c :: text) then some 0
        else (placeOf (mark.map asciiByte) (lowered text)).map (· + (String.utf8EncodeChar c).length) := by
  have starts := prefixLowered ascii (c :: text)
  cases mark with
  | nil => exact absurd rfl filled
  | cons a mark =>
    obtain ⟨first,-⟩ := List.forall_mem_cons.mp ascii
    by_cases own : IsAscii c
    · rw [loweredAscii own] at starts ⊢
      rw [List.map_cons] at starts ⊢
      simp only [placeOf,List.isPrefixOf_iff_prefix,starts,asciiEncoded own,List.length_singleton]
    · have apart : ¬ a :: mark <+: lowerAscii (c :: text) := by
        rw [lowerAscii,List.map_cons,lowerWideChar own,List.cons_prefix_cons]
        exact fun found => own (found.1 ▸ first)
      rw [if_neg apart,loweredWide own,List.map_cons,placePast (wideApart first own)]

end Playground.Text
