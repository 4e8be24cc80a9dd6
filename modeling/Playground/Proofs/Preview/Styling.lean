import Playground.Preview
import Playground.Proofs.Text.Bytes

/-! Where the style element goes. The end of the head is looked for in the lower-cased bytes of the
document, and the document is cut where it was found. Main statement: this is never inside a
character, it is before the first end of a head in any case of its letters, and nothing but the
element and a newline is added. -/
namespace Playground.Preview
open Text (encode encoded lowered lowerAscii lowerByte placeOf)

theorem startsIff (text : List Char) : startsHeadEnd text = true ↔ headEnd <+: lowerAscii text := by
  rw [startsHeadEnd,beq_iff_eq,List.prefix_iff_eq_take,lowerAscii,lowerAscii,List.map_take]
  exact eq_comm

theorem splitBehind (passed text : List Char) : splitAtHeadEnd.go passed text =
    (splitAtHeadEnd text).map fun (before,rest) => (passed.reverse ++ before,rest) := by
  induction text generalizing passed with
  | nil => rfl
  | cons c text ih =>
    unfold splitAtHeadEnd splitAtHeadEnd.go
    split
    · simp
    · rw [ih (c :: passed),ih [c],Option.map_map]
      simp [Function.comp_def]

theorem splitCons (c : Char) (text : List Char) : splitAtHeadEnd (c :: text) =
    if headEnd <+: lowerAscii (c :: text) then some ([],c :: text)
      else (splitAtHeadEnd text).map fun (before,rest) => (c :: before,rest) := by
  simp only [← startsIff]
  rw [splitAtHeadEnd,splitAtHeadEnd.go,splitBehind]
  rfl

theorem headEndAscii : ∀ c ∈ headEnd, Text.IsAscii c := by
  have all : headEnd.all (Text.IsAscii ·) = true := by decide
  simpa using all

theorem placeSplit (text : List Char) : placeOf (headEnd.map Text.asciiByte) (lowered text) =
    (splitAtHeadEnd text).map fun (before,_) => (encoded before).length := by
  induction text with
  | nil => rfl
  | cons c text ih =>
    rw [Text.placeCons (by decide) headEndAscii,splitCons,ih]
    split
    · rfl
    · rw [Option.map_map,Option.map_map]
      simp [Function.comp_def,encoded,Nat.add_comm]

structure FirstSplit (text before rest : List Char) : Prop where
  parts : text = before ++ rest
  ends : headEnd <+: lowerAscii rest
  first : ∀ front back, text = front ++ back → headEnd <+: lowerAscii back →
    (encoded before).length ≤ (encoded front).length

theorem splitFirst {text before rest : List Char} (found : splitAtHeadEnd text = some (before,rest)) :
    FirstSplit text before rest := by
  induction text generalizing before with
  | nil => cases found
  | cons c text ih =>
    rw [splitCons] at found
    split at found
    · rename_i here
      cases found
      exact ⟨rfl,here,fun _ _ _ _ => Nat.zero_le _⟩
    · rename_i absent
      obtain ⟨⟨front,back⟩,later,same⟩ := Option.map_eq_some_iff.mp found
      cases same
      obtain ⟨rfl,ends,first⟩ := ih later
      refine ⟨rfl,ends,fun passed left whole stands => ?_⟩
      cases passed with
      | nil => exact absurd (whole ▸ stands) absent
      | cons d passed =>
        obtain ⟨rfl,tail⟩ := List.cons_eq_cons.mp whole
        have shorter := first passed left tail stands
        simp only [encoded,List.flatMap_cons,List.length_append] at shorter ⊢
        omega

theorem splitNowhere {text : List Char} (none : splitAtHeadEnd text = none) (front back : List Char)
    (whole : text = front ++ back) : ¬ headEnd <+: lowerAscii back := by
  induction text generalizing front with
  | nil =>
    obtain ⟨rfl,rfl⟩ := List.append_eq_nil_iff.mp whole.symm
    decide
  | cons c text ih =>
    rw [splitCons] at none
    split at none
    · cases none
    · rename_i absent
      cases front with
      | nil => exact fun stands => absent (whole ▸ stands)
      | cons d front => exact ih (Option.map_eq_none_iff.mp none) front (List.cons_eq_cons.mp whole).2

def HeadEndAt (document : String) (place : Nat) : Prop :=
  ∃ before mark after : String, document = before ++ mark ++ after ∧ before.utf8ByteSize = place ∧
    lowerAscii mark.toList = "</head>".toList

def FirstHeadEnd (document : String) : Option Nat → Prop
  | none => ∀ place, ¬ HeadEndAt document place
  | some place => HeadEndAt document place ∧ ∀ other, HeadEndAt document other → place ≤ other

/- The document is cut between two of its characters, behind so many bytes, and the element is put there with
a newline; without these it is the document again. -/
structure StyledAt (document stylesheet rendered : String) (place : Nat) : Prop where
  boundary : (⟨place⟩ : String.Pos.Raw).IsValid document
  parts : ∃ before after, document = before ++ after ∧ before.utf8ByteSize = place ∧
    rendered = before ++ (styleElement stylesheet ++ "\n") ++ after
  cut : encode rendered = (encode document).take place ++ encode (styleElement stylesheet ++ "\n") ++
    (encode document).drop place
  restored : (encode rendered).take place ++
    (encode rendered).drop (place + (encode (styleElement stylesheet ++ "\n")).length) = encode document

theorem styledBetween (stylesheet before after : String) : StyledAt (before ++ after) stylesheet
    (before ++ (styleElement stylesheet ++ "\n") ++ after) before.utf8ByteSize := by
  have size := Text.encodeLength before
  have sizes (added : String) :
      (encode before ++ encode added).length = before.utf8ByteSize + (encode added).length := by
    rw [List.length_append,size]
  refine ⟨String.Pos.Raw.isValid_rawEndPos.append_right after,⟨before,after,rfl,rfl,rfl⟩,?_,?_⟩
  · rw [Text.encodeAppend,Text.encodeAppend,Text.encodeAppend before after,List.take_left' size,
      List.drop_left' size]
  · rw [Text.encodeAppend,Text.encodeAppend before,List.drop_left' (sizes _),List.append_assoc,
      List.take_left' size,Text.encodeAppend]

theorem headEndIff (document : String) (place : Nat) : HeadEndAt document place ↔
    ∃ front back, document.toList = front ++ back ∧ (encoded front).length = place ∧
      headEnd <+: lowerAscii back := by
  constructor
  · rintro ⟨before,mark,after,rfl,rfl,same⟩
    refine ⟨before.toList,mark.toList ++ after.toList,by simp,Text.encodedLength before,?_⟩
    rw [lowerAscii] at same
    rw [lowerAscii,List.map_append,same]
    exact List.prefix_append _ _
  · rintro ⟨front,back,whole,rfl,stands⟩
    refine ⟨String.ofList front,String.ofList (back.take headEnd.length),
      String.ofList (back.drop headEnd.length),?_,?_,?_⟩
    · rw [← String.toList_inj]
      simpa using whole
    · rw [← Text.encodedLength,String.toList_ofList]
    · rw [String.toList_ofList,lowerAscii,List.map_take]
      exact (List.prefix_iff_eq_take.mp stands).symm

theorem placeFound (document : String) : placeOf (encode "</head>") ((encode document).map lowerByte) =
    (splitAtHeadEnd document.toList).map fun (before,_) => (encoded before).length := by
  have mark : encode "</head>" = headEnd.map Text.asciiByte := by
    rw [Text.encodeCharacters]
    decide
  rw [mark,Text.encodeCharacters]
  exact placeSplit document.toList

theorem placeFirst (document : String) :
    FirstHeadEnd document (placeOf (encode "</head>") ((encode document).map lowerByte)) := by
  rw [placeFound]
  cases found : splitAtHeadEnd document.toList with
  | none =>
    intro place stands
    obtain ⟨front,back,whole,-,ends⟩ := (headEndIff document place).mp stands
    exact splitNowhere found front back whole ends
  | some split =>
    obtain ⟨parts,ends,first⟩ := splitFirst found
    refine ⟨(headEndIff document _).mpr ⟨_,_,parts,rfl,ends⟩,fun other stands => ?_⟩
    obtain ⟨front,back,whole,rfl,later⟩ := (headEndIff document other).mp stands
    exact first front back whole later

theorem withStyleAt (document stylesheet : String) :
    StyledAt document stylesheet (withStyle document stylesheet)
      ((placeOf (encode "</head>") ((encode document).map lowerByte)).getD 0) := by
  rw [placeFound,withStyle]
  cases found : splitAtHeadEnd document.toList with
  | none => simpa using styledBetween stylesheet "" document
  | some split =>
    obtain ⟨before,rest⟩ := split
    have parts : document = String.ofList before ++ String.ofList rest := by
      rw [← String.ofList_append,← (splitFirst found).parts,String.ofList_toList]
    have size : (String.ofList before).utf8ByteSize = (encoded before).length := by
      rw [← Text.encodedLength,String.toList_ofList]
    have styled := styledBetween stylesheet (String.ofList before) (String.ofList rest)
    rwa [← parts,size,← String.append_assoc] at styled

/- The place where the lower-cased bytes are cut is one of the document, which is shown with its element
there. -/
theorem styledBeforeHeadEnd (preview : Preview) (document stylesheet : String) :
    let shown sheet := ({ preview with document := some document, stylesheet := sheet } : Preview).render
    let found := placeOf (encode "</head>") ((encode document).map lowerByte)
    shown none = some document ∧ FirstHeadEnd document found ∧
      ∃ rendered, shown (some stylesheet) = some rendered ∧
        StyledAt document stylesheet rendered (found.getD 0) :=
  ⟨rfl,placeFirst document,withStyle document stylesheet,rfl,withStyleAt document stylesheet⟩

end Playground.Preview
