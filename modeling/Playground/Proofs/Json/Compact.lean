import Playground.Proofs.Json.RoundTrip

/-! Objects of texts in their compact form. Each member is read back whole, whatever characters its
text is made of, so the object is read back as it is. -/
namespace Playground.Json
open Text (Glyph)

def OfTexts (members : Members) : Prop := ∀ m ∈ members, ∃ text, m.2 = .string text

def compactMember (m : String × Json) : List Glyph :=
  Text.glyphs (quoted m.1).toList ++ .char ':' :: Text.glyphs m.2.compact.toList

theorem compactSpelled (m : String × Json) (members : Members) :
    Text.glyphs (compactMembers (m :: members)).toList =
      compactMember m ++ members.flatMap fun other => .char ',' :: compactMember other := by
  have colon : Text.glyphs ":".toList = [.char ':'] := rfl
  have comma : Text.glyphs ",".toList = [.char ','] := rfl
  induction members generalizing m with
  | nil =>
    rw [compactMembers,glyphsAppend,glyphsAppend,colon,List.flatMap_nil,List.append_nil,List.append_assoc]
    rfl
  | cons next members ih =>
    rw [compactMembers,glyphsAppend,glyphsAppend,glyphsAppend,glyphsAppend,colon,comma,ih next,List.flatMap_cons]
    · simp only [compactMember,List.append_assoc,List.cons_append,List.nil_append]
    · simp

theorem compactKey (key : String) (rest : List Glyph) :
    nextKey true (Text.glyphs (quoted key).toList ++ rest) = .ok (some key,rest) := by
  rw [quotedGlyphs,List.cons_append,List.append_assoc]
  exact nameRead key rest

theorem furtherKey (key : String) (rest : List Glyph) :
    nextKey false (.char ',' :: (Text.glyphs (quoted key).toList ++ rest)) = .ok (some key,rest) := by
  rw [quotedGlyphs,List.cons_append,List.append_assoc]
  exact nameRead key rest

theorem textRead (depth : Nat) (s : String) (rest : List Glyph) :
    readValue depth (Text.glyphs (compact (.string s)).toList ++ rest) = .ok (.string s,rest) := by
  have scalar := quotedRead s rest
  rw [compact]
  rw [quotedGlyphs,List.cons_append] at scalar ⊢
  refine (valueFlat ?_).trans scalar
  exact fun after => ⟨fun same => absurd (List.cons.inj same).1 (by decide),
    fun same => absurd (List.cons.inj same).1 (by decide)⟩

section
variable {read : List Glyph → Reading Json}
  (back : ∀ s rest, read (Text.glyphs (compact (.string s)).toList ++ rest) = .ok (.string s,rest))
include back

theorem memberValue {m : String × Json} (text : ∃ text, m.2 = .string text) (rest : List Glyph) :
    read (Text.glyphs m.2.compact.toList ++ rest) = .ok (m.2,rest) := by
  obtain ⟨s,same⟩ := text
  rw [same]
  exact back s rest

theorem furtherTextsRead {members : Members} (texts : OfTexts members) {fuel : Nat} (enough : members.length < fuel)
    (seen : Members) (rest : List Glyph) :
    readMembers read fuel false seen
        ((members.flatMap fun m => .char ',' :: compactMember m) ++ .char '\x7d' :: rest) =
      .ok (.object (members.foldl (fun known m => Members.insert m.1 m.2 known) seen),rest) := by
  have colon (rest : List Glyph) : readColon (.char ':' :: rest) = .ok ((),rest) := rfl
  induction members generalizing fuel seen with
  | nil =>
    obtain _ | fuel := fuel
    · contradiction
    · rfl
  | cons m members ih =>
    obtain _ | fuel := fuel
    · contradiction
    · obtain ⟨here,later⟩ := List.forall_mem_cons.mp texts
      have value := memberValue back here
      have next := ih later (Nat.lt_of_succ_lt_succ enough) (Members.insert m.1 m.2 seen)
      simp only [readMembers,List.flatMap_cons,compactMember,List.cons_append,List.append_assoc,furtherKey,colon,
        value] at next ⊢
      exact next

theorem textsRead {members : Members} (texts : OfTexts members) {fuel : Nat} (enough : members.length < fuel)
    (rest : List Glyph) :
    readMembers read fuel true [] (Text.glyphs (compactMembers members).toList ++ .char '\x7d' :: rest) =
      .ok (.object (Members.ofList members),rest) := by
  have colon (rest : List Glyph) : readColon (.char ':' :: rest) = .ok ((),rest) := rfl
  obtain _ | fuel := fuel
  · contradiction
  · cases members with
    | nil =>
      rw [compactMembers]
      rfl
    | cons m members =>
      obtain ⟨here,later⟩ := List.forall_mem_cons.mp texts
      have value := memberValue back here
      have next := furtherTextsRead back later (Nat.lt_of_succ_lt_succ enough) (Members.insert m.1 m.2 []) rest
      simp only [readMembers,compactSpelled,compactMember,List.cons_append,List.append_assoc,compactKey,colon,
        value] at next ⊢
      exact next

end

theorem compactLength (members : Members) : members.length ≤ (Text.glyphs (compactMembers members).toList).length := by
  cases members with
  | nil => exact Nat.zero_le _
  | cons m members =>
    have each : members.length ≤ (members.flatMap fun m => .char ',' :: compactMember m).length := by
      induction members with
      | nil => exact Nat.le_refl 0
      | cons m members ih =>
        rw [List.flatMap_cons,List.length_append,List.length_cons,List.length_cons]
        omega
    rw [compactSpelled,List.length_append,compactMember,List.length_append,List.length_cons,List.length_cons]
    omega

/- The compact form of an object of texts is a document of its members, in whatever order they are. -/
theorem textsParsed {members : Members} (texts : OfTexts members) :
    parse (compact (.object members)) = .ok (.object (Members.ofList members)) := by
  have opening : Text.glyphs "\x7b".toList = [.char '\x7b'] := rfl
  have closing : Text.glyphs "\x7d".toList = [.char '\x7d'] := rfl
  have spelled : Text.glyphs (compact (.object members)).toList =
      .char '\x7b' :: (Text.glyphs (compactMembers members).toList ++ [.char '\x7d']) := by
    rw [compact,glyphsAppend,glyphsAppend,opening,closing]
    rfl
  have opened (rest : List Glyph) : readValue depthLimit (.char '\x7b' :: rest) =
      readMembers (readValue 126) (rest.length + 1) true [] rest := rfl
  have enough : members.length < (Text.glyphs (compactMembers members).toList ++ [Glyph.char '\x7d']).length + 1 := by
    have least := compactLength members
    rw [List.length_append]
    omega
  have read := textsRead (textRead 126) texts enough []
  have all : readAll (Text.glyphs (compact (.object members)).toList) = .ok (.object (Members.ofList members)) := by
    unfold readAll
    rw [spelled,opened,read]
    rfl
  unfold parse
  simp only [all]
  rfl

end Playground.Json
