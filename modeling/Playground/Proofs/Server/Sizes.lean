import Playground.Proofs.Json.Spellings
import Playground.Proofs.Server.Requests
import Playground.Proofs.Text.Decoding

/-! How large a source may be that is sent to be run. One limit applies to the body of the request and
another one to the source in it, and escapes make a source longer in the body than it is. Main
statement: whatever a body says, it is refused where it is too long; so the sources of a size are
answered in all their spellings only where there is room for six times that size, which is far less
than the limit of the source. -/
namespace Playground.Server
open Json (Spells)
open Text (Glyph encoded glyphs)
variable {W H : Type}

structure Request.Carries (request : Request) (submission : Submission) : Prop extends request.Posts where
  typed : hasJsonType request.headers = true
  decoded : Submission.read request.body = .ok submission
  named : Text.isBlankString submission.language = false

def keyed (key : String) (spelled : List Char) : List Char := '"' :: key.toList ++ ['"',':','"'] ++ spelled ++ ['"']

def objectText (source language : List Char) : List Char :=
  '\x7b' :: keyed "source" source ++ ',' :: keyed "language" language ++ ['\x7d']

def objectRequest (source language : List Char) : Request where
  method := "POST"
  target := "/run"
  headers := [("content-type","application/json")]
  body := encoded (objectText source language)

namespace Submission

theorem textTaken {spelled text : List Char} (spells : Spells spelled text) (place : String) (rest : List Glyph) :
    readText place (.char '"' :: (glyphs spelled ++ .char '"' :: rest)) = .ok (String.ofList text,rest) := by
  show lift (some place) Json.readString (glyphs spelled ++ .char '"' :: rest) = _
  rw [lift,Json.spelledRead spells]
  rfl

theorem memberTaken {first : Bool} {key : String} {field : Field} {draft filled : Draft} {text value rest : List Glyph}
    (next : Json.nextKey first text = .ok (some key,.char ':' :: value)) (known : Field.ofKey? key = some field)
    (fresh : draft.has field = false) (taken : draft.read key field value = .ok (filled,rest)) (fuel : Nat) :
    readMembers (fuel + 1) first draft text = readMembers fuel false filled rest := by
  have found : lift none (Json.nextKey first) text = .ok (some key,.char ':' :: value) := by
    rw [lift,next]
    rfl
  have colon : lift (some key) Json.readColon (.char ':' :: value) = .ok ((),value) := rfl
  have member : readMember draft key (.char ':' :: value) = .ok (filled,rest) := by
    simp only [readMember,known,fresh,Bool.false_eq_true,if_false,bind,StateT.bind,Except.bind,colon,taken]
  simp only [readMembers,bind,StateT.bind,Except.bind,found,member]

theorem keyedGlyphs (key : String) (spelled : List Char) (rest : List Glyph) :
    glyphs (keyed key spelled) ++ rest = .char '"' :: (glyphs key.toList ++
      .char '"' :: .char ':' :: .char '"' :: (glyphs spelled ++ .char '"' :: rest)) := by
  simp [keyed,glyphs]

theorem sourceTaken {spelled text : List Char} (spells : Spells spelled text) (fuel : Nat) (rest : List Glyph) :
    readMembers (fuel + 1) true {} (glyphs (keyed "source" spelled) ++ rest) =
      readMembers fuel false { source := some (String.ofList text) } rest := by
  have known : Field.ofKey? "source" = some .source := rfl
  rw [keyedGlyphs]
  refine memberTaken rfl known rfl ?_ fuel
  simp only [Draft.read,bind,StateT.bind,Except.bind,textTaken spells]
  rfl

theorem languageTaken {spelled text : List Char} (spells : Spells spelled text) (source : String) (fuel : Nat)
    (rest : List Glyph) :
    readMembers (fuel + 1) false { source := some source }
        (.char ',' :: (glyphs (keyed "language" spelled) ++ rest)) =
      readMembers fuel false { source := some source, language := some (String.ofList text) } rest := by
  have known : Field.ofKey? "language" = some .language := rfl
  rw [keyedGlyphs]
  refine memberTaken rfl known rfl ?_ fuel
  simp only [Draft.read,bind,StateT.bind,Except.bind,textTaken spells]
  rfl

theorem objectRead {spelled source name language : List Char} (spells : Spells spelled source)
    (names : Spells name language) :
    read (encoded (objectText spelled name)) =
      .ok { source := String.ofList source, language := String.ofList language } := by
  have members : glyphs (objectText spelled name) = .char '\x7b' :: (glyphs (keyed "source" spelled) ++
      .char ',' :: (glyphs (keyed "language" name) ++ [.char '\x7d'])) := by
    simp [objectText,glyphs]
  have front : readFront (glyphs (objectText spelled name)) =
      .ok ({ source := String.ofList source, language := String.ofList language },[]) := by
    rw [members]
    generalize last : Glyph.char ',' :: (glyphs (keyed "language" name) ++ [.char '\x7d']) = behind
    obtain ⟨fuel,enough⟩ : ∃ fuel, (glyphs (keyed "source" spelled) ++ behind).length = fuel + 2 := by
      refine ⟨_,(Nat.sub_add_cancel ?_).symm⟩
      simp [keyed,glyphs]
    show readMembers ((glyphs (keyed "source" spelled) ++ behind).length + 1) true {} _ = _
    rw [enough,sourceTaken spells,← last,languageTaken names]
    rfl
  rw [read,Text.encodedDecoded,StateT.run',front]
  rfl

end Submission

/-! ## Limits -/

theorem objectSize (spelled name : List Char) :
    (encoded (objectText spelled name)).length = (encoded (objectText [] name)).length + (encoded spelled).length := by
  simp only [objectText,keyed,encoded,List.flatMap_append,List.flatMap_cons,List.flatMap_nil,List.length_append,
    List.length_nil]
  omega

theorem objectCarries {spelled source name language : List Char} (spells : Spells spelled source)
    (names : Spells name language) (named : Text.isBlankString (String.ofList language) = false) :
    (objectRequest spelled name).Carries { source := String.ofList source, language := String.ofList language } := by
  have routed : Route.ofPath? untyped.path = some .run := by decide +kernel
  have typed : hasJsonType [("content-type","application/json")] = true := by decide +kernel
  exact ⟨⟨rfl,routed⟩,typed,Submission.objectRead spells names,named⟩

theorem refusedKeeps (c : Engine.Collaborators W H) (stamp : Stamp) {request : Request} (posts : request.Posts)
    {refusal : Response} (refused : submissionOf request = .error refusal) (s : Engine.Session W H) :
    (respond c stamp request).run s = (refusal.withHeaders sharingHeaders,s) := by
  rw [postRuns c stamp posts,runResponse,refused]
  rfl

section
variable {request : Request} {submission : Submission} (carries : request.Carries submission)
include carries

theorem longRefused (long : bodyLimit < request.body.length) :
    submissionOf request = .error (.ofText 413 "Failed to buffer the request body: length limit exceeded") := by
  unfold submissionOf
  simp only [carries.typed,long,Bool.not_true,Bool.false_eq_true,if_false,if_true]

theorem largeRefused (short : request.body.length ≤ bodyLimit)
    (large : Submission.sourceLimit < submission.source.utf8ByteSize) :
    submissionOf request = .error (.ofComplaint 400
      s!"source is {submission.source.utf8ByteSize} bytes, the limit is {Submission.sourceLimit}") := by
  unfold submissionOf Submission.objection?
  simp only [carries.typed,carries.decoded,carries.named,Nat.not_lt.mpr short,large,Bool.not_true,Bool.false_eq_true,
    if_false,if_true]

theorem carriesSubmits (short : request.body.length ≤ bodyLimit)
    (small : submission.source.utf8ByteSize ≤ Submission.sourceLimit) : request.Submits submission :=
  { carries with bounded := short, fitting := small }

end

structure Limited (c : Engine.Collaborators W H) (stamp : Stamp) (request : Request) (submission : Submission)
    (s : Engine.Session W H) : Prop where
  answered : request.body.length ≤ bodyLimit → submission.source.utf8ByteSize ≤ Submission.sourceLimit →
    let ran := (Engine.run c submission.source submission.language submission.stdin).run s
    let result := (respond c stamp request).run s
    result.1.status = 200 ∧ result.1.body = (runAnswer stamp ran.1).compact ∧ result.2 = ran.2
  large : request.body.length ≤ bodyLimit → Submission.sourceLimit < submission.source.utf8ByteSize →
    let result := (respond c stamp request).run s
    result.1.status = 400 ∧ result.2 = s
  long : bodyLimit < request.body.length →
    let result := (respond c stamp request).run s
    result.1.status = 413 ∧ result.2 = s

theorem carriedLimited (c : Engine.Collaborators W H) (stamp : Stamp) {request : Request} {submission : Submission}
    (carries : request.Carries submission) (s : Engine.Session W H) : Limited c stamp request submission s := by
  refine ⟨fun short small => ?_,fun short large => ?_,fun long => ?_⟩
  · have taken := submitted (carriesSubmits carries short small)
    rcases postCases c stamp carries.toPosts s with ⟨refusal,refused,-⟩ | ⟨known,found,responded⟩
    · rw [taken] at refused
      contradiction
    · cases taken.symm.trans found
      rw [responded]
      exact ⟨rfl,rfl,rfl⟩
  · rw [refusedKeeps c stamp carries.toPosts (largeRefused carries short large) s]
    exact ⟨rfl,rfl⟩
  · rw [refusedKeeps c stamp carries.toPosts (longRefused carries long) s]
    exact ⟨rfl,rfl⟩

theorem spelledFits {spelled source name : List Char} (spells : Spells spelled source)
    (room : (encoded (objectText [] name)).length + 6 * (encoded source).length ≤ bodyLimit) :
    (objectRequest spelled name).body.length ≤ bodyLimit := by
  have most := Json.spelledSize spells
  show (encoded (objectText spelled name)).length ≤ bodyLimit
  rw [objectSize]
  omega

def lettersSpelled (n : Nat) : List Char := Json.units ['0','0','6','1'] n

theorem lettersSpell (n : Nat) :
    Spells (lettersSpelled n) (List.replicate n 'a') ∧ (encoded (lettersSpelled n)).length = 6 * n :=
  Json.unitsSpell (by decide) n

theorem lettersSize (n : Nat) : (encoded (List.replicate n 'a')).length = n := by
  rw [Json.asciiSize,List.length_replicate]
  intro c member
  rw [List.eq_of_mem_replicate member]
  decide

theorem lettersLong {n : Nat} {name : List Char} (long : bodyLimit < (encoded (objectText [] name)).length + 6 * n) :
    bodyLimit < (objectRequest (lettersSpelled n) name).body.length := by
  show bodyLimit < (encoded (objectText (lettersSpelled n) name)).length
  rw [objectSize,(lettersSpell n).2]
  exact long

/- Sources of a size are answered in all their spellings exactly where the longest of these fits
into a body. -/
theorem spelledSourcesBounded (c : Engine.Collaborators W H) (stamp : Stamp) (s : Engine.Session W H) :
    (∀ (request : Request) (submission : Submission), request.Carries submission →
      Limited c stamp request submission s) ∧
    ∀ (name language : List Char), Spells name language → Text.isBlankString (String.ofList language) = false →
      ∀ size, (∀ spelled source, Spells spelled source → (encoded source).length = size →
          ((respond c stamp (objectRequest spelled name)).run s).1.status = 200) ↔
        (encoded (objectText [] name)).length + 6 * size ≤ bodyLimit := by
  refine ⟨fun request submission carries => carriedLimited c stamp carries s,fun name language names named size => ?_⟩
  constructor
  · intro answered
    by_contra beyond
    have refused := (carriedLimited c stamp (objectCarries (lettersSpell size).1 names named) s).long
      (lettersLong (Nat.lt_of_not_le beyond))
    exact absurd (refused.1.symm.trans (answered _ _ (lettersSpell size).1 (lettersSize size))) (by decide)
  · intro room spelled source spells same
    have limited := carriedLimited c stamp (objectCarries spells names named) s
    have short := spelledFits spells (same ▸ room)
    have small : (String.ofList source).utf8ByteSize ≤ Submission.sourceLimit := by
      have least : bodyLimit ≤ 6 * Submission.sourceLimit := by decide
      rw [← Text.encodedLength,String.toList_ofList,same]
      omega
    exact (limited.answered short small).1

def jsonName : List Char := ['j','s','o','n']

theorem jsonSpells : Spells jsonName jsonName := Json.ownSpells (by simp [jsonName])

theorem jsonNamed : Text.isBlankString (String.ofList jsonName) = false := by decide +kernel

theorem jsonSourcesAnswered :
    Spells jsonName jsonName ∧ Text.isBlankString (String.ofList jsonName) = false ∧
    (objectRequest [] jsonName).Carries { source := "", language := String.ofList jsonName } ∧
    ((respond secluded ⟨"",0⟩ (objectRequest [] jsonName)).run { world := () }).1.status = 200 ∧
    ∀ spelled source, Spells spelled source → (encoded source).length = 349520 →
      ((respond secluded ⟨"",0⟩ (objectRequest spelled jsonName)).run { world := () }).1.status = 200 := by
  have carries := objectCarries .nil jsonSpells jsonNamed
  obtain ⟨limited,bounded⟩ := spelledSourcesBounded secluded ⟨"",0⟩ { world := () }
  have empty := (limited _ _ carries).answered (by decide +kernel) (by decide +kernel)
  exact ⟨jsonSpells,jsonNamed,carries,empty.1,(bounded _ _ jsonSpells jsonNamed _).mpr (by decide +kernel)⟩

theorem escapedSourceRefused :
    let request := objectRequest (lettersSpelled 349521) jsonName
    let submission : Submission :=
      { source := String.ofList (List.replicate 349521 'a'), language := String.ofList jsonName }
    request.Carries submission ∧ submission.source.utf8ByteSize ≤ Submission.sourceLimit ∧
    ((respond secluded ⟨"",0⟩ request).run { world := () }).1.status = 413 := by
  have spells := (lettersSpell 349521).1
  have long := lettersLong (show bodyLimit < (encoded (objectText [] jsonName)).length + 6 * 349521 by decide +kernel)
  intro request submission
  have carries : request.Carries submission := objectCarries spells jsonSpells jsonNamed
  have size : submission.source.utf8ByteSize = 349521 := by
    show (String.ofList (List.replicate 349521 'a')).utf8ByteSize = 349521
    rw [← Text.encodedLength,String.toList_ofList]
    exact lettersSize 349521
  refine ⟨carries,?_,?_⟩
  · rw [size]
    decide
  · rw [refusedKeeps secluded _ carries.toPosts (longRefused carries long)]
    rfl

end Playground.Server
