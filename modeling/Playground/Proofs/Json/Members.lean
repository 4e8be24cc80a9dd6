import Playground.Json.Reader
import Playground.Proofs.Lookup

/-! Members of JSON objects. An insertion sets its own key and leaves all others, and keeps the keys in
ascending order, each once; so the objects that are read have their keys in order. -/
namespace Playground.Json
open Text (Glyph)

theorem getInsert (members : Members) (key asked : String) (value : Json) :
    (members.insert key value).get? asked = if asked = key then some value else members.get? asked := by
  unfold Members.get?
  induction members with
  | nil => exact lookupCons key asked value []
  | cons head rest ih =>
    obtain ⟨known,old⟩ := head
    simp only [Members.insert]
    split
    · rename_i same
      subst same
      simp only [lookupCons]
      split <;> rfl
    · split
      · exact lookupCons key asked value _
      · rename_i other _
        simp only [lookupCons,ih]
        by_cases found : asked = known
        · simp [found,Ne.symm other]
        · simp [found]

def Members.Ordered (members : Members) : Prop := members.Pairwise fun a b => a.1 < b.1

theorem insertMembers {members : Members} {key : String} {value : Json} {entry : String × Json}
    (inserted : entry ∈ members.insert key value) : entry.1 = key ∨ entry ∈ members := by
  induction members with
  | nil => exact .inl (by simp [Members.insert] at inserted; simp [inserted])
  | cons head rest ih =>
    obtain ⟨known,old⟩ := head
    simp only [Members.insert] at inserted
    split at inserted
    · rcases List.mem_cons.mp inserted with rfl | later
      · exact .inl rfl
      · exact .inr (List.mem_cons_of_mem _ later)
    · split at inserted
      · rcases List.mem_cons.mp inserted with rfl | later
        · exact .inl rfl
        · exact .inr later
      · rcases List.mem_cons.mp inserted with rfl | later
        · exact .inr List.mem_cons_self
        · exact (ih later).imp_right (List.mem_cons_of_mem _)

theorem insertOrdered {members : Members} (ordered : members.Ordered) (key : String) (value : Json) :
    (members.insert key value).Ordered := by
  induction members with
  | nil => exact List.pairwise_singleton _ _
  | cons head rest ih =>
    obtain ⟨known,old⟩ := head
    obtain ⟨least,inner⟩ := List.pairwise_cons.mp ordered
    simp only [Members.insert]
    split
    · rename_i same
      subst same
      exact List.pairwise_cons.mpr ⟨least,inner⟩
    · split
      · rename_i below
        refine List.pairwise_cons.mpr ⟨?_,ordered⟩
        intro entry member
        rcases List.mem_cons.mp member with rfl | later
        · exact below
        · exact String.lt_trans below (least entry later)
      · rename_i other above
        refine List.pairwise_cons.mpr ⟨?_,ih inner⟩
        intro entry member
        rcases insertMembers member with rfl | later
        · show known < entry.1
          grind
        · exact least entry later

theorem getInsertAll {fields : Members} (ordered : fields.Ordered) (start : Members) (asked : String) :
    (fields.foldl (fun known field => known.insert field.1 field.2) start).get? asked =
      (fields.get? asked).or (start.get? asked) := by
  induction fields generalizing start with
  | nil => rfl
  | cons head rest ih =>
    obtain ⟨key,value⟩ := head
    obtain ⟨least,ordered⟩ := List.pairwise_cons.mp ordered
    have here : Members.get? ((key,value) :: rest) asked =
        if asked = key then some value else Members.get? rest asked := lookupCons key asked value rest
    rw [List.foldl_cons,ih ordered,getInsert,here]
    by_cases found : asked = key
    · subst found
      have absent : Members.get? rest asked = none :=
        lookupAbsent fun entry member same => String.lt_irrefl _ (same ▸ least entry member)
      simp [absent]
    · simp [found]

theorem getOfList (members : List (String × Json)) (asked : String) :
    (Members.ofList members).get? asked = members.reverse.lookup asked := by
  unfold Members.ofList
  rw [← List.foldr_reverse]
  generalize members.reverse = backwards
  induction backwards with
  | nil => rfl
  | cons last earlier ih => rw [List.foldr_cons,getInsert,ih,lookupCons]

theorem readMembersOrdered {read : List Glyph → Reading Json} {fuel first seen rest members left}
    (ordered : Members.Ordered seen)
    (done : readMembers read fuel first seen rest = .ok (.object members,left)) :
    Members.Ordered members := by
  induction fuel generalizing first seen rest with
  | zero => simp [readMembers,failAt] at done
  | succ fuel ih =>
    simp only [readMembers] at done
    split at done
    · contradiction
    · cases done
      exact ordered
    · split at done
      · contradiction
      · split at done
        · contradiction
        · exact ih (insertOrdered ordered _ _) done

theorem wordRead {α : Type} {letters : List Char} {value found : α} {rest left : List Glyph}
    (done : readWord letters value rest = .ok (found,left)) : found = value := by
  induction letters generalizing rest with
  | nil => cases done; rfl
  | cons letter letters ih =>
    cases rest with
    | nil => contradiction
    | cons g rest =>
      simp only [readWord] at done
      split at done
      · exact ih done
      · contradiction

theorem mapRead {ε α β : Type} {reading : Except ε α} {wrap : α → β} {result : β}
    (done : reading.map wrap = .ok result) : ∃ a, reading = .ok a ∧ wrap a = result := by
  cases reading with
  | error failure => contradiction
  | ok a => exact ⟨a,rfl,Except.ok.inj done⟩

theorem scalarRead {rest left : List Glyph} {members : Members} :
    readScalar rest ≠ .ok (.object members,left) := by
  intro done
  unfold readScalar at done
  split at done
  · contradiction
  · exact absurd (wordRead done) (by simp)
  · exact absurd (wordRead done) (by simp)
  · exact absurd (wordRead done) (by simp)
  · obtain ⟨⟨_,_⟩,_,wrapped⟩ := mapRead done
    cases wrapped
  · obtain ⟨⟨_,_⟩,_,wrapped⟩ := mapRead done
    cases wrapped
  · split at done
    · obtain ⟨⟨_,_⟩,_,wrapped⟩ := mapRead done
      cases wrapped
    · contradiction

theorem itemsRead {read : List Glyph → Reading Json} {fuel seen rest left} {members : Members} :
    readItems read fuel seen rest ≠ .ok (.object members,left) := by
  induction fuel generalizing seen rest with
  | zero => simp [readItems,failAt]
  | succ fuel ih =>
    simp only [readItems]
    split
    · simp
    · simp
    · split
      · simp
      · exact ih

theorem valueOrdered {depth : Nat} {rest left : List Glyph} {members : Members}
    (done : readValue depth rest = .ok (.object members,left)) : members.Ordered := by
  unfold readValue at done
  split at done
  · cases depth with
    | zero => contradiction
    | succ depth => exact absurd done itemsRead
  · cases depth with
    | zero => contradiction
    | succ depth => exact readMembersOrdered List.Pairwise.nil done
  · exact absurd done scalarRead

theorem parsedOrdered {text : String} {members : Members} (done : parse text = .ok (.object members)) :
    members.Ordered := by
  have done : readAll (Text.glyphs text.toList) = .ok (.object members) := by
    unfold parse at done
    cases all : readAll (Text.glyphs text.toList) with
    | error failure => simp [all,Except.mapError] at done
    | ok value => simpa [all,Except.mapError] using done
  unfold readAll at done
  split at done
  · contradiction
  · rename_i value rest read
    split at done
    · cases done
      exact valueOrdered read
    · contradiction

end Playground.Json
