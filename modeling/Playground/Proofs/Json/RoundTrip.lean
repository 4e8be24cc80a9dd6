import Playground.Proofs.Json.Strings
import Playground.Proofs.Json.Survivors

/-! The printed form of a value whose numbers survive is read back: as the same tree, with each number as its
printed form reads. -/
namespace Playground.Json
open Text (Glyph)

def reread : Json → Json
  | .null => .null
  | .bool b => .bool b
  | .number n => .number n.reread
  | .string s => .string s
  | .array items => .array (items.map reread)
  | .object members => .object (members.map fun m => (m.1,reread m.2))
termination_by v => sizeOf v
decreasing_by
  · exact itemSmaller ‹_›
  · exact memberSmaller ‹_›

def Survives (v : Json) : Prop := ∀ n ∈ v.numbers, n.Survives

theorem itemSurvives {items : List Json} (survives : (Json.array items).Survives) {item : Json}
    (member : item ∈ items) : item.Survives := by
  intro n inside
  refine survives n ?_
  rw [numbers]
  exact List.mem_flatMap.mpr ⟨item,member,inside⟩

theorem memberSurvives {members : List (String × Json)} (survives : (Json.object members).Survives)
    {m : String × Json} (member : m ∈ members) : m.2.Survives := by
  intro n inside
  refine survives n ?_
  rw [numbers]
  exact List.mem_flatMap.mpr ⟨m,member,inside⟩

theorem numberSurvives {n : Number} (survives : (Json.number n).Survives) : n.Survives :=
  survives n (by rw [numbers]; exact List.mem_singleton_self n)

theorem rereadSame {v : Json} (survives : v.Survives) : Same v.reread v := by
  induction v using induct with
  | null => rw [reread]; exact .null
  | bool b => rw [reread]; exact .bool b
  | number n =>
    rw [reread]
    exact .number (survivorRead (numberSurvives survives)).2
  | string s => rw [reread]; exact .string s
  | array items ih =>
    rw [reread]
    refine .array (List.length_map _) fun i item other here there => ?_
    rw [List.getElem?_map,there] at here
    cases here
    have member := List.mem_of_getElem? there
    exact ih other member (itemSurvives survives member)
  | object members ih =>
    rw [reread]
    refine .object (fun key => by rw [lastOfMap,Option.isSome_map]) fun key value other here there => ?_
    rw [lastOfMap,there] at here
    cases here
    have member : (key,other) ∈ members := List.mem_reverse.mp (lookupMember there)
    exact ih (key,other) member (memberSurvives survives member)

theorem rereadOrdered {v : Json} (ordered : Everywhere Members.Ordered v) : Everywhere Members.Ordered v.reread := by
  induction ordered with
  | null => rw [reread]; exact .null
  | bool b => rw [reread]; exact .bool b
  | number n => rw [reread]; exact .number _
  | string s => rw [reread]; exact .string s
  | array _ ih =>
    rw [reread]
    refine .array fun item member => ?_
    obtain ⟨original,present,rfl⟩ := List.mem_map.mp member
    exact ih original present
  | object here _ ih =>
    rw [reread]
    refine .object (List.pairwise_map.mpr here) fun m member => ?_
    obtain ⟨original,present,rfl⟩ := List.mem_map.mp member
    exact ih original present

/-! ## Printed texts -/

def printed (level : Nat) (v : Json) : List Glyph := Text.glyphs (v.pretty level).toList

def indent (level : Nat) : List Glyph := Text.glyphs (newline level).toList

def followers (level : Nat) (texts : List (List Glyph)) : List Glyph :=
  texts.flatMap fun text => .char ',' :: (indent level ++ text)

theorem glyphsAppend (s t : String) :
    Text.glyphs (s ++ t).toList = Text.glyphs s.toList ++ Text.glyphs t.toList := by
  rw [String.toList_append,Text.glyphs,List.map_append]
  rfl

theorem indentSpaces (level : Nat) : indent level = .char '\n' :: List.replicate (2 * level) (.char ' ') := by
  have line : Text.glyphs "\n".toList = [.char '\n'] := rfl
  rw [indent,newline,glyphsAppend,line,String.toList_ofList,Text.glyphs,List.map_replicate]
  rfl

theorem followersCons (level : Nat) (text : List Glyph) (texts : List (List Glyph)) :
    followers level (text :: texts) = .char ',' :: (indent level ++ (text ++ followers level texts)) := by
  simp only [followers,List.flatMap_cons,List.cons_append,List.append_assoc]

theorem linesText (level : Nat) (text : String) (texts : List String) :
    Text.glyphs (lines level (text :: texts)).toList =
      indent level ++ (Text.glyphs text.toList ++ followers level (texts.map fun text => Text.glyphs text.toList)) := by
  induction texts generalizing text with
  | nil =>
    rw [lines,glyphsAppend,List.map_nil,followers,List.flatMap_nil,List.append_nil]
    rfl
  | cons next texts ih =>
    have comma : Text.glyphs ",".toList = [.char ','] := rfl
    rw [lines,glyphsAppend,glyphsAppend,glyphsAppend,comma,ih next,List.map_cons,followersCons]
    · simp only [List.append_assoc]
      rfl
    · exact List.cons_ne_nil next texts

theorem bracketedText {α : Type} (opening closing : String) (line : α → String) (level : Nat) (entry : α)
    (entries : List α) (rest : List Glyph) :
    Text.glyphs (bracketed opening closing level ((entry :: entries).map line)).toList ++ rest =
      Text.glyphs opening.toList ++ (indent (level + 1) ++ (Text.glyphs (line entry).toList ++
        (followers (level + 1) (entries.map fun entry => Text.glyphs (line entry).toList) ++
          (indent level ++ (Text.glyphs closing.toList ++ rest))))) := by
  rw [List.map_cons,bracketed]
  simp only [glyphsAppend,linesText,List.append_assoc,List.map_map,Function.comp_def]
  rfl

def memberText (level : Nat) (m : String × Json) : List Glyph := Text.glyphs (memberLine level m).toList

theorem memberSpelled (level : Nat) (m : String × Json) :
    memberText level m = Text.glyphs (quoted m.1).toList ++ .char ':' :: .char ' ' :: printed level m.2 := by
  have colon : Text.glyphs ": ".toList = [.char ':',.char ' '] := rfl
  rw [memberText,memberLine,glyphsAppend,glyphsAppend,colon,List.append_assoc]
  rfl

theorem followersLength (level : Nat) (texts : List (List Glyph)) : texts.length ≤ (followers level texts).length := by
  induction texts with
  | nil => exact Nat.le_refl 0
  | cons text texts ih =>
    rw [followersCons]
    simp only [List.length_cons,List.length_append]
    omega

theorem followersDelimit (level outer : Nat) (texts : List (List Glyph)) (rest : List Glyph) :
    Delimits (followers level texts ++ (indent outer ++ rest)) := by
  cases texts with
  | nil =>
    rw [indentSpaces]
    exact ⟨rfl,rfl,rfl⟩
  | cons text texts => exact ⟨rfl,rfl,rfl⟩

/-! ## Space -/

theorem indentSkipped (level : Nat) (rest : List Glyph) : skipSpace (indent level ++ rest) = skipSpace rest := by
  rw [indentSpaces]
  refine List.dropWhile_append_of_pos fun g member => ?_
  rcases List.mem_cons.mp member with rfl | space
  · rfl
  · rw [List.eq_of_mem_replicate space]
    rfl

def Opens (text : List Glyph) : Prop := ∃ g rest, text = g :: rest ∧ isSpace g = false ∧ g ≠ .char ']'

theorem openGlyph {c : Char} {rest : List Glyph} (visible : isSpace (.char c) = false) (inside : c ≠ ']') :
    Opens (.char c :: rest) :=
  ⟨.char c,rest,rfl,visible,fun same => inside (Glyph.char.inj same)⟩

theorem openSkipped {text : List Glyph} (opens : Opens text) (rest : List Glyph) :
    skipSpace (text ++ rest) = text ++ rest := by
  obtain ⟨g,after,rfl,visible,-⟩ := opens
  exact List.dropWhile_cons_of_neg (by simp [visible])

/-! ## Reading back -/

/- Wherever the printed value stands the reader gives it back and stops behind it. -/
structure ReadBack (read : List Glyph → Reading Json) (level : Nat) (v : Json) : Prop where
  opens : Opens (printed level v)
  back {rest} (delimits : Delimits rest) : read (printed level v ++ rest) = .ok (v.reread,rest)

theorem firstItem {text : List Glyph} (opens : Opens text) (level : Nat) (rest : List Glyph) :
    nextItem true (indent level ++ (text ++ rest)) = .ok (some (text ++ rest),text ++ rest) := by
  unfold nextItem
  rw [indentSkipped,openSkipped opens]
  obtain ⟨g,after,rfl,-,inside⟩ := opens
  split
  · contradiction
  · rename_i same
    exact absurd (List.cons.inj same).1 inside
  · rename_i same
    rw [if_pos rfl,same]

theorem laterItem {text : List Glyph} (opens : Opens text) (level : Nat) (rest : List Glyph) :
    nextItem false (.char ',' :: (indent level ++ (text ++ rest))) = .ok (some (text ++ rest),text ++ rest) := by
  have comma (rest : List Glyph) : skipSpace (.char ',' :: rest) = .char ',' :: rest := rfl
  have found : skipSpace (indent level ++ (text ++ rest)) = text ++ rest :=
    (indentSkipped level _).trans (openSkipped opens rest)
  obtain ⟨g,after,rfl,-,inside⟩ := opens
  unfold nextItem
  rw [comma]
  split
  · contradiction
  · rename_i same
    exact absurd (List.cons.inj same).1 (by decide)
  · rename_i same
    obtain ⟨rfl,rfl⟩ := List.cons.inj same
    rw [if_neg Bool.false_ne_true,if_pos rfl,found]
    split
    · contradiction
    · rename_i same
      exact absurd (List.cons.inj same).1 inside
    · rfl

theorem lastItem (first : Bool) (level : Nat) (rest : List Glyph) :
    nextItem first (indent level ++ .char ']' :: rest) = .ok (none,.char ']' :: rest) := by
  unfold nextItem
  rw [indentSkipped]
  rfl

section
variable {read : List Glyph → Reading Json} {level outer : Nat}

theorem laterItemsRead (outer : Nat) {items : List Json} (each : ∀ item ∈ items, ReadBack read level item) {fuel : Nat}
    (enough : items.length < fuel) {seen : List Json} (before : seen ≠ []) (rest : List Glyph) :
    readItems read fuel seen
        (followers level (items.map (printed level)) ++ (indent outer ++ .char ']' :: rest)) =
      .ok (.array (seen.reverse ++ items.map reread),rest) := by
  have started : seen.isEmpty = false := List.isEmpty_eq_false_iff.mpr before
  induction items generalizing fuel seen with
  | nil =>
    obtain _ | fuel := fuel
    · contradiction
    · simp only [readItems,List.map_nil,followers,List.flatMap_nil,List.nil_append,lastItem,List.append_nil]
      rfl
  | cons item items ih =>
    obtain _ | fuel := fuel
    · contradiction
    · obtain ⟨here,later⟩ := List.forall_mem_cons.mp each
      have value := here.back (followersDelimit level outer (items.map (printed level)) (.char ']' :: rest))
      have next := ih later (Nat.lt_of_succ_lt_succ enough) (List.cons_ne_nil item.reread seen) rfl
      simp only [readItems,started,List.map_cons,followersCons,List.cons_append,List.append_assoc,
        laterItem here.opens,value,next]
      simp only [List.reverse_cons,List.append_assoc,List.singleton_append]

theorem arrayRead {item : Json} {items : List Json} (each : ∀ v ∈ item :: items, ReadBack read level v) {fuel : Nat}
    (enough : items.length + 1 < fuel) (rest : List Glyph) :
    readItems read fuel []
        (indent level ++ (printed level item ++
          (followers level (items.map (printed level)) ++ (indent outer ++ .char ']' :: rest)))) =
      .ok (.array ((item :: items).map reread),rest) := by
  obtain _ | fuel := fuel
  · contradiction
  · obtain ⟨here,later⟩ := List.forall_mem_cons.mp each
    have value := here.back (followersDelimit level outer (items.map (printed level)) (.char ']' :: rest))
    have next := laterItemsRead outer later (Nat.lt_of_succ_lt_succ enough)
      (List.cons_ne_nil item.reread []) rest
    simp only [readItems,List.isEmpty_nil,firstItem here.opens,value,next]
    rfl

/-! ## Members -/

theorem keyFound (level : Nat) (key : String) (rest : List Glyph) :
    skipSpace (indent level ++ (Text.glyphs (quoted key).toList ++ rest)) =
      .char '"' :: (Text.glyphs (key.toList.flatMap escapeChar) ++ .char '"' :: rest) := by
  rw [indentSkipped,quotedGlyphs,List.cons_append,List.append_assoc]
  rfl

theorem nameRead (key : String) (rest : List Glyph) :
    (readString (Text.glyphs (key.toList.flatMap escapeChar) ++ .char '"' :: rest)).map
      (fun (name,rest) => (some name,rest)) = .ok (some key,rest) := by
  rw [stringRead]
  rfl

theorem firstKey (level : Nat) (key : String) (rest : List Glyph) :
    nextKey true (indent level ++ (Text.glyphs (quoted key).toList ++ rest)) = .ok (some key,rest) := by
  unfold nextKey
  rw [keyFound]
  exact nameRead key rest

theorem laterKey (level : Nat) (key : String) (rest : List Glyph) :
    nextKey false (.char ',' :: (indent level ++ (Text.glyphs (quoted key).toList ++ rest))) = .ok (some key,rest) := by
  have comma (rest : List Glyph) : skipSpace (.char ',' :: rest) = .char ',' :: rest := rfl
  unfold nextKey
  rw [comma]
  split
  · contradiction
  · rename_i same
    exact absurd (List.cons.inj same).1 (by decide)
  · rename_i same
    obtain ⟨rfl,rfl⟩ := List.cons.inj same
    rw [if_neg Bool.false_ne_true,if_pos rfl,keyFound]
    exact nameRead key rest

theorem lastKey (first : Bool) (level : Nat) (rest : List Glyph) :
    nextKey first (indent level ++ .char '\x7d' :: rest) = .ok (none,.char '\x7d' :: rest) := by
  unfold nextKey
  rw [indentSkipped]
  rfl

variable (blank : ∀ rest, read (.char ' ' :: rest) = read rest)
include blank

theorem laterMembersRead (outer : Nat) {members : List (String × Json)} (each : ∀ m ∈ members, ReadBack read level m.2)
    {fuel : Nat} (enough : members.length < fuel) (seen : List (String × Json)) (rest : List Glyph) :
    readPairs read fuel false seen
        (followers level (members.map (memberText level)) ++ (indent outer ++ .char '\x7d' :: rest)) =
      .ok (.object (seen ++ members.map fun m => (m.1,reread m.2)),rest) := by
  induction members generalizing fuel seen with
  | nil =>
    obtain _ | fuel := fuel
    · contradiction
    · simp only [readPairs,List.map_nil,followers,List.flatMap_nil,List.nil_append,lastKey,List.append_nil]
      rfl
  | cons m members ih =>
    obtain _ | fuel := fuel
    · contradiction
    · obtain ⟨here,later⟩ := List.forall_mem_cons.mp each
      have colon (rest : List Glyph) : readColon (.char ':' :: rest) = .ok ((),rest) := rfl
      have value := here.back (followersDelimit level outer (members.map (memberText level)) (.char '\x7d' :: rest))
      have next := ih later (Nat.lt_of_succ_lt_succ enough) (seen ++ [(m.1,m.2.reread)])
      simp only [readPairs,List.map_cons,followersCons,memberSpelled _ m,List.cons_append,List.append_assoc,laterKey,
        colon,blank,value,next]
      rfl

theorem objectRead {m : String × Json} {members : List (String × Json)}
    (each : ∀ other ∈ m :: members, ReadBack read level other.2) {fuel : Nat} (enough : members.length + 1 < fuel)
    (rest : List Glyph) :
    readPairs read fuel true []
        (indent level ++ (memberText level m ++
          (followers level (members.map (memberText level)) ++ (indent outer ++ .char '\x7d' :: rest)))) =
      .ok (.object ((m :: members).map fun m => (m.1,reread m.2)),rest) := by
  obtain _ | fuel := fuel
  · contradiction
  · obtain ⟨here,later⟩ := List.forall_mem_cons.mp each
    have colon (rest : List Glyph) : readColon (.char ':' :: rest) = .ok ((),rest) := rfl
    have value := here.back (followersDelimit level outer (members.map (memberText level)) (.char '\x7d' :: rest))
    have next := laterMembersRead blank outer later (Nat.lt_of_succ_lt_succ enough) [(m.1,m.2.reread)] rest
    simp only [readPairs,memberSpelled _ m,List.cons_append,List.append_assoc,firstKey,colon,blank,value]
    exact next

end

/-! ## Documents -/

theorem scalarBack {depth level : Nat} {v : Json} {c : Char} {after : List Glyph}
    (starts : printed level v = .char c :: after) (visible : isSpace (.char c) = false) (inside : c ≠ ']')
    (noList : c ≠ '[') (noObject : c ≠ '\x7b')
    (back : ∀ {rest}, Delimits rest → readScalar (printed level v ++ rest) = .ok (v.reread,rest)) :
    ReadBack (readTree depth) level v := by
  refine ⟨starts ▸ openGlyph visible inside,fun {rest} delimits => ?_⟩
  have read := back delimits
  rw [starts] at read ⊢
  exact (treeScalar visible (fun same => noList (Glyph.char.inj same))
    fun same => noObject (Glyph.char.inj same)).trans read

theorem arrayBack {depth level : Nat} {items : List Json}
    (each : ∀ item ∈ items, ReadBack (readTree depth) (level + 1) item) :
    ReadBack (readTree (depth + 1)) level (.array items) := by
  cases items with
  | nil =>
    have text : printed level (.array []) = [.char '[',.char ']'] := by rw [printed,pretty]; rfl
    refine ⟨text ▸ openGlyph (by decide) (by decide),fun {rest} _ => ?_⟩
    rw [text,reread]
    rfl
  | cons item items =>
    have text (rest : List Glyph) : printed level (.array (item :: items)) ++ rest = .char '[' ::
        (indent (level + 1) ++ (printed (level + 1) item ++
          (followers (level + 1) (items.map (printed (level + 1))) ++ (indent level ++ .char ']' :: rest)))) := by
      have opening : Text.glyphs "[".toList = [.char '['] := rfl
      have closing : Text.glyphs "]".toList = [.char ']'] := rfl
      rw [printed,arrayText,bracketedText,opening,closing]
      rfl
    refine ⟨?_,fun {rest} _ => ?_⟩
    · rw [← List.append_nil (printed _ _),text]
      exact openGlyph (by decide) (by decide)
    · have opened (rest : List Glyph) :
          readTree (depth + 1) (.char '[' :: rest) = readItems (readTree depth) (rest.length + 1) [] rest := rfl
      rw [text,opened,reread]
      refine arrayRead each ?_ rest
      have enough := followersLength (level + 1) (items.map (printed (level + 1)))
      simp only [List.length_append,List.length_map,List.length_cons] at enough ⊢
      omega

theorem objectBack {depth level : Nat} {members : List (String × Json)}
    (each : ∀ m ∈ members, ReadBack (readTree depth) (level + 1) m.2) :
    ReadBack (readTree (depth + 1)) level (.object members) := by
  have opened (rest : List Glyph) :
      readTree (depth + 1) (.char '\x7b' :: rest) = readPairs (readTree depth) (rest.length + 1) true [] rest := rfl
  have closed (rest : List Glyph) : nextKey true (.char '\x7d' :: rest) = .ok (none,.char '\x7d' :: rest) := rfl
  cases members with
  | nil =>
    have text : printed level (.object []) = [.char '\x7b',.char '\x7d'] := by rw [printed,pretty]; rfl
    refine ⟨text ▸ openGlyph (by decide) (by decide),fun {rest} _ => ?_⟩
    rw [text,reread,List.cons_append,opened]
    simp only [readPairs,List.cons_append,List.nil_append,closed]
    rfl
  | cons m members =>
    have text (rest : List Glyph) : printed level (.object (m :: members)) ++ rest = .char '\x7b' ::
        (indent (level + 1) ++ (memberText (level + 1) m ++
          (followers (level + 1) (members.map (memberText (level + 1))) ++
            (indent level ++ .char '\x7d' :: rest)))) := by
      have opening : Text.glyphs "\x7b".toList = [.char '\x7b'] := rfl
      have closing : Text.glyphs "\x7d".toList = [.char '\x7d'] := rfl
      rw [printed,objectText,bracketedText,opening,closing]
      rfl
    refine ⟨?_,fun {rest} _ => ?_⟩
    · rw [← List.append_nil (printed _ _),text]
      exact openGlyph (by decide) (by decide)
    · have blank (rest : List Glyph) : readTree depth (.char ' ' :: rest) = readTree depth rest := by
        unfold readTree
        rfl
      rw [text,opened,reread]
      refine objectRead blank each ?_ rest
      have enough := followersLength (level + 1) (members.map (memberText (level + 1)))
      simp only [List.length_append,List.length_map,List.length_cons] at enough ⊢
      omega

theorem treeBack {v : Json} (survives : v.Survives) {depth : Nat} (within : Within depth v) (level : Nat) :
    ReadBack (readTree depth) level v := by
  induction v using induct generalizing depth level with
  | null =>
    have text : printed level .null = .char 'n' :: Text.glyphs "ull".toList := by rw [printed,pretty]; rfl
    refine scalarBack text (by decide) (by decide) (by decide) (by decide) fun {rest} _ => ?_
    rw [text,reread]
    rfl
  | bool b =>
    cases b with
    | false =>
      have text : printed level (.bool false) = .char 'f' :: Text.glyphs "alse".toList := by rw [printed,pretty]; rfl
      refine scalarBack text (by decide) (by decide) (by decide) (by decide) fun {rest} _ => ?_
      rw [text,reread]
      rfl
    | true =>
      have text : printed level (.bool true) = .char 't' :: Text.glyphs "rue".toList := by rw [printed,pretty]; rfl
      refine scalarBack text (by decide) (by decide) (by decide) (by decide) fun {rest} _ => ?_
      rw [text,reread]
      rfl
  | number n =>
    have survivor := numberSurvives survives
    obtain ⟨c,t,text,first⟩ := survivorStarts survivor
    have starts : printed level (.number n) = .char c :: Text.glyphs t := by rw [printed,pretty,text]; rfl
    refine scalarBack starts (numeralVisible first) (numeralUnlike first (by decide)) (numeralUnlike first (by decide))
      (numeralUnlike first (by decide)) fun {rest} delimits => ?_
    rw [printed,pretty,reread]
    exact survivorScalar survivor delimits
  | string s =>
    have starts : ∃ after, printed level (.string s) = .char '"' :: after := by
      rw [printed,pretty,quotedGlyphs]
      exact ⟨_,rfl⟩
    obtain ⟨after,starts⟩ := starts
    refine scalarBack starts (by decide) (by decide) (by decide) (by decide) fun {rest} _ => ?_
    rw [printed,pretty,reread]
    exact quotedRead s rest
  | array items ih =>
    cases within with
    | array inner =>
      exact arrayBack fun item member => ih item member (itemSurvives survives member) (inner item member) (level + 1)
  | object members ih =>
    cases within with
    | object inner =>
      exact objectBack fun m member => ih m member (memberSurvives survives member) (inner m member) (level + 1)

theorem printedWritten {v : Json} (survives : v.Survives) (within : Within depthLimit v) :
    written (v.pretty 0) = .ok v.reread := by
  have back := (treeBack survives within 0).back delimitsEnd
  rw [List.append_nil] at back
  exact writtenIff.mpr ⟨[],back,rfl⟩

end Playground.Json
