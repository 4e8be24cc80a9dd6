import Playground.Json.Printer
import Playground.Proofs.Json.Members
import Playground.Proofs.Text.ByteOrder

/-! Documents as trees. A tree keeps the members of an object as they were written, in their order and
with all that share a key; `canonical` puts them in order and keeps the last of each key. Main
statement: trees that are the same up to the order of members, the members that are overridden, and
the numbers that are printed alike are printed alike in canonical form. -/
namespace Playground.Json

theorem itemSmaller {items : List Json} {item : Json} (member : item ∈ items) :
    sizeOf item < sizeOf (Json.array items) := by
  rw [array.sizeOf_spec]
  exact Nat.lt_add_left 1 (List.sizeOf_lt_of_mem member)

theorem memberSmaller {members : List (String × Json)} {m : String × Json} (member : m ∈ members) :
    sizeOf m.2 < sizeOf (Json.object members) := by
  obtain ⟨key,value⟩ := m
  have smaller := List.sizeOf_lt_of_mem member
  simp only [Prod.mk.sizeOf_spec,object.sizeOf_spec] at smaller ⊢
  omega

@[elab_as_elim]
theorem induct {motive : Json → Prop} (null : motive .null) (bool : ∀ b, motive (.bool b))
    (number : ∀ n, motive (.number n)) (string : ∀ s, motive (.string s))
    (array : ∀ items, (∀ item ∈ items, motive item) → motive (.array items))
    (object : ∀ members, (∀ m ∈ members, motive m.2) → motive (.object members)) : ∀ v, motive v
  | .null => null
  | .bool b => bool b
  | .number n => number n
  | .string s => string s
  | .array items => array items fun item _ => induct null bool number string array object item
  | .object members => object members fun m _ => induct null bool number string array object m.2
termination_by v => sizeOf v
decreasing_by
  · exact itemSmaller ‹_›
  · exact memberSmaller ‹_›

def canonical : Json → Json
  | .null => .null
  | .bool b => .bool b
  | .number n => .number n
  | .string s => .string s
  | .array items => .array (items.map canonical)
  | .object members => .object (Members.ofList (members.map fun m => (m.1,canonical m.2)))
termination_by v => sizeOf v
decreasing_by
  · exact itemSmaller ‹_›
  · exact memberSmaller ‹_›

def numbers : Json → List Number
  | .number n => [n]
  | .array items => items.flatMap numbers
  | .object members => members.flatMap fun m => numbers m.2
  | _ => []
termination_by v => sizeOf v
decreasing_by
  · exact itemSmaller ‹_›
  · exact memberSmaller ‹_›

inductive Everywhere (holds : List (String × Json) → Prop) : Json → Prop where
  | null : Everywhere holds .null
  | bool (b) : Everywhere holds (.bool b)
  | number (n) : Everywhere holds (.number n)
  | string (s) : Everywhere holds (.string s)
  | array {items} (inner : ∀ item ∈ items, Everywhere holds item) : Everywhere holds (.array items)
  | object {members} (here : holds members) (inner : ∀ m ∈ members, Everywhere holds m.2) :
      Everywhere holds (.object members)

inductive Within : Nat → Json → Prop where
  | null {depth} : Within depth .null
  | bool {depth} (b) : Within depth (.bool b)
  | number {depth} (n) : Within depth (.number n)
  | string {depth} (s) : Within depth (.string s)
  | array {depth items} (inner : ∀ item ∈ items, Within depth item) : Within (depth + 1) (.array items)
  | object {depth members} (inner : ∀ m ∈ members, Within depth m.2) : Within (depth + 1) (.object members)

def lastOf (members : List (String × Json)) (key : String) : Option Json := members.reverse.lookup key

/- The same value: numbers count by their printed form, and members as a set in which later ones override
earlier ones of their key. -/
inductive Same : Json → Json → Prop where
  | null : Same .null .null
  | bool (b) : Same (.bool b) (.bool b)
  | number {n m} (printed : n.text = m.text) : Same (.number n) (.number m)
  | string (s) : Same (.string s) (.string s)
  | array {items others : List Json} (length : items.length = others.length)
      (inner : ∀ (i : Nat) (item other : Json), items[i]? = some item → others[i]? = some other → Same item other) :
      Same (.array items) (.array others)
  | object {members others} (keys : ∀ key, (lastOf members key).isSome = (lastOf others key).isSome)
      (inner : ∀ key value other, lastOf members key = some value → lastOf others key = some other →
        Same value other) :
      Same (.object members) (.object others)

theorem everywhereMono {holds other : List (String × Json) → Prop}
    (implies : ∀ members, holds members → other members) {v : Json} (everywhere : Everywhere holds v) :
    Everywhere other v := by
  induction everywhere with
  | null => exact .null
  | bool b => exact .bool b
  | number n => exact .number n
  | string s => exact .string s
  | array _ ih => exact .array ih
  | object here _ ih => exact .object (implies _ here) ih

/-! ## Ordered members -/

theorem ofListOrdered (members : List (String × Json)) : (Members.ofList members).Ordered := by
  suffices kept : ∀ start : Members, start.Ordered →
      Members.Ordered (members.foldl (fun known member => Members.insert member.1 member.2 known) start) from
    kept [] List.Pairwise.nil
  induction members with
  | nil => exact fun _ ordered => ordered
  | cons m rest ih => exact fun start ordered => ih _ (insertOrdered ordered m.1 m.2)

theorem orderedLookup {β : Type} {members : List (String × β)} (ordered : members.Pairwise fun a b => a.1 < b.1)
    {key : String} {value : β} : members.lookup key = some value ↔ (key,value) ∈ members := by
  refine ⟨lookupMember,fun member => ?_⟩
  induction members with
  | nil => cases member
  | cons head rest ih =>
    obtain ⟨least,inner⟩ := List.pairwise_cons.mp ordered
    rcases List.mem_cons.mp member with rfl | later
    · rw [lookupCons,if_pos rfl]
    · have other : key ≠ head.1 := fun same => String.lt_irrefl _ (same ▸ least _ later)
      rw [lookupCons,if_neg other]
      exact ih inner later

theorem orderedExt {β : Type} {members others : List (String × β)} (left : members.Pairwise fun a b => a.1 < b.1)
    (right : others.Pairwise fun a b => a.1 < b.1) (same : ∀ key, members.lookup key = others.lookup key) :
    members = others := by
  have antisymm : Std.Antisymm fun a b : String × β => a.1 < b.1 :=
    ⟨fun a b below above => absurd above (String.lt_asymm below)⟩
  have irrefl : Std.Irrefl fun a b : String × β => a.1 < b.1 := ⟨fun a => String.lt_irrefl a.1⟩
  refine left.eq_of_mem_iff right fun m => ?_
  rw [← orderedLookup left,same,orderedLookup right]

theorem memOfList {members : List (String × Json)} {m : String × Json} (member : m ∈ Members.ofList members) :
    m ∈ members := by
  have found := (orderedLookup (ofListOrdered members)).mpr member
  have last := getOfList members m.1
  rw [Members.get?,found] at last
  exact List.mem_reverse.mp (lookupMember last.symm)

theorem lastOfOrdered {members : Members} (ordered : members.Ordered) (key : String) :
    lastOf members key = members.get? key := by
  have all : (Members.ofList members).get? key = (members.get? key).or none := getInsertAll ordered [] key
  rw [getOfList,Option.or_none] at all
  exact all

theorem ofListSame {members : Members} (ordered : members.Ordered) : Members.ofList members = members :=
  orderedExt (ofListOrdered members) ordered fun key =>
    (getOfList members key).trans (lastOfOrdered ordered key)

theorem lastOfMap (f : Json → Json) (members : List (String × Json)) (key : String) :
    lastOf (members.map fun m => (m.1,f m.2)) key = (lastOf members key).map f := by
  unfold lastOf
  rw [← List.map_reverse]
  induction members.reverse with
  | nil => rfl
  | cons m rest ih =>
    rw [List.map_cons,lookupCons,lookupCons,ih]
    split <;> rfl

/-! ## Canonical forms -/

/- The canonical members under a key are the canonical form of the last one. -/
theorem canonicalMember (members : List (String × Json)) (key : String) :
    (Members.ofList (members.map fun m => (m.1,canonical m.2))).get? key = (lastOf members key).map canonical :=
  (getOfList _ key).trans (lastOfMap canonical members key)

theorem canonicalOrdered (tree : Json) : Everywhere Members.Ordered tree.canonical := by
  induction tree using induct with
  | null => rw [canonical]; exact .null
  | bool b => rw [canonical]; exact .bool b
  | number n => rw [canonical]; exact .number n
  | string s => rw [canonical]; exact .string s
  | array items ih =>
    rw [canonical]
    refine .array fun item member => ?_
    obtain ⟨original,present,rfl⟩ := List.mem_map.mp member
    exact ih original present
  | object members ih =>
    rw [canonical]
    refine .object (ofListOrdered _) fun m member => ?_
    obtain ⟨original,present,rfl⟩ := List.mem_map.mp (memOfList member)
    exact ih original present

theorem canonicalSame {v : Json} (ordered : Everywhere Members.Ordered v) : v.canonical = v := by
  induction ordered with
  | null => rw [canonical]
  | bool b => rw [canonical]
  | number n => rw [canonical]
  | string s => rw [canonical]
  | array inner ih =>
    rw [canonical,List.map_congr_left ih,List.map_id']
  | @object members here inner ih =>
    have fixed (m) (member : m ∈ members) : (m.1,canonical m.2) = id m := Prod.ext rfl (ih m member)
    have same : members.map (fun m => (m.1,canonical m.2)) = members :=
      (List.map_congr_left fixed).trans (List.map_id members)
    rw [canonical,same]
    exact congrArg Json.object (ofListSame here)

theorem canonicalWithin {tree : Json} {depth : Nat} (within : Within depth tree) : Within depth tree.canonical := by
  induction within with
  | null => rw [canonical]; exact .null
  | bool b => rw [canonical]; exact .bool b
  | number n => rw [canonical]; exact .number n
  | string s => rw [canonical]; exact .string s
  | array _ ih =>
    rw [canonical]
    refine .array fun item member => ?_
    obtain ⟨original,present,rfl⟩ := List.mem_map.mp member
    exact ih original present
  | object _ ih =>
    rw [canonical]
    refine .object fun m member => ?_
    obtain ⟨original,present,rfl⟩ := List.mem_map.mp (memOfList member)
    exact ih original present

theorem sameCanonical (tree : Json) : Same tree tree.canonical := by
  induction tree using induct with
  | null => rw [canonical]; exact .null
  | bool b => rw [canonical]; exact .bool b
  | number n => rw [canonical]; exact .number rfl
  | string s => rw [canonical]; exact .string s
  | array items ih =>
    rw [canonical]
    refine .array (List.length_map _).symm fun i item other here there => ?_
    rw [List.getElem?_map,here] at there
    cases there
    exact ih item (List.mem_of_getElem? here)
  | object members ih =>
    have last (key : String) : lastOf (Members.ofList (members.map fun m => (m.1,canonical m.2))) key =
        (lastOf members key).map canonical :=
      (lastOfOrdered (ofListOrdered _) key).trans (canonicalMember members key)
    rw [canonical]
    refine .object (fun key => by rw [last,Option.isSome_map]) fun key value other here there => ?_
    rw [last,here] at there
    cases there
    exact ih (key,value) (List.mem_reverse.mp (lookupMember here))

/-! ## Printing -/

def lines (level : Nat) : List String → String
  | [] => ""
  | [text] => newline level ++ text
  | text :: rest => newline level ++ text ++ "," ++ lines level rest

def bracketed (opening closing : String) (level : Nat) : List String → String
  | [] => opening ++ closing
  | text :: rest => opening ++ lines (level + 1) (text :: rest) ++ newline level ++ closing

def memberLine (level : Nat) (m : String × Json) : String := quoted m.1 ++ ": " ++ m.2.pretty level

theorem itemsLines (level : Nat) (items : List Json) :
    prettyItems level items = lines level (items.map (pretty level)) := by
  induction items with
  | nil => rw [prettyItems,List.map_nil,lines]
  | cons item items ih =>
    cases items with
    | nil => rw [prettyItems,List.map_cons,List.map_nil,lines]
    | cons next items =>
      simp only [prettyItems,List.map_cons,lines] at ih ⊢
      simp only [ih]

theorem membersLines (level : Nat) (members : List (String × Json)) :
    prettyMembers level members = lines level (members.map (memberLine level)) := by
  induction members with
  | nil => rw [prettyMembers,List.map_nil,lines]
  | cons m members ih =>
    cases members with
    | nil => simp only [prettyMembers,List.map_cons,List.map_nil,lines,memberLine,String.append_assoc]
    | cons next members =>
      simp only [prettyMembers,List.map_cons,lines,memberLine,String.append_assoc] at ih ⊢
      simp only [ih]

theorem arrayText (level : Nat) (items : List Json) :
    (Json.array items).pretty level = bracketed "[" "]" level (items.map (pretty (level + 1))) := by
  cases items with
  | nil => rw [pretty,List.map_nil,bracketed]; rfl
  | cons item items => rw [pretty,itemsLines,List.map_cons,bracketed]

theorem objectText (level : Nat) (members : List (String × Json)) :
    (Json.object members).pretty level = bracketed "\x7b" "\x7d" level (members.map (memberLine (level + 1))) := by
  cases members with
  | nil => rw [pretty,List.map_nil,bracketed]; rfl
  | cons m members => rw [pretty,membersLines,List.map_cons,bracketed]

theorem printedLookup (members : List (String × Json)) (level : Nat) (key : String) :
    (members.map fun m => (m.1,m.2.pretty level)).lookup key = (members.lookup key).map (pretty level) := by
  induction members with
  | nil => rfl
  | cons m rest ih =>
    rw [List.map_cons,lookupCons,lookupCons,ih]
    split <;> rfl

theorem mapsAlike {α β : Type} {f : α → β} {a b : Option α} (present : a.isSome = b.isSome)
    (inner : ∀ x y, a = some x → b = some y → f x = f y) : a.map f = b.map f := by
  cases a <;> cases b
  case none.none => rfl
  case some.some x y => exact congrArg some (inner x y rfl rfl)
  all_goals contradiction

theorem samePrinted {a b : Json} (same : Same a b) (level : Nat) :
    a.canonical.pretty level = b.canonical.pretty level := by
  induction same generalizing level with
  | null => rfl
  | bool b => rfl
  | number printed => simp only [canonical,pretty,printed]
  | string s => rfl
  | @array items others length _ ih =>
    have present (i : Nat) : items[i]?.isSome = others[i]?.isSome := by
      rw [Bool.eq_iff_iff]
      simp [length]
    rw [canonical,canonical,arrayText,arrayText]
    refine congrArg _ (List.ext_getElem? fun i => ?_)
    simp only [List.getElem?_map,Option.map_map]
    exact mapsAlike (present i) fun item other here there => ih i item other here there (level + 1)
  | @object members others keys _ ih =>
    -- members in order are known by what is printed under each key
    have values :
        (Members.ofList (members.map fun m => (m.1,canonical m.2))).map (fun m => (m.1,m.2.pretty (level + 1))) =
          (Members.ofList (others.map fun m => (m.1,canonical m.2))).map fun m => (m.1,m.2.pretty (level + 1)) := by
      refine orderedExt (List.pairwise_map.mpr (ofListOrdered _))
        (List.pairwise_map.mpr (ofListOrdered _)) fun key => ?_
      have left := canonicalMember members key
      have right := canonicalMember others key
      unfold Members.get? at left right
      rw [printedLookup,printedLookup,left,right,Option.map_map,Option.map_map]
      exact mapsAlike (keys key) fun value other here there => ih key value other here there (level + 1)
    have printed := congrArg (List.map fun m : String × String => quoted m.1 ++ ": " ++ m.2) values
    rw [List.map_map,List.map_map] at printed
    rw [canonical,canonical,objectText,objectText]
    exact congrArg _ printed

end Playground.Json
