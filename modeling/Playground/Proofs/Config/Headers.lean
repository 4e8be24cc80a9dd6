import Playground.Proofs.Config.Sections

/-! What the header of a section does to a text. It makes a table where none was, and gives no setting: each
section finds the values that it would have found without. -/
namespace Playground
namespace Toml

theorem replacedLookup (entries : Entries) (key asked : String) (item : Item) :
    (entries.map fun (k,old) => if k == key then (k,item) else (k,old)).lookup asked =
      if asked = key then (entries.lookup key).map (fun _ => item) else entries.lookup asked := by
  induction entries with
  | nil => simp
  | cons head entries ih =>
    obtain ⟨known,old⟩ := head
    rw [List.map_cons]
    by_cases same : known = key
    · subst same
      simp only [beq_self_eq_true,if_true,lookupCons,ih]
      split <;> rfl
    · have kept : (if known == key then (known,item) else (known,old)) = (known,old) :=
        if_neg (by simpa using same)
      show List.lookup asked ((if known == key then (known,item) else (known,old)) :: _) = _
      rw [kept,lookupCons,lookupCons,lookupCons,ih,if_neg (Ne.symm same)]
      by_cases asks : asked = known
      · simp [asks,same]
      · simp [asks]

theorem putLookup (entries : Entries) (key asked : String) (item : Item) :
    (entries.put key item).lookup asked = if asked = key then some item else entries.lookup asked := by
  unfold Entries.put
  split
  · rename_i known
    obtain ⟨old,found⟩ := Option.isSome_iff_exists.mp known
    rw [replacedLookup,found]
    rfl
  · rename_i fresh
    have absent : entries.lookup key = none := Option.not_isSome_iff_eq_none.mp fresh
    rw [List.lookup_append,lookupCons]
    by_cases same : asked = key
    · simp [same,absent]
    · simp [same]

theorem valueLookup (entries : Entries) (asked : String) :
    List.lookup asked (entriesValue entries) = (entries.lookup asked).map Item.value := by
  induction entries with
  | nil => rfl
  | cons head entries ih =>
    obtain ⟨key,item⟩ := head
    rw [entriesValue,lookupCons,lookupCons,ih]
    split <;> rfl

def Opens (name : String) (entries entries' : List (String × Toml)) : Prop :=
  ∀ key, entries'.lookup key = (entries.lookup key).or (if key = name then some (.table []) else none)

theorem defineOpens {name : String} {entries entries' : Entries} (done : entries.define name = some entries') :
    Opens name (entriesValue entries) (entriesValue entries') := by
  intro key
  rw [valueLookup,valueLookup]
  unfold Entries.define at done
  split at done
  · rename_i absent
    cases done
    rw [List.lookup_append,lookupCons]
    by_cases same : key = name
    · simp [same,absent,Item.value,entriesValue]
    · simp [same]
  · rename_i inner found
    cases done
    rw [putLookup]
    by_cases same : key = name
    · simp [same,found,Item.value]
    · simp [same]
  · contradiction

inductive Within (name : String) : Option Toml → Option Toml → Prop where
  | fresh {entries'} (opens : Opens name [] entries') : Within name none (some (.table entries'))
  | table {entries entries'} (opens : Opens name entries entries') :
    Within name (some (.table entries)) (some (.table entries'))
  | last {items entries entries'} (opens : Opens name entries entries') :
    Within name (some (.array (items ++ [.table entries]))) (some (.array (items ++ [.table entries'])))

theorem openedTop {table table' : Table} {name : String} (done : table.openTable [name] = some table') :
    Opens name (entriesValue table.entries) (entriesValue table'.entries) := by
  simp only [Table.openTable,List.getLast?_singleton,bind,Option.bind_some,List.dropLast_singleton,
    Entries.changeAt,Option.bind_eq_some_iff,pure,Option.some.injEq] at done
  obtain ⟨entries',defined,rfl⟩ := done
  exact defineOpens defined

theorem openedWithin {table table' : Table} {outer name : String}
    (done : table.openTable [outer,name] = some table') :
    (∀ key, key ≠ outer →
      List.lookup key (entriesValue table'.entries) = List.lookup key (entriesValue table.entries)) ∧
    Within name (List.lookup outer (entriesValue table.entries))
      (List.lookup outer (entriesValue table'.entries)) := by
  simp only [Table.openTable,List.getLast?_cons_cons,List.getLast?_singleton,bind,Option.bind_some,
    List.dropLast,Entries.changeAt,Option.bind_eq_some_iff,pure,Option.some.injEq] at done
  obtain ⟨entries',changed,rfl⟩ := done
  -- whatever stood under the outer name, an item is put in its place
  have placed : ∃ item, entries' = table.entries.put outer item ∧
      Within name (List.lookup outer (entriesValue table.entries)) (some item.value) := by
    rw [valueLookup]
    split at changed
    · rename_i absent
      obtain ⟨inner,defined,put⟩ := Option.bind_eq_some_iff.mp changed
      rw [absent]
      exact ⟨_,(Option.some.inj put).symm,.fresh (defineOpens defined)⟩
    · contradiction
    · rename_i known inner found
      rw [if_neg (by simp)] at changed
      obtain ⟨inner',defined,put⟩ := Option.bind_eq_some_iff.mp changed
      rw [found]
      exact ⟨_,(Option.some.inj put).symm,.table (defineOpens defined)⟩
    · rename_i earlier last found
      obtain ⟨last',defined,put⟩ := Option.bind_eq_some_iff.mp changed
      rw [found]
      exact ⟨_,(Option.some.inj put).symm,.last (defineOpens defined)⟩
  obtain ⟨item,rfl,within⟩ := placed
  refine ⟨fun key other => ?_,?_⟩
  · rw [valueLookup,valueLookup,putLookup,if_neg other]
  · rw [valueLookup (table.entries.put outer item),putLookup,if_pos rfl]
    exact within

end Toml

namespace Config
open Toml (Opens Within)

/- The value under a key, before and after: the same, or a table that came about under this name, or a table
with one more entry of this name. -/
inductive Grown (name key : String) : Option Toml → Option Toml → Prop where
  | same (value : Option Toml) : Grown name key value value
  | fresh (named : key = name) : Grown name key none (some (.table []))
  | table {entries entries'} (opens : Opens name entries entries') :
    Grown name key (some (.table entries)) (some (.table entries'))

theorem opensMember {name : String} {entries entries' : List (String × Toml)}
    (opens : Opens name entries entries') (key : String) :
    Grown name key (entries.lookup key) (entries'.lookup key) := by
  rw [opens key]
  cases entries.lookup key with
  | some value => exact .same _
  | none =>
    by_cases named : key = name
    · rw [if_pos named]
      exact .fresh named
    · rw [if_neg named]
      exact .same none

theorem lastMember {name : String} {entries entries' : List (String × Toml)}
    (opens : Opens name entries entries') (names : List String) (key : String) (items : List Toml) :
    Grown name key ((names.zip (items ++ [.table entries])).lookup key)
      ((names.zip (items ++ [.table entries'])).lookup key) := by
  induction names generalizing items with
  | nil => exact .same none
  | cons first names ih =>
    cases items with
    | nil =>
      simp only [List.nil_append,List.zip_cons_cons,List.zip_nil_right,lookupCons]
      split
      · exact .table opens
      · exact .same _
    | cons item items =>
      simp only [List.cons_append,List.zip_cons_cons,lookupCons]
      split
      · exact .same _
      · exact ih items

theorem withinMember {name : String} {old new : Option Toml} (within : Within name old new)
    (names : List String) (key : String) :
    Grown name key (old.bind (Given.member? names · key)) (new.bind (Given.member? names · key)) := by
  cases within with
  | fresh opens => exact opensMember opens key
  | table opens => exact opensMember opens key
  | last opens => exact lastMember opens names key _

theorem withinFirst {name : String} {old new : Option Toml} (within : Within name old new) (names : List String) :
    (new.bind (Given.member? (name :: names) · name)).isSome := by
  have opened : ∀ entries entries' : List (String × Toml), Opens name entries entries' →
      (List.lookup name entries').isSome := fun entries entries' opens => by simp [opens name]
  cases within with
  | fresh opens => exact opened _ _ opens
  | table opens => exact opened _ _ opens
  | @last items entries entries' opens =>
    show (List.lookup name ((name :: names).zip (items ++ [.table entries']))).isSome
    cases items <;> simp

theorem grownStays {name key : String} {old new : Option Toml} (grown : Grown name key old new) :
    old.isSome → new.isSome := by
  cases grown with
  | same => exact id
  | fresh => exact fun _ => rfl
  | table => exact fun _ => rfl

theorem grownOther {name key : String} {old new : Option Toml} (grown : Grown name key old new)
    (other : key ≠ name) : new.isSome = old.isSome := by
  cases grown with
  | same => rfl
  | fresh named => exact absurd named other
  | table => rfl

theorem grownMember {name key : String} {old new : Option Toml} (grown : Grown name key old new)
    (names : List String) {asked : String} (other : asked ≠ name) :
    new.bind (Given.member? names · asked) = old.bind (Given.member? names · asked) := by
  cases grown with
  | same => rfl
  | fresh => rfl
  | table opens =>
    show List.lookup asked _ = List.lookup asked _
    rw [opens asked,if_neg other,Option.or_none]

namespace Section

def path : Section → List String
  | .server => ["server"]
  | s => ["workbench",s.key]

theorem pathInjective {s s' : Section} (same : s.path = s'.path) : s = s' := by
  revert same
  cases s <;> cases s' <;> decide

theorem innerPath {s : Section} (inner : s ≠ .server) : s.path = ["workbench",s.key] := by
  cases s with
  | server => contradiction
  | _ => rfl

theorem innerValue {s : Section} (inner : s ≠ .server) (table : Toml.Table) :
    s.value? table.value =
      (List.lookup "workbench" (Toml.entriesValue table.entries)).bind
        (Given.member? Components.names · s.key) := by
  cases s with
  | server => contradiction
  | _ => rfl

theorem headerGrows {opened : Section} {table table' : Toml.Table}
    (done : table.openTable opened.path = some table') (s : Section) :
    Grown opened.key s.key (s.value? table.value) (s.value? table'.value) := by
  by_cases top : opened = .server
  · subst top
    have opens := Toml.openedTop done
    by_cases same : s = .server
    · subst same
      exact opensMember opens "server"
    · have kept := (opens "workbench").trans Option.or_none
      rw [innerValue same,innerValue same,kept]
      exact .same _
  · rw [innerPath top] at done
    obtain ⟨others,within⟩ := Toml.openedWithin done
    by_cases same : s = .server
    · subst same
      show Grown _ _ (List.lookup "server" _) (List.lookup "server" _)
      rw [others "server" (by decide)]
      exact .same _
    · rw [innerValue same,innerValue same]
      exact withinMember within Components.names s.key

theorem keyUnnamed (opened s : Section) : opened.key ∉ s.names := by
  cases opened <;> cases s <;> decide

theorem headerKeeps {opened : Section} {table table' : Toml.Table}
    (done : table.openTable opened.path = some table') (s : Section) :
    ((s.value? table.value).isSome → (s.value? table'.value).isSome) ∧
    ∀ name ∈ s.names, s.assigned? table'.value name = s.assigned? table.value name := by
  have grown := headerGrows done s
  refine ⟨grownStays grown,fun name known => grownMember grown s.names ?_⟩
  rintro rfl
  exact keyUnnamed opened s known

theorem headerEngine {table table' : Toml.Table} (done : table.openTable Section.engine.path = some table') :
    (Section.engine.value? table'.value).isSome := by
  obtain ⟨-,within⟩ := Toml.openedWithin done
  exact withinFirst within ["execution","runtime","remote"]

theorem headerOther {opened s : Section} (other : s ≠ opened) {table table' : Toml.Table}
    (done : table.openTable opened.path = some table') :
    (s.value? table'.value).isSome = (s.value? table.value).isSome := by
  have unnamed : s.key ≠ opened.key := by
    revert other
    cases opened <;> cases s <;> decide
  exact grownOther (headerGrows done s) unnamed

theorem outerHeaderKeeps {table table' : Toml.Table} (done : table.openTable ["workbench"] = some table')
    (s : Section) : s.value? table'.value = s.value? table.value := by
  have opens := Toml.openedTop done
  by_cases same : s = .server
  · subst same
    exact (opens "server").trans Option.or_none
  · rw [innerValue same,innerValue same,opens "workbench"]
    cases List.lookup "workbench" (Toml.entriesValue table.entries) <;> rfl

end Section
end Config
end Playground
