import Playground.Script.Scope

/-! Properties of a scope: when a name gets back the property that it had before, and how a scope may
change. A name that does not get it back never will, since what cannot be configured cannot be made so
again. -/
namespace Playground.Script

variable {V : Type} {scope scope' : Scope V} {name other : String}

def Property.Yields (p q : Property V) : Prop :=
  p.configurable = true ∨
    p.slot.isWritable = true ∧ (∃ value writable, q.slot = .data value writable) ∧ q.configurable = false ∧
      q.enumerable = p.enumerable

theorem changeMade [Values V] (q : Property V) : q.change.made = q := by
  obtain ⟨slot,enumerable,configurable⟩ := q
  cases slot <;> rfl

theorem slotReplaced [Values V] (slot : Slot V) (q : Property V) : slot.changed q.change.content = q.slot := by
  obtain ⟨slot',enumerable,configurable⟩ := q
  cases slot <;> cases slot' <;> rfl

/- What stays of a property that is not configurable. -/
structure Property.Stays (p p' : Property V) : Prop where
  fixed : p'.configurable = false
  enumerable : p'.enumerable = p.enumerable
  unwritable : p.slot.isWritable = false → p' = p
  written : p.slot.isWritable = true → ∃ value writable, p'.slot = .data value writable

theorem writableData {slot : Slot V} (writable : slot.isWritable = true) : ∃ value, slot = .data value true := by
  cases slot with
  | data value right =>
    cases writable
    exact ⟨value,rfl⟩
  | accessor getter setter => contradiction

theorem staysSame {p : Property V} (fixed : p.configurable = false) : p.Stays p where
  fixed := fixed
  enumerable := rfl
  unwritable := fun _ => rfl
  written := fun writable => (writableData writable).imp fun _ slot => ⟨true,slot⟩

theorem staysTrans {p p' p'' : Property V} (first : p.Stays p') (second : p'.Stays p'') : p.Stays p'' where
  fixed := second.fixed
  enumerable := second.enumerable.trans first.enumerable
  unwritable := by
    intro kept
    cases first.unwritable kept
    exact second.unwritable kept
  written := by
    intro writable
    cases kept : p'.slot.isWritable with
    | true => exact second.written kept
    | false =>
      cases second.unwritable kept
      exact first.written writable

theorem changedStays [Values V] {p p' : Property V} {change : Change V} (fixed : p.configurable = false)
    (changed : p.changed change = some p') : p.Stays p' := by
  simp only [Property.changed,fixed,Bool.false_eq_true,if_false] at changed
  split at changed
  · contradiction
  · rename_i taken
    cases changed
    refine ⟨rfl,rfl,fun kept => ?_,fun writable => ?_⟩
    · simp only [kept,Bool.false_eq_true,if_false]
      rw [← fixed]
    · obtain ⟨value,slot⟩ := writableData writable
      simp only [slot]
      cases content : change.content with
      | unsaid => exact ⟨value,true,rfl⟩
      | data value' writable' => exact ⟨_,_,rfl⟩
      | accessor getter setter => simp [content,slot,Slot.admits] at taken

theorem changedSame [Values V] {p p' : Property V} (fixed : p.configurable = false)
    (changed : p.changed p.change = some p') : p' = p := by
  cases writable : p.slot.isWritable with
  | false => exact (changedStays fixed changed).unwritable writable
  | true =>
    simp only [Property.changed,fixed,Bool.false_eq_true,if_false,writable,if_true,slotReplaced] at changed
    split at changed
    · contradiction
    · cases changed
      obtain ⟨slot,enumerable,configurable⟩ := p
      cases fixed
      rfl

theorem changedTo [Values V] (p q : Property V) : (p.changed q.change).getD p = q ↔ p = q ∨ p.Yields q := by
  cases free : p.configurable with
  | true =>
    have changed : p.changed q.change = some q := by
      simp only [Property.changed,free,if_true,slotReplaced]
      rfl
    rw [changed]
    exact iff_of_true rfl (.inr (.inl free))
  | false =>
    constructor
    · intro back
      cases changed : p.changed q.change with
      | none =>
        rw [changed] at back
        exact .inl back
      | some p' =>
        rw [changed] at back
        cases back
        have stays := changedStays free changed
        cases writable : p.slot.isWritable with
        | false => exact .inl (stays.unwritable writable).symm
        | true => exact .inr (.inr ⟨writable,stays.written writable,stays.fixed,stays.enumerable⟩)
    · rintro (rfl | open' | ⟨writable,⟨value,right,data⟩,fixed,enumerable⟩)
      · cases changed : p.changed p.change with
        | none => rfl
        | some p' => exact changedSame free changed
      · rw [open'] at free
        contradiction
      · obtain ⟨old,slot⟩ := writableData writable
        have admitted : p.slot.admits q.change.content = true := by simp [slot,Property.change,data,Slot.admits]
        have changed : p.changed q.change = some { p with slot := q.slot } := by
          simp only [Property.changed,free,Bool.false_eq_true,if_false,writable,if_true,slotReplaced,admitted]
          simp [Property.change,fixed,enumerable]
        rw [changed]
        obtain ⟨slot',e,c⟩ := p
        obtain ⟨slot'',e',c'⟩ := q
        cases enumerable
        cases fixed
        cases free
        rfl

namespace Scope

def LetsBack (scope : Scope V) (name : String) (saved : Option (Property V)) : Prop :=
  match scope.get? name,saved with
  | some p,some q => p = q ∨ p.Yields q
  | some p,none => p.configurable = true
  | none,some _ => scope.extensible = true
  | none,none => True

theorem putSame (property : Option (Property V)) : (scope.put name property).get? name = property := if_pos rfl

theorem putOther (differs : other ≠ name) (property : Option (Property V)) :
    (scope.put name property).get? other = scope.get? other :=
  if_neg differs

/-! ### Restoring -/

section Restoring

variable [Values V]

theorem restoredProperty (scope : Scope V) (name : String) (saved : Option (Property V)) :
    (scope.restore name saved).get? name = match scope.get? name,saved with
      | some p,some q => some ((p.changed q.change).getD p)
      | some p,none => if p.configurable then none else some p
      | none,some q => if scope.extensible then some q else none
      | none,none => none := by
  cases found : scope.get? name with
  | some p =>
    cases saved with
    | some q => cases changed : p.changed q.change <;> simp [restore,define?,found,changed,putSame]
    | none => cases free : p.configurable <;> simp [restore,delete?,found,free,putSame]
  | none =>
    cases saved with
    | some q => cases free : scope.extensible <;> simp [restore,define?,found,free,putSame,changeMade]
    | none => simp [restore,delete?,found]

theorem restoredIff (scope : Scope V) (name : String) (saved : Option (Property V)) :
    (scope.restore name saved).get? name = saved ↔ scope.LetsBack name saved := by
  rw [restoredProperty]
  unfold LetsBack
  split
  · rw [Option.some_inj,changedTo]
  · split <;> simp_all
  · split <;> simp_all
  · simp

theorem restoredOther (differs : other ≠ name) (saved : Option (Property V)) :
    (scope.restore name saved).get? other = scope.get? other := by
  cases saved with
  | some q =>
    unfold restore define?
    cases scope.get? name with
    | some p => cases changed : p.changed q.change <;> simp [changed,putOther differs]
    | none => cases free : scope.extensible <;> simp [putOther differs]
  | none =>
    unfold restore delete?
    cases scope.get? name with
    | some p => cases free : p.configurable <;> simp [free,putOther differs]
    | none => rfl

theorem restoredExtensible (scope : Scope V) (name : String) (saved : Option (Property V)) :
    (scope.restore name saved).extensible = scope.extensible := by
  cases saved with
  | some q =>
    unfold restore define?
    cases scope.get? name with
    | some p => cases changed : p.changed q.change <;> simp [changed,put]
    | none => cases free : scope.extensible <;> simp [free,put]
  | none =>
    unfold restore delete?
    cases scope.get? name with
    | some p => cases free : p.configurable <;> simp [free,put]
    | none => rfl

theorem restoredAll {names : List String} (differ : names.Nodup) (saved : String → Option (Property V))
    (scope : Scope V) (name : String) :
    (names.foldl (fun scope name => scope.restore name (saved name)) scope).get? name =
      if name ∈ names then (scope.restore name (saved name)).get? name else scope.get? name := by
  induction names generalizing scope with
  | nil => rfl
  | cons first rest ih =>
    obtain ⟨apart,differ⟩ := List.nodup_cons.mp differ
    rw [List.foldl_cons,ih differ]
    by_cases found : name = first
    · subst found
      rw [if_neg apart,if_pos List.mem_cons_self]
    · have kept : (scope.restore first (saved first)).get? name = scope.get? name := restoredOther found (saved first)
      simp only [List.mem_cons,found,false_or,restoredProperty,kept,restoredExtensible]

theorem installedIff (scope : Scope V) (name : String) (value : V) :
    (scope.install name value).get? name = some (.plain value) ↔ scope.isOpen name = true := by
  have restored := restoredIff scope name (some (.plain value))
  rw [show scope.install name value = scope.restore name (some (.plain value)) from rfl,restored]
  unfold LetsBack isOpen
  cases scope.get? name with
  | none => rfl
  | some p =>
    constructor
    · rintro (rfl | free | ⟨-,-,fixed,-⟩)
      · rfl
      · exact free
      · contradiction
    · exact fun free => .inr (.inl free)

end Restoring

/-! ### Changes of a scope -/

/- What no change of a scope undoes. -/
structure Follows (scope scope' : Scope V) : Prop where
  closed : scope.extensible = false → scope'.extensible = false
  absent : scope.extensible = false → ∀ name, scope.get? name = none → scope'.get? name = none
  fixed : ∀ name p, scope.get? name = some p → p.configurable = false →
    ∃ p', scope'.get? name = some p' ∧ p.Stays p'

theorem followsSame (scope : Scope V) : scope.Follows scope :=
  ⟨id,fun _ _ => id,fun _ p there fixed => ⟨p,there,staysSame fixed⟩⟩

theorem followsTrans {scope'' : Scope V} (first : scope.Follows scope') (second : scope'.Follows scope'') :
    scope.Follows scope'' where
  closed := fun closed => second.closed (first.closed closed)
  absent := fun closed name none => second.absent (first.closed closed) name (first.absent closed name none)
  fixed := by
    intro name p there fixed
    obtain ⟨p',there',stays⟩ := first.fixed name p there fixed
    obtain ⟨p'',there'',stays'⟩ := second.fixed name p' there' stays.fixed
    exact ⟨p'',there'',staysTrans stays stays'⟩

theorem putFollows {property : Option (Property V)}
    (absent : scope.extensible = false → scope.get? name = none → property = none)
    (fixed : ∀ p, scope.get? name = some p → p.configurable = false → ∃ p', property = some p' ∧ p.Stays p') :
    scope.Follows (scope.put name property) where
  closed := id
  absent := by
    intro closed other none
    by_cases same : other = name
    · subst same
      rw [putSame]
      exact absent closed none
    · rwa [putOther same]
  fixed := by
    intro other p there kept
    by_cases same : other = name
    · subst same
      rw [putSame]
      exact fixed p there kept
    · rw [putOther same]
      exact ⟨p,there,staysSame kept⟩

theorem closedFollows (scope : Scope V) : scope.Follows { scope with extensible := false } :=
  { followsSame scope with closed := fun _ => rfl }

theorem deleteFollows (taken : scope.delete? name = some scope') : scope.Follows scope' := by
  unfold delete? at taken
  split at taken
  · rename_i p there
    split at taken
    · rename_i free
      cases taken
      refine putFollows (fun _ _ => rfl) fun p' there' fixed => ?_
      cases there.symm.trans there'
      rw [free] at fixed
      contradiction
    · contradiction
  · cases taken
    exact followsSame scope

theorem closedKept (follows : scope.Follows scope') (closed : scope.isOpen name = false) :
    scope'.isOpen name = false := by
  unfold isOpen at closed ⊢
  cases there : scope.get? name with
  | some p =>
    rw [there] at closed
    obtain ⟨p',there',stays⟩ := follows.fixed name p there closed
    rw [there']
    exact stays.fixed
  | none =>
    rw [there] at closed
    rw [follows.absent closed name there]
    exact follows.closed closed

theorem letsBackSame {saved : Option (Property V)} (same : scope.get? name = saved) : scope.LetsBack name saved := by
  subst same
  unfold LetsBack
  cases scope.get? name with
  | some p => exact .inl rfl
  | none => trivial

theorem shutFollows {saved : Option (Property V)} (follows : scope.Follows scope')
    (shut : ¬ scope.LetsBack name saved) : ¬ scope'.LetsBack name saved := by
  unfold LetsBack at shut
  split at shut
  · rename_i p q there
    obtain ⟨differs,yields⟩ := not_or.mp shut
    have fixed : p.configurable = false := by
      cases free : p.configurable with
      | false => rfl
      | true => exact absurd (.inl free) yields
    obtain ⟨p',there',stays⟩ := follows.fixed name p there fixed
    unfold LetsBack
    rw [there']
    rintro (rfl | free | ⟨writable',data,fixed',enumerable⟩)
    · cases writable : p.slot.isWritable with
      | false => exact differs (stays.unwritable writable).symm
      | true => exact yields (.inr ⟨writable,stays.written writable,stays.fixed,stays.enumerable⟩)
    · rw [stays.fixed] at free
      contradiction
    · cases writable : p.slot.isWritable with
      | false =>
        cases stays.unwritable writable
        rw [writable] at writable'
        contradiction
      | true => exact yields (.inr ⟨writable,data,fixed',enumerable.trans stays.enumerable⟩)
  · rename_i p there
    obtain ⟨p',there',stays⟩ := follows.fixed name p there (by simpa using shut)
    unfold LetsBack
    simp [there',stays.fixed]
  · rename_i q none
    have closed : scope.extensible = false := by simpa using shut
    unfold LetsBack
    simp [follows.absent closed name none,follows.closed closed]
  · exact absurd trivial shut

variable [Values V]

theorem defineFollows {change : Change V} (taken : scope.define? name change = some scope') : scope.Follows scope' := by
  unfold define? at taken
  split at taken
  · rename_i p there
    obtain ⟨p',changed,rfl⟩ := Option.map_eq_some_iff.mp taken
    refine putFollows (fun _ none => ?_) fun p'' there' fixed => ?_
    · rw [none] at there
      contradiction
    · cases there.symm.trans there'
      exact ⟨p',rfl,changedStays fixed changed⟩
  · rename_i none
    split at taken
    · rename_i free
      cases taken
      refine putFollows (fun closed _ => ?_) fun p there _ => ?_
      · rw [closed] at free
        contradiction
      · rw [none] at there
        contradiction
    · contradiction

theorem restoreFollows (scope : Scope V) (name : String) (saved : Option (Property V)) :
    scope.Follows (scope.restore name saved) := by
  cases saved with
  | some q =>
    show scope.Follows ((scope.define? name q.change).getD scope)
    cases taken : scope.define? name q.change with
    | some scope' => exact defineFollows taken
    | none => exact followsSame scope
  | none =>
    show scope.Follows ((scope.delete? name).getD scope)
    cases taken : scope.delete? name with
    | some scope' => exact deleteFollows taken
    | none => exact followsSame scope

theorem restoreAllFollows (names : List String) (saved : String → Option (Property V)) (scope : Scope V) :
    scope.Follows (names.foldl (fun scope name => scope.restore name (saved name)) scope) := by
  induction names generalizing scope with
  | nil => exact followsSame scope
  | cons first rest ih => exact followsTrans (restoreFollows scope first (saved first)) (ih _)

end Scope
end Playground.Script
