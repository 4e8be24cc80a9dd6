import Playground.Text.Basic

/-! Where runs of characters end. A character that does not belong to a run stops it, whatever stands
on the other side; so a text with a character that is not blank is trimmed at each end on its own. -/
namespace Playground.Text

section Runs

variable {p : Char → Bool} {x : Char}

theorem takeStops (stop : p x = false) (front rest : List Char) :
    (front ++ x :: rest).takeWhile p = front.takeWhile p := by
  induction front with
  | nil => simp [stop]
  | cons c front ih => cases here : p c <;> simp [here,ih]

theorem dropStops (stop : p x = false) (front rest : List Char) :
    (front ++ x :: rest).dropWhile p = front.dropWhile p ++ x :: rest := by
  induction front with
  | nil => simp [stop]
  | cons c front ih => cases here : p c <;> simp [here,ih]

theorem dropEndStops (stop : p x = false) (front back : List Char) :
    dropEndWhile p (front ++ x :: back) = front ++ x :: dropEndWhile p back := by
  simp [dropEndWhile,dropStops stop]

theorem dropEndPast {back : List Char} (all : ∀ c ∈ back, p c = true) (front : List Char) :
    dropEndWhile p (front ++ back) = dropEndWhile p front := by
  have reversed : ∀ c ∈ back.reverse, p c = true := fun c member => all c (List.mem_reverse.mp member)
  simp [dropEndWhile,List.dropWhile_append_of_pos reversed]

theorem dropEndKept {t : List Char} (none : ∀ c ∈ t, p c = false) : dropEndWhile p t = t := by
  rcases List.eq_nil_or_concat t with rfl | ⟨front,c,rfl⟩
  · rfl
  · have last : p c = false := none c (by simp)
    rw [List.concat_eq_append,dropEndStops last]
    rfl

end Runs

theorem trimCases (t : List Char) :
    (allBlank t = true ∧ trim t = []) ∨
    (allBlank t = false ∧ ∃ c rest, isBlank c = false ∧ trim t = c :: rest) := by
  cases started : trimStart t with
  | nil =>
    have whole : t.takeWhile isBlank = t := by
      have parts := List.takeWhile_append_dropWhile (p := isBlank) (l := t)
      rwa [show t.dropWhile isBlank = [] from started,List.append_nil] at parts
    have blank : allBlank t = true := by
      rw [allBlank,← whole]
      exact List.all_takeWhile
    refine .inl ⟨blank,?_⟩
    rw [trim,started]
    rfl
  | cons c rest =>
    have visible : isBlank c = false := by
      have first := List.head?_dropWhile_not isBlank t
      rw [show t.dropWhile isBlank = c :: rest from started] at first
      exact first
    have member : c ∈ t := (List.dropWhile_suffix isBlank).subset
      (show c ∈ trimStart t by rw [started]; exact List.mem_cons_self)
    refine .inr ⟨List.all_eq_false.mpr ⟨c,member,by simp [visible]⟩,c,trimEnd rest,visible,?_⟩
    rw [trim,started]
    exact dropEndStops visible [] rest

theorem trimBetween {x y : Char} (first : isBlank x = false) (last : isBlank y = false)
    (front middle back : List Char) :
    trim (front ++ x :: middle ++ y :: back) = trimStart front ++ x :: middle ++ y :: trimEnd back := by
  have started : trimStart (front ++ x :: middle ++ y :: back) = trimStart front ++ x :: middle ++ y :: back := by
    rw [trimStart,trimStart,List.append_assoc,List.append_assoc,List.cons_append,dropStops first]
  rw [trim,started]
  exact dropEndStops last _ back

theorem blankOutside {p : Char → Bool} (none : ∀ range ∈ blankRanges, ∀ k < range.2 + 1 - range.1,
    p (Char.ofNat (range.1 + k)) = false) {c : Char} (blank : isBlank c = true) : p c = false := by
  unfold isBlank inRanges at blank
  obtain ⟨range,member,within⟩ := List.any_eq_true.mp blank
  simp only [Bool.and_eq_true,decide_eq_true_eq] at within
  have outside := none range member (c.toNat - range.1) (by omega)
  rwa [Nat.add_sub_cancel' within.1,Char.ofNat_toNat] at outside

theorem identifierVisible {c : Char} (identifier : isIdentifierChar c = true) : isBlank c = false := by
  have none : ∀ range ∈ blankRanges, ∀ k < range.2 + 1 - range.1,
      isIdentifierChar (Char.ofNat (range.1 + k)) = false := by decide +kernel
  refine Bool.eq_false_iff.mpr fun blank => ?_
  rw [blankOutside none blank] at identifier
  cases identifier

theorem blankUnworded {c : Char} (blank : isBlank c = true) : isWordChar c = false := by
  have none : ∀ range ∈ blankRanges, ∀ k < range.2 + 1 - range.1,
      isWordChar (Char.ofNat (range.1 + k)) = false := by decide +kernel
  exact blankOutside none blank

end Playground.Text
