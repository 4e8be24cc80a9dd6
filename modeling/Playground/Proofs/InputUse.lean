import Playground.InputUse

/-! A text of blanks holds none of the reading primitives, since each of them begins with a letter. -/
namespace Playground.InputUse
open Text (Part matchesAt occursFrom occurs isBlank)

def beginsUnblank (name : String) : Bool := name.toList.head?.any fun c => !isBlank c

theorem blankNoName {names : List String} (unblank : ∀ name ∈ names, beginsUnblank name = true) {parts : List Part}
    {before : Option Char} {rest : List Char} (blank : rest.all isBlank = true) :
    matchesAt (.boundary :: .oneOf names :: parts) before rest = false := by
  have missing : ∀ name ∈ names, name.toList.isPrefixOf rest = false := by
    intro name member
    have visible := unblank name member
    unfold beginsUnblank at visible
    cases spelled : name.toList with
    | nil => simp [spelled] at visible
    | cons c letters =>
      cases rest with
      | nil => rfl
      | cons head tail =>
        have blankHead : isBlank head = true := (List.all_eq_true.mp blank) head List.mem_cons_self
        have other : (c == head) = false := by
          rw [beq_eq_false_iff_ne]
          rintro rfl
          simp [spelled,blankHead] at visible
        simp [List.isPrefixOf,other]
  simp only [matchesAt,Bool.and_eq_false_iff,List.any_eq_false]
  refine .inr fun name member => ?_
  simp [missing name member]

theorem blankNowhere {names : List String} (unblank : ∀ name ∈ names, beginsUnblank name = true) {parts : List Part}
    {before : Option Char} {rest : List Char} (blank : rest.all isBlank = true) :
    occursFrom (.boundary :: .oneOf names :: parts) before rest = false := by
  induction rest generalizing before with
  | nil => exact blankNoName unblank blank
  | cons c rest ih =>
    have tail : rest.all isBlank = true := by
      simp only [List.all_cons,Bool.and_eq_true] at blank
      exact blank.2
    simp [occursFrom,blankNoName unblank blank,ih tail]

theorem patternNames {language : Language} {parts : List Part} (pattern : parts ∈ patterns language) :
    ∃ names after, parts = .boundary :: .oneOf names :: after ∧ ∀ name ∈ names, beginsUnblank name = true := by
  cases language with
  | javaScript =>
    cases List.mem_singleton.mp pattern
    exact ⟨_,_,rfl,by decide +kernel⟩
  | python =>
    simp only [patterns,List.mem_cons,List.not_mem_nil,or_false] at pattern
    rcases pattern with rfl | rfl
    · exact ⟨_,_,rfl,by decide +kernel⟩
    · exact ⟨_,_,rfl,by decide +kernel⟩
  | java =>
    simp only [patterns,List.mem_cons,List.not_mem_nil,or_false] at pattern
    rcases pattern with rfl | rfl | rfl
    · exact ⟨_,_,rfl,by decide +kernel⟩
    · exact ⟨_,_,rfl,by decide +kernel⟩
    · exact ⟨_,_,rfl,by decide +kernel⟩
  | cpp =>
    cases List.mem_singleton.mp pattern
    exact ⟨_,_,rfl,by decide +kernel⟩
  | html => cases pattern
  | css => cases pattern
  | json => cases pattern
  | sql => cases pattern

theorem blankNeedsNoInput {source : String} (blank : Text.isBlankString source = true) (language : Language) :
    needsInput source language = false := by
  unfold needsInput occurs
  rw [List.any_eq_false]
  intro parts pattern
  obtain ⟨names,after,rfl,unblank⟩ := patternNames pattern
  simpa using blankNowhere unblank blank

end Playground.InputUse
