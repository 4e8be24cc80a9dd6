import Mathlib
import Playground.Report

/-! Look-ups in lists of keys and values: only the entries under the key that is asked for count. A filter on
the keys keeps or drops them all. -/
namespace Playground

variable {κ ν : Type} [BEq κ] [LawfulBEq κ] [DecidableEq κ]

theorem lookupCons (key asked : κ) (value : ν) (rest : List (κ × ν)) :
    ((key,value) :: rest).lookup asked = if asked = key then some value else rest.lookup asked := by
  by_cases found : asked = key
  · simp [found]
  · have other : (asked == key) = false := by simpa using found
    simp [List.lookup_cons,found,other]

theorem lookupKept (keep : κ → Bool) (entries : List (κ × ν)) (asked : κ) :
    (entries.filter fun entry => keep entry.1).lookup asked =
      if keep asked then entries.lookup asked else none := by
  induction entries with
  | nil => simp
  | cons head rest ih =>
    obtain ⟨key,value⟩ := head
    simp only [List.filter_cons,lookupCons]
    by_cases found : asked = key
    · subst found
      cases kept : keep asked with
      | true => simp
      | false => simp [ih,kept]
    · split <;> simp [lookupCons,found,ih]

theorem lookupAbsent {entries : List (κ × ν)} {asked : κ} (absent : ∀ entry ∈ entries, entry.1 ≠ asked) :
    entries.lookup asked = none := by
  induction entries with
  | nil => rfl
  | cons head rest ih =>
    obtain ⟨first,others⟩ := List.forall_mem_cons.mp absent
    rw [lookupCons,if_neg (Ne.symm first)]
    exact ih others

theorem lookupMember {α β : Type} [BEq α] [LawfulBEq α] {entries : List (α × β)} {asked : α} {value : β}
    (found : entries.lookup asked = some value) : (asked,value) ∈ entries := by
  obtain ⟨before,after,rfl,-⟩ := List.lookup_eq_some_iff.mp found
  exact List.mem_append_right before List.mem_cons_self

end Playground
