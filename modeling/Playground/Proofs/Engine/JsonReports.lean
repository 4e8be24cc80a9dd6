import Playground.Engine.Reports
import Playground.Proofs.Json.RoundTrip

/-! Reports of JSON sources. An accepted source is printed in the one form that its value has: every
source that denotes the same value has the same report, and so has the printed form itself. -/
namespace Playground.Engine
open Json

/- The tree that the text writes is the value, up to the order of members, those that later ones override, and
the way its numbers are written. -/
def Denotes (text : String) (value : Json) : Prop := ∃ tree, written text = .ok tree ∧ tree.Same value

def BytesAscend (members : List (String × Json)) : Prop :=
  members.Pairwise fun a b => Text.encode a.1 < Text.encode b.1

theorem reportPrinted {source : String} {value : Json} (accepted : parse source = .ok value) :
    jsonReport source = .success ("Valid JSON:\n" ++ value.pretty 0) := by
  unfold jsonReport
  rw [accepted]

theorem denotedPrinted {text : String} {value : Json} (ordered : Everywhere Members.Ordered value)
    (denotes : Denotes text value) : jsonReport text = .success ("Valid JSON:\n" ++ value.pretty 0) := by
  obtain ⟨tree,read,same⟩ := denotes
  have accepted : parse text = .ok tree.canonical := by
    rw [parseCanonical,read]
    rfl
  rw [reportPrinted accepted,samePrinted same,canonicalSame ordered]

theorem acceptedValue {source : String} {value : Json} (accepted : parse source = .ok value) :
    Everywhere Members.Ordered value ∧ Within depthLimit value ∧ Denotes source value := by
  obtain ⟨tree,read,rfl⟩ := parsedWritten accepted
  exact ⟨canonicalOrdered tree,canonicalWithin (writtenWithin read),tree,read,sameCanonical tree⟩

/- An accepted source whose numbers survive is printed as a text that denotes its value, with the keys of
every object in order, and that is printed as it is; all sources of the value are printed so. -/
theorem printedCanonically :
    (∀ {source value}, parse source = .ok value → (∀ n ∈ value.numbers, n.Survives) →
      ∃ text, jsonReport source = .success ("Valid JSON:\n" ++ text) ∧
        Denotes source value ∧ Denotes text value ∧ (∃ again, parse text = .ok again ∧ again.Same value) ∧
        (∃ tree, written text = .ok tree ∧ tree.Everywhere BytesAscend) ∧
        jsonReport text = jsonReport source ∧
        ∀ other, Denotes other value → jsonReport other = jsonReport source) ∧
    ∀ n : Int, -(2 ^ 63) ≤ n → n < 2 ^ 64 → (Number.int n).Survives := by
  refine ⟨fun {source value} accepted survives => ?_,fun n least greatest => wholeSurvives least greatest⟩
  obtain ⟨ordered,within,denotes⟩ := acceptedValue accepted
  have alike {other : String} (denotes : Denotes other value) : jsonReport other = jsonReport source :=
    (denotedPrinted ordered denotes).trans (reportPrinted accepted).symm
  have again := printedWritten survives within
  have same := rereadSame survives
  have inOrder := rereadOrdered ordered
  have parsed : parse (value.pretty 0) = .ok value.reread := by
    rw [parseCanonical,again]
    exact congrArg Except.ok (canonicalSame inOrder)
  refine ⟨value.pretty 0,reportPrinted accepted,denotes,⟨_,again,same⟩,⟨_,parsed,same⟩,⟨_,again,?_⟩,
    alike ⟨_,again,same⟩,fun other => alike⟩
  exact everywhereMono (fun members => List.Pairwise.imp Text.encodeBelow) inOrder

def nestedSource : String :=
  "\x7b\"b\":7,\"a\":[-1,\x7b\"\\u0064\":null,\"c\":\"\\n\"\x7d],\"b\":18446744073709551615\x7d"

def nestedValue : Json :=
  .object [("a",.array [.number (.int (-1)),.object [("c",.string "\n"),("d",.null)]]),
    ("b",.number (.int 18446744073709551615))]

theorem nestedPrinted :
    parse nestedSource = .ok nestedValue ∧ (∀ n ∈ nestedValue.numbers, n.Survives) ∧
      ∃ text, jsonReport nestedSource = .success ("Valid JSON:\n" ++ text) ∧ Denotes text nestedValue ∧
        jsonReport text = jsonReport nestedSource := by
  have accepted : parse nestedSource = .ok nestedValue := by rfl
  have survive : ∀ n ∈ nestedValue.numbers, n.Survives := by
    simp only [nestedValue,numbers,List.flatMap_cons,List.flatMap_nil,List.append_nil,List.nil_append,
      List.cons_append,List.forall_mem_cons]
    exact ⟨wholeSurvives (by decide) (by decide),wholeSurvives (by decide) (by decide),by simp⟩
  obtain ⟨text,message,-,denotes,-,-,again,-⟩ := printedCanonically.1 accepted survive
  exact ⟨accepted,survive,text,message,denotes,again⟩

end Playground.Engine
