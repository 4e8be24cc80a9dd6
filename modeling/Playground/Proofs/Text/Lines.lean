import Playground.Text.Basic

/-! Searching a text line by line. A mark without the line end is found in one of the lines or not at
all, and the first place of a mark is where the text is cut. Lines are split off at each line end, and
the last of them goes on with whatever follows the text. -/
namespace Playground.Text

section Stops

variable {α : Type} {x : α} {mark : List α}

theorem prefixStops (absent : x ∉ mark) (front rest : List α) : mark <+: front ++ x :: rest ↔ mark <+: front := by
  induction front generalizing mark with
  | nil =>
    cases mark with
    | nil => simp
    | cons d mark =>
      have other : d ≠ x := fun same => absent (by simp [same])
      simp [List.cons_prefix_cons,other]
  | cons c front ih =>
    cases mark with
    | nil => simp
    | cons d mark =>
      have later : x ∉ mark := fun member => absent (List.mem_cons_of_mem _ member)
      simp only [List.cons_append,List.cons_prefix_cons,ih later]

theorem infixStops (absent : x ∉ mark) (filled : mark ≠ []) (front rest : List α) :
    mark <:+: front ++ x :: rest ↔ mark <:+: front ∨ mark <:+: rest := by
  induction front with
  | nil =>
    have here : ¬ mark <+: x :: rest := fun found => by
      have empty := (prefixStops absent [] rest).mp found
      exact filled (List.prefix_nil.mp empty)
    simp [List.infix_cons_iff,here,filled]
  | cons c front ih =>
    have here : mark <+: c :: front ++ x :: rest ↔ mark <+: c :: front := prefixStops absent (c :: front) rest
    rw [List.cons_append,List.infix_cons_iff,← List.cons_append,here,ih,List.infix_cons_iff,or_assoc]

end Stops

section Trims

variable {p : Char → Bool} {mark : List Char}

theorem infixDropped (apart : ∀ c ∈ mark, p c = false) (filled : mark ≠ []) (text : List Char) :
    mark <:+: text.dropWhile p ↔ mark <:+: text := by
  induction text with
  | nil => rfl
  | cons c text ih =>
    cases dropped : p c with
    | false => simp [dropped]
    | true =>
      have here : ¬ mark <+: c :: text := by
        cases mark with
        | nil => exact absurd rfl filled
        | cons d mark =>
          rintro starts
          obtain ⟨rfl,-⟩ := List.cons_prefix_cons.mp starts
          rw [apart d List.mem_cons_self] at dropped
          cases dropped
      simp [dropped,ih,List.infix_cons_iff,here]

theorem infixTrimmed (visible : ∀ c ∈ mark, isBlank c = false) (filled : mark ≠ []) (text : List Char) :
    mark <:+: trim text ↔ mark <:+: text := by
  have reversed : ∀ c ∈ mark.reverse, isBlank c = false := fun c member => visible c (List.mem_reverse.mp member)
  have some : mark.reverse ≠ [] := by simpa using filled
  calc mark <:+: trim text ↔ mark.reverse <:+: (trimStart text).reverse.dropWhile isBlank := by
        rw [trim,trimEnd,dropEndWhile,← List.reverse_infix,List.reverse_reverse]
    _ ↔ mark.reverse <:+: (trimStart text).reverse := infixDropped reversed some _
    _ ↔ mark <:+: text := by rw [List.reverse_infix,trimStart,infixDropped visible filled]

end Trims

section Places

variable {mark : List Char}

theorem breakBehind (passed text : List Char) :
    breakAt.go mark passed text = (breakAt mark text).map fun (before,rest) => (passed.reverse ++ before,rest) := by
  induction text generalizing passed with
  | nil => cases mark <;> simp [breakAt,breakAt.go]
  | cons c text ih =>
    unfold breakAt breakAt.go
    split
    · simp
    · rw [ih (c :: passed),ih [c],Option.map_map]
      simp [Function.comp_def]

theorem breakCons (c : Char) (text : List Char) : breakAt mark (c :: text) =
    if mark <+: c :: text then some ([],c :: text)
      else (breakAt mark text).map fun (before,rest) => (c :: before,rest) := by
  simp only [← List.isPrefixOf_iff_prefix]
  rw [breakAt,breakAt.go,breakBehind]
  rfl

theorem containsIff (text : List Char) : contains mark text = true ↔ mark <:+: text := by
  induction text with
  | nil => cases mark <;> simp [contains,breakAt,breakAt.go]
  | cons c text ih =>
    rw [contains] at ih
    rw [contains,breakCons,List.infix_cons_iff,← ih]
    split <;> simp [*]

theorem containsEnded {x : Char} (absent : x ∉ mark) (filled : mark ≠ []) (front rest : List Char) :
    contains mark (front ++ x :: rest) = (contains mark front || contains mark rest) := by
  rw [Bool.eq_iff_iff,Bool.or_eq_true,containsIff,containsIff,containsIff]
  exact infixStops absent filled front rest

/- The mark stands between the two parts, and nowhere before. -/
structure FirstAt (mark text before after : List Char) : Prop where
  parts : text = before ++ mark ++ after
  first : ∀ before' after', text = before' ++ mark ++ after' → before.length ≤ before'.length

theorem firstHere (after : List Char) : FirstAt mark (mark ++ after) [] after :=
  ⟨rfl,fun _ _ _ => Nat.zero_le _⟩

theorem firstCons {c : Char} {text before after : List Char} (absent : ¬ mark <+: c :: text) :
    FirstAt mark (c :: text) before after ↔ ∃ front, before = c :: front ∧ FirstAt mark text front after := by
  constructor
  · rintro ⟨parts,first⟩
    cases before with
    | nil => exact absurd ⟨after,parts.symm⟩ absent
    | cons d front =>
      obtain ⟨rfl,tail⟩ := List.cons_eq_cons.mp parts
      refine ⟨front,rfl,tail,fun before' after' same => ?_⟩
      exact Nat.le_of_succ_le_succ (first (c :: before') after' (by rw [same]; rfl))
  · rintro ⟨front,rfl,parts,first⟩
    refine ⟨by rw [parts]; rfl,fun before' after' same => ?_⟩
    cases before' with
    | nil => exact absurd ⟨after',same.symm⟩ absent
    | cons d before' => exact Nat.succ_le_succ (first before' after' (List.cons_eq_cons.mp same).2)

theorem splitOnceIff (filled : mark ≠ []) (text before after : List Char) :
    splitOnce mark text = some (before,after) ↔ FirstAt mark text before after := by
  induction text generalizing before with
  | nil =>
    have nowhere : splitOnce mark [] = none := by simp [splitOnce,breakAt,breakAt.go,filled]
    rw [nowhere]
    refine iff_of_false nofun fun ⟨parts,_⟩ => ?_
    simp [filled] at parts
  | cons c text ih =>
    by_cases here : mark <+: c :: text
    · obtain ⟨rest,whole⟩ := here
      have cut : splitOnce mark (c :: text) = some ([],rest) := by
        rw [splitOnce,breakCons,← whole]
        simp
      rw [cut]
      constructor
      · intro same
        cases same
        exact whole ▸ firstHere _
      · rintro ⟨parts,first⟩
        have empty : before = [] := List.length_eq_zero_iff.mp (Nat.le_zero.mp (first [] rest whole.symm))
        subst empty
        have same : mark ++ rest = mark ++ after := whole.trans parts
        rw [List.append_cancel_left same]
    · have cut : splitOnce mark (c :: text) = (splitOnce mark text).map fun (before,after) => (c :: before,after) := by
        simp [splitOnce,breakCons,here,Function.comp_def]
      rw [cut,firstCons here]
      constructor
      · intro mapped
        obtain ⟨⟨front,rest⟩,found,same⟩ := Option.map_eq_some_iff.mp mapped
        cases same
        exact ⟨front,rfl,(ih front).mp found⟩
      · rintro ⟨front,rfl,found⟩
        rw [(ih front).mpr found]
        rfl

theorem splitOnceNone (text : List Char) : splitOnce mark text = none ↔ ¬ mark <:+: text := by
  rw [← containsIff,contains,splitOnce]
  cases breakAt mark text <;> simp

end Places

theorem linesEnded {line : List Char} (unended : '\n' ∉ line) (rest : List Char) :
    lines (line ++ '\n' :: rest) = stripEnd '\r' line :: lines rest := by
  have pieces : (line ++ '\n' :: rest).splitOn '\n' = line :: rest.splitOn '\n' := by
    have alone : line.splitOn '\n' = [line] := List.splitOn_eq_singleton unended
    have cut : (line ++ '\n' :: rest).splitOn '\n' = line.splitOn '\n' ++ rest.splitOn '\n' :=
      List.splitOnP_append_cons line rest (by simp)
    rw [cut,alone]
    rfl
  have more : rest.splitOn '\n' ≠ [] := List.splitOn_ne_nil '\n' rest
  rw [lines,lines,pieces,List.dropLast_cons_of_ne_nil more,List.map_cons,List.getLast?_cons_of_ne_nil more]
  split <;> rfl

section Ends

variable {x : Char}

theorem lastBehind (front : List Char) {back : List Char} (filled : back ≠ []) :
    (front ++ back).getLast? = back.getLast? := by
  rw [List.getLast?_append,List.getLast?_eq_some_getLast filled]
  rfl

theorem stripEndBehind {front : List Char} (open' : front.getLast? ≠ some x) (back : List Char) :
    stripEnd x (front ++ back) = front ++ stripEnd x back := by
  unfold stripEnd
  cases back with
  | nil => simp [open']
  | cons c back =>
    rw [lastBehind front (List.cons_ne_nil c back)]
    split
    · exact List.dropLast_append_of_ne_nil (List.cons_ne_nil c back)
    · rfl

theorem splitContinued (x : Char) (front : List Char) : ∃ lines last, front.splitOn x = lines ++ [last] ∧
    last <:+ front ∧ ∀ back, (front ++ back).splitOn x = lines ++ (back.splitOn x).modifyHead (last ++ ·) := by
  induction front with
  | nil =>
    refine ⟨[],[],rfl,List.suffix_refl [],fun back => ?_⟩
    cases split : back.splitOn x <;> simp [split]
  | cons c front ih =>
    obtain ⟨lines,last,parts,suffix,continued⟩ := ih
    have further : last <:+ c :: front := suffix.trans (List.suffix_cons c front)
    simp only [List.cons_append,List.splitOn_cons_eq_if_modifyHead,parts,continued]
    by_cases ends : (c == x) = true
    · exact ⟨[] :: lines,last,by simp [ends],further,fun back => by simp [ends]⟩
    · cases lines with
      | nil =>
        have whole : last = front := by
          have joined : [x].intercalate (front.splitOn x) = front := List.intercalate_splitOn x
          rw [parts] at joined
          simpa using joined
        refine ⟨[],c :: last,by simp [ends],whole ▸ List.suffix_refl _,fun back => ?_⟩
        rw [if_neg ends]
        cases back.splitOn x <;> simp
      | cons line lines =>
        exact ⟨(c :: line) :: lines,last,by simp [ends],further,fun back => by simp [ends]⟩

theorem splitUnbroken {t part : List Char} (member : part ∈ t.splitOn x) : x ∉ part := by
  induction t generalizing part with
  | nil =>
    obtain rfl := List.mem_singleton.mp member
    exact List.not_mem_nil
  | cons c t ih =>
    rw [List.splitOn_cons_eq_if_modifyHead] at member
    split at member
    · rcases List.mem_cons.mp member with rfl | later
      · exact List.not_mem_nil
      · exact ih later
    · rename_i other
      cases split : t.splitOn x with
      | nil => exact absurd split (List.splitOn_ne_nil x t)
      | cons head rest =>
        rw [split] at ih
        rw [split,List.modifyHead_cons] at member
        rcases List.mem_cons.mp member with rfl | later
        · have apart : x ≠ c := fun same => other (by simp [same])
          simp [apart,ih List.mem_cons_self]
        · exact ih (List.mem_cons_of_mem _ later)

theorem splitSingle {t part : List Char} : t.splitOn x = [part] ↔ t = part ∧ x ∉ part := by
  constructor
  · intro single
    have joined : [x].intercalate (t.splitOn x) = t := List.intercalate_splitOn x
    rw [single,List.intercalate_singleton] at joined
    exact ⟨joined.symm,splitUnbroken (single ▸ List.mem_singleton_self part)⟩
  · rintro ⟨rfl,absent⟩
    exact List.splitOn_eq_singleton absent

end Ends

end Playground.Text
