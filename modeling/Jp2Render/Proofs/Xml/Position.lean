import Jp2Render.Xml.Element

/-!
Positions in a document. A position says which child to take at each step down from the root. In the
order of the document an element comes before all that is inside it, and what is inside an element
comes before the siblings after it: so the first step that differs decides. A single pass in this
order, which only remembers whether it is inside an outer element, finds the element at the first
position that counts.
-/

namespace Jp2Render.Xml

abbrev Position := List Nat

namespace Position

variable {counts counts' : Position → Prop} {first second : Position}

def Precedes (first second : Position) : Prop := List.Lex (· < ·) first second

theorem Precedes.shift {i j : Nat} (before : Precedes (i :: first) (j :: second)) :
    Precedes ((i + 1) :: first) ((j + 1) :: second) := by
  cases before with
  | rel less => exact .rel (Nat.succ_lt_succ less)
  | cons before => exact .cons before

/-- The first of the positions that count. -/
structure IsFirst (counts : Position → Prop) (position : Position) : Prop where
  counted : counts position
  least : ∀ other, counts other → other = position ∨ position.Precedes other

theorem IsFirst.unique (isFirst : IsFirst counts first) (isFirst' : IsFirst counts second) :
    first = second := by
  rcases isFirst.least second isFirst'.counted with same | before
  · exact same.symm
  · rcases isFirst'.least first isFirst.counted with same | before'
    · exact same
    · exact absurd before' (List.lex_asymm Nat.lt_asymm before)

theorem IsFirst.congr (same : ∀ position, counts position ↔ counts' position)
    (isFirst : IsFirst counts first) : IsFirst counts' first where
  counted := (same first).mp isFirst.counted
  least other counted := isFirst.least other ((same other).mpr counted)

end Position

namespace Element

/-- The element at a position below this one. -/
def at? : Element → Position → Option Element
  | element, [] => some element
  | element, step :: rest => element.children[step]?.bind fun child => child.at? rest

def LiesWithin (outer : String) (root : Element) (position : Position) : Prop :=
  ∃ (above below : Position) (ancestor : Element), position = above ++ below ∧ below ≠ [] ∧
    root.at? above = some ancestor ∧ ancestor.isNamed outer = true

/-- Positions of elements that have a name and lie inside an element of an outer name. -/
structure Counts (outer name : String) (root : Element) (position : Position) : Prop where
  named : ∃ element, root.at? position = some element ∧ element.isNamed name = true
  within : root.LiesWithin outer position

variable {outer name : String} {root element child : Element} {siblings others : List Element}
  {step : Nat} {rest position : Position} {entered : Bool}

theorem at?_cons (taken : root.children[step]? = some child) :
    root.at? (step :: rest) = child.at? rest := by
  rw [at?, taken, Option.bind_some]

theorem not_liesWithin_nil : ¬ root.LiesWithin outer [] := by
  rintro ⟨above, below, ancestor, same, some, -, -⟩
  exact some (List.append_eq_nil_iff.mp same.symm).2

theorem liesWithin_cons (taken : root.children[step]? = some child) :
    root.LiesWithin outer (step :: rest) ↔ root.isNamed outer = true ∨ child.LiesWithin outer rest := by
  constructor
  · rintro ⟨above, below, ancestor, same, some, found, named⟩
    cases above with
    | nil =>
        rw [at?, Option.some.injEq] at found
        exact .inl (found ▸ named)
    | cons step' above =>
        rw [List.cons_append, List.cons.injEq] at same
        obtain ⟨rfl, rfl⟩ := same
        rw [at?_cons taken] at found
        exact .inr ⟨above, below, ancestor, rfl, some, found, named⟩
  · rintro (named | ⟨above, below, ancestor, rfl, some, found, named⟩)
    · exact ⟨[], step :: rest, root, rfl, List.cons_ne_nil step rest, rfl, named⟩
    · exact ⟨step :: above, below, ancestor, rfl, some, (at?_cons taken).trans found, named⟩

mutual

def firstWithin (outer name : String) (entered : Bool) : Element → Option Element
  | ⟨tag, text, children⟩ =>
    if entered && isNamed ⟨tag, text, children⟩ name then some ⟨tag, text, children⟩
    else firstWithinAll outer name (entered || isNamed ⟨tag, text, children⟩ outer) children

def firstWithinAll (outer name : String) (entered : Bool) : List Element → Option Element
  | [] => none
  | element :: others =>
    (firstWithin outer name entered element).or (firstWithinAll outer name entered others)

end

theorem firstWithin_eq (element : Element) : firstWithin outer name entered element =
    if entered && element.isNamed name then some element
    else firstWithinAll outer name (entered || element.isNamed outer) element.children := by
  cases element
  rw [firstWithin]

theorem siblings_induction {holds : List Element → Prop} (nil : holds [])
    (cons : ∀ element others, holds element.children → holds others → holds (element :: others))
    (siblings : List Element) : holds siblings :=
  @rec_1 (fun element => holds element.children) holds (fun _ _ _ children => children) nil cons
    siblings

def CountsFrom (outer name : String) (entered : Bool) (root : Element) (position : Position) : Prop :=
  (∃ element, root.at? position = some element ∧ element.isNamed name = true) ∧
    (entered = true ∨ root.LiesWithin outer position)

def CountsAmong (outer name : String) (entered : Bool) (siblings : List Element) : Position → Prop
  | [] => False
  | step :: rest =>
    ∃ sibling, siblings[step]? = some sibling ∧ sibling.CountsFrom outer name entered rest

def amongAt? (siblings : List Element) : Position → Option Element
  | [] => none
  | step :: rest => siblings[step]?.bind fun sibling => sibling.at? rest

theorem countsFrom_nil :
    root.CountsFrom outer name entered [] ↔ (entered && root.isNamed name) = true := by
  simp [CountsFrom, at?, not_liesWithin_nil, and_comm]

theorem countsFrom_cons : root.CountsFrom outer name entered (step :: rest) ↔
    CountsAmong outer name (entered || root.isNamed outer) root.children (step :: rest) := by
  constructor
  · rintro ⟨⟨element, found, named⟩, within⟩
    obtain ⟨child, taken, found⟩ := Option.bind_eq_some_iff.mp found
    rw [liesWithin_cons taken, ← or_assoc, ← Bool.or_eq_true] at within
    exact ⟨child, taken, ⟨element, found, named⟩, within⟩
  · rintro ⟨child, taken, ⟨element, found, named⟩, within⟩
    rw [Bool.or_eq_true, or_assoc, ← liesWithin_cons taken] at within
    exact ⟨⟨element, (at?_cons taken).trans found, named⟩, within⟩

theorem countsAmong_cons_zero : CountsAmong outer name entered (element :: others) (0 :: rest) ↔
    element.CountsFrom outer name entered rest := by
  simp [CountsAmong]

theorem countsAmong_cons_succ :
    CountsAmong outer name entered (element :: others) ((step + 1) :: rest) ↔
      CountsAmong outer name entered others (step :: rest) := by
  simp [CountsAmong]

def Finds (counts : Position → Prop) (lookup : Position → Option Element) : Option Element → Prop
  | none => ∀ position, ¬ counts position
  | some element => ∃ position, Position.IsFirst counts position ∧ lookup position = some element

section Finds

variable {counts counts' : Position → Prop} {lookup lookup' : Position → Option Element}
  {found : Option Element}

theorem Finds.congr (finds : Finds counts lookup found)
    (same : ∀ position, counts position ↔ counts' position)
    (taken : ∀ position, counts position → lookup position = lookup' position) :
    Finds counts' lookup' found := by
  cases found with
  | none => exact fun position counted => finds position ((same position).mpr counted)
  | some element =>
      obtain ⟨position, isFirst, found⟩ := finds
      exact ⟨position, isFirst.congr same, (taken position isFirst.counted).symm.trans found⟩

theorem Finds.eq_none_iff (finds : Finds counts lookup found) :
    found = none ↔ ∀ position, ¬ counts position := by
  cases found with
  | none => exact iff_of_true rfl finds
  | some element =>
      obtain ⟨position, isFirst, -⟩ := finds
      exact iff_of_false nofun fun absent => absent position isFirst.counted

theorem Finds.eq_some_iff (finds : Finds counts lookup found) : found = some element ↔
    ∃ position, Position.IsFirst counts position ∧ lookup position = some element := by
  constructor
  · rintro rfl
    exact finds
  · rintro ⟨position, isFirst, taken⟩
    cases found with
    | none => exact absurd isFirst.counted (finds position)
    | some winner =>
        obtain ⟨position', isFirst', taken'⟩ := finds
        rw [isFirst'.unique isFirst, taken] at taken'
        exact taken'.symm

end Finds

theorem finds_inside {found : Option Element} (own : (entered && root.isNamed name) = false)
    (finds : Finds (CountsAmong outer name (entered || root.isNamed outer) root.children)
      (amongAt? root.children) found) :
    Finds (root.CountsFrom outer name entered) root.at? found := by
  refine finds.congr (fun position => ?_) fun position counted => ?_
  · cases position with
    | nil => exact iff_of_false id (by simp [countsFrom_nil, own])
    | cons step rest => exact countsFrom_cons.symm
  · cases position with
    | nil => exact counted.elim
    | cons step rest => rfl

theorem finds_siblings {found found' : Option Element}
    (first : Finds (element.CountsFrom outer name entered) element.at? found)
    (rest : Finds (CountsAmong outer name entered others) (amongAt? others) found') :
    Finds (CountsAmong outer name entered (element :: others)) (amongAt? (element :: others))
      (found.or found') := by
  cases found with
  | some winner =>
      obtain ⟨position, isFirst, found⟩ := first
      refine ⟨0 :: position, ⟨countsAmong_cons_zero.mpr isFirst.counted, ?_⟩, found⟩
      -- whatever counts below another sibling comes later, by its first step already
      rintro (_ | ⟨_ | step, other⟩) counted
      · exact counted.elim
      · rcases isFirst.least other (countsAmong_cons_zero.mp counted) with rfl | before
        · exact .inl rfl
        · exact .inr (.cons before)
      · exact .inr (.rel (Nat.succ_pos step))
  | none =>
      have absent (position : Position) :
          ¬ CountsAmong outer name entered (element :: others) (0 :: position) :=
        fun counted => first position (countsAmong_cons_zero.mp counted)
      rw [Option.none_or]
      cases found' with
      | none =>
          rintro (_ | ⟨_ | step, position⟩) counted
          · exact counted.elim
          · exact absent position counted
          · exact rest (step :: position) (countsAmong_cons_succ.mp counted)
      | some winner =>
          obtain ⟨_ | ⟨i, position⟩, isFirst, found⟩ := rest
          · exact isFirst.counted.elim
          refine ⟨(i + 1) :: position, ⟨countsAmong_cons_succ.mpr isFirst.counted, ?_⟩, found⟩
          rintro (_ | ⟨_ | step, other⟩) counted
          · exact counted.elim
          · exact absurd counted (absent other)
          · rcases isFirst.least _ (countsAmong_cons_succ.mp counted) with same | before
            · rw [List.cons.injEq] at same
              obtain ⟨rfl, rfl⟩ := same
              exact .inl rfl
            · exact .inr before.shift

theorem finds_firstWithinAll (siblings : List Element) : ∀ entered,
    Finds (CountsAmong outer name entered siblings) (amongAt? siblings)
      (firstWithinAll outer name entered siblings) := by
  -- children are searched with another flag than their parent, so the flag is not fixed
  induction siblings using siblings_induction with
  | nil =>
      rintro entered (_ | ⟨step, rest⟩) counted
      · exact counted
      · obtain ⟨_, taken, -⟩ := counted
        cases taken
  | cons element others inside rest =>
      intro entered
      rw [firstWithinAll, firstWithin_eq]
      refine finds_siblings ?_ (rest entered)
      split
      · next own =>
        refine ⟨[], ⟨countsFrom_nil.mpr own, ?_⟩, rfl⟩
        rintro (_ | ⟨step, other⟩) -
        · exact .inl rfl
        · exact .inr .nil
      · next own => exact finds_inside (Bool.eq_false_iff.mpr own) (inside _)

theorem finds_firstWithin (root : Element) :
    Finds (root.Counts outer name) root.at? (firstWithin outer name false root) := by
  have same (position : Position) :
      root.CountsFrom outer name false position ↔ root.Counts outer name position := by
    simp only [CountsFrom, Bool.false_eq_true, false_or]
    exact ⟨fun counted => ⟨counted.1, counted.2⟩, fun counted => ⟨counted.named, counted.within⟩⟩
  have finds : Finds (root.CountsFrom outer name false) root.at?
      (firstWithin outer name false root) := by
    rw [firstWithin_eq, if_neg (by simp)]
    exact finds_inside (Bool.false_and _) (finds_firstWithinAll root.children _)
  exact finds.congr same fun _ _ => rfl

end Element

end Jp2Render.Xml
