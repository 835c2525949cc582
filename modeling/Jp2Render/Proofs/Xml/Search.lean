import Jp2Render.Proofs.Xml.Position

/-!
Searches in a document for a name inside outer elements. One search looks up all outer elements, in
the order of the document, and then searches each of them for the name; another one searches only those
outer elements that lie in no other. Both find what a single pass over the document finds.
-/

namespace Jp2Render.Xml.Element

variable {outer name : String} {element child : Element} {siblings : List Element}

/-!
An outer element inside another one is searched with that one already, so searching it again comes to
nothing.
-/

theorem inside_eq (element : Element) : element.inside = insideAll element.children := by
  cases element
  rw [inside]

theorem mem_insideAll_trans (inner : element ∈ insideAll siblings) (innermost : child ∈ element.inside) :
    child ∈ insideAll siblings := by
  induction siblings using siblings_induction with
  | nil => cases inner
  | cons sibling others inside rest =>
      rw [insideAll, List.mem_cons, List.mem_append] at inner ⊢
      rcases inner with rfl | inner | inner
      · exact .inr (.inl innermost)
      · rw [inside_eq] at inner ⊢
        exact .inr (.inl (inside inner))
      · exact .inr (.inr (rest inner))

def searchAll (outer name : String) (elements : List Element) : Option Element :=
  (elements.filter (·.isNamed outer)).findSome? (·.first? name)

theorem searchAll_append (first second : List Element) : searchAll outer name (first ++ second) =
    (searchAll outer name first).or (searchAll outer name second) := by
  rw [searchAll, List.filter_append, List.findSome?_append, searchAll, searchAll]

theorem searchAll_cons (element : Element) (others : List Element) :
    searchAll outer name (element :: others) =
      if element.isNamed outer then (element.first? name).or (searchAll outer name others)
      else searchAll outer name others := by
  cases named : element.isNamed outer with
  | false => simp [searchAll, named]
  | true => cases found : element.first? name <;> simp [searchAll, named, found]

theorem searchAll_insideAll (missing : (insideAll siblings).find? (·.isNamed name) = none) :
    searchAll outer name (insideAll siblings) = none := by
  rw [List.find?_eq_none] at missing
  rw [searchAll, List.findSome?_eq_none_iff]
  intro element inner
  rw [first?, List.find?_eq_none]
  exact fun child innermost => missing child (mem_insideAll_trans (List.mem_filter.mp inner).1 innermost)

theorem firstWithinAll_entered (siblings : List Element) :
    firstWithinAll outer name true siblings = (insideAll siblings).find? (·.isNamed name) := by
  induction siblings using siblings_induction with
  | nil => rfl
  | cons element others inside rest =>
      rw [firstWithinAll, firstWithin_eq, Bool.true_and, Bool.true_or, inside, rest, insideAll,
        List.find?_cons, List.find?_append, inside_eq]
      cases element.isNamed name <;> rfl

theorem searchAll_eq_firstWithinAll (siblings : List Element) :
    searchAll outer name (insideAll siblings) = firstWithinAll outer name false siblings := by
  -- children before siblings, as the order of the document has it
  induction siblings using siblings_induction with
  | nil => rfl
  | cons element others inside rest =>
      rw [insideAll, searchAll_cons, searchAll_append, rest, firstWithinAll, firstWithin_eq,
        Bool.false_and, Bool.false_or, inside_eq]
      cases named : element.isNamed outer with
      | false => simp [inside]
      | true =>
          -- what is inside this outer element has been searched once its own search is over
          have found : element.first? name = firstWithinAll outer name true element.children := by
            rw [firstWithinAll_entered, first?, inside_eq]
          cases missing : element.first? name with
          | some winner => simp [← found, missing]
          | none =>
              rw [first?, inside_eq] at missing
              rw [searchAll_insideAll missing, ← found]
              simp [first?, inside_eq, missing]

theorem searchAll_eq_firstWithin (root : Element) :
    searchAll outer name root.all = firstWithin outer name false root := by
  have whole : searchAll outer name (insideAll [root]) = firstWithinAll outer name false [root] :=
    searchAll_eq_firstWithinAll [root]
  rwa [insideAll, insideAll, List.append_nil, firstWithinAll, firstWithinAll, Option.or_none] at whole

mutual

/-- The elements of the outer name that lie inside no other one, in the order of the document. -/
def outermost (outer : String) : Element → List Element
  | ⟨tag, text, children⟩ =>
    if isNamed ⟨tag, text, children⟩ outer then [⟨tag, text, children⟩]
    else outermostAll outer children

def outermostAll (outer : String) : List Element → List Element
  | [] => []
  | element :: others => outermost outer element ++ outermostAll outer others

end

theorem outermost_eq (element : Element) : outermost outer element =
    if element.isNamed outer then [element] else outermostAll outer element.children := by
  cases element
  rw [outermost]

theorem firstWithinAll_outermost (siblings : List Element) :
    firstWithinAll outer name false siblings =
      (outermostAll outer siblings).findSome? (·.first? name) := by
  induction siblings using siblings_induction with
  | nil => rfl
  | cons element others inside rest =>
      rw [firstWithinAll, firstWithin_eq, outermostAll, outermost_eq, List.findSome?_append, rest,
        Bool.false_and, Bool.false_or]
      cases named : element.isNamed outer with
      | false => simp [inside]
      | true => simp [firstWithinAll_entered, first?, inside_eq]

theorem firstWithin_outermost (root : Element) :
    firstWithin outer name false root = (outermost outer root).findSome? (·.first? name) := by
  have whole : firstWithinAll outer name false [root] =
      (outermostAll outer [root]).findSome? (·.first? name) := firstWithinAll_outermost [root]
  rwa [firstWithinAll, firstWithinAll, Option.or_none, outermostAll, outermostAll,
    List.append_nil] at whole

end Jp2Render.Xml.Element
