/-!
Text cut at a separating character.
-/

namespace Jp2Render.Text

def fields (separator : Char) : List Char → List (List Char)
  | [] => [[]]
  | c :: rest =>
    if c = separator then [] :: fields separator rest
    else
      match fields separator rest with
      | [] => [[c]]
      | part :: parts => (c :: part) :: parts

def cut? (separator : Char) : List Char → Option (List Char × List Char)
  | [] => none
  | c :: rest =>
    if c = separator then some ([], rest)
    else (cut? separator rest).map fun (before, after) => (c :: before, after)

def cutLast? (separator : Char) (cs : List Char) : Option (List Char × List Char) :=
  (cut? separator cs.reverse).map fun (after, before) => (before.reverse, after.reverse)

def after? : List Char → List Char → Option (List Char)
  | [], cs => some cs
  | _ :: _, [] => none
  | p :: ps, c :: cs => if p = c then after? ps cs else none

theorem length_fields (separator : Char) (cs : List Char) :
    (fields separator cs).length = cs.count separator + 1 := by
  induction cs with
  | nil => rfl
  | cons c rest ih =>
    by_cases same : c = separator
    · simp [fields, same, ih]
    · cases parts : fields separator rest with
      | nil => simp [parts] at ih
      | cons part tail =>
        simp only [parts, List.length_cons] at ih
        simp [fields, same, parts, ih]

theorem cut?_eq_some {separator : Char} {cs before after : List Char}
    (found : cut? separator cs = some (before, after)) : cs = before ++ separator :: after := by
  induction cs generalizing before with
  | nil => simp [cut?] at found
  | cons c rest ih =>
    by_cases same : c = separator
    · simp only [cut?, same, if_true, Option.some.injEq, Prod.mk.injEq] at found
      simp [← found.1, ← found.2, same]
    · simp only [cut?, same, if_false, Option.map_eq_some_iff, Prod.exists, Prod.mk.injEq] at found
      obtain ⟨first, last, inner, rfl, rfl⟩ := found
      simp [ih inner]

theorem cut?_append {separator : Char} {before : List Char} (absent : separator ∉ before)
    (after : List Char) : cut? separator (before ++ separator :: after) = some (before, after) := by
  induction before with
  | nil => simp [cut?]
  | cons c rest ih =>
    rw [List.mem_cons, not_or] at absent
    simp [cut?, Ne.symm absent.1, ih absent.2]

end Jp2Render.Text
