import Jp2Render.Path

/-!
Paths and their texts. The names of a path that is read from a text are neither empty nor single dots, and
have no slashes. Such a path is read back from its own text, so no two of them are written alike.
-/

namespace Jp2Render

namespace Text

variable {separator : Char} {part cs : List Char}

theorem fields_ne_nil (separator : Char) (cs : List Char) : fields separator cs ≠ [] :=
  List.ne_nil_of_length_pos (length_fields separator cs ▸ Nat.succ_pos _)

theorem fields_eq_splitOn (separator : Char) (cs : List Char) :
    fields separator cs = cs.splitOn separator := by
  rw [List.splitOn_eq_splitOnP]
  induction cs with
  | nil => rfl
  | cons c rest ih =>
      rw [List.splitOnP_cons_eq_if_modifyHead, ← ih, fields]
      by_cases same : c = separator
      · rw [if_pos same, if_pos (beq_iff_eq.mpr same)]
      · rw [if_neg same, if_neg (mt beq_iff_eq.mp same)]
        cases parts : fields separator rest with
        | nil => exact absurd parts (fields_ne_nil separator rest)
        | cons first more => rfl

theorem notMem_of_mem_fields (member : part ∈ fields separator cs) : separator ∉ part := by
  induction cs generalizing part with
  | nil =>
      rw [List.mem_singleton.mp member]
      exact List.not_mem_nil
  | cons c rest ih =>
      unfold fields at member
      split at member
      · rcases List.mem_cons.mp member with rfl | later
        · exact List.not_mem_nil
        · exact ih later
      · next other =>
        split at member
        · rw [List.mem_singleton.mp member]
          simpa using Ne.symm other
        · next first more split =>
          rw [split] at ih
          rcases List.mem_cons.mp member with rfl | later
          · rw [List.mem_cons, not_or]
            exact ⟨Ne.symm other, ih List.mem_cons_self⟩
          · exact ih (List.mem_cons_of_mem _ later)

end Text

namespace Path

def AreNames (names : List String) : Prop :=
  ∀ name ∈ names, isName name.toList = true ∧ '/' ∉ name.toList

theorem areNames_ofText (text : String) : AreNames (ofText text).names := by
  intro name member
  obtain ⟨cs, kept, rfl⟩ := List.mem_map.mp member
  obtain ⟨part, isName⟩ := List.mem_filter.mp kept
  rw [String.toList_ofList]
  exact ⟨isName, Text.notMem_of_mem_fields part⟩

variable {p q : Path} {names : List String}

theorem AreNames.within (above : AreNames p.names) (proper : AreNames q.names) :
    AreNames (p.within q).names := by
  unfold Path.within
  split
  · exact proper
  · intro name member
    exact (List.mem_append.mp member).elim (above name) (proper name)

theorem namesOf_slashes (count : Nat) (cs : List Char) :
    namesOf (List.replicate count '/' ++ cs) = namesOf cs := by
  induction count with
  | zero => rfl
  | succ count ih => exact ih

theorem namesOf_intercalate (proper : AreNames names) :
    namesOf (['/'].intercalate (names.map String.toList)) = names := by
  by_cases none : names = []
  · rw [none]
    rfl
  · have parts : Text.fields '/' (['/'].intercalate (names.map String.toList)) =
        names.map String.toList := by
      rw [Text.fields_eq_splitOn]
      refine List.splitOn_intercalate '/' ?_ (mt List.map_eq_nil_iff.mp none)
      intro part member
      obtain ⟨name, listed, rfl⟩ := List.mem_map.mp member
      exact (proper name listed).2
    have kept : (names.map String.toList).filter isName = names.map String.toList := by
      rw [List.filter_eq_self]
      intro part member
      obtain ⟨name, listed, rfl⟩ := List.mem_map.mp member
      exact (proper name listed).1
    rw [namesOf, parts, kept, List.map_map]
    exact List.map_id'' (fun name => String.ofList_toList) names

theorem takeWhile_intercalate (proper : AreNames names) :
    (['/'].intercalate (names.map String.toList)).takeWhile (· = '/') = [] := by
  cases names with
  | nil => rfl
  | cons name rest =>
      obtain ⟨isName, clear⟩ := proper name List.mem_cons_self
      obtain ⟨tail, joined⟩ : ∃ tail,
          ['/'].intercalate ((name :: rest).map String.toList) = name.toList ++ tail := by
        cases rest with
        | nil => exact ⟨[], by simp⟩
        | cons second rest =>
            rw [List.map_cons, List.map_cons, List.intercalate_cons_cons, List.append_assoc]
            exact ⟨_, rfl⟩
      rw [joined]
      -- the first name begins with a character of its own
      cases cs : name.toList with
      | nil => simp [cs, Path.isName] at isName
      | cons c more =>
          rw [cs, List.mem_cons, not_or] at clear
          exact List.takeWhile_cons_of_neg (by simpa using Ne.symm clear.1)

def slashes : PathRoot → Nat
  | .relative => 0
  | .slash => 1
  | .twoSlashes => 2

theorem rootOf_slashes (root : PathRoot) : rootOf (slashes root) = root := by cases root <;> rfl

theorem toList_text (root : PathRoot) : root.text.toList = List.replicate (slashes root) '/' := by
  cases root <;> rfl

theorem ofText_text (proper : AreNames p.names) : ofText p.text = p := by
  unfold text
  split
  · next nothing =>
    simp only [Bool.and_eq_true, decide_eq_true_eq, List.isEmpty_iff] at nothing
    obtain ⟨root, names⟩ := p
    obtain ⟨rfl, rfl⟩ := nothing
    rfl
  · have written : (p.root.text ++ String.intercalate "/" p.names).toList =
        List.replicate (slashes p.root) '/' ++ ['/'].intercalate (p.names.map String.toList) := by
      rw [String.toList_append, String.toList_intercalate, toList_text]
      rfl
    have leading : (List.replicate (slashes p.root) '/' ++
        ['/'].intercalate (p.names.map String.toList)).takeWhile (· = '/') =
          List.replicate (slashes p.root) '/' := by
      rw [List.takeWhile_append_of_pos, takeWhile_intercalate proper, List.append_nil]
      intro c slash
      simpa using List.eq_of_mem_replicate slash
    rw [ofText, written, leading, List.length_replicate, rootOf_slashes, namesOf_slashes,
      namesOf_intercalate proper]

theorem text_injective (first : AreNames p.names) (second : AreNames q.names) (same : p.text = q.text) :
    p = q := by
  rw [← ofText_text first, same, ofText_text second]

end Path

end Jp2Render
