import Jp2Render.Proofs.Commands.Drafting
import Jp2Render.Proofs.Path
import Jp2Render.Proofs.Text.Digits

/-!
What can be read back from the decoder's arguments. A flag is known by where it stands, so a region that is
spelt like one is not taken for it, and quotes that were added are known by a space between them. The
arguments therefore tell every part of the draft that they were built from.
-/

namespace Jp2Render

theorem space_mem_quotedPath {path : String} : ' ' ∈ (quotedPath path).toList ↔ ' ' ∈ path.toList := by
  unfold quotedPath
  split <;> simp

theorem quotedPath_injective : Function.Injective quotedPath := by
  intro path path' same
  -- quotes neither bring a space nor take one away, so both paths are quoted or neither is
  have spaces : ' ' ∈ path.toList ↔ ' ' ∈ path'.toList := by
    rw [← space_mem_quotedPath, same, space_mem_quotedPath]
  unfold quotedPath at same
  by_cases spaced : ' ' ∈ path.toList
  · rw [if_pos spaced, if_pos (spaces.mp spaced)] at same
    exact String.toList_inj.mp (by simpa using congrArg String.toList same)
  · rw [if_neg spaced, if_neg (mt spaces.mpr spaced)] at same
    exact same

theorem repr_injective : Function.Injective Nat.repr := by
  intro m n same
  have value := Text.valueOf?_repr m
  rw [same, Text.valueOf?_repr] at value
  exact (Option.some.inj value).symm

namespace CommandDraft

variable {region region' : Option String} {reduction reduction' : Nat} {last last' : String}

theorem reductionArguments_injective
    (same : reductionArguments reduction ++ ["-o", last] = reductionArguments reduction' ++ ["-o", last']) :
    reduction = reduction' ∧ last = last' := by
  unfold reductionArguments at same
  by_cases reduced : 0 < reduction <;> by_cases reduced' : 0 < reduction'
  · simp only [if_pos reduced, if_pos reduced', List.cons_append, List.nil_append, List.cons.injEq] at same
    exact ⟨repr_injective same.2.1, same.2.2.2.1⟩
  · simp [reduced, reduced'] at same
  · simp [reduced, reduced'] at same
  · simp only [if_neg reduced, if_neg reduced', List.nil_append, List.cons.injEq] at same
    exact ⟨by omega, same.2.1⟩

theorem reductionArguments_ne_region (rest : List String) :
    reductionArguments reduction ++ ["-o", last] ≠ "-region" :: rest := by
  unfold reductionArguments
  split <;> simp

theorem regionArguments_injective
    (same : regionArguments region ++ (reductionArguments reduction ++ ["-o", last]) =
      regionArguments region' ++ (reductionArguments reduction' ++ ["-o", last'])) :
    region = region' ∧ reduction = reduction' ∧ last = last' := by
  cases region with
  | none =>
      cases region' with
      | none => exact ⟨rfl, reductionArguments_injective same⟩
      | some given' => exact absurd same (reductionArguments_ne_region _)
  | some given =>
      cases region' with
      | none => exact absurd same.symm (reductionArguments_ne_region _)
      | some given' =>
          simp only [regionArguments, List.cons_append, List.nil_append, List.cons.injEq, true_and] at same
          exact ⟨congrArg some same.1, reductionArguments_injective same.2⟩

theorem arguments_injective {draft draft' : CommandDraft} {arguments : List String}
    (proper : ∀ input ∈ draft.input, Path.AreNames input.names)
    (proper' : ∀ input ∈ draft'.input, Path.AreNames input.names)
    (built : draft.arguments = .ok arguments) (built' : draft'.arguments = .ok arguments) :
    draft.binary = draft'.binary ∧ draft.input = draft'.input ∧ draft.region = draft'.region ∧
      draft.reduction = draft'.reduction ∧ draft.output = draft'.output := by
  obtain ⟨input, destination, given, led, -, rfl⟩ := arguments_eq_ok_iff.mp built
  obtain ⟨input', destination', given', led', -, same⟩ := arguments_eq_ok_iff.mp built'
  simp only [List.cons_append, List.nil_append, List.append_assoc, List.cons.injEq, true_and] at same
  obtain ⟨binary, text, rest⟩ := same
  obtain ⟨region, reduction, last⟩ := regionArguments_injective rest
  have path : input = input' := Path.text_injective (proper input given) (proper' input' given') text
  have output : destination = destination' := quotedPath_injective last
  exact ⟨binary, by rw [given, given', path], region, reduction, by rw [led, led', output]⟩

theorem areNames_of_accepted (calls : List Call) :
    ∀ input ∈ (accepted calls).input, Path.AreNames input.names := by
  intro input given
  obtain ⟨call, -, sets⟩ := List.mem_filterMap.mp (List.mem_of_getLast? given)
  cases call with
  | input workingDirectory source =>
      rw [← Option.some.inj sets]
      exact (Path.areNames_ofText workingDirectory).within (Path.areNames_ofText source)
  | region given => cases sets
  | reduction given => cases sets
  | output destination => cases sets
  | build => cases sets

/-- Drafts that come to the same arguments are the same in every part, whatever calls they have seen:
the tool, the source's absolute path, the region, the reduction and the destination before quoting. -/
theorem arguments_unambiguous (binDirectory binDirectory' : Option String) (calls calls' : List Call)
    (arguments : List String)
    (built : ((inDirectory binDirectory).afterAll calls).arguments = .ok arguments)
    (built' : ((inDirectory binDirectory').afterAll calls').arguments = .ok arguments) :
    let draft := (inDirectory binDirectory).afterAll calls
    let draft' := (inDirectory binDirectory').afterAll calls'
    draft.binary = draft'.binary ∧ draft.input = draft'.input ∧ draft.region = draft'.region ∧
      draft.reduction = draft'.reduction ∧ draft.output = draft'.output := by
  intro draft draft'
  have proper : ∀ input ∈ draft.input, Path.AreNames input.names := by
    simpa only [draft, afterAll_inDirectory] using areNames_of_accepted calls
  have proper' : ∀ input ∈ draft'.input, Path.AreNames input.names := by
    simpa only [draft', afterAll_inDirectory] using areNames_of_accepted calls'
  exact arguments_injective proper proper' built built'

/-- A region that is spelt like a flag, and a destination with quotes of its own and a space. -/
theorem arguments_unambiguous_lookalikes :
    let calls : List Call := [.input "/data" "a.jp2", .region (some "-o"), .output "\"o .ppm\""]
    let calls' : List Call := [.output "\"o .ppm\"", .reduction 3, .region (some "-o"), .reduction 0,
      .input "/" "data//./a.jp2"]
    ((inDirectory none).afterAll calls).arguments = .ok ["kdu_expand", "-quiet", "-no_alpha", "-i",
      "/data/a.jp2", "-region", "-o", "-o", "\"\"o .ppm\"\""] ∧
    ((inDirectory none).afterAll calls).input = ((inDirectory (some "")).afterAll calls').input :=
  ⟨rfl, (arguments_unambiguous none (some "") _ _ _ rfl rfl).2.1⟩

end CommandDraft

end Jp2Render
