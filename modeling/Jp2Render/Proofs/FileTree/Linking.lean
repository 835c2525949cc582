import Jp2Render.Proofs.FileTree.Directories

/-!
Making sure of a link. What stands at its path already is left alone, whatever it is; else directories
are made that are missing on the way, and the link. Once it has been made there is nothing left to do.
-/

namespace Jp2Render

namespace Path

theorem mem_intercalate {c : Char} (other : c ≠ '/') (parts : List (List Char)) :
    c ∈ ['/'].intercalate parts ↔ ∃ part ∈ parts, c ∈ part := by
  induction parts with
  | nil => simp
  | cons first parts ih =>
      cases parts with
      | nil => simp
      | cons second parts =>
          rw [List.intercalate_cons_cons, List.mem_append, List.mem_append, ih]
          simp [other]

theorem holdsNull_text {path : Path} :
    Text.holdsNull path.text = true ↔ ∃ name ∈ path.names, Text.holdsNull name = true := by
  have rooted : '\x00' ∉ path.root.text.toList := by cases path.root <;> decide
  have joined : '\x00' ∈ (String.intercalate "/" path.names).toList ↔
      ∃ name ∈ path.names, '\x00' ∈ name.toList := by
    rw [String.toList_intercalate]
    refine (mem_intercalate (by decide) _).trans ⟨?_, ?_⟩
    · rintro ⟨_, listed, held⟩
      obtain ⟨name, member, rfl⟩ := List.mem_map.mp listed
      exact ⟨name, member, held⟩
    · rintro ⟨name, listed, held⟩
      exact ⟨_, List.mem_map_of_mem listed, held⟩
  simp only [Text.holdsNull, List.contains_iff_mem]
  unfold text
  split
  · next nothing =>
    simp only [Bool.and_eq_true, List.isEmpty_iff] at nothing
    rw [nothing.2]
    exact iff_of_false (by decide) nofun
  · rw [String.toList_append, List.mem_append, or_iff_right rooted, joined]

theorem holdsNull_of_parent {path : Path} (null : Text.holdsNull path.parent.text = true) :
    Text.holdsNull path.text = true := by
  obtain ⟨name, listed, held⟩ := holdsNull_text.mp null
  exact holdsNull_text.mpr ⟨name, (List.dropLast_sublist _).subset listed, held⟩

end Path

namespace FileTree

variable {tree : FileTree} {link : Path}

theorem entry?_makeLink {target : String} (done : (tree.makeLink target link).error = none) :
    entry? (tree.makeLink target link).tree link = some (.link target) :=
  entry?_create (by simp) (makeLink_done done)

theorem linkStdout_done (done : (tree.linkStdout link).error = none) :
    entry? (tree.linkStdout link).tree link = some (.link stdoutDevice) ∧
      (tree.linkStdout link).tree.hasDirectory link.parent = true := by
  rw [linkStdout] at done ⊢
  cases made : (tree.makeDirectories link.parent).error with
  | some error =>
      rw [made, Option.isSome_some, if_pos rfl, made] at done
      cases done
  | none =>
      rw [made, Option.isSome_none, if_neg Bool.false_ne_true] at done
      rw [Option.isSome_none, if_neg Bool.false_ne_true]
      refine ⟨entry?_makeLink done, ?_⟩
      exact (grown_makeLink _ stdoutDevice link).hasDirectory (hasDirectory_makeDirectories made)

theorem ensureStdoutLink_of_entry (stands : (tree.entry? link).isSome) :
    tree.ensureStdoutLink link = { tree } := by
  rw [ensureStdoutLink, if_pos stands]

theorem makeDirectory_nullByte (tree : FileTree) (path : Path) :
    (tree.makeDirectory path).error = some .nullByte ↔ Text.holdsNull path.text = true := by
  unfold makeDirectory
  cases Text.holdsNull path.text with
  | true => simp
  | false => cases tree.create path .directory <;> simp

theorem makeLink_nullByte (tree : FileTree) (target : String) (path : Path) :
    (tree.makeLink target path).error = some .nullByte ↔ Text.holdsNull path.text = true := by
  unfold makeLink
  cases Text.holdsNull path.text with
  | true => simp
  | false => cases tree.create path (.link target) <;> simp

theorem acceptExisting_nullByte {path : Path} {change : Change}
    (refused : (acceptExisting path change).error = some .nullByte) :
    change.error = some .nullByte := by
  unfold acceptExisting at refused
  split at refused
  · cases refused
  · exact refused

theorem makeDirectories_nullByte (tree : FileTree) (path : Path) :
    (tree.makeDirectories path).error = some .nullByte ↔ Text.holdsNull path.text = true := by
  constructor
  · fun_induction makeDirectories tree path with
    | case1 path change done => exact (makeDirectory_nullByte tree path).mp
    | case2 path change null => exact (makeDirectory_nullByte tree path).mp
    | case3 path change error failed missing shorter above failed' ih =>
        exact fun refused => Path.holdsNull_of_parent (ih refused)
    | case4 path change error failed missing shorter above done change' failed' ih =>
        exact fun refused => (makeDirectory_nullByte _ path).mp (acceptExisting_nullByte refused)
    | case5 path change error failed missing shorter above done change' done' ih =>
        exact (makeDirectory_nullByte _ path).mp
    | case6 path change error failed missing top => exact (makeDirectory_nullByte tree path).mp
    | case7 path change error failed other =>
        exact fun refused => (makeDirectory_nullByte tree path).mp (acceptExisting_nullByte refused)
  · intro null
    have refused := (makeDirectory_nullByte tree path).mpr null
    rw [makeDirectories]
    simp only [refused]

/-- A null in the path keeps a link from being made that is missing, as soon as its directory is there or
cannot be made for the same reason. -/
theorem ensureStdoutLink_nullByte : (tree.ensureStdoutLink link).error = some .nullByte ↔
    tree.entry? link = none ∧ Text.holdsNull link.text = true ∧
      (Text.holdsNull link.parent.text = true ∨ (tree.makeDirectories link.parent).error = none) := by
  have above := makeDirectories_nullByte tree link.parent
  by_cases stands : (tree.entry? link).isSome
  · rw [ensureStdoutLink_of_entry stands]
    refine iff_of_false nofun fun refused => ?_
    rw [refused.1] at stands
    cases stands
  · rw [ensureStdoutLink, if_neg stands, and_iff_right (Option.not_isSome_iff_eq_none.mp stands),
      linkStdout, ← above]
    cases made : (tree.makeDirectories link.parent).error with
    | none => simp [makeLink_nullByte]
    | some fault =>
        simp only [Option.isSome_some, if_true, made, reduceCtorEq, or_false]
        refine (and_iff_right_of_imp fun refused => ?_).symm
        exact Path.holdsNull_of_parent (above.mp (made.trans refused))

theorem ensureStdoutLink_again (done : (tree.ensureStdoutLink link).error = none) :
    (tree.ensureStdoutLink link).tree.ensureStdoutLink link =
      { tree := (tree.ensureStdoutLink link).tree } := by
  by_cases stands : (tree.entry? link).isSome
  · rw [ensureStdoutLink_of_entry stands]
    exact ensureStdoutLink_of_entry stands
  · have made : tree.ensureStdoutLink link = tree.linkStdout link := if_neg stands
    rw [made] at done ⊢
    refine ensureStdoutLink_of_entry ?_
    rw [(linkStdout_done done).1]
    rfl

/-- If anything stands at the path, nothing changes. Else the path is a link to the standard output after
a success, and what is on the way to it are directories. Also after a failure all that was there before is as
it was, and paths lead where they led; what is new is on the way to the link, and no file. And after
a success, doing it again succeeds and changes nothing. -/
theorem ensureStdoutLink_makes_missing (tree : FileTree) (link : Path) :
    let made := tree.ensureStdoutLink link
    ((tree.entry? link).isSome → made = { tree }) ∧
    (tree.entry? link = none → made.error = none →
      made.tree.entry? link = some (.link stdoutDevice) ∧ made.tree.hasDirectory link.parent = true ∧
      (tree.IsSound → ∀ above : Path, above.IsOnWayTo link.parent →
        made.tree.hasDirectory above = true)) ∧
    (∀ place entry, tree.lookup place = some entry → made.tree.lookup place = some entry) ∧
    (∀ path place, tree.locate false path = .ok place → made.tree.locate false path = .ok place) ∧
    (∀ place, made.tree.lookup place ≠ tree.lookup place →
      (∃ path : Path, path.IsOnWayTo link ∧ made.tree.locate false path = .ok place) ∧
      ∀ content, made.tree.lookup place ≠ some (.file content)) ∧
    (made.error = none → made.tree.ensureStdoutLink link = { tree := made.tree }) := by
  intro made
  have grown : Grown (·.IsOnWayTo link) tree made.tree := grown_ensureStdoutLink tree link
  refine ⟨ensureStdoutLink_of_entry, ?_, fun _ _ => grown.kept, fun _ _ => grown.locate,
    fun _ => grown.fresh, ensureStdoutLink_again⟩
  intro free done
  have missing : ¬ (tree.entry? link).isSome := by
    rw [free]
    exact nofun
  have linked : made = tree.linkStdout link := if_neg missing
  rw [linked] at done grown ⊢
  obtain ⟨isLink, has⟩ := linkStdout_done done
  refine ⟨isLink, has, ?_⟩
  intro sound above onWay
  exact (grown.isSound sound).hasDirectory has onWay

theorem not_reaches_below {followLast : Bool} {links : Nat} {here place : Location}
    {name second : String} {rest : List String} (down : name ≠ "..")
    (missing : tree.lookup (here ++ [name]) = none) :
    ¬ tree.Reaches followLast links here (name :: second :: rest) place := by
  intro reaches
  cases reaches with
  | up => exact down rfl
  | directory _ _ found _ => cases missing.symm.trans found
  | link _ _ found _ _ => cases missing.symm.trans found

/-- A relative path whose directory is missing too. -/
theorem ensureStdoutLink_makes_missing_directory :
    let tree : FileTree := ⟨[], [(["data"], .directory)]⟩
    let link := Path.ofText "links/stdout.ppm"
    let made := tree.ensureStdoutLink link
    made.error = none ∧ made.tree.entry? link = some (.link stdoutDevice) ∧
      made.tree.hasDirectory link.parent = true ∧ made.tree.lookup ["data"] = some .directory ∧
      made.tree.ensureStdoutLink link = { tree := made.tree } := by
  have path : Path.ofText "links/stdout.ppm" = ⟨.relative, ["links", "stdout.ppm"]⟩ := by
    decide +kernel
  have above : Path.ofText "links" = ⟨.relative, ["links"]⟩ := by decide +kernel
  have parent : (Path.ofText "links/stdout.ppm").parent = .ofText "links" := by
    rw [path, above]
    rfl
  have missing : lookup ⟨[], [(["data"], .directory)]⟩ ["links"] = none := by decide +kernel
  have free : entry? ⟨[], [(["data"], .directory)]⟩ (.ofText "links/stdout.ppm") = none := by
    unfold entry?
    split
    · next place located =>
      rw [path] at located
      exact absurd (walk_eq_ok_iff.mp located) (not_reaches_below (by decide) missing)
    · rfl
  have first : create ⟨[], [(["data"], .directory)]⟩ (.ofText "links") .directory =
      .ok ⟨[], [(["data"], .directory), (["links"], .directory)]⟩ := by
    rw [above]
    exact create_eq_ok_iff.mpr ⟨["links"], walk_eq_ok_iff.mpr
      (.last (by decide) (by decide +kernel) (by trivial)), missing, rfl⟩
  have second : create ⟨[], [(["data"], .directory), (["links"], .directory)]⟩
      (.ofText "links/stdout.ppm") (.link stdoutDevice) = .ok ⟨[], [(["data"], .directory),
        (["links"], .directory), (["links", "stdout.ppm"], .link stdoutDevice)]⟩ := by
    rw [path]
    exact create_eq_ok_iff.mpr ⟨["links", "stdout.ppm"], walk_eq_ok_iff.mpr
      (.directory (by decide) (by decide +kernel) (by decide +kernel)
        (.last (by decide) (by decide +kernel) (by trivial))), by decide +kernel, rfl⟩
  have named : Text.holdsNull (Path.ofText "links").text = false := by decide +kernel
  have named' : Text.holdsNull (Path.ofText "links/stdout.ppm").text = false := by decide +kernel
  have directories : makeDirectories ⟨[], [(["data"], .directory)]⟩ (.ofText "links") =
      { tree := ⟨[], [(["data"], .directory), (["links"], .directory)]⟩ } := by
    rw [makeDirectories]
    simp only [makeDirectory, named, first, Bool.false_eq_true, if_false]
  have linked : ensureStdoutLink ⟨[], [(["data"], .directory)]⟩ (.ofText "links/stdout.ppm") =
      { tree := ⟨[], [(["data"], .directory), (["links"], .directory),
        (["links", "stdout.ppm"], .link stdoutDevice)]⟩ } := by
    rw [ensureStdoutLink, free, Option.isSome_none, if_neg Bool.false_ne_true, linkStdout, parent,
      directories]
    simp only [makeLink, named', second, Option.isSome_none, Bool.false_eq_true, if_false]
  intro tree link made
  have done : made.error = none := congrArg Change.error linked
  obtain ⟨-, makes, kept, -, -, again⟩ := ensureStdoutLink_makes_missing tree link
  obtain ⟨isLink, has, -⟩ := makes free done
  exact ⟨done, isLink, has, kept _ _ rfl, again done⟩

end FileTree

end Jp2Render
