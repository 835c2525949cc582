import Jp2Render.Proofs.FileTree.Growth

/-!
Directories. Paths that lead to one keep leading there while trees grow, and making directories makes the
last one. In a sound tree all that paths pass on their way to a directory are directories, and trees stay
sound while they grow.
-/

namespace Jp2Render.FileTree

variable {before after tree : FileTree} {followLast : Bool} {links : Nat} {here place : Location}
  {names : List String} {path above : Path} {paths : Path → Prop} {entry : Entry}

theorem Reaches.of_directory
    (kept : ∀ place entry, before.lookup place = some entry → after.lookup place = some entry)
    (reaches : before.Reaches followLast links here names place)
    (isDirectory : before.lookup place = some .directory) :
    after.Reaches true links here names place := by
  induction reaches with
  | arrived => exact .arrived
  | up _ ih => exact .up (ih isDirectory)
  | last _ _ ends =>
      -- a directory is entered, so that no walk ends in front of it
      rw [isDirectory] at ends
      exact ends.elim
  | directory down short found _ ih => exact .directory down short (kept _ _ found) (ih isDirectory)
  | link down short found _ _ ih =>
      exact .link down short (kept _ _ found) (fun _ => rfl) (ih isDirectory)

theorem hasDirectory_iff : tree.hasDirectory path = true ↔
    ∃ place, tree.Reaches true linkLimit (start tree.working path) path.names place ∧
      tree.lookup place = some .directory := by
  unfold hasDirectory
  constructor
  · intro has
    cases leads : tree.locate true path with
    | error => simp [leads] at has
    | ok place =>
        rw [leads] at has
        exact ⟨place, walk_eq_ok_iff.mp leads, of_decide_eq_true has⟩
  · rintro ⟨place, reaches, isDirectory⟩
    have leads : tree.locate true path = .ok place := reaches.walk
    rw [leads]
    exact decide_eq_true isDirectory

theorem Grown.hasDirectory (grown : Grown paths before after) (has : before.hasDirectory path = true) :
    after.hasDirectory path = true := by
  obtain ⟨place, reaches, isDirectory⟩ := hasDirectory_iff.mp has
  refine hasDirectory_iff.mpr ⟨place, ?_, grown.kept isDirectory⟩
  rw [grown.working]
  exact reaches.of_directory (fun _ _ => grown.kept) isDirectory

theorem entry?_create {changed : FileTree} (noFile : ∀ content, entry ≠ .file content)
    (created : tree.create path entry = .ok changed) : changed.entry? path = some entry := by
  have grown := grown_create noFile created
  obtain ⟨place, leads, free, rfl⟩ := create_eq_ok_iff.mp created
  unfold entry?
  rw [grown.locate leads]
  exact (lookup_insert free).trans (if_pos rfl)

theorem hasDirectory_of_entry? (isDirectory : tree.entry? path = some .directory) :
    tree.hasDirectory path = true := by
  unfold entry? at isDirectory
  cases leads : tree.locate false path with
  | error => simp [leads] at isDirectory
  | ok place =>
      rw [leads] at isDirectory
      exact hasDirectory_iff.mpr
        ⟨place, (reaches_of_walk leads).of_directory (fun _ _ held => held) isDirectory, isDirectory⟩

theorem hasDirectory_makeDirectory (done : (tree.makeDirectory path).error = none) :
    (tree.makeDirectory path).tree.hasDirectory path = true :=
  hasDirectory_of_entry? (entry?_create (by simp) (makeDirectory_done done))

theorem hasDirectory_acceptExisting {change : Change} (failed : change.error ≠ none)
    (done : (acceptExisting path change).error = none) :
    (acceptExisting path change).tree.hasDirectory path = true := by
  rw [tree_acceptExisting]
  cases has : change.tree.hasDirectory path with
  | true => rfl
  | false =>
      rw [acceptExisting, has] at done
      exact absurd done failed

theorem hasDirectory_makeDirectories (done : (tree.makeDirectories path).error = none) :
    (tree.makeDirectories path).tree.hasDirectory path = true := by
  -- a success comes from making the directory or from finding it there
  fun_induction makeDirectories tree path with
  | case1 path change made => exact hasDirectory_makeDirectory done
  | case2 path change null =>
      rw [null] at done
      cases done
  | case3 path change error failed missing shorter above failed' ih =>
    rw [done] at failed'
    cases failed'
  | case4 path change error failed missing shorter above made change' failed' ih =>
      exact hasDirectory_acceptExisting (Option.isSome_iff_ne_none.mp failed') done
  | case5 path change error failed missing shorter above made change' made' ih =>
      exact hasDirectory_makeDirectory done
  | case6 path change error failed missing top =>
      rw [failed] at done
      cases done
  | case7 path change error failed other =>
      exact hasDirectory_acceptExisting (by rw [failed]; exact Option.some_ne_none _) done

/-- Whatever there is, is in a directory, and so is the place where relative paths start. -/
structure IsSound (tree : FileTree) : Prop where
  working : tree.lookup tree.working = some .directory
  above : ∀ place entry, tree.lookup place = some entry → tree.lookup place.dropLast = some .directory

theorem lookup_directories (places : List Location) :
    (places.map fun place => (place, Entry.directory)).lookup place =
      if place ∈ places then some .directory else none := by
  induction places with
  | nil => rfl
  | cons first rest ih =>
      rw [List.map_cons, List.lookup_cons]
      by_cases same : place = first
      · rw [same, beq_self_eq_true, if_pos List.mem_cons_self]
      · simp only [beq_false_of_ne same, ih, List.mem_cons, same, false_or]

theorem lookup_ofWorking {working : Location} :
    (ofWorking working).lookup place = some entry ↔ place <+: working ∧ entry = .directory := by
  have entries : (ofWorking working).entries =
      ((List.range working.length).map fun i => working.take (i + 1)).map fun place =>
        (place, .directory) := by
    rw [ofWorking, List.map_map]
    rfl
  cases place with
  | nil => simp [lookup, eq_comm]
  | cons name rest =>
      have above : name :: rest ∈ (List.range working.length).map (fun i => working.take (i + 1)) ↔
          name :: rest <+: working := by
        rw [List.mem_map]
        constructor
        · rintro ⟨i, -, taken⟩
          rw [← taken]
          exact List.take_prefix _ _
        · intro above
          exact ⟨rest.length, List.mem_range.mpr above.length_le, (List.prefix_iff_eq_take.mp above).symm⟩
      rw [lookup, entries, lookup_directories]
      simp only [above, List.isEmpty_cons, Bool.false_eq_true, if_false]
      by_cases on : name :: rest <+: working
      · simp [on, eq_comm]
      · simp [on]

theorem isSound_ofWorking (working : Location) : (ofWorking working).IsSound := by
  refine ⟨lookup_ofWorking.mpr ⟨List.prefix_rfl, rfl⟩, ?_⟩
  intro place entry held
  obtain ⟨above, -⟩ := lookup_ofWorking.mp held
  exact lookup_ofWorking.mpr ⟨(List.dropLast_prefix place).trans above, rfl⟩

theorem lookup_start (isDirectory : tree.lookup here = some .directory) (path : Path) :
    tree.lookup (start here path) = some .directory := by
  unfold start
  split
  · rfl
  · exact isDirectory

theorem Reaches.inDirectory (sound : tree.IsSound) (isDirectory : tree.lookup here = some .directory)
    (reaches : tree.Reaches followLast links here names place) :
    tree.lookup place = some .directory ∨ tree.lookup place.dropLast = some .directory := by
  induction reaches with
  | arrived => exact .inl isDirectory
  | up _ ih => exact ih (sound.above _ _ isDirectory)
  | last => exact .inr (by rw [List.dropLast_concat]; exact isDirectory)
  | directory _ _ found _ ih => exact ih found
  | link _ _ _ _ _ ih => exact ih (lookup_start isDirectory _)

theorem IsSound.insert (sound : tree.IsSound) (leads : tree.locate false path = .ok place)
    (free : tree.lookup place = none) : (tree.insert place entry).IsSound := by
  refine ⟨held_insert free sound.working, ?_⟩
  intro other held found
  rw [lookup_insert free] at found
  refine held_insert free ?_
  by_cases same : other = place
  · subst same
    refine ((reaches_of_walk leads).inDirectory sound (lookup_start sound.working path)).resolve_left ?_
    rw [free]
    exact nofun
  · rw [if_neg same] at found
    exact sound.above other held found

theorem Grown.isSound (grown : Grown paths before after) (sound : before.IsSound) : after.IsSound := by
  induction grown with
  | unchanged => exact sound
  | entry _ _ leads free _ ih => exact ih.insert leads free

theorem Reaches.onTheWay (sound : tree.IsSound) {way rest : List String}
    (isDirectory : tree.lookup here = some .directory) (ends : tree.lookup place = some .directory)
    (reaches : tree.Reaches true links here way place) (whole : way = names ++ rest) :
    ∃ middle, tree.Reaches true links here names middle ∧ tree.lookup middle = some .directory := by
  -- where the names are used up, the walk stands in a directory, however it came there
  induction reaches generalizing names with
  | arrived =>
      obtain ⟨rfl, -⟩ := List.append_eq_nil_iff.mp whole.symm
      exact ⟨_, .arrived, isDirectory⟩
  | up _ ih =>
      cases names with
      | nil => exact ⟨_, .arrived, isDirectory⟩
      | cons name names =>
          obtain ⟨rfl, split⟩ := List.cons.inj whole
          obtain ⟨middle, reaches, found⟩ := ih (sound.above _ _ isDirectory) ends split
          exact ⟨middle, .up reaches, found⟩
  | last _ _ stops =>
      rw [ends] at stops
      exact stops.elim
  | directory down short found _ ih =>
      cases names with
      | nil => exact ⟨_, .arrived, isDirectory⟩
      | cons name names =>
          obtain ⟨rfl, split⟩ := List.cons.inj whole
          obtain ⟨middle, reaches, isDirectory⟩ := ih found ends split
          exact ⟨middle, .directory down short found reaches, isDirectory⟩
  | link down short found _ _ ih =>
      cases names with
      | nil => exact ⟨_, .arrived, isDirectory⟩
      | cons name names =>
          obtain ⟨rfl, split⟩ := List.cons.inj whole
          -- the names that the link stands for are walked before the rest of them
          obtain ⟨middle, reaches, isDirectory⟩ :=
            ih (lookup_start isDirectory _) ends (by rw [split]; exact (List.append_assoc _ _ _).symm)
          exact ⟨middle, .link down short found (fun _ => rfl) reaches, isDirectory⟩

theorem IsSound.hasDirectory (sound : tree.IsSound) (has : tree.hasDirectory path = true)
    (onWay : above.IsOnWayTo path) : tree.hasDirectory above = true := by
  obtain ⟨place, reaches, isDirectory⟩ := hasDirectory_iff.mp has
  obtain ⟨sameRoot, rest, whole⟩ := onWay
  have sameStart : start tree.working path = start tree.working above := by
    rw [start, start, Path.isAbsolute, Path.isAbsolute, sameRoot]
  rw [sameStart] at reaches
  exact hasDirectory_iff.mpr
    (reaches.onTheWay sound (lookup_start sound.working above) isDirectory whole.symm)

end Jp2Render.FileTree
