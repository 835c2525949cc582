import Jp2Render.Proofs.FileTree.Walking
import Jp2Render.Proofs.Sequencing

/-!
How trees change. Making directories and links adds entries where there were none, and no files;
writing a file changes what one place holds. Everything else stays as it was.
-/

namespace Jp2Render

namespace Path

def IsOnWayTo (above p : Path) : Prop := above.root = p.root ∧ above.names <+: p.names

theorem isOnWayTo_self (p : Path) : p.IsOnWayTo p := ⟨rfl, List.prefix_rfl⟩

theorem IsOnWayTo.of_parent {above p : Path} (parent : above.IsOnWayTo p.parent) :
    above.IsOnWayTo p :=
  ⟨parent.1, parent.2.trans (List.dropLast_prefix p.names)⟩

end Path

namespace FileTree

variable {before after tree : FileTree} {place other : Location} {entry : Entry} {path : Path}
  {paths : Path → Prop}

theorem isEmpty_of_lookup (notRoot : tree.lookup place ≠ some .directory) :
    place.isEmpty = false := by
  cases place with
  | nil => exact absurd rfl notRoot
  | cons => rfl

theorem lookup_insert (free : tree.lookup place = none) :
    (tree.insert place entry).lookup other =
      if other = place then some entry else tree.lookup other := by
  have named : place.isEmpty = false := isEmpty_of_lookup (by rw [free]; rintro ⟨⟩)
  rw [lookup, if_neg (Bool.eq_false_iff.mp named)] at free
  by_cases same : other = place
  · rw [if_pos same, same, lookup, if_neg (Bool.eq_false_iff.mp named), insert, List.lookup_append,
      free]
    simp
  · have apart : (other == place) = false := beq_false_of_ne same
    rw [if_neg same, lookup, lookup, insert, List.lookup_append, List.lookup_cons, apart]
    simp

theorem held_insert {held : Entry} (free : tree.lookup place = none)
    (found : tree.lookup other = some held) : (tree.insert place entry).lookup other = some held := by
  rw [lookup_insert free, if_neg ?_]
  · exact found
  · rintro rfl
    rw [found] at free
    cases free

theorem lookup_map_replaced (entries : List (Location × Entry)) :
    (entries.map fun e => if e.1 = place then (place, entry) else e).lookup other =
      if other = place then (entries.lookup other).map fun _ => entry else entries.lookup other := by
  induction entries with
  | nil => simp
  | cons first rest ih =>
      obtain ⟨here, old⟩ := first
      rw [List.map_cons]
      by_cases found : other = here
      · subst found
        by_cases same : other = place
        · subst same
          simp
        · simp [same]
      · have apart : (other == here) = false := beq_false_of_ne found
        by_cases replaced : here = place
        · subst replaced
          rw [if_pos rfl, List.lookup_cons, apart, List.lookup_cons, apart]
          exact ih
        · rw [if_neg replaced, List.lookup_cons, apart, List.lookup_cons, apart]
          exact ih

theorem lookup_replace {old : Entry} (held : tree.lookup place = some old)
    (noDirectory : old ≠ .directory) : (tree.replace place entry).lookup other =
      if other = place then some entry else tree.lookup other := by
  have notRoot : tree.lookup place ≠ some .directory := by
    rw [held, Ne, Option.some.injEq]
    exact noDirectory
  have named := isEmpty_of_lookup notRoot
  rw [lookup, named] at held
  by_cases same : other = place
  · have held : tree.entries.lookup place = some old := held
    rw [if_pos same, same, lookup, named, replace, lookup_map_replaced, if_pos rfl, held]
    rfl
  · rw [if_neg same, lookup, lookup, replace, lookup_map_replaced, if_neg same]

inductive Grown (paths : Path → Prop) (before : FileTree) : FileTree → Prop
  | unchanged : Grown paths before before
  | entry {after : FileTree} {path : Path} {place : Location} {entry : Entry}
      (grown : Grown paths before after) (meant : paths path)
      (leads : after.locate false path = .ok place) (free : after.lookup place = none)
      (noFile : ∀ content, entry ≠ .file content) : Grown paths before (after.insert place entry)

namespace Grown

theorem trans {last : FileTree} (first : Grown paths before after) (second : Grown paths after last) :
    Grown paths before last := by
  induction second with
  | unchanged => exact first
  | entry _ meant leads free noFile ih => exact .entry ih meant leads free noFile

theorem mono {more : Path → Prop} (wider : ∀ path, paths path → more path)
    (grown : Grown paths before after) : Grown more before after := by
  induction grown with
  | unchanged => exact .unchanged
  | entry _ meant leads free noFile ih => exact .entry ih (wider _ meant) leads free noFile

theorem kept (grown : Grown paths before after) (held : before.lookup place = some entry) :
    after.lookup place = some entry := by
  induction grown with
  | unchanged => exact held
  | entry _ _ _ free _ ih => exact held_insert free ih

theorem working (grown : Grown paths before after) : after.working = before.working := by
  induction grown with
  | unchanged => rfl
  | entry _ _ _ _ _ ih => exact ih

theorem locate (grown : Grown paths before after) (leads : before.locate false path = .ok place) :
    after.locate false path = .ok place := by
  rw [FileTree.locate, walk_eq_ok_iff] at leads ⊢
  rw [grown.working]
  exact leads.of_kept fun _ _ held => grown.kept held

theorem fresh (grown : Grown paths before after)
    (differs : after.lookup place ≠ before.lookup place) :
    (∃ path, paths path ∧ after.locate false path = .ok place) ∧
      ∀ content, after.lookup place ≠ some (.file content) := by
  -- what differs is the last new entry, or differed before it
  induction grown with
  | unchanged => exact absurd rfl differs
  | @entry mid path new entry grown meant leads free noFile ih =>
      have grows : Grown paths mid (mid.insert new entry) :=
        .entry .unchanged meant leads free noFile
      by_cases same : place = new
      · subst same
        refine ⟨⟨path, meant, grows.locate leads⟩, ?_⟩
        intro content
        rw [lookup_insert free, if_pos rfl, Ne, Option.some.injEq]
        exact noFile content
      · have older : (mid.insert new entry).lookup place = mid.lookup place := by
          rw [lookup_insert free, if_neg same]
        rw [older] at differs ⊢
        obtain ⟨⟨path, meant, leads⟩, noFile⟩ := ih differs
        exact ⟨⟨path, meant, grows.locate leads⟩, noFile⟩

theorem lookup_eq (grown : Grown paths before after)
    (elsewhere : ∀ path, paths path → after.locate false path ≠ .ok place) :
    after.lookup place = before.lookup place := by
  by_cases same : after.lookup place = before.lookup place
  · exact same
  · obtain ⟨⟨path, meant, leads⟩, -⟩ := grown.fresh same
    exact absurd leads (elsewhere path meant)

theorem file_iff (grown : Grown paths before after) {content : FileContent} :
    after.lookup place = some (.file content) ↔ before.lookup place = some (.file content) := by
  refine ⟨fun held => ?_, grown.kept⟩
  by_cases differs : after.lookup place = before.lookup place
  · rw [← differs]
    exact held
  · exact absurd held ((grown.fresh differs).2 content)

end Grown

theorem create_eq_ok_iff {changed : FileTree} : tree.create path entry = .ok changed ↔
    ∃ place, tree.locate false path = .ok place ∧ tree.lookup place = none ∧
      changed = tree.insert place entry := by
  unfold create
  rw [bind_eq_ok_iff]
  refine exists_congr fun place => and_congr_right fun _ => ?_
  cases tree.lookup place with
  | none =>
      constructor
      · intro made
        exact ⟨rfl, (Except.ok.inj made).symm⟩
      · rintro ⟨-, rfl⟩
        rfl
  | some held =>
      constructor
      · intro made
        cases made
      · rintro ⟨⟨⟩, -⟩

theorem grown_create {changed : FileTree} (noFile : ∀ content, entry ≠ .file content)
    (created : tree.create path entry = .ok changed) : Grown (· = path) tree changed := by
  obtain ⟨place, leads, free, rfl⟩ := create_eq_ok_iff.mp created
  exact .entry .unchanged rfl leads free noFile

theorem grown_makeDirectory (tree : FileTree) (path : Path) :
    Grown (· = path) tree (tree.makeDirectory path).tree := by
  unfold makeDirectory
  split
  · exact .unchanged
  · split
    · next created => exact grown_create (by simp) created
    · exact .unchanged

theorem grown_makeLink (tree : FileTree) (target : String) (path : Path) :
    Grown (· = path) tree (tree.makeLink target path).tree := by
  unfold makeLink
  split
  · exact .unchanged
  · split
    · next created => exact grown_create (by simp) created
    · exact .unchanged

theorem makeDirectory_done (done : (tree.makeDirectory path).error = none) :
    tree.create path .directory = .ok (tree.makeDirectory path).tree := by
  cases null : Text.holdsNull path.text with
  | true => simp [makeDirectory, null] at done
  | false =>
      cases created : tree.create path .directory with
      | error code => simp [makeDirectory, null, created] at done
      | ok changed => simp [makeDirectory, null, created]

theorem makeLink_done {target : String} (done : (tree.makeLink target path).error = none) :
    tree.create path (.link target) = .ok (tree.makeLink target path).tree := by
  cases null : Text.holdsNull path.text with
  | true => simp [makeLink, null] at done
  | false =>
      cases created : tree.create path (.link target) with
      | error code => simp [makeLink, null, created] at done
      | ok changed => simp [makeLink, null, created]

theorem tree_acceptExisting (path : Path) (change : Change) :
    (acceptExisting path change).tree = change.tree := by
  unfold acceptExisting
  split <;> rfl

theorem grown_makeDirectories (tree : FileTree) (path : Path) :
    Grown (·.IsOnWayTo path) tree (tree.makeDirectories path).tree := by
  have made (tree : FileTree) (path : Path) :
      Grown (·.IsOnWayTo path) tree (tree.makeDirectory path).tree :=
    (grown_makeDirectory tree path).mono (by rintro _ rfl; exact Path.isOnWayTo_self _)
  have widened {path : Path} {after : FileTree} (grown : Grown (·.IsOnWayTo path.parent) tree after) :
      Grown (·.IsOnWayTo path) tree after :=
    grown.mono fun _ parent => parent.of_parent
  -- what is above the parent is also above the path, so both steps may be joined
  fun_induction makeDirectories tree path with
  | case1 path change done => exact made tree path
  | case2 path change null => exact made tree path
  | case3 path change error failed missing shorter above failed' ih => exact widened ih
  | case4 path change error failed missing shorter above done change' failed' ih =>
      rw [tree_acceptExisting]
      exact (widened ih).trans (made above.tree path)
  | case5 path change error failed missing shorter above done change' done' ih =>
      exact (widened ih).trans (made above.tree path)
  | case6 path change error failed missing top => exact made tree path
  | case7 path change error failed other =>
      rw [tree_acceptExisting]
      exact made tree path

theorem grown_linkStdout (tree : FileTree) (link : Path) :
    Grown (·.IsOnWayTo link) tree (tree.linkStdout link).tree := by
  have above : Grown (·.IsOnWayTo link) tree (tree.makeDirectories link.parent).tree :=
    (grown_makeDirectories tree link.parent).mono fun _ parent => parent.of_parent
  rw [linkStdout]
  split
  · exact above
  · refine above.trans ((grown_makeLink _ stdoutDevice link).mono ?_)
    rintro _ rfl
    exact Path.isOnWayTo_self _

theorem grown_ensureStdoutLink (tree : FileTree) (link : Path) :
    Grown (·.IsOnWayTo link) tree (tree.ensureStdoutLink link).tree := by
  unfold ensureStdoutLink
  split
  · exact .unchanged
  · exact grown_linkStdout tree link

@[simp] theorem working_writeFile (content : FileContent) :
    (tree.writeFile path content).tree.working = tree.working := by
  unfold writeFile
  split
  · rfl
  · split
    · rfl
    · split <;> rfl

theorem writeFile_done {content : FileContent}
    (done : (tree.writeFile path content).error = none) :
    ∃ place, tree.locate true path = .ok place ∧
      (tree.writeFile path content).tree.locate true path = .ok place ∧
      ∀ other, (tree.writeFile path content).tree.lookup other =
        if other = place then some (.file content) else tree.lookup other := by
  have sound : ¬ Text.holdsNull path.text = true := by
    intro null
    rw [writeFile, if_pos null] at done
    cases done
  cases located : tree.locate true path with
  | error code =>
      rw [writeFile, if_neg sound, located] at done
      cases done
  | ok place =>
      -- a directory would have been refused; anything else makes room for the file
      have noDirectory : tree.lookup place ≠ some .directory := by
        intro held
        rw [writeFile, if_neg sound, located] at done
        dsimp only at done
        rw [held] at done
        cases done
      have changed : ∀ other, (tree.writeFile path content).tree.lookup other =
          if other = place then some (.file content) else tree.lookup other := by
        intro other
        rw [writeFile, if_neg sound, located]
        dsimp only
        cases held : tree.lookup place with
        | none => exact lookup_insert held
        | some old =>
            cases old with
            | directory => exact absurd held noDirectory
            | file => exact lookup_replace held (by simp)
            | link => exact lookup_replace held (by simp)
      refine ⟨place, rfl, ?_, changed⟩
      rw [locate, working_writeFile, walk_eq_ok_iff] at *
      refine located.of_written noDirectory ?_ (by rw [changed, if_pos rfl])
      intro other apart
      rw [changed, if_neg apart]

theorem writeFile_failed {content : FileContent}
    (failed : (tree.writeFile path content).error ≠ none) :
    (tree.writeFile path content).tree = tree := by
  unfold writeFile at failed ⊢
  split
  · rfl
  · next sound =>
    simp only [sound] at failed
    split
    · rfl
    · next located =>
      simp only [located] at failed
      split
      · rfl
      · next held => simp [held] at failed
      · next free => simp [free] at failed

end FileTree

end Jp2Render
