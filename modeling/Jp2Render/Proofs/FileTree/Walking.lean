import Jp2Render.Decoder

/-!
Where paths lead. A walk that succeeds is a sequence of steps; what such a walk comes to is stable
under the changes that are made to trees: neither new entries nor other contents of files divert it.
-/

namespace Jp2Render.FileTree

def Ends (followLast : Bool) : Option Entry → Prop
  | none | some (.file _) => True
  | some (.link _) => followLast = false
  | some .directory => False

inductive Reaches (tree : FileTree) (followLast : Bool) :
    (links : Nat) → (here : Location) → List String → Location → Prop
  | arrived {links : Nat} {here : Location} : Reaches tree followLast links here [] here
  | up {links : Nat} {here place : Location} {rest : List String}
      (onward : Reaches tree followLast links here.dropLast rest place) :
      Reaches tree followLast links here (".." :: rest) place
  | last {links : Nat} {here : Location} {name : String} (down : name ≠ "..") (short : name.utf8ByteSize ≤ nameLimit)
      (ends : Ends followLast (tree.lookup (here ++ [name]))) :
      Reaches tree followLast links here [name] (here ++ [name])
  | directory {links : Nat} {here place : Location} {name : String} {rest : List String}
      (down : name ≠ "..") (short : name.utf8ByteSize ≤ nameLimit)
      (found : tree.lookup (here ++ [name]) = some .directory)
      (onward : Reaches tree followLast links (here ++ [name]) rest place) :
      Reaches tree followLast links here (name :: rest) place
  | link {links : Nat} {here place : Location} {name target : String} {rest : List String}
      (down : name ≠ "..") (short : name.utf8ByteSize ≤ nameLimit)
      (found : tree.lookup (here ++ [name]) = some (.link target))
      (followed : rest = [] → followLast = true)
      (onward : Reaches tree followLast links (start here (.ofText target))
        ((Path.ofText target).names ++ rest) place) :
      Reaches tree followLast (links + 1) here (name :: rest) place

variable {before after tree : FileTree} {followLast : Bool} {links : Nat} {here place : Location}
  {names : List String}

theorem reaches_of_walk (walks : tree.walk followLast links here names = .ok place) :
    tree.Reaches followLast links here names place := by
  -- the failing cases end no walk; every other one is a step of the relation
  fun_induction walk tree followLast links here names with
  | case1 links here => cases walks; exact .arrived
  | case2 links here rest ih => exact .up (ih walks)
  | case3 => cases walks
  | case4 links here name rest down place short nothing end_ =>
      obtain rfl : here ++ [name] = _ := Except.ok.inj walks
      obtain rfl := List.isEmpty_iff.mp end_
      exact .last down (Nat.not_lt.mp short) (by rw [nothing]; trivial)
  | case5 => cases walks
  | case6 links here name rest down place short found ih =>
      exact .directory down (Nat.not_lt.mp short) found (ih walks)
  | case7 links here name rest down place short content found end_ =>
      obtain rfl : here ++ [name] = _ := Except.ok.inj walks
      obtain rfl := List.isEmpty_iff.mp end_
      exact .last down (Nat.not_lt.mp short) (by rw [found]; trivial)
  | case8 => cases walks
  | case9 links here name rest down place short target found end_ =>
      obtain rfl : here ++ [name] = _ := Except.ok.inj walks
      rw [Bool.and_eq_true, Bool.not_eq_true', List.isEmpty_iff] at end_
      obtain ⟨rfl, unfollowed⟩ := end_
      exact .last down (Nat.not_lt.mp short) (by rw [found]; exact unfollowed)
  | case10 => cases walks
  | case11 here name rest down place short target found end_ links path ih =>
      refine .link down (Nat.not_lt.mp short) found ?_ (ih walks)
      rintro rfl
      simpa using end_

theorem Reaches.walk (reaches : tree.Reaches followLast links here names place) :
    tree.walk followLast links here names = .ok place := by
  induction reaches with
  | arrived => rw [FileTree.walk]
  | up _ ih => rw [FileTree.walk, ih]
  | @last _ here name down short ends =>
      rw [FileTree.walk, if_neg (Nat.not_lt.mpr short)]
      · split
        · rfl
        · next found => rw [found] at ends; exact ends.elim
        · rfl
        · next found =>
          rw [found] at ends
          have unfollowed : followLast = false := ends
          rw [unfollowed]
          rfl
      · exact down
  | directory down short found _ ih =>
      rw [FileTree.walk, if_neg (Nat.not_lt.mpr short), found]
      · exact ih
      · exact down
  | @link _ _ _ _ _ rest down short found followed _ ih =>
      -- a link that is not the last name is followed in any case
      have goesOn : (rest.isEmpty && !followLast) = false := by
        cases rest with
        | nil => rw [followed rfl]; rfl
        | cons => rfl
      rw [FileTree.walk, if_neg (Nat.not_lt.mpr short), found]
      · simp only [goesOn]
        exact ih
      · exact down

theorem walk_eq_ok_iff : tree.walk followLast links here names = .ok place ↔
    tree.Reaches followLast links here names place :=
  ⟨reaches_of_walk, Reaches.walk⟩

theorem Reaches.of_kept
    (kept : ∀ place entry, before.lookup place = some entry → after.lookup place = some entry)
    (reaches : before.Reaches false links here names place) :
    after.Reaches false links here names place := by
  induction reaches with
  | arrived => exact .arrived
  | up _ ih => exact .up ih
  | @last _ here name down short ends =>
      -- where there was nothing there may be a directory now, which is entered and left at once
      cases found : after.lookup (here ++ [name]) with
      | none => exact .last down short (by rw [found]; trivial)
      | some entry =>
          cases entry with
          | directory => exact .directory down short found .arrived
          | file => exact .last down short (by rw [found]; trivial)
          | link => exact .last down short (by rw [found]; rfl)
  | directory down short found _ ih => exact .directory down short (kept _ _ found) ih
  | link down short found followed _ ih => exact .link down short (kept _ _ found) followed ih

/-- A followed link is no end of a walk, save for walks that start below it and only leave it. -/
theorem Reaches.prefix_of_link {target : String} (isLink : tree.lookup place = some (.link target))
    (reaches : tree.Reaches true links here names place) : place <+: here := by
  -- only names in front of a link can lead to it, and it is left again as soon as it is followed
  induction reaches with
  | arrived => exact List.prefix_rfl
  | up _ ih => exact (ih isLink).trans (List.dropLast_prefix _)
  | last _ _ ends =>
      rw [isLink] at ends
      cases ends
  | directory _ _ found _ ih =>
      rcases List.prefix_concat_iff.mp (ih isLink) with here | above
      · rw [here, found] at isLink
        cases isLink
      · exact above
  | link _ _ _ _ _ ih =>
      have above := ih isLink
      unfold start at above
      split at above
      · rw [List.prefix_nil.mp above] at isLink
        cases isLink
      · exact above

theorem Reaches.of_written (noDirectory : before.lookup place ≠ some .directory)
    (apart : ∀ other, other ≠ place → after.lookup other = before.lookup other)
    {content : FileContent} (holds : after.lookup place = some (.file content))
    (reaches : before.Reaches true links here names place) :
    after.Reaches true links here names place := by
  -- a file where a walk may end turns no walk aside
  induction reaches with
  | arrived => exact .arrived
  | up _ ih => exact .up (ih noDirectory apart holds)
  | last down short _ => exact .last down short (by rw [holds]; trivial)
  | @directory _ here place name _ down short found onward ih =>
      refine .directory down short ?_ (ih noDirectory apart holds)
      rw [apart _ ?_, found]
      rintro rfl
      exact noDirectory found
  | @link _ here place name _ _ down short found followed onward ih =>
      refine .link down short ?_ followed (ih noDirectory apart holds)
      rw [apart _ ?_, found]
      -- the walk would have to end at the very link that it has followed
      rintro rfl
      have above := onward.prefix_of_link found
      unfold start at above
      split at above
      · exact absurd (List.prefix_nil.mp above) (List.append_ne_nil_of_right_ne_nil _ nofun)
      · have shorter := above.length_le
        rw [List.length_append, List.length_singleton] at shorter
        exact absurd shorter (Nat.not_succ_le_self _)

end Jp2Render.FileTree
