import Jp2Render.Proofs.Sequencing
import Jp2Render.Toml.Document

/-!
What documents are read into. Every table that is read has each of its keys once, at every level; and
a document is refused for the digits of an integer only if those are too many.
-/

namespace Jp2Render.Toml

/-- Tables inside the value have each of their keys once. -/
inductive Value.IsProper : Value → Prop
  | plain {value : Value} (plain : value.isContainer = false) : IsProper value
  | list {items : List Value} (proper : ∀ item ∈ items, IsProper item) : IsProper (.list items)
  | table {entries : Table} (distinct : (entries.map Prod.fst).Nodup)
      (proper : ∀ entry ∈ entries, IsProper entry.2) : IsProper (.table entries)

namespace Table

structure IsProper (table : Table) : Prop where
  distinct : (table.map Prod.fst).Nodup
  proper : ∀ entry ∈ table, entry.2.IsProper

variable {table : Table} {name : String} {value : Value}

theorem isProper_nil : IsProper [] := ⟨List.nodup_nil, nofun⟩

theorem isProper_table_iff : (Value.table table).IsProper ↔ table.IsProper := by
  constructor
  · intro proper
    cases proper with
    | plain plain => cases plain
    | table distinct proper => exact ⟨distinct, proper⟩
  · exact fun proper => .table proper.distinct proper.proper

theorem mem_put {entry : String × Value} (kept : entry ∈ table.put name value) :
    entry = (name, value) ∨ entry ∈ table := by
  induction table with
  | nil => exact .inl (List.mem_singleton.mp kept)
  | cons first rest ih =>
      rw [put] at kept
      split at kept
      · rcases List.mem_cons.mp kept with same | kept
        · exact .inl same
        · exact .inr (List.mem_cons_of_mem _ kept)
      · rcases List.mem_cons.mp kept with same | kept
        · exact .inr (same ▸ List.mem_cons_self)
        · exact (ih kept).imp_right (List.mem_cons_of_mem _)

theorem IsProper.put (proper : table.IsProper) (fine : value.IsProper) :
    (table.put name value).IsProper := by
  constructor
  · have distinct := proper.distinct
    clear proper
    induction table with
    | nil => exact List.nodup_cons.mpr ⟨List.not_mem_nil, List.nodup_nil⟩
    | cons first rest ih =>
        rw [List.map_cons, List.nodup_cons] at distinct
        rw [Table.put]
        split
        · next same =>
          rw [List.map_cons, List.nodup_cons, ← same]
          exact distinct
        · next other =>
          rw [List.map_cons, List.nodup_cons]
          refine ⟨?_, ih distinct.2⟩
          intro again
          obtain ⟨entry, kept, same⟩ := List.mem_map.mp again
          rcases mem_put kept with rfl | kept
          · exact other same.symm
          · exact distinct.1 (List.mem_map.mpr ⟨entry, kept, same⟩)
  · intro entry kept
    rcases mem_put kept with rfl | kept
    · exact fine
    · exact proper.proper entry kept

theorem mem_of_lookup (found : table.lookup name = some value) : (name, value) ∈ table := by
  obtain ⟨before, after, rfl, -⟩ := List.lookup_eq_some_iff.mp found
  exact List.mem_append_right _ List.mem_cons_self

theorem IsProper.lookup (proper : table.IsProper) (found : table.lookup name = some value) :
    value.IsProper := proper.proper _ (mem_of_lookup found)

abbrev Changes (outcome : Except Problem Table) : Prop := Yields (fun _ => True) IsProper outcome

theorem IsProper.update {change : Table → Except Problem Table}
    (changes : ∀ inner : Table, inner.IsProper → Changes (change inner)) (throughLists : Bool)
    (key : Key) (proper : table.IsProper) : Changes (table.update throughLists change key) := by
  -- On the key: the table at its first name is changed by the rest of it, and put back.
  induction key generalizing table with
  | nil => exact changes table proper
  | cons name names ih =>
      rw [Table.update]
      split
      · refine (ih isProper_nil).bind fun inner inside => ?_
        exact proper.put (isProper_table_iff.mpr inside)
      · next inner found =>
        refine (ih (isProper_table_iff.mp (proper.lookup found))).bind fun changed inside => ?_
        exact proper.put (isProper_table_iff.mpr inside)
      · next items found =>
        have listed : ∀ item ∈ items, item.IsProper := by
          cases proper.lookup found with
          | plain plain => cases plain
          | list listed => exact listed
        split
        · next inner last =>
          have inside := isProper_table_iff.mp (listed _ (List.mem_of_getLast? last))
          refine (ih inside).bind fun changed inside => proper.put (.list ?_)
          refine List.forall_mem_append.mpr ⟨?_, List.forall_mem_singleton.mpr ?_⟩
          · intro item kept
            exact listed item ((List.dropLast_sublist items).subset kept)
          · exact isProper_table_iff.mpr inside
        · trivial
      · trivial

theorem IsProper.add (proper : table.IsProper) (fine : value.IsProper) (throughLists : Bool)
    (taken : String → Problem) (header key : Key) :
    Changes (table.add throughLists taken header key value) := by
  refine proper.update ?_ throughLists _
  intro inner inside
  split
  · trivial
  · exact inside.put fine

end Table

def Fault.IsFair : Fault → Prop
  | .malformed _ _ => True
  | .tooManyDigits count => Text.integerDigitLimit < count

abbrev Reads {α : Type} (good : α → Prop) (outcome : Except Fault α) : Prop :=
  Yields Fault.IsFair good outcome

abbrev ReadsFairly {α : Type} (outcome : Except Fault α) : Prop := Reads (fun _ => True) outcome

theorem reads_locate {α : Type} {good : α → Prop} {result : Except Problem α}
    (yields : Yields (fun _ => True) good result) (rest : List Char) :
    Reads good (locate rest result) := by
  cases result with
  | error problem => trivial
  | ok value => exact yields

theorem fairly_checkBefore (forbidden : Char → Bool) (passed rest : List Char) :
    ReadsFairly (checkBefore forbidden passed rest) := by
  unfold checkBefore
  split <;> trivial

theorem fairly_dropComment (cs : List Char) : ReadsFairly (dropComment cs) := by
  unfold dropComment
  split
  · exact (fairly_checkBefore _ _ _).bind fun _ _ => trivial
  · trivial

theorem fairly_dropGaps (cs : List Char) : ReadsFairly (dropGaps cs) := by
  fun_induction dropGaps cs with
  | case1 cs fault failed => exact (fairly_dropComment _).of_error failed
  | case2 cs rest done shorter ih => exact ih
  | case3 => trivial

theorem fairly_literal (quotes : String) (cs : List Char) : ReadsFairly (literal quotes cs) := by
  unfold literal
  split
  · trivial
  · exact (fairly_checkBefore _ _ _).bind fun _ _ => trivial

theorem fairly_hexCharacter (count : Nat) (cs : List Char) :
    ReadsFairly (hexCharacter count cs) := by
  rw [hexCharacter]
  dsimp only
  split
  · split <;> trivial
  · trivial

theorem fairly_escape (lines : Bool) (cs : List Char) : ReadsFairly (escape lines cs) := by
  unfold escape
  split
  · trivial
  · split
    · split <;> trivial
    · split
      · exact fairly_hexCharacter _ _
      · split
        · exact fairly_hexCharacter _ _
        · split <;> trivial

theorem fairly_escapedOnto (lines : Bool) (before cs : List Char) :
    ReadsFairly (escapedOnto lines before cs) := by
  fun_induction escapedOnto lines before cs with
  | case1 | case2 | case3 => trivial
  | case4 before rest isLines more ih => exact ih
  | case5 before rest fault failed => exact (fairly_escape _ _).of_error failed
  | case6 before rest meant left done shorter ih => exact ih
  | case7 | case8 => trivial
  | case9 before c rest plain other allowed ih => exact ih

theorem fairly_lineText (quote : Char) (cs : List Char) : ReadsFairly (lineText quote cs) := by
  unfold lineText
  dsimp only
  split
  · exact (fairly_escapedOnto _ _ _).bind fun _ _ => by trivial
  · exact (fairly_literal _ _).bind fun _ _ => by trivial

theorem fairly_quotation (quote : Char) (rest : List Char) : ReadsFairly (quotation quote rest) := by
  unfold quotation
  split
  · unfold linesText
    dsimp only
    split
    · exact (fairly_escapedOnto _ _ _).bind fun _ _ => by trivial
    · exact (fairly_literal _ _).bind fun _ _ => by trivial
  · exact fairly_lineText quote rest

theorem fairly_keyPart (cs : List Char) : ReadsFairly (keyPart cs) := by
  unfold keyPart
  split
  · trivial
  · split
    · trivial
    · split
      · exact fairly_lineText _ _
      · trivial

theorem fairly_keyOnto (before : Key) (cs : List Char) : ReadsFairly (keyOnto before cs) := by
  fun_induction keyOnto before cs with
  | case1 before cs fault failed => exact (fairly_keyPart _).of_error failed
  | case2 before cs part left done key rest dotted next shorter ih => exact ih
  | case3 | case4 => trivial

theorem reads_decimal {cs : List Char} {reading : Except Fault (Value × List Char)}
    (found : decimal? cs = some reading) : Reads (·.1.IsProper) reading := by
  rw [decimal?] at found
  dsimp only at found
  split at found
  · cases found
  · split at found
    · split at found
      · next long =>
        cases found
        exact long
      · cases found
        exact Value.IsProper.plain rfl
    · cases found
      exact Value.IsProper.plain rfl

theorem reads_number {cs : List Char} {reading : Except Fault (Value × List Char)}
    (found : number? cs = some reading) : Reads (·.1.IsProper) reading := by
  unfold number? at found
  split at found
  · cases found
    exact Value.IsProper.plain rfl
  · cases decimal : decimal? cs with
    | some reading =>
        rw [decimal] at found
        cases found
        exact reads_decimal decimal
    | none =>
        rw [decimal] at found
        obtain ⟨⟨value, left⟩, named, rfl⟩ := Option.map_eq_some_iff.mp found
        rw [named?] at named
        dsimp only at named
        split at named
        · cases named
          exact Value.IsProper.plain rfl
        · split at named <;> cases named
          exact Value.IsProper.plain rfl

theorem reads_scalar (cs : List Char) : Reads (·.1.IsProper) (scalar cs) := by
  unfold scalar
  split
  · split
    · exact Value.IsProper.plain rfl
    · trivial
  · split
    · next found => exact reads_number found
    · trivial

/-- What is read of values with some fuel: alone, as items, behind a key, and as entries. -/
structure ReadsValues (fuel : Nat) : Prop where
  value : ∀ cs, Reads (·.1.IsProper) (value fuel cs)
  items : ∀ before cs, (∀ item ∈ before, item.IsProper) →
    Reads (·.1.IsProper) (items fuel before cs)
  pair : ∀ cs, Reads (·.1.2.IsProper) (pair fuel cs)
  entries : ∀ closed (table : Table) cs, table.IsProper →
    Reads (·.1.IsProper) (entries fuel closed table cs)

namespace ReadsValues

variable {fuel : Nat}

theorem value_succ (ih : ReadsValues fuel) (cs : List Char) :
    Reads (·.1.IsProper) (Toml.value (fuel + 1) cs) := by
  unfold Toml.value
  split
  · trivial
  · next same =>
    cases same
    exact (fairly_dropGaps _).bind fun left _ => ih.items [] left nofun
  · next same =>
    cases same
    split
    · exact Value.IsProper.table List.nodup_nil nofun
    · exact ih.entries [] [] _ Table.isProper_nil
  · split
    · exact (fairly_quotation _ _).bind fun _ _ => Value.IsProper.plain rfl
    · split
      · exact Value.IsProper.plain rfl
      · split
        · exact Value.IsProper.plain rfl
        · exact reads_scalar _
  · trivial

theorem items_succ (ih : ReadsValues fuel) {before : List Value}
    (proper : ∀ item ∈ before, item.IsProper) (cs : List Char) :
    Reads (·.1.IsProper) (Toml.items (fuel + 1) before cs) := by
  unfold Toml.items
  split
  · trivial
  · exact Value.IsProper.list proper
  · next same _ =>
    cases same
    refine (ih.value _).bind ?_
    intro (item, left) fine
    have all : ∀ other ∈ before ++ [item], other.IsProper :=
      List.forall_mem_append.mpr ⟨proper, List.forall_mem_singleton.mpr fine⟩
    refine (fairly_dropGaps left).bind ?_
    intro next _
    split
    · exact Value.IsProper.list all
    · exact (fairly_dropGaps _).bind fun next _ => ih.items _ next all
    · trivial

theorem pair_succ (ih : ReadsValues fuel) (cs : List Char) :
    Reads (·.1.2.IsProper) (Toml.pair (fuel + 1) cs) := by
  unfold Toml.pair
  refine (fairly_keyOnto [] cs).bind ?_
  intro (key, left) _
  dsimp only
  split
  · exact (ih.value _).bind fun _ fine => fine
  · trivial

theorem entries_succ (ih : ReadsValues fuel) (closed : List Key) {table : Table}
    (proper : table.IsProper) (cs : List Char) :
    Reads (·.1.IsProper) (Toml.entries (fuel + 1) closed table cs) := by
  unfold Toml.entries
  refine (ih.pair cs).bind ?_
  intro ((key, value), left) fine
  dsimp only
  split
  · trivial
  · refine (reads_locate (proper.add fine _ _ _ _) left).bind ?_
    intro table proper
    split
    · exact Table.isProper_table_iff.mpr proper
    · exact ih.entries _ _ _ proper
    · trivial

end ReadsValues

theorem readsValues (fuel : Nat) : ReadsValues fuel := by
  -- all four readers call one another with less fuel, so they are taken together
  induction fuel with
  | zero =>
      constructor
      · intro cs; rw [value]; trivial
      · intro before cs _; rw [items]; trivial
      · intro cs; rw [pair]; trivial
      · intro closed table cs _; rw [entries]; trivial
  | succ fuel ih =>
      constructor
      · exact ih.value_succ
      · intro before cs proper
        exact ih.items_succ proper cs
      · exact ih.pair_succ
      · intro closed table cs proper
        exact ih.entries_succ closed proper cs

abbrev Draft.Follows (outcome : Except Problem Draft) : Prop :=
  Yields (fun _ => True) (·.table.IsProper) outcome

namespace Draft

variable {draft : Draft}

theorem follows_openTable (proper : draft.table.IsProper) (key : Key) :
    Follows (draft.openTable key) := by
  unfold openTable
  split
  · trivial
  · refine (proper.update ?_ true key).bind fun table opened => opened
    exact fun inner inside => inside

theorem follows_openItem (proper : draft.table.IsProper) (key : Key) :
    Follows (draft.openItem key) := by
  have empty : (Value.table []).IsProper := Table.isProper_table_iff.mpr Table.isProper_nil
  unfold openItem
  split
  · trivial
  · refine (proper.update ?_ true _).bind fun table opened => opened
    intro inner inside
    split
    · refine inside.put (.list ?_)
      intro item kept
      rw [List.mem_singleton.mp kept]
      exact empty
    · next items found =>
      refine inside.put (.list ?_)
      intro item kept
      rcases List.mem_append.mp kept with kept | new
      · cases inside.lookup found with
        | plain plain => cases plain
        | list listed => exact listed item kept
      · rw [List.mem_singleton.mp new]
        exact empty
    · trivial

theorem follows_assign (proper : draft.table.IsProper) (key : Key) {value : Value}
    (fine : value.IsProper) : Follows (draft.assign key value) := by
  unfold assign
  dsimp only
  split
  · trivial
  · split
    · trivial
    · exact (proper.add fine _ _ _ _).bind fun table added => added

end Draft

theorem reads_header {closing : List Char} {unclosed : Problem} {open? : Key → Except Problem Draft}
    (follows : ∀ key, Draft.Follows (open? key)) (cs : List Char) :
    Reads (·.1.table.IsProper) (header closing unclosed open? cs) := by
  unfold header
  refine (fairly_keyOnto [] _).bind ?_
  intro (key, left) _
  refine (reads_locate (follows key) left).bind ?_
  intro opened proper
  split
  · exact proper
  · trivial

theorem reads_statement {draft : Draft} (proper : draft.table.IsProper) (cs : List Char) :
    Reads (·.1.table.IsProper) (statement draft cs) := by
  have settled : draft.settle.table.IsProper := proper
  unfold statement
  split
  · exact reads_header (Draft.follows_openItem settled) _
  · exact reads_header (Draft.follows_openTable settled) _
  · split
    · refine ((readsValues _).pair _).bind ?_
      intro ((key, value), left) fine
      exact (reads_locate (Draft.follows_assign proper key fine) left).bind fun assigned done => done
    · split
      · exact proper
      · trivial
  · exact proper

theorem reads_lines {draft : Draft} (proper : draft.table.IsProper) (cs : List Char) :
    Reads Table.IsProper (lines draft cs) := by
  induction draft, cs using lines.induct with
  | case1 draft cs ih =>
      rw [lines]
      refine (reads_statement proper _).bind ?_
      intro (draft, left) proper
      refine (fairly_dropComment _).bind ?_
      intro after _
      split
      · exact proper
      · split
        · next shorter => exact ih _ _ shorter proper
        · trivial
      · trivial

theorem reads_document (cs : List Char) : Reads Table.IsProper (document cs) :=
  reads_lines Table.isProper_nil cs

theorem isProper_ofText {text : String} {table : Table} (read : ofText text = .ok table) :
    table.IsProper := by
  rw [ofText] at read
  split at read
  · next done =>
    cases read
    exact (reads_document _).of_ok done
  · cases read
  · cases read

theorem long_of_tooManyDigits {text : String} {count : Nat}
    (refused : ofText text = .error (.tooManyDigits count)) : Text.integerDigitLimit < count := by
  rw [ofText] at refused
  split at refused
  · cases refused
  · cases refused
  · next failed =>
    cases refused
    exact (reads_document _).of_error failed

end Jp2Render.Toml
