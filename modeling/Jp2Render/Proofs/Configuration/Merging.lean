import Jp2Render.Configuration.Basic
import Jp2Render.Proofs.Toml.Reading

/-!
Laying a document over the defaults. What is at a name afterwards is what the document says of it,
laid over what was there before.
-/

namespace Jp2Render

namespace Toml.Table

variable {table below above : Table} {name other : String} {value : Value}

theorem lookup_put_of_ne (apart : other ≠ name) :
    (table.put name value).lookup other = table.lookup other := by
  induction table with
  | nil => rw [put, List.lookup_cons, beq_false_of_ne apart]
  | cons entry rest ih =>
      obtain ⟨here, held⟩ := entry
      rw [put]
      split
      · next same =>
        obtain rfl : here = name := same
        rw [List.lookup_cons, List.lookup_cons, beq_false_of_ne apart]
      · rw [List.lookup_cons, List.lookup_cons, ih]

theorem lookup_rest {entry : String × Value} {rest : Table}
    (distinct : ((entry :: rest).map Prod.fst).Nodup) : rest.lookup entry.1 = none := by
  rw [List.map_cons, List.nodup_cons] at distinct
  cases found : rest.lookup entry.1 with
  | none => rfl
  | some value => exact absurd (List.mem_map_of_mem (mem_of_lookup found)) distinct.1

theorem lookup_overlay (distinct : (above.map Prod.fst).Nodup) :
    (Table.overlay below above).lookup name = (above.lookup name).or (below.lookup name) := by
  induction above generalizing below with
  | nil => rfl
  | cons entry rest ih =>
      -- A name that has been put is not put again, so the rest leaves what is there alone.
      have fresh := lookup_rest distinct
      rw [List.map_cons, List.nodup_cons] at distinct
      rw [overlay, List.foldl_cons]
      refine (ih distinct.2).trans ?_
      obtain ⟨here, value⟩ := entry
      by_cases same : name = here
      · subst same
        rw [fresh, lookup_put, List.lookup_cons_self]
        rfl
      · rw [lookup_put_of_ne same, List.lookup_cons, beq_false_of_ne same]

end Toml.Table

namespace Configuration

open Toml

variable {defaults document : Table} {name : String}

def laidOver : Option Value → Value → Value
  | some (.table below), .table above => .table (Table.overlay below above)
  | _, value => value

theorem overlayEntry_eq (table : Table) (entry : String × Value) :
    overlayEntry table entry = table.put entry.1 (laidOver (table.lookup entry.1) entry.2) := by
  unfold overlayEntry laidOver
  cases table.lookup entry.1 with
  | none => rfl
  | some held =>
      cases held with
      | table below => cases entry.2 <;> rfl
      | _ => rfl

theorem lookup_merged (distinct : (document.map Prod.fst).Nodup) :
    (merged defaults document).lookup name =
      ((document.lookup name).map (laidOver (defaults.lookup name))).or (defaults.lookup name) := by
  induction document generalizing defaults with
  | nil => rfl
  | cons entry rest ih =>
      have fresh := Table.lookup_rest distinct
      rw [List.map_cons, List.nodup_cons] at distinct
      rw [merged, List.foldl_cons]
      refine (ih distinct.2).trans ?_
      rw [overlayEntry_eq]
      obtain ⟨here, value⟩ := entry
      by_cases same : name = here
      · subst same
        rw [fresh, Table.lookup_put, List.lookup_cons_self]
        rfl
      · rw [Table.lookup_put_of_ne same, List.lookup_cons, beq_false_of_ne same]

/-- A table that a document makes of the defaults: tables are laid over tables entry by entry, and
all else that the document says replaces what was there or is added to it. -/
structure IsMerged (defaults document table : Table) : Prop where
  laid : ∀ name below above, defaults.lookup name = some (.table below) →
    document.lookup name = some (.table above) →
    ∃ both, table.lookup name = some (.table both) ∧
      ∀ key, both.lookup key = (above.lookup key).or (below.lookup key)
  given : ∀ name value, document.lookup name = some value →
    (∀ below above, defaults.lookup name = some (.table below) → value ≠ .table above) →
    table.lookup name = some value
  kept : ∀ name, document.lookup name = none → table.lookup name = defaults.lookup name

theorem isMerged_merged (proper : document.IsProper) :
    IsMerged defaults document (merged defaults document) where
  laid name below above default given := by
    have inside := Table.isProper_table_iff.mp (proper.lookup given)
    refine ⟨Table.overlay below above, ?_, fun key => Table.lookup_overlay inside.distinct⟩
    rw [lookup_merged proper.distinct, default, given]
    rfl
  given name value given apart := by
    rw [lookup_merged proper.distinct, given]
    show some (laidOver (defaults.lookup name) value) = some value
    unfold laidOver
    split
    · next below above default => exact absurd rfl (apart below above default)
    · rfl
  kept name unnamed := by
    rw [lookup_merged proper.distinct, unnamed]
    rfl

end Configuration

end Jp2Render
