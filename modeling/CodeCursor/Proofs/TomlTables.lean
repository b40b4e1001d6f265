import CodeCursor.Toml.Value
import Mathlib.Data.List.Nodup

/-!
# What TOML tables say under their keys

A table gives each key once.  So looking a key up finds the entry that gives it, wherever the entry
stands, and what a table says under its keys does not depend on the order of its entries.
-/

namespace CodeCursor.Toml.Table

variable {table : Table} {key : String} {value : Value}

theorem eq_of_mem {other : Value} (hvalue : (key, value) ∈ table.entries)
    (hother : (key, other) ∈ table.entries) : value = other :=
  congrArg Prod.snd (List.inj_on_of_nodup_map table.nodup hvalue hother rfl)

theorem lookup_eq_none_iff_mem :
    table.entries.lookup key = none ↔ ∀ value, (key, value) ∉ table.entries := by
  rw [List.lookup_eq_none_iff]
  constructor
  · intro h value hmem
    have hne := h _ hmem
    simp at hne
  · intro h entry hmem
    obtain ⟨other, value⟩ := entry
    apply bne_iff_ne.2
    rintro rfl
    exact h value hmem

/-- Looking a key up finds the entry that gives it. -/
theorem lookup_eq_some_iff_mem :
    table.entries.lookup key = some value ↔ (key, value) ∈ table.entries := by
  have hfound : ∀ found, table.entries.lookup key = some found → (key, found) ∈ table.entries := by
    intro found hlookup
    obtain ⟨before, after, heq, -⟩ := List.lookup_eq_some_iff.1 hlookup
    rw [heq]
    exact List.mem_append_right _ List.mem_cons_self
  refine ⟨hfound value, fun hmem => ?_⟩
  cases hlookup : table.entries.lookup key with
  | none => exact absurd hmem (lookup_eq_none_iff_mem.1 hlookup value)
  | some found => rw [eq_of_mem hmem (hfound found hlookup)]

/-- What a table says under a key: a value is given for it that is as asked for, or none is given
and something else holds. -/
def Under (table : Table) (key : String) (given : Value → Prop) (absent : Prop) : Prop :=
  (∃ value, (key, value) ∈ table.entries ∧ given value) ∨
    (∀ value, (key, value) ∉ table.entries) ∧ absent

theorem Under.perm {other : Table} {given : Value → Prop} {absent : Prop}
    (h : table.Under key given absent) (hperm : other.entries.Perm table.entries) :
    other.Under key given absent := by
  simpa only [Under, hperm.mem_iff] using h

theorem Under.given_of_mem {given : Value → Prop} {absent : Prop}
    (h : table.Under key given absent) (hmem : (key, value) ∈ table.entries) : given value := by
  rcases h with ⟨other, hother, hgiven⟩ | ⟨hnone, -⟩
  · rw [eq_of_mem hmem hother]
    exact hgiven
  · exact absurd hmem (hnone value)

/-- If each value that is given for a key says something, a table says something under the key. -/
theorem exists_under {α : Type} {given : α → Value → Prop} (standard : α)
    (h : ∀ value, (key, value) ∈ table.entries → ∃ a, given a value) :
    ∃ a, table.Under key (given a) (a = standard) := by
  by_cases hkey : ∃ value, (key, value) ∈ table.entries
  · obtain ⟨value, hmem⟩ := hkey
    obtain ⟨a, ha⟩ := h value hmem
    exact ⟨a, .inl ⟨value, hmem, ha⟩⟩
  · exact ⟨standard, .inr ⟨not_exists.1 hkey, rfl⟩⟩

end CodeCursor.Toml.Table
