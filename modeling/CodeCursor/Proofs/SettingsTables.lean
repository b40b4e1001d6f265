import CodeCursor.Proofs.TomlTables
import CodeCursor.Settings
import CodeCursor.Toml.Document

/-!
# Settings and the tables that hold them

A table holds settings if it has no keys but theirs and each value has the form for its key.  The
three values are read one after another, but no failure hides another, and the order of the keys
does not matter: what is read is just what the entries of the table say.  How a table is read from
a document plays no part in this.
-/

namespace CodeCursor

namespace Toml

variable {value : Value}

theorem Value.string?_eq_some_iff {text : String} :
    value.string? = some text ↔ value = .string text := by
  cases value <;> simp [string?]

theorem Value.boolean?_eq_some_iff {answer : Bool} :
    value.boolean? = some answer ↔ value = .boolean answer := by
  cases value <;> simp [boolean?]

/-- Integers with and without a sign differ in type, and are compared by what they stand for. -/
theorem toInt_eq_toNat_iff {number : Int64} {limit : UInt64} :
    number.toInt = limit.toNat ↔ 0 ≤ number ∧ number.toUInt64 = limit := by
  have hnat : 0 ≤ number → number.toInt = number.toUInt64.toNat := by
    intro hle
    rw [Int64.toNat_toUInt64_of_le hle, Int64.toNatClampNeg, Int.toNat_of_nonneg]
    exact Int64.le_iff_toInt_le.1 hle
  constructor
  · intro h
    have hle : 0 ≤ number := by
      rw [Int64.le_iff_toInt_le, h]
      exact Int.natCast_nonneg _
    rw [hnat hle, Int.ofNat_inj, UInt64.toNat_inj] at h
    exact ⟨hle, h⟩
  · rintro ⟨hle, rfl⟩
    exact hnat hle

theorem Value.unsigned?_eq_some_iff {limit : UInt64} :
    value.unsigned? = some limit ↔
      ∃ number : Int64, number.toInt = limit.toNat ∧ value = .integer number := by
  simp only [toInt_eq_toNat_iff]
  cases value with
  | integer number => simp [unsigned?]
  | _ => simp [unsigned?]

theorem Value.mapM_string?_eq_some_iff {items : List Value} {texts : List String} :
    items.mapM string? = some texts ↔ items = texts.map .string := by
  induction items generalizing texts with
  | nil => cases texts <;> simp
  | cons item rest ih =>
    cases texts with
    | nil => simp [List.mapM_cons, Option.bind_eq_some_iff]
    | cons text texts => simp [List.mapM_cons, Option.bind_eq_some_iff, string?_eq_some_iff, ih]

/-- An array is read as strings if each of its items is one, however many there are. -/
theorem Value.strings?_eq_some_iff {texts : List String} :
    value.strings? = some texts ↔ value = .array (texts.map .string) := by
  cases value with
  | array items => simp [strings?, mapM_string?_eq_some_iff]
  | _ => simp [strings?]

end Toml

namespace Settings

/-- Each key of the table is that of a setting, and each value has the form for its key. -/
structure Describes (table : Toml.Table) : Prop where
  known : ∀ entry ∈ table.entries, entry.1 ∈ keys
  arguments : ∀ value, ("arguments", value) ∈ table.entries →
    ∃ texts : List String, value = .array (texts.map .string)
  displayDiagnostics : ∀ value, ("display_diagnostics", value) ∈ table.entries →
    ∃ answer, value = .boolean answer
  /-- An integer has 64 bits with its sign among them, so that none is above `2 ^ 63 - 1`. -/
  timeoutMicros : ∀ value, ("timeout_micros", value) ∈ table.entries →
    ∃ number : Int64, 0 ≤ number ∧ value = .integer number

/-- The settings have the values that the table gives, and the standard ones for the keys that it
does not have.  It has no other keys. -/
structure HeldBy (s : Settings) (table : Toml.Table) : Prop where
  known : ∀ entry ∈ table.entries, entry.1 ∈ keys
  arguments : table.Under "arguments" (· = .array (s.arguments.map .string)) (s.arguments = [])
  displayDiagnostics : table.Under "display_diagnostics" (· = .boolean s.displayDiagnostics)
    (s.displayDiagnostics = false)
  timeoutMicros : table.Under "timeout_micros"
    (fun value => ∃ (number : Int64) (limit : UInt64), number.toInt = limit.toNat ∧
      s.timeoutMicros = some limit ∧ value = .integer number)
    (s.timeoutMicros = none)

theorem HeldBy.perm {s : Settings} {table other : Toml.Table} (h : s.HeldBy table)
    (hperm : other.entries.Perm table.entries) : s.HeldBy other :=
  ⟨fun entry hmem => h.known entry (hperm.mem_iff.1 hmem), h.arguments.perm hperm,
    h.displayDiagnostics.perm hperm, h.timeoutMicros.perm hperm⟩

variable {table : Toml.Table}

theorem exists_heldBy_iff : (∃ s : Settings, s.HeldBy table) ↔ Describes table := by
  constructor
  · rintro ⟨s, hs⟩
    refine ⟨hs.known, ?_, ?_, ?_⟩
    · intro value hmem
      have hvalue := hs.arguments.given_of_mem hmem
      exact ⟨s.arguments, hvalue⟩
    · intro value hmem
      have hvalue := hs.displayDiagnostics.given_of_mem hmem
      exact ⟨s.displayDiagnostics, hvalue⟩
    · intro value hmem
      obtain ⟨number, limit, hnumber, -, hvalue⟩ := hs.timeoutMicros.given_of_mem hmem
      exact ⟨number, (Toml.toInt_eq_toNat_iff.1 hnumber).1, hvalue⟩
  · intro hd
    have htimeout : ∀ value, ("timeout_micros", value) ∈ table.entries →
        ∃ timeout : Option UInt64, ∃ (number : Int64) (limit : UInt64),
          number.toInt = limit.toNat ∧ timeout = some limit ∧ value = .integer number := by
      intro value hmem
      obtain ⟨number, hle, rfl⟩ := hd.timeoutMicros value hmem
      have hnumber := Toml.toInt_eq_toNat_iff.2 ⟨hle, rfl⟩
      exact ⟨some number.toUInt64, number, number.toUInt64, hnumber, rfl, rfl⟩
    obtain ⟨arguments, harguments⟩ := Toml.Table.exists_under [] hd.arguments
    obtain ⟨answer, hanswer⟩ := Toml.Table.exists_under false hd.displayDiagnostics
    obtain ⟨timeout, htimeout⟩ := Toml.Table.exists_under none htimeout
    exact ⟨⟨arguments, answer, timeout⟩, hd.known, harguments, hanswer, htimeout⟩

/-- Reading the value of a key, if a value that is given is read as what `given` says of it. -/
theorem valueOf?_eq_some_iff {α : Type} {key : String} {read : Toml.Value → Option α}
    {otherwise a : α} {given : Toml.Value → Prop} (h : ∀ value, read value = some a ↔ given value) :
    valueOf? table key read otherwise = some a ↔ table.Under key given (a = otherwise) := by
  rw [valueOf?]
  cases hlookup : table.entries.lookup key with
  | none =>
    have hnone := Toml.Table.lookup_eq_none_iff_mem.1 hlookup
    simp [Toml.Table.Under, hnone, eq_comm]
  | some value =>
    have hmem := Toml.Table.lookup_eq_some_iff_mem.1 hlookup
    constructor
    · intro hread
      exact .inl ⟨value, hmem, (h value).1 hread⟩
    · intro hunder
      exact (h value).2 (hunder.given_of_mem hmem)

theorem valueOf?_arguments {arguments : List String} :
    valueOf? table "arguments" (·.strings?) standard.arguments = some arguments ↔
      table.Under "arguments" (· = .array (arguments.map .string)) (arguments = []) :=
  valueOf?_eq_some_iff fun _ => Toml.Value.strings?_eq_some_iff

theorem valueOf?_displayDiagnostics {answer : Bool} :
    valueOf? table "display_diagnostics" (·.boolean?) standard.displayDiagnostics = some answer ↔
      table.Under "display_diagnostics" (· = .boolean answer) (answer = false) :=
  valueOf?_eq_some_iff fun _ => Toml.Value.boolean?_eq_some_iff

theorem valueOf?_timeoutMicros {timeout : Option UInt64} :
    valueOf? table "timeout_micros" (·.unsigned?.map some) standard.timeoutMicros =
        some timeout ↔
      table.Under "timeout_micros"
        (fun value => ∃ (number : Int64) (limit : UInt64), number.toInt = limit.toNat ∧
          timeout = some limit ∧ value = .integer number)
        (timeout = none) := by
  apply valueOf?_eq_some_iff
  intro value
  rw [Option.map_eq_some_iff]
  constructor
  · rintro ⟨limit, hread, rfl⟩
    obtain ⟨number, hnumber, hvalue⟩ := Toml.Value.unsigned?_eq_some_iff.1 hread
    exact ⟨number, limit, hnumber, rfl, hvalue⟩
  · rintro ⟨number, limit, hnumber, rfl, hvalue⟩
    exact ⟨limit, Toml.Value.unsigned?_eq_some_iff.2 ⟨number, hnumber, hvalue⟩, rfl⟩

/-- A table is read as the settings that it holds, and as none if it holds none. -/
theorem ofTable?_eq_some_iff {s : Settings} : ofTable? table = some s ↔ s.HeldBy table := by
  have hknown : (table.entries.all fun entry => keys.contains entry.1) = true ↔
      ∀ entry ∈ table.entries, entry.1 ∈ keys := by
    simp only [List.all_eq_true, List.contains_iff_mem]
  simp only [ofTable?, Option.bind_eq_bind]
  constructor
  · intro hread
    split at hread
    · rename_i hall
      simp only [Option.bind_eq_some_iff, Option.some.injEq] at hread
      obtain ⟨arguments, ha, answer, hd, timeout, ht, rfl⟩ := hread
      exact ⟨hknown.1 hall, valueOf?_arguments.1 ha, valueOf?_displayDiagnostics.1 hd,
        valueOf?_timeoutMicros.1 ht⟩
    · contradiction
  · intro hs
    rw [if_pos (hknown.2 hs.known), valueOf?_arguments.2 hs.arguments,
      valueOf?_displayDiagnostics.2 hs.displayDiagnostics,
      valueOf?_timeoutMicros.2 hs.timeoutMicros]
    rfl

/-- The settings as a table.  It has no key for a time limit that is not there. -/
def toTable (s : Settings) : Toml.Table where
  entries :=
    ("arguments", .array (s.arguments.map .string)) ::
      ("display_diagnostics", .boolean s.displayDiagnostics) ::
      (s.timeoutMicros.map fun limit => ("timeout_micros", .integer limit.toInt64)).toList
  nodup := by cases s.timeoutMicros <;> simp

theorem mem_toTable {s : Settings} {key : String} {value : Toml.Value} :
    (key, value) ∈ s.toTable.entries ↔
      (key = "arguments" ∧ value = .array (s.arguments.map .string)) ∨
      (key = "display_diagnostics" ∧ value = .boolean s.displayDiagnostics) ∨
      ∃ limit, s.timeoutMicros = some limit ∧ key = "timeout_micros" ∧
        value = .integer limit.toInt64 := by
  simp only [toTable, List.mem_cons, Prod.mk.injEq, Option.mem_toList, Option.map_eq_some_iff]
  grind

theorem heldBy_toTable {s : Settings}
    (h : ∀ limit, s.timeoutMicros = some limit → limit.toNat < 0x8000000000000000) :
    s.HeldBy s.toTable := by
  refine ⟨?known, .inl ⟨_, mem_toTable.2 (.inl ⟨rfl, rfl⟩), rfl⟩,
    .inl ⟨_, mem_toTable.2 (.inr (.inl ⟨rfl, rfl⟩)), rfl⟩, ?timeoutMicros⟩
  case known =>
    rintro ⟨key, value⟩ hmem
    rcases mem_toTable.1 hmem with ⟨rfl, -⟩ | ⟨rfl, -⟩ | ⟨-, -, rfl, -⟩
    all_goals simp [keys]
  case timeoutMicros =>
    cases htimeout : s.timeoutMicros with
    | none =>
      refine .inr ⟨fun value hmem => ?_, rfl⟩
      rw [mem_toTable, htimeout] at hmem
      simp at hmem
    | some limit =>
      have hnumber : limit.toInt64.toInt = limit.toNat :=
        BitVec.toInt_eq_toNat_of_lt (Nat.mul_lt_mul_of_pos_left (h limit htimeout) Nat.two_pos)
      exact .inl ⟨_, mem_toTable.2 (.inr (.inr ⟨limit, htimeout, rfl, rfl⟩)), _, limit, hnumber,
        rfl, rfl⟩

/-- Reading settings from documents, whatever reads the documents as tables.  There is a result
exactly if a table is read that has no keys but those of settings, each with a value of its form.
The settings then have the values that are given and are otherwise the standard ones.  The order of
the keys does not matter, and settings whose time limit has 63 bits are read back from their
table. -/
theorem toml_read_by_keys (read : String → Option Toml.Table) :
    (∀ document, (∃ s, ofToml? read document = some s) ↔
      ∃ table, read document = some table ∧ Describes table) ∧
    (∀ document s, ofToml? read document = some s ↔
      ∃ table, read document = some table ∧ s.HeldBy table) ∧
    (∀ document other table reordered, read document = some table →
      read other = some reordered → reordered.entries.Perm table.entries →
        ofToml? read other = ofToml? read document) ∧
    ∀ s : Settings, (∀ limit, s.timeoutMicros = some limit → limit.toNat < 0x8000000000000000) →
      ofTable? s.toTable = some s ∧
        ∀ document table, read document = some table → table.entries.Perm s.toTable.entries →
          ofToml? read document = some s := by
  have held : ∀ document s, ofToml? read document = some s ↔
      ∃ table, read document = some table ∧ s.HeldBy table := by
    intro document s
    rw [ofToml?, Option.bind_eq_some_iff]
    apply exists_congr
    intro table
    exact and_congr_right fun _ => ofTable?_eq_some_iff
  refine ⟨?_, held, ?_, ?_⟩
  · intro document
    simp only [held]
    rw [exists_comm]
    apply exists_congr
    intro table
    rw [exists_and_left, exists_heldBy_iff]
  · intro document other table reordered hread hother hperm
    apply Option.ext
    intro s
    rw [held, held, hread, hother]
    simp only [Option.some.injEq, exists_eq_left']
    exact ⟨fun h => h.perm hperm.symm, fun h => h.perm hperm⟩
  · intro s h
    have hheld := heldBy_toTable h
    refine ⟨ofTable?_eq_some_iff.2 hheld, ?_⟩
    intro document table hread hperm
    exact (held document s).2 ⟨table, hread, hheld.perm hperm⟩

/-- A reader that besides flat documents reads a header without entries. -/
def headed (document : String) : Option Toml.Table :=
  if document = "[arguments]" then some ⟨[("arguments", .table [])], List.nodup_singleton _⟩
  else Toml.Table.ofDocument? document

/-- A document with two of the keys, one with a value that is a table, and a round trip with the
longest time limit. -/
theorem toml_read_by_keys_headed :
    (∃ table, headed "timeout_micros = 9\narguments = [\"-xc\"]" = some table ∧
        HeldBy ⟨["-xc"], false, some 9⟩ table) ∧
      (¬∃ s, ofToml? headed "[arguments]" = some s) ∧
      ofTable? (toTable ⟨["-x", "c"], true, some 0x7fffffffffffffff⟩) =
        some ⟨["-x", "c"], true, some 0x7fffffffffffffff⟩ := by
  obtain ⟨describes, held, -, back⟩ := toml_read_by_keys headed
  refine ⟨(held _ _).1 (by decide +kernel), ?_, (back _ ?_).1⟩
  · have hheader : headed "[arguments]" = some ⟨[("arguments", .table [])], _⟩ := if_pos rfl
    rw [describes, hheader]
    rintro ⟨table, hread, hdescribes⟩
    cases hread
    obtain ⟨texts, htexts⟩ := hdescribes.arguments _ List.mem_cons_self
    cases htexts
  · rintro limit ⟨⟩
    decide

end Settings

end CodeCursor
