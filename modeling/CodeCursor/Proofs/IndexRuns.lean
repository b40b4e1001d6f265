import CodeCursor.Index
import Mathlib.Data.List.Nodup

/-!
# Runs of parses on one index

An index is used for one parse after the other, and its parsers are used again.  Between two
parses an index is well kept: each parser that it has is as good as a fresh one.  So a parse gives
what it gives on a fresh index, whatever was parsed, refused or given up before it.
-/

namespace CodeCursor

namespace Options

/-- The positions of the flags that have a meaning. -/
def knownBits : List Nat := [0, 6, 7]

def hasUnknown (a : Options) : Bool :=
  (List.range 32).any fun i => a.bits.toNat.testBit i && !knownBits.contains i

theorem testBit_known : ∀ i < 32, known.bits.toNat.testBit i = knownBits.contains i := by
  decide

theorem testBit_without_known (a : Options) {i : Nat} (hi : i < 32) :
    (a.without known).bits.toNat.testBit i =
      (a.bits.toNat.testBit i && !knownBits.contains i) := by
  rw [← testBit_known i hi]
  simp only [without, ← UInt32.toNat_toBitVec, BitVec.testBit_toNat, UInt32.toBitVec_and,
    UInt32.toBitVec_not, BitVec.getLsbD_and, BitVec.getLsbD_not, hi, decide_true, Bool.true_and]

theorem eq_standard_of_testBit {a : Options} (h : ∀ i < 32, a.bits.toNat.testBit i = false) :
    a = standard := by
  have hbits : a.bits.toBitVec = 0#32 := by
    apply BitVec.eq_of_getLsbD_eq
    intro i hi
    rw [← BitVec.testBit_toNat, UInt32.toNat_toBitVec, h i hi]
    exact BitVec.getLsbD_zero.symm
  cases a
  exact congrArg mk (UInt32.toBitVec_inj.1 hbits)

theorem isValid_eq (a : Options) : a.isValid = !a.hasUnknown := by
  rw [Bool.eq_iff_iff, Bool.not_eq_true', isValid, beq_iff_eq, hasUnknown, List.any_eq_false]
  constructor
  · intro h i hi
    rw [← testBit_without_known a (List.mem_range.1 hi), h]
    simp [standard]
  · intro h
    apply eq_standard_of_testBit
    intro i hi
    rw [testBit_without_known a hi]
    exact Bool.eq_false_iff.2 (h i (List.mem_range.2 hi))

end Options

/-- A call for a parse.  The engine comes with the call, since how long a parse takes may differ
from one call to the next. -/
structure Call where
  engine : Engine
  path : String
  text : String
  options : Options

namespace Call

def on (call : Call) (index : Index) : Except SetupError ParsedUnit × Index :=
  index.parse call.engine call.path call.text call.options

/-- The dialect in which a call is parsed, unless its options or its path are refused, if the
settings fix the given language. -/
def reached? (language : Option Dialect) (call : Call) : Option Dialect :=
  if call.options.hasUnknown then none else language <|> Dialect.ofPath? call.path

/-- What a call gives, with no regard to an index: the settings and the language that they fix
are all that it depends on. -/
def outcome (settings : Settings) (language : Option Dialect) (call : Call) :
    Except SetupError ParsedUnit :=
  if call.options.hasUnknown then .error (.invalidOptions call.options)
  else
    match language <|> Dialect.ofPath? call.path with
    | none => .error (.unsupportedLanguage call.path)
    | some dialect =>
      match call.engine ⟨dialect.grammar, settings.timeoutMicros, none⟩ call.text.toList with
      | none => .error (.aborted call.path)
      | some tree =>
        let u : SourceUnit := ⟨call.path, dialect, .ofString call.text, tree, call.options⟩
        .ok ⟨u, if settings.displayDiagnostics then
          u.diagnostics.map fun d => u.spelling ++ ": " ++ d.display else []⟩

end Call

namespace Index

inductive Opens : Settings → Index → Prop
  | standard : Opens .standard .standard
  | ofSettings {settings : Settings} {index : Index} :
      ofSettings settings = .ok index → Opens settings index

/-- Makes calls one after the other, each on the index that the one before it leaves. -/
def run (index : Index) : List Call → List (Except SetupError ParsedUnit) × Index
  | [] => ([], index)
  | call :: rest =>
    let (results, last) := (call.on index).2.run rest
    ((call.on index).1 :: results, last)

/-- An index on which the given dialects have been reached.  For each it has just one parser,
which is as it was when it was made. -/
structure WellKept (settings : Settings) (language : Option Dialect) (reached : Dialect → Prop)
    (index : Index) : Prop where
  settings_eq : index.settings = settings
  language_eq : index.language = language
  nodup : (index.parsers.map Prod.fst).Nodup
  mem_iff : ∀ dialect parser, (dialect, parser) ∈ index.parsers ↔
    reached dialect ∧ parser = .fresh dialect settings

section
variable {settings : Settings} {language : Option Dialect} {reached : Dialect → Prop}
  {index : Index}

theorem Opens.spec (h : Opens settings index) :
    settings.language = .ok index.language ∧
      WellKept settings index.language (fun _ => False) index := by
  cases h with
  | standard => exact ⟨rfl, rfl, rfl, List.nodup_nil, by simp [Index.standard]⟩
  | ofSettings h =>
    cases hl : settings.language with
    | error e =>
      rw [Index.ofSettings, hl] at h
      cases h
    | ok language =>
      rw [Index.ofSettings, hl] at h
      cases h
      exact ⟨rfl, rfl, rfl, List.nodup_nil, by simp⟩

theorem dialectOf_eq (index : Index) (path : String) :
    index.dialectOf path =
      match index.language <|> Dialect.ofPath? path with
      | some dialect => .ok dialect
      | none => .error (.unsupportedLanguage path) := by
  unfold dialectOf
  cases index.language with
  | some dialect => rfl
  | none =>
    cases Dialect.ofPath? path with
    | some dialect => rfl
    | none => rfl

/-- The parser that a well kept index takes for a dialect is a fresh one or like a fresh one. -/
theorem WellKept.parserFor_eq (h : WellKept settings language reached index)
    (dialect : Dialect) : index.parserFor dialect = .fresh dialect settings := by
  unfold parserFor
  cases hl : index.parsers.lookup dialect with
  | none => rw [h.settings_eq, Option.getD_none]
  | some parser =>
    -- A parser that is kept has no parse left to resume, whatever was given up before.
    obtain ⟨before, after, heq, -⟩ := List.lookup_eq_some_iff.1 hl
    have hmem : (dialect, parser) ∈ index.parsers := by
      rw [heq]
      exact List.mem_append_right _ List.mem_cons_self
    exact ((h.mem_iff dialect parser).1 hmem).2

/-- What one call does to a well kept index: it gives what it would give on any other, and leaves
a parser like a fresh one for the dialect that it reaches. -/
theorem WellKept.on_eq (h : WellKept settings language reached index) (call : Call) :
    call.on index =
      (call.outcome settings language,
        match call.reached? language with
        | none => index
        | some dialect => index.keep dialect (.fresh dialect settings)) := by
  rw [Call.on, parse, Options.isValid_eq, Bool.not_not, Call.outcome, Call.reached?]
  cases call.options.hasUnknown with
  | true => rfl
  | false =>
    rw [if_neg Bool.false_ne_true, if_neg Bool.false_ne_true, if_neg Bool.false_ne_true,
      dialectOf_eq, h.language_eq]
    cases language <|> Dialect.ofPath? call.path with
    | none => rfl
    | some dialect =>
      simp only [h.parserFor_eq dialect, Parser.run, Source.ofString, Parser.fresh]
      cases call.engine ⟨dialect.grammar, settings.timeoutMicros, none⟩ call.text.toList with
      | none => rfl
      | some tree => simp only [warningsOf, h.settings_eq]

theorem WellKept.keep (h : WellKept settings language reached index) (dialect : Dialect) :
    WellKept settings language (fun d => reached d ∨ dialect = d)
      (index.keep dialect (.fresh dialect settings)) where
  settings_eq := h.settings_eq
  language_eq := h.language_eq
  nodup := by
    rw [Index.keep, List.map_cons, List.nodup_cons]
    constructor
    · intro hmem
      obtain ⟨entry, hentry, heq⟩ := List.mem_map.1 hmem
      have hne := (List.mem_filter.1 hentry).2
      rw [heq] at hne
      simp at hne
    · exact h.nodup.sublist (List.filter_sublist.map _)
  mem_iff := by
    intro d parser
    rw [Index.keep, List.mem_cons, List.mem_filter, h.mem_iff, Prod.mk.injEq, bne_iff_ne]
    by_cases hd : dialect = d
    · subst hd
      simp
    · simp [hd, Ne.symm hd]

theorem WellKept.step (h : WellKept settings language reached index) (call : Call) :
    WellKept settings language (fun d => reached d ∨ call.reached? language = some d)
      (call.on index).2 := by
  rw [h.on_eq call]
  cases call.reached? language with
  | none => simpa using h
  | some dialect => simpa using h.keep dialect

theorem WellKept.run (h : WellKept settings language reached index) (calls : List Call) :
    (index.run calls).1 = calls.map (Call.outcome settings language) ∧
      WellKept settings language
        (fun d => reached d ∨ ∃ call ∈ calls, call.reached? language = some d)
        (index.run calls).2 := by
  -- Each call may add a dialect to those reached, so these vary along with the index.
  induction calls generalizing reached index with
  | nil => exact ⟨rfl, by simpa [Index.run] using h⟩
  | cons call rest ih =>
    obtain ⟨hresults, hlast⟩ := ih (h.step call)
    constructor
    · rw [Index.run, List.map_cons, ← hresults, h.on_eq call]
    · simpa only [Index.run, List.mem_cons, exists_eq_or_imp, or_assoc] using hlast

end

/-- On a new index, each of a list of calls gives what it gives on the new index itself, in every
order and whatever becomes of the others.  After them the index has just one parser for each
dialect that a call has reached, with no parse waiting to be resumed, and the settings and the
language that they fix are as they were. -/
theorem run_eq_outcomes {settings : Settings} {index : Index} (h : Opens settings index)
    (calls : List Call) :
    (index.run calls).1 = calls.map (fun call => (call.on index).1) ∧
    (index.run calls).1 = calls.map (Call.outcome settings index.language) ∧
    (index.run calls).2.settings = settings ∧
    (index.run calls).2.language = index.language ∧
    settings.language = .ok index.language ∧
    ((index.run calls).2.parsers.map Prod.fst).Nodup ∧
    ∀ dialect parser, (dialect, parser) ∈ (index.run calls).2.parsers ↔
      (∃ call ∈ calls, call.reached? index.language = some dialect) ∧
        parser = ⟨dialect.grammar, settings.timeoutMicros, none⟩ := by
  obtain ⟨hlanguage, hnew⟩ := h.spec
  obtain ⟨hresults, hlast⟩ := hnew.run calls
  refine ⟨?_, hresults, hlast.settings_eq, hlast.language_eq, hlanguage, hlast.nodup, ?_⟩
  · rw [hresults]
    apply List.map_congr_left
    intro call _
    rw [hnew.on_eq call]
  · intro dialect parser
    rw [hlast.mem_iff, false_or]
    rfl

/-- An engine that reads declarations of one integer, and gives up on texts with more characters
than it has microseconds.  A parse that waits to be resumed is resumed, whatever the text. -/
def slowEngine : Engine := fun parser text =>
  let stop := (parser.suspended.getD text).length
  if parser.timeoutMicros.any (·.toNat < text.length) then none
  else some (.node ⟨"translation_unit", none, true, false, false, false, 0, stop⟩
    [.node ⟨"declaration", none, true, false, false, false, 0, stop⟩
      [.node ⟨"primitive_type", some "type", true, false, false, false, 0, 3⟩ [],
       .node ⟨"identifier", some "declarator", true, false, false, false, 4, stop - 1⟩ [],
       .node ⟨";", none, false, false, false, false, stop - 1, stop⟩ []]])

theorem run_slowEngine :
    Opens ⟨["-Wall"], true, some 8⟩ ⟨⟨["-Wall"], true, some 8⟩, none, []⟩ ∧
    ((⟨⟨["-Wall"], true, some 8⟩, none, []⟩ : Index).run
        [⟨slowEngine, "big.c", "int count;", .standard⟩,
         ⟨slowEngine, "a.c", "int a;", ⟨2⟩⟩,
         ⟨slowEngine, "notes.txt", "int a;", .standard⟩,
         ⟨slowEngine, "small.c", "int a;", .skipBodies⟩]).1.map
      (fun result => result.map fun parsed => parsed.unit.tree.label.stop) =
    [.error (.aborted "big.c"), .error (.invalidOptions ⟨2⟩),
      .error (.unsupportedLanguage "notes.txt"), .ok 6] := by
  have hopens : Opens ⟨["-Wall"], true, some 8⟩ ⟨⟨["-Wall"], true, some 8⟩, none, []⟩ :=
    .ofSettings (by decide)
  refine ⟨hopens, ?_⟩
  rw [(run_eq_outcomes hopens _).2.1]
  decide

end Index

end CodeCursor
