import CodeCursor.Cursor.Exposure
import CodeCursor.Proofs.Places

/-!
# Exposures under different options

The rules that decide how a place shows are asked in a fixed order, and two of them look at the
options.  Asked together they act as two filters: whatever a place is exposed as in a detailed
record, it is hidden if bodies are skipped and it is one, or if directives are left out and it is
one, and otherwise nothing changes.
-/

namespace CodeCursor

def CursorKind.isDirective : CursorKind → Bool
  | macroDefinition | inclusionDirective => true
  | _ => false

namespace Exposure

/-- The kind of the cursor that the exposure asks for. -/
def kind? : Exposure → Option CursorKind
  | cursor kind => some kind
  | flattened => none
  | hidden => none

def isDirective (x : Exposure) : Bool :=
  x.kind?.any CursorKind.isDirective

@[simp] theorem kind?_cursor (kind : CursorKind) : (cursor kind).kind? = some kind := rfl
@[simp] theorem kind?_flattened : flattened.kind? = none := rfl
@[simp] theorem kind?_hidden : hidden.kind? = none := rfl

@[simp, grind =] theorem isDirective_flattened : flattened.isDirective = false := rfl
@[simp, grind =] theorem isDirective_hidden : hidden.isDirective = false := rfl

@[simp, grind =] theorem isDirective_cursor (kind : CursorKind) :
    (cursor kind).isDirective = kind.isDirective := rfl

end Exposure

namespace Node

theorem mem_of_lookup_eq_some {α : Type} {table : List (String × α)} {kind : String} {x : α}
    (h : table.lookup kind = some x) : (kind, x) ∈ table := by
  obtain ⟨before, after, heq, -⟩ := List.lookup_eq_some_iff.1 h
  simp [heq]

theorem mem_fixedExposures {n : Node} {kind : CursorKind} (h : n.fixedExposure = .cursor kind) :
    (n.kind, .cursor kind) ∈ fixedExposures := by
  rw [fixedExposure] at h
  cases hentry : fixedExposures.lookup n.kind with
  | none =>
    rw [hentry] at h
    contradiction
  | some x =>
    rw [hentry] at h
    obtain rfl : x = .cursor kind := h
    exact mem_of_lookup_eq_some hentry

@[simp, grind =] theorem isDirective_fixedExposure (n : Node) :
    n.fixedExposure.isDirective = false := by
  have table : ∀ entry ∈ fixedExposures, entry.2.isDirective = false := by decide
  cases h : n.fixedExposure with
  | cursor kind => exact table _ (mem_fixedExposures h)
  | flattened => rfl
  | hidden => rfl

@[simp, grind =] theorem isDirective_specifierKind (n : Node) {definition : CursorKind}
    (h : definition.isDirective = false) : (n.specifierKind definition).isDirective = false := by
  rw [specifierKind]
  split
  · exact h
  · rfl

@[simp, grind =] theorem isDirective_kindByToken (n : Node) (token : String) {yes no : CursorKind}
    (hyes : yes.isDirective = false) (hno : no.isDirective = false) :
    (n.kindByToken token yes no).isDirective = false := by
  rw [kindByToken]
  split
  · exact hyes
  · exact hno

@[simp, grind =] theorem isDirective_assignmentKind (n : Node) :
    n.assignmentKind.isDirective = false := by
  rw [assignmentKind]
  split
  · rfl
  · split <;> rfl

@[simp, grind =] theorem isDirective_qualifiedKind (n : Node) :
    n.qualifiedKind.isDirective = false := by
  rw [qualifiedKind]
  split <;> rfl

end Node

namespace Place

@[simp, grind =] theorem isDirective_functionKind (p : Place) :
    p.functionKind.isDirective = false := by
  rw [functionKind]
  split
  · rfl
  · split <;> rfl

@[simp, grind =] theorem isDirective_identifierKind (p : Place) :
    p.identifierKind.isDirective = false := by
  unfold identifierKind
  repeat' split
  all_goals rfl

@[simp, grind =] theorem isDirective_declarationExposure (p : Place) {function value : CursorKind}
    (hf : function.isDirective = false) (hv : value.isDirective = false) :
    (p.declarationExposure function value).isDirective = false := by
  rw [declarationExposure]
  split
  · rw [Exposure.isDirective_cursor]
    split
    · exact hf
    · exact hv
  · rfl

theorem isDirective_declaratorExposure (parent declarator : Node) :
    (declaratorExposure parent declarator).isDirective = false := by
  rw [declaratorExposure]
  split
  · split <;> rfl
  · split <;> rfl
  · rfl

theorem isDirective_plainExposure (source : Source) (p : Place) :
    (p.plainExposure source).isDirective = false := by
  fun_cases plainExposure source p
  all_goals grind [CursorKind.isDirective]

theorem directiveKind?_eq_some {n : Node} {kind : CursorKind} (h : n.directiveKind? = some kind) :
    kind.isDirective = true ∧ n.isOneOf Node.directiveKinds = true := by
  have table : ∀ entry ∈ Node.directiveCursors,
      entry.2.isDirective = true ∧ Node.directiveKinds.contains entry.1 = true := by decide
  exact table _ (Node.mem_of_lookup_eq_some h)

/-- A node that is no directive shows in a record without directives as in a detailed one. -/
theorem kindExposure_options (options : Options) (source : Source) (p : Place) :
    p.kindExposure options source =
      if !options.contains .preprocessingRecord &&
        (p.kindExposure .preprocessingRecord source).isDirective then .hidden
      else p.kindExposure .preprocessingRecord source := by
  have hall : Options.preprocessingRecord.contains .preprocessingRecord = true := rfl
  rw [kindExposure, kindExposure]
  cases h : p.node.directiveKind? with
  | none => simp [isDirective_plainExposure]
  | some kind =>
    simp only [hall, ite_true, Exposure.isDirective_cursor, (directiveKind?_eq_some h).1]
    cases options.contains .preprocessingRecord <;> rfl

/-- A kind that a node asks for, other than that of a directive, is the one for its plain
exposure. -/
theorem plainExposure_of_kindExposure {options : Options} {source : Source} {p : Place}
    {kind : CursorKind} (h : p.kindExposure options source = .cursor kind)
    (hkind : kind.isDirective = false) : p.plainExposure source = .cursor kind := by
  rw [kindExposure] at h
  split at h
  · rename_i directive hdirective
    split at h
    · rw [← Exposure.cursor.inj h, (directiveKind?_eq_some hdirective).1] at hkind
      contradiction
    · contradiction
  · exact h

theorem isOneOf_of_isDirective {options : Options} {source : Source} {p : Place}
    (h : (p.exposure options source).isDirective = true) :
    p.node.isOneOf Node.directiveKinds = true := by
  cases hk : p.node.directiveKind? with
  | some kind => exact (directiveKind?_eq_some hk).2
  | none =>
    have hnone : (p.exposure options source).isDirective = false := by
      simp only [exposure, kindExposure, hk]
      repeat' split
      all_goals simp [CursorKind.isDirective, isDirective_declaratorExposure,
        isDirective_plainExposure]
    rw [hnone] at h
    cases h

/-- Nothing below a directive is shown. -/
theorem exposure_below_directive {options : Options} {source : Source} {p q : Place}
    (h : p.node.isOneOf Node.directiveKinds = true) (hq : q ∈ p.children) :
    q.exposure options source = .hidden := by
  obtain ⟨index, child, -, rfl⟩ := mem_children_iff.1 hq
  simp [exposure, below, h]

/-- What the options have to say of a place comes after all else: a body may be skipped, and a
directive may be left out. -/
theorem exposure_options (options : Options) (source : Source) (p : Place) :
    p.exposure options source =
      if options.contains .skipBodies && p.isBody then .hidden
      else if !options.contains .preprocessingRecord &&
        (p.exposure .preprocessingRecord source).isDirective then .hidden
      else p.exposure .preprocessingRecord source := by
  cases ht : p.trail with
  | nil =>
    have hbody : p.isBody = false := by simp [isBody, parent?, ht]
    simp [exposure, ht, hbody, CursorKind.isDirective]
  | cons crumb trail =>
    have hskip : Options.preprocessingRecord.contains .skipBodies = false := rfl
    have hdeclarator := isDirective_declaratorExposure crumb.parent p.node
    simp only [exposure, ht, hskip, Bool.false_and, Bool.false_eq_true, if_false]
    rw [kindExposure_options options]
    by_cases hbody : (options.contains .skipBodies && p.isBody) = true
    · simp [hbody]
    · rw [if_neg hbody, if_neg hbody]
      repeat' split
      all_goals simp_all

end Place

end CodeCursor
