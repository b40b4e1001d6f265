import CodeCursor.Proofs.DeclaredNames
import CodeCursor.Proofs.OptionFilters

/-!
# Bodies that are skipped

The option that leaves bodies out hides those compound statements that stand directly in a function
or method definition.  A body of another form, such as one with handlers for exceptions, is
flattened instead, and what it holds shows as if nothing had been skipped.
-/

namespace CodeCursor.SourceUnit

/-- The same parse with all bodies. -/
def withBodies (u : SourceUnit) : SourceUnit :=
  u.under (u.options.without .skipBodies)

variable {u : SourceUnit} {p q : Place}

theorem exposure_of_isBody (hskip : u.options.contains .skipBodies = true)
    (hbody : p.isBody = true) : u.exposure p = .hidden := by
  rw [exposure, Place.exposure_options, hskip, hbody]
  rfl

theorem exposure_withBodies (hbody : p.isBody = false) :
    u.withBodies.exposure p = u.exposure p := by
  have hrecord : (u.options.without .skipBodies).contains .preprocessingRecord =
      u.options.contains .preprocessingRecord :=
    Options.contains_without_of_disjoint (by decide)
  have hwith : u.withBodies.exposure p =
      p.exposure (u.options.without .skipBodies) u.source := rfl
  rw [hwith, exposure, Place.exposure_options (u.options.without .skipBodies),
    Place.exposure_options u.options, hbody, hrecord]
  simp only [Bool.and_false]

theorem shown?_withBodies (h : p.lineage.any Place.isBody = false) :
    u.withBodies.shown? p = u.shown? p := by
  rw [Place.lineage, List.any_cons, Bool.or_eq_false_iff, List.any_eq_false] at h
  have hcovered : u.withBodies.isCovered p = u.isCovered p := by
    rw [Bool.eq_iff_iff, isCovered, isCovered, List.any_eq_true, List.any_eq_true]
    apply exists_congr
    intro a
    apply and_congr_right
    intro ha
    rw [exposure_withBodies (Bool.eq_false_iff.2 (h.2 a ha))]
  rw [shown?, shown?, hcovered, exposure_withBodies h.1]

/-- Nothing shows at or below a compound body. -/
theorem lineage_of_shown? {kind : CursorKind} (hskip : u.options.contains .skipBodies = true)
    (h : u.shown? p = some kind) : p.lineage.any Place.isBody = false := by
  obtain ⟨hcovered, hx⟩ := shown?_eq_some_iff.1 h
  rw [Place.lineage, List.any_cons, Bool.or_eq_false_iff, List.any_eq_false]
  constructor
  · rw [← Bool.not_eq_true]
    intro hbody
    rw [exposure_of_isBody hskip hbody] at hx
    contradiction
  · intro a ha hbody
    have hhidden : u.exposure a = .hidden := exposure_of_isBody hskip hbody
    have hroot : a.isRoot = false := isRoot_eq_false (u := u) (by rw [hhidden]; rfl)
    have hnot := List.any_eq_false.1 hcovered a ha
    rw [hroot, hhidden] at hnot
    contradiction

/-- A body that is a compound statement is left out with all below it.  From a body of another
form nothing is left out but what stands in the compound bodies of definitions. -/
theorem compound_body_skipped {u : SourceUnit} {definition body : Place}
    (hskip : u.options.contains .skipBodies = true)
    (hdefinition : definition.node.isOneOf Node.definitionKinds = true)
    (hbody : body ∈ definition.children) :
    (body.node.kind = "compound_statement" → ∀ c ∈ u.root.preorder, c.place ∉ body.preorder) ∧
    ∀ c ∈ u.withBodies.root.preorder, c.place ∈ body.preorder →
      (c.under u.options ∈ u.root.preorder ↔ c.place.lineage.any Place.isBody = false) := by
  constructor
  · intro hkind c hc hbelow
    have hisBody : body.isBody = true := by
      rw [Place.isBody, Place.parent?_of_mem_children hbody, hkind]
      exact hdefinition
    have hnone := List.any_eq_false.1 (lineage_of_shown? hskip (mem_preorder_root.1 hc).2.2)
    exact hnone body (Place.mem_lineage_of_mem_preorder hbelow) hisBody
  · intro c hc _
    obtain ⟨hunit, hin, hshown⟩ := mem_preorder_root.1 hc
    constructor
    · intro hkept
      exact lineage_of_shown? hskip (mem_preorder_root.1 hkept).2.2
    · intro hlineage
      rw [shown?_withBodies hlineage] at hshown
      refine mem_preorder_root.2 ⟨?_, hin, hshown⟩
      rw [Cursor.under, hunit]
      rfl

/-- Two functions, the second with a handler for exceptions as its body. -/
def guarded : SourceUnit where
  path := "unit.cpp"
  dialect := .cpp
  source := .ofString "void h() \x7b \x7d void f() try \x7b g(); \x7d catch (...) \x7b \x7d"
  tree :=
    .node ⟨"translation_unit", none, true, false, false, false, 0, 50⟩
      [.node ⟨"function_definition", none, true, false, false, false, 0, 12⟩
        [.node ⟨"primitive_type", some "type", true, false, false, false, 0, 4⟩ [],
         .node ⟨"function_declarator", some "declarator", true, false, false, false, 5, 8⟩
          [.node ⟨"identifier", some "declarator", true, false, false, false, 5, 6⟩ [],
           .node ⟨"parameter_list", some "parameters", true, false, false, false, 6, 8⟩
            [.node ⟨"(", none, false, false, false, false, 6, 7⟩ [],
             .node ⟨")", none, false, false, false, false, 7, 8⟩ []]],
         .node ⟨"compound_statement", some "body", true, false, false, false, 9, 12⟩
          [.node ⟨"\x7b", none, false, false, false, false, 9, 10⟩ [],
           .node ⟨"\x7d", none, false, false, false, false, 11, 12⟩ []]],
       .node ⟨"function_definition", none, true, false, false, false, 13, 50⟩
        [.node ⟨"primitive_type", some "type", true, false, false, false, 13, 17⟩ [],
         .node ⟨"function_declarator", some "declarator", true, false, false, false, 18, 21⟩
          [.node ⟨"identifier", some "declarator", true, false, false, false, 18, 19⟩ [],
           .node ⟨"parameter_list", some "parameters", true, false, false, false, 19, 21⟩
            [.node ⟨"(", none, false, false, false, false, 19, 20⟩ [],
             .node ⟨")", none, false, false, false, false, 20, 21⟩ []]],
         .node ⟨"try_statement", some "body", true, false, false, false, 22, 50⟩
          [.node ⟨"try", none, false, false, false, false, 22, 25⟩ [],
           .node ⟨"compound_statement", some "body", true, false, false, false, 26, 34⟩
            [.node ⟨"\x7b", none, false, false, false, false, 26, 27⟩ [],
             .node ⟨"expression_statement", none, true, false, false, false, 28, 32⟩
              [.node ⟨"call_expression", none, true, false, false, false, 28, 31⟩
                [.node ⟨"identifier", some "function", true, false, false, false, 28, 29⟩ [],
                 .node ⟨"argument_list", some "arguments", true, false, false, false, 29, 31⟩
                  [.node ⟨"(", none, false, false, false, false, 29, 30⟩ [],
                   .node ⟨")", none, false, false, false, false, 30, 31⟩ []]],
               .node ⟨";", none, false, false, false, false, 31, 32⟩ []],
             .node ⟨"\x7d", none, false, false, false, false, 33, 34⟩ []],
           .node ⟨"catch_clause", none, true, false, false, false, 35, 50⟩
            [.node ⟨"catch", none, false, false, false, false, 35, 40⟩ [],
             .node ⟨"parameter_list", some "parameters", true, false, false, false, 41, 46⟩
              [.node ⟨"(", none, false, false, false, false, 41, 42⟩ [],
               .node ⟨"...", none, false, false, false, false, 42, 45⟩ [],
               .node ⟨")", none, false, false, false, false, 45, 46⟩ []],
             .node ⟨"compound_statement", some "body", true, false, false, false, 47, 50⟩
              [.node ⟨"\x7b", none, false, false, false, false, 47, 48⟩ [],
               .node ⟨"\x7d", none, false, false, false, false, 49, 50⟩ []]]]]]
  options := .skipBodies

/-- The first body is left out. -/
theorem compound_body_skipped_guarded :
    ∃ definition body, (Place.root guarded.tree).follow? [0] = some definition ∧
      definition.node.isOneOf Node.definitionKinds = true ∧ definition.child? 2 = some body ∧
      guarded.options.contains .skipBodies = true ∧ body.node.kind = "compound_statement" ∧
      ∀ c ∈ guarded.root.preorder, c.place ∉ body.preorder := by
  have hdefinition : (((Place.root guarded.tree).follow? [0]).get rfl).node.isOneOf
      Node.definitionKinds = true := rfl
  have hskipped := compound_body_skipped (u := guarded) rfl hdefinition
    (Place.mem_children_iff_child?.2 ⟨2, rfl⟩)
  exact ⟨_, _, rfl, hdefinition, rfl, rfl, rfl, hskipped.1 rfl⟩

/-- What is guarded in the second body shows. -/
theorem body_shown_guarded :
    ¬∀ definition : Place, definition.In guarded.tree →
      definition.node.isOneOf Node.definitionKinds = true →
      ∀ body ∈ definition.children, body.node.inField "body" = true →
      ∀ c ∈ guarded.root.preorder, c.place ∉ body.preorder := by
  intro h
  have hplace : (Place.root guarded.tree).follow? [1] = some _ := rfl
  have hin : Place.In guarded.tree _ := Place.In.root.of_follow? hplace
  have hbody := hin.of_mem_children (Place.mem_children_iff_child?.2 ⟨2, rfl⟩)
  have hguarded := hbody.of_mem_children (Place.mem_children_iff_child?.2 ⟨1, rfl⟩)
  have hc : _ ∈ guarded.root.preorder := mem_preorder_of_shown? hguarded rfl
  exact h _ hin rfl _ (Place.mem_children_iff_child?.2 ⟨2, rfl⟩) rfl _ hc
    (Place.mem_preorder_of_mem_children (Place.mem_children_iff_child?.2 ⟨1, rfl⟩))

end CodeCursor.SourceUnit
