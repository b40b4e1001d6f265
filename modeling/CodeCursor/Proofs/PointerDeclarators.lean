import CodeCursor.Proofs.FunctionDeclarators

/-!
# Pointers among declarators

Declarators are read from the name outwards, so what is nearest to the name says what is declared:
behind parentheses, a pointer.  The test for a function goes inwards instead and stops at the first
function declarator that it meets.  A pointer inside of one, as a pointer to a function is written,
is taken for a function.
-/

namespace CodeCursor

/-- The kind of what a declaration declares unless it is a function. -/
def Node.valueKind (declaration : Node) : CursorKind :=
  if declaration.kind == "field_declaration" then .fieldDecl else .varDecl

namespace Place

/-- The kind that a declaration is shown as unless it is one of a function.  One of several
declarators is shown as its parent has it. -/
def valueKind (p : Place) : CursorKind :=
  match p.parent? with
  | none => p.node.valueKind
  | some parent =>
    if p.node.inField "declarator" && decide (1 < parent.node.declaratorCount) then
      parent.node.valueKind
    else p.node.valueKind

/-- The nearest place above that is no pair of parentheses around a declarator. -/
def beyondParentheses? (p : Place) : Option Place :=
  p.ancestors.find? (·.node.kind != "parenthesized_declarator")

/-- A function declarator around a name stands outside of a pointer that is nearest to the name. -/
theorem mem_ancestors_of_functionDeclarator {name pointer f : Place}
    (hpointer : name.beyondParentheses? = some pointer)
    (hkind : pointer.node.kind = "pointer_declarator") (hf : f ∈ name.ancestors)
    (hfunction : f.node.kind = "function_declarator") : f ∈ pointer.ancestors := by
  obtain ⟨-, before, after, hsplit, hbefore⟩ := List.find?_eq_some_iff_append.1 hpointer
  rw [hsplit, List.mem_append, List.mem_cons] at hf
  rcases hf with hf | rfl | hf
  · have hparentheses := hbefore f hf
    rw [hfunction] at hparentheses
    contradiction
  · rw [hkind] at hfunction
    contradiction
  · rwa [← ancestors_of_split hsplit]

theorem ite_eq_value_iff (b : Bool) {function value : CursorKind} (h : function ≠ value) :
    (if b then function else value) = value ↔ b = false := by
  cases b
  · simp
  · simp [h]

theorem eq_valueKind_of_declaratorExposure {parent declarator : Node} {kind : CursorKind}
    (h : declaratorExposure parent declarator = .cursor kind) :
    kind = parent.valueKind ↔ declarator.declaresFunction = false := by
  unfold declaratorExposure at h
  split at h
  · rename_i hkind
    obtain rfl := Exposure.cursor.inj h
    rw [Node.valueKind, hkind]
    exact ite_eq_value_iff _ (by decide)
  · rename_i hkind
    obtain rfl := Exposure.cursor.inj h
    rw [Node.valueKind, hkind]
    exact ite_eq_value_iff _ (by decide)
  · contradiction

theorem eq_valueKind_of_declarationExposure {p : Place} {function kind : CursorKind}
    (h : p.declarationExposure function p.node.valueKind = .cursor kind)
    (hne : function ≠ p.node.valueKind) :
    kind = p.node.valueKind ↔ p.node.declaresFunction = false := by
  rw [declarationExposure] at h
  split at h
  · obtain rfl := Exposure.cursor.inj h
    exact ite_eq_value_iff _ hne
  · contradiction

theorem eq_valueKind_of_kindExposure {options : Options} {source : Source} {p : Place}
    {kind : CursorKind} (h : p.kindExposure options source = .cursor kind)
    (hsplit : p.node.isOneOf Node.splitKinds = true) :
    kind = p.node.valueKind ↔ p.node.declaresFunction = false := by
  rcases Node.isOneOf_splitKinds.1 hsplit with hkind | hkind
  · have hvalue : p.node.valueKind = .varDecl := by
      rw [Node.valueKind, hkind]
      rfl
    rw [kindExposure_declaration options source hkind, ← hvalue] at h
    apply eq_valueKind_of_declarationExposure h
    intro heq
    have hfunction := p.isFunction_functionKind
    rw [heq, hvalue] at hfunction
    contradiction
  · have hvalue : p.node.valueKind = .fieldDecl := by
      rw [Node.valueKind, hkind]
      rfl
    rw [kindExposure_fields options source hkind, ← hvalue] at h
    apply eq_valueKind_of_declarationExposure h
    rw [hvalue]
    decide

end Place

namespace SourceUnit

theorem eq_valueKind_iff {u : SourceUnit} {c : Cursor} (hc : c ∈ u.root.preorder)
    (hroot : c.place.isRoot = false) (hsplit : c.place.node.isOneOf Node.splitKinds = true) :
    c.kind = c.place.valueKind ↔ c.place.node.declaresFunction = false := by
  obtain ⟨parent, hparent, hcases⟩ := exposure_of_cursor hc hroot
  rw [Place.valueKind, Place.parent?_of_mem_children hparent]
  rcases hcases with ⟨hfield, hcount, h⟩ | ⟨hcount, h⟩
  · simp only [hfield, decide_eq_true hcount, Bool.and_self, if_true]
    exact Place.eq_valueKind_of_declaratorExposure h
  · have hone : (c.place.node.inField "declarator" &&
        decide (1 < parent.node.declaratorCount)) = false := by
      cases hfield : c.place.node.inField "declarator" with
      | false => rfl
      | true => exact decide_eq_false (Nat.not_lt.2 (hcount hfield))
    simp only [hone, Bool.false_eq_true, if_false]
    exact Place.eq_valueKind_of_kindExposure h hsplit

/-- A declaration of a pointer with one declarator is shown as a variable or a field exactly if no
function declarator is reached from the declarator through fields for declarators.  Unless nodes
that have other rules for their names hold declarators, those that are reached wrap the pointer. -/
theorem pointer_shown_as_value_iff {u : SourceUnit} {c : Cursor} {d name pointer : Place}
    (hc : c ∈ u.root.preorder) (hroot : c.place.isRoot = false)
    (hsplit : c.place.node.isOneOf Node.splitKinds = true)
    (hcount : c.place.node.declaratorCount = 1) (hd : d ∈ c.place.children)
    (hfield : d.node.inField "declarator" = true) (hname : d.declaredPlace? = some name)
    (hpointer : name.beyondParentheses? = some pointer)
    (hkind : pointer.node.kind = "pointer_declarator") :
    (c.kind = c.place.valueKind ↔
      ∀ f, d.DeclaratorWay f → f.node.kind ≠ "function_declarator") ∧
    ((∀ x, d.DeclaratorWay x → x.node.isOneOf Node.ownRuleKinds = true → x.declarator? = none) →
      ∀ f, d.DeclaratorWay f → f.node.kind = "function_declarator" → f ∈ pointer.ancestors) := by
  have hfirst : c.place.node.childIn? "declarator" = some d.node := by
    rw [Place.childIn?_declarator, Place.declarator?_of_count hcount hd hfield]
    rfl
  constructor
  · rw [eq_valueKind_iff hc hroot hsplit, Node.declaresFunction_of_isSplit hsplit hfirst,
      ← Bool.not_eq_true, Place.declaresFunction_iff]
    simp only [not_exists, not_and, ne_eq]
  · intro hleaves f way hfunction
    have hsame : f.declaredPlace? = some name := (way.declaredPlace?_eq hleaves).symm.trans hname
    have hnoname : f.node.isOneOf Node.simpleNameKinds = false := by
      rw [Node.isOneOf, hfunction]
      rfl
    have hwraps : f ∈ name.ancestors := Place.mem_ancestors_of_declaredPlace? hsame hnoname
    exact Place.mem_ancestors_of_functionDeclarator hpointer hkind hwraps hfunction

/-- Two variables, a pointer to a function and a pointer to a number. -/
def pointers : SourceUnit where
  path := "unit.c"
  dialect := .c
  source := .ofString "int (*fp)(int); int *p;"
  tree :=
    .node ⟨"translation_unit", none, true, false, false, false, 0, 23⟩
      [.node ⟨"declaration", none, true, false, false, false, 0, 15⟩
        [.node ⟨"primitive_type", some "type", true, false, false, false, 0, 3⟩ [],
         .node ⟨"function_declarator", some "declarator", true, false, false, false, 4, 14⟩
          [.node ⟨"parenthesized_declarator", some "declarator", true, false, false, false, 4, 9⟩
            [.node ⟨"(", none, false, false, false, false, 4, 5⟩ [],
             .node ⟨"pointer_declarator", none, true, false, false, false, 5, 8⟩
              [.node ⟨"*", none, false, false, false, false, 5, 6⟩ [],
               .node ⟨"identifier", some "declarator", true, false, false, false, 6, 8⟩ []],
             .node ⟨")", none, false, false, false, false, 8, 9⟩ []],
           .node ⟨"parameter_list", some "parameters", true, false, false, false, 9, 14⟩
            [.node ⟨"(", none, false, false, false, false, 9, 10⟩ [],
             .node ⟨"parameter_declaration", none, true, false, false, false, 10, 13⟩
              [.node ⟨"primitive_type", some "type", true, false, false, false, 10, 13⟩ []],
             .node ⟨")", none, false, false, false, false, 13, 14⟩ []]],
         .node ⟨";", none, false, false, false, false, 14, 15⟩ []],
       .node ⟨"declaration", none, true, false, false, false, 16, 23⟩
        [.node ⟨"primitive_type", some "type", true, false, false, false, 16, 19⟩ [],
         .node ⟨"pointer_declarator", some "declarator", true, false, false, false, 20, 22⟩
          [.node ⟨"*", none, false, false, false, false, 20, 21⟩ [],
           .node ⟨"identifier", some "declarator", true, false, false, false, 21, 22⟩ []],
         .node ⟨";", none, false, false, false, false, 22, 23⟩ []]]
  options := .standard

/-- No function declarator is reached from the pointer to a number. -/
theorem pointer_shown_as_value_iff_pointers :
    ∃ c ∈ pointers.root.preorder, ∃ d ∈ c.place.children, ∃ name pointer,
      (Place.root pointers.tree).follow? [1] = some c.place ∧ c.place.isRoot = false ∧
      c.place.node.isOneOf Node.splitKinds = true ∧ c.place.node.declaratorCount = 1 ∧
      d.node.inField "declarator" = true ∧ d.declaredPlace? = some name ∧
      name.beyondParentheses? = some pointer ∧ pointer.node.kind = "pointer_declarator" ∧
      c.kind = .varDecl ∧ c.place.valueKind = .varDecl ∧
      ∀ f, d.DeclaratorWay f → f.node.kind ≠ "function_declarator" := by
  have hplace : (Place.root pointers.tree).follow? [1] = some _ := rfl
  have hc : _ ∈ pointers.root.preorder :=
    mem_preorder_of_shown? (Place.In.root.of_follow? hplace) rfl
  have hexact := pointer_shown_as_value_iff hc rfl rfl rfl
    (Place.mem_children_iff_child?.2 ⟨1, rfl⟩) rfl rfl rfl rfl
  exact ⟨_, hc, _, Place.mem_children_iff_child?.2 ⟨1, rfl⟩, _, _, hplace, rfl, rfl, rfl, rfl, rfl,
    rfl, rfl, rfl, rfl, hexact.1.1 rfl⟩

/-- The pointer to a function is nearest to its name as well, but it is shown as a function. -/
theorem pointer_taken_for_function :
    ¬∀ c ∈ pointers.root.preorder, c.place.isRoot = false →
      c.place.node.isOneOf Node.splitKinds = true → c.place.node.declaratorCount = 1 →
      ∀ d ∈ c.place.children, d.node.inField "declarator" = true →
      ∀ name pointer, d.declaredPlace? = some name → name.beyondParentheses? = some pointer →
      d ∈ pointer.lineage → pointer.node.kind = "pointer_declarator" →
      c.kind = c.place.valueKind := by
  intro h
  have hplace : (Place.root pointers.tree).follow? [0] = some _ := rfl
  have hc : _ ∈ pointers.root.preorder :=
    mem_preorder_of_shown? (Place.In.root.of_follow? hplace) rfl
  have hvalue := h _ hc rfl rfl rfl _ (Place.mem_children_iff_child?.2 ⟨1, rfl⟩) rfl _ _ rfl rfl
    (List.mem_cons_of_mem _ (List.mem_cons_of_mem _ List.mem_cons_self)) rfl
  contradiction

end SourceUnit

end CodeCursor
