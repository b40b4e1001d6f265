import CodeCursor.Proofs.NameBearers

/-!
# Function declarators around a name

Whether a declaration is one of a function is found out from its declarator inwards, through the
fields for declarators only.  The search for the declared name goes further: where a declarator
keeps what it wraps in no such field, it takes the first child that can give a name.  A function
declarator that can be reached only so does not make the declaration one of a function.
-/

namespace CodeCursor

namespace Node

theorem anyFunctionIn_eq (nodes : List Node) :
    anyFunctionIn nodes = (nodes.find? (·.inField "declarator")).any declaresFunction := by
  induction nodes with
  | nil => rfl
  | cons n rest ih =>
    rw [anyFunctionIn, List.find?_cons]
    cases n.inField "declarator" with
    | true => rfl
    | false => exact ih

theorem declaresFunction_eq (n : Node) :
    n.declaresFunction =
      (n.kind == "function_declarator" || (n.childIn? "declarator").any declaresFunction) := by
  obtain ⟨label, children⟩ := n
  rw [declaresFunction, anyFunctionIn_eq]
  rfl

/-- A declaration is one of a function if its first declarator is. -/
theorem declaresFunction_of_isSplit {n d : Node} (hsplit : n.isOneOf splitKinds = true)
    (hd : n.childIn? "declarator" = some d) : n.declaresFunction = d.declaresFunction := by
  have hkind : (n.kind == "function_declarator") = false := by
    rw [beq_eq_false_iff_ne]
    intro hkind
    rw [isOneOf, hkind] at hsplit
    contradiction
  rw [declaresFunction_eq, hkind, hd]
  rfl

end Node

namespace Place

/-- The first declarator that the place holds. -/
def declarator? (p : Place) : Option Place :=
  p.children.find? (·.node.inField "declarator")

theorem childIn?_declarator (p : Place) :
    p.node.childIn? "declarator" = p.declarator?.map node :=
  p.node_childIn? "declarator"

/-- The way inwards, each time to the first declarator that is held. -/
inductive DeclaratorWay : Place → Place → Prop
  | here (p : Place) : DeclaratorWay p p
  | inward {p q f : Place} (first : p.declarator? = some q) (way : DeclaratorWay q f) :
      DeclaratorWay p f

theorem declarator?_eq_bind (p : Place) :
    p.declarator? = (p.node.indexIn? "declarator").bind p.child? :=
  p.childIn?_eq_bind "declarator"

/-- The way inwards leads along the way to the declared name, as long as it passes through no node
with a rule of its own for its name. -/
theorem DeclaratorWay.declaredPlace?_eq {d f : Place} (way : d.DeclaratorWay f)
    (hleaves : ∀ x, d.DeclaratorWay x → x.node.isOneOf Node.ownRuleKinds = true →
      x.declarator? = none) :
    d.declaredPlace? = f.declaredPlace? := by
  induction way with
  | here => rfl
  | @inward p q f first way ih =>
    have hkind : p.node.isOneOf Node.ownRuleKinds = false := by
      by_contra hown
      rw [hleaves p (.here p) (eq_true_of_ne_false hown)] at first
      contradiction
    rw [declarator?_eq_bind] at first
    obtain ⟨index, hindex, hchild⟩ := Option.bind_eq_some_iff.1 first
    rw [declaredPlace?_eq_of_nameRule (Node.nameRule_of_indexIn? hkind hindex) hchild]
    apply ih
    intro x hx
    rw [← declarator?_eq_bind] at first
    exact hleaves x (.inward first hx)

/-- The declarator of a place that holds one is the first one. -/
theorem declarator?_of_count {p d : Place} (hcount : p.node.declaratorCount = 1)
    (hd : d ∈ p.children) (hfield : d.node.inField "declarator" = true) :
    p.declarator? = some d := by
  have hlength : (p.children.filter (·.node.inField "declarator")).length = 1 := by
    rw [← List.countP_eq_length_filter, ← hcount, Node.declaratorCount, ← children_map_node,
      List.countP_map]
    rfl
  obtain ⟨e, he⟩ := List.length_eq_one_iff.1 hlength
  have hmem : d ∈ p.children.filter (·.node.inField "declarator") :=
    List.mem_filter.2 ⟨hd, hfield⟩
  rw [he] at hmem
  obtain rfl := List.mem_singleton.1 hmem
  rw [declarator?, ← List.head?_filter, he]
  rfl

theorem declaresFunction_iff {p : Place} :
    p.node.declaresFunction = true ↔
      ∃ f, p.DeclaratorWay f ∧ f.node.kind = "function_declarator" := by
  induction p using Place.induction with
  | step p ih =>
    rw [Node.declaresFunction_eq, childIn?_declarator, Bool.or_eq_true, beq_iff_eq]
    constructor
    · rintro (hkind | hinner)
      · exact ⟨p, .here p, hkind⟩
      · cases hq : p.declarator? with
        | none => simp [hq] at hinner
        | some q =>
          rw [hq] at hinner
          obtain ⟨f, hway, hkind⟩ := (ih q (List.mem_of_find?_eq_some hq)).1 hinner
          exact ⟨f, .inward hq hway, hkind⟩
    · rintro ⟨f, hway, hkind⟩
      cases hway with
      | here => exact .inl hkind
      | @inward _ q _ first way =>
        right
        rw [first]
        exact (ih q (List.mem_of_find?_eq_some first)).2 ⟨f, way, hkind⟩

theorem isFunction_ite (b : Bool) {function value : CursorKind} (hf : function.isFunction = true)
    (hv : value.isFunction = false) : (if b then function else value).isFunction = b := by
  cases b
  · exact hv
  · exact hf

theorem isFunction_of_declarationExposure {p : Place} {function value kind : CursorKind}
    (h : p.declarationExposure function value = .cursor kind) (hf : function.isFunction = true)
    (hv : value.isFunction = false) : kind.isFunction = p.node.declaresFunction := by
  rw [declarationExposure] at h
  split at h
  · injection h with h
    rw [← h]
    exact isFunction_ite _ hf hv
  · contradiction

theorem isFunction_of_kindExposure {options : Options} {source : Source} {p : Place}
    {kind : CursorKind} (h : p.kindExposure options source = .cursor kind)
    (hsplit : p.node.isOneOf Node.splitKinds = true) :
    kind.isFunction = p.node.declaresFunction := by
  rcases kindExposure_of_isSplit options source hsplit with hx | hx
  · exact isFunction_of_declarationExposure (hx.symm.trans h) p.isFunction_functionKind rfl
  · exact isFunction_of_declarationExposure (hx.symm.trans h) rfl rfl

theorem isFunction_of_declaratorExposure {parent declarator : Node} {kind : CursorKind}
    (h : declaratorExposure parent declarator = .cursor kind) :
    kind.isFunction = declarator.declaresFunction := by
  unfold declaratorExposure at h
  split at h
  · injection h with h
    rw [← h]
    exact isFunction_ite _ rfl rfl
  · injection h with h
    rw [← h]
    exact isFunction_ite _ rfl rfl
  · contradiction

/-- The nearest place above a name that is neither a longer name nor a pair of parentheses. -/
def nearestWrapper? (name : Place) : Option Place :=
  name.ancestors.find? fun a =>
    !a.node.isOneOf ("parenthesized_declarator" :: Node.composedNameKinds)

end Place

namespace SourceUnit

theorem isFunction_eq_declaresFunction {u : SourceUnit} {c : Cursor} (hc : c ∈ u.root.preorder)
    (hroot : c.place.isRoot = false) (hsplit : c.place.node.isOneOf Node.splitKinds = true) :
    c.kind.isFunction = c.place.node.declaresFunction := by
  obtain ⟨parent, -, ⟨-, -, h⟩ | ⟨-, h⟩⟩ := exposure_of_cursor hc hroot
  · exact Place.isFunction_of_declaratorExposure h
  · exact Place.isFunction_of_kindExposure h hsplit

/-- A declaration with one declarator is a function exactly if a function declarator is reached
from the declarator through fields for declarators. -/
theorem isFunction_iff_declaratorWay {u : SourceUnit} {c : Cursor} {d : Place}
    (hc : c ∈ u.root.preorder) (hroot : c.place.isRoot = false)
    (hsplit : c.place.node.isOneOf Node.splitKinds = true)
    (hcount : c.place.node.declaratorCount = 1) (hd : d ∈ c.place.children)
    (hfield : d.node.inField "declarator" = true) :
    c.kind.isFunction = true ↔ ∃ f, d.DeclaratorWay f ∧ f.node.kind = "function_declarator" := by
  have hfirst := Place.declarator?_of_count hcount hd hfield
  rw [isFunction_eq_declaresFunction hc hroot hsplit, Place.declaresFunction_iff]
  constructor
  · rintro ⟨f, hway, hf⟩
    cases hway with
    | here =>
      rw [Node.isOneOf, hf] at hsplit
      contradiction
    | inward first way =>
      obtain rfl := Option.some.inj (first.symm.trans hfirst)
      exact ⟨f, way, hf⟩
  · rintro ⟨f, way, hf⟩
    exact ⟨f, .inward hfirst way, hf⟩

/-- Two functions, one that returns a reference and one that returns a pointer. -/
def returning : SourceUnit where
  path := "unit.cpp"
  dialect := .cpp
  source := .ofString "int &f(); int *g();"
  tree :=
    .node ⟨"translation_unit", none, true, false, false, false, 0, 19⟩
      [.node ⟨"declaration", none, true, false, false, false, 0, 9⟩
        [.node ⟨"primitive_type", some "type", true, false, false, false, 0, 3⟩ [],
         .node ⟨"reference_declarator", some "declarator", true, false, false, false, 4, 8⟩
          [.node ⟨"&", none, false, false, false, false, 4, 5⟩ [],
           .node ⟨"function_declarator", none, true, false, false, false, 5, 8⟩
            [.node ⟨"identifier", some "declarator", true, false, false, false, 5, 6⟩ [],
             .node ⟨"parameter_list", some "parameters", true, false, false, false, 6, 8⟩
              [.node ⟨"(", none, false, false, false, false, 6, 7⟩ [],
               .node ⟨")", none, false, false, false, false, 7, 8⟩ []]]],
         .node ⟨";", none, false, false, false, false, 8, 9⟩ []],
       .node ⟨"declaration", none, true, false, false, false, 10, 19⟩
        [.node ⟨"primitive_type", some "type", true, false, false, false, 10, 13⟩ [],
         .node ⟨"pointer_declarator", some "declarator", true, false, false, false, 14, 18⟩
          [.node ⟨"*", none, false, false, false, false, 14, 15⟩ [],
           .node ⟨"function_declarator", some "declarator", true, false, false, false, 15, 18⟩
            [.node ⟨"identifier", some "declarator", true, false, false, false, 15, 16⟩ [],
             .node ⟨"parameter_list", some "parameters", true, false, false, false, 16, 18⟩
              [.node ⟨"(", none, false, false, false, false, 16, 17⟩ [],
               .node ⟨")", none, false, false, false, false, 17, 18⟩ []]]],
         .node ⟨";", none, false, false, false, false, 18, 19⟩ []]]
  options := .standard

/-- The pointer leads to a function declarator. -/
theorem isFunction_iff_declaratorWay_returning :
    ∃ c ∈ returning.root.preorder, ∃ d ∈ c.place.children,
      (Place.root returning.tree).follow? [1] = some c.place ∧ c.place.isRoot = false ∧
      c.place.node.isOneOf Node.splitKinds = true ∧ c.place.node.declaratorCount = 1 ∧
      d.node.inField "declarator" = true ∧ c.kind.isFunction = true ∧
      ∃ f, d.DeclaratorWay f ∧ f.node.kind = "function_declarator" := by
  have hplace : (Place.root returning.tree).follow? [1] = some _ := rfl
  have hc : _ ∈ returning.root.preorder :=
    mem_preorder_of_shown? (Place.In.root.of_follow? hplace) rfl
  exact ⟨_, hc, _, Place.mem_children_iff_child?.2 ⟨1, rfl⟩, hplace, rfl, rfl, rfl, rfl, rfl,
    (isFunction_iff_declaratorWay hc rfl rfl rfl (Place.mem_children_iff_child?.2 ⟨1, rfl⟩) rfl).1
      rfl⟩

/-- The declarator around the name of the other function is a function declarator as well, but
the declaration is not taken for one of a function. -/
theorem function_overlooked_returning :
    ¬∀ c ∈ returning.root.preorder, c.place.node.isOneOf Node.splitKinds = true →
      c.place.node.declaratorCount = 1 → ∀ d ∈ c.place.children,
      d.node.inField "declarator" = true → ∀ name f, d.declaredPlace? = some name →
      name.nearestWrapper? = some f → d ∈ f.lineage → f.node.kind = "function_declarator" →
      c.kind.isFunction = true := by
  intro h
  have hplace : (Place.root returning.tree).follow? [0] = some _ := rfl
  have hc : _ ∈ returning.root.preorder :=
    mem_preorder_of_shown? (Place.In.root.of_follow? hplace) rfl
  have hfunction := h _ hc rfl rfl _ (Place.mem_children_iff_child?.2 ⟨1, rfl⟩) rfl _ _ rfl rfl
    (List.mem_cons_of_mem _ List.mem_cons_self) rfl
  contradiction

end SourceUnit

end CodeCursor
