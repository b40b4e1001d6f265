import CodeCursor.Proofs.NameBearers

/-!
# Identifiers of class headers

The header of a class, a category or a class extension can hold several identifiers: the class
itself, its superclass, the category.  One of them may be the name of the declaration, which shows
as the spelling of its cursor and not again below.  Each of the others is a child cursor, which
refers to a class.  Which one is the name is asked in two places, for the declaration and for the
child, and both get the same answer.
-/

namespace CodeCursor

namespace Cursor

/-- The children of a cursor that stand for a given place. -/
def childrenAt (c : Cursor) (p : Place) : List Cursor :=
  c.children.filter fun d => d.place.path == p.path

/-- Nothing that is contributed to the left or to the right of a place stands for it. -/
theorem filter_contributed_eq_nil {u : SourceUnit} {p : Place} {others : List Place}
    (h : ∀ q ∈ others, q.LeftOf p ∨ p.LeftOf q) :
    (others.flatMap u.contributed).filter (fun d => d.place.path == p.path) = [] := by
  apply List.filter_eq_nil_iff.2
  intro d hd heq
  obtain ⟨q, hq, hd⟩ := List.mem_flatMap.1 hd
  have hpath : d.place.path = p.path := beq_iff_eq.1 heq
  have hbelow := (SourceUnit.contributed_spec hd).2.1
  rcases h q hq with hleft | hright
  · have hlt := (hleft.of_preorder hbelow p.self_mem_preorder).path_lt
    exact List.lt_irrefl _ (hpath ▸ hlt)
  · have hlt := (hright.of_preorder p.self_mem_preorder hbelow).path_lt
    exact List.lt_irrefl _ (hpath ▸ hlt)

/-- What a place contributes stands for it if the place is exposed as a cursor, and otherwise for
places below it. -/
theorem filter_contributed_self (u : SourceUnit) (p : Place) :
    (u.contributed p).filter (fun d => d.place.path == p.path) =
      ((u.exposure p).kind?.map (⟨u, p, ·⟩ : CursorKind → Cursor)).toList := by
  rw [SourceUnit.contributed_eq]
  cases u.exposure p with
  | cursor kind => simp
  | hidden => simp
  | flattened =>
    simp only [Exposure.kind?_flattened, Option.map_none, Option.toList_none]
    apply List.filter_eq_nil_iff.2
    intro d hd heq
    obtain ⟨q, hq, hd⟩ := List.mem_flatMap.1 hd
    have hlt := Place.path_lt_of_mem_children hq (SourceUnit.contributed_spec hd).2.1
    rw [beq_iff_eq.1 heq] at hlt
    exact List.lt_irrefl _ hlt

/-- A child in the syntax tree is a child cursor, once, if it is exposed as a cursor, and none
otherwise. -/
theorem childrenAt_eq {c : Cursor} {p : Place} (hp : p ∈ c.place.children) :
    c.childrenAt p =
      ((c.unit.exposure p).kind?.map (⟨c.unit, p, ·⟩ : CursorKind → Cursor)).toList := by
  have hleft := c.place.children_leftOf
  obtain ⟨before, after, hsplit⟩ := List.append_of_mem hp
  rw [hsplit] at hleft
  obtain ⟨-, hafter, hbefore⟩ := List.pairwise_append.1 hleft
  rw [childrenAt, children_eq, hsplit, List.flatMap_append, List.flatMap_cons, List.filter_append,
    List.filter_append, filter_contributed_self,
    filter_contributed_eq_nil fun q hq => .inl (hbefore q hq p List.mem_cons_self),
    filter_contributed_eq_nil fun q hq => .inr ((List.pairwise_cons.1 hafter).1 q hq),
    List.nil_append, List.append_nil]

end Cursor

namespace Node

theorem isOneOf_classHeaderKinds {n : Node} :
    n.isOneOf classHeaderKinds = true ↔
      n.kind = "class_interface" ∨ n.kind = "class_implementation" := by
  simp [isOneOf, classHeaderKinds]

/-- A class header leaves out an identifier by which it is spelled. -/
theorem folds_of_classHeader {header name : Node} (h : header.isOneOf classHeaderKinds = true)
    (hname : name.kind = "identifier") : header.Folds name := by
  refine ⟨?isName, ?kind, fun _ => hname, ?split⟩
  case isName => rw [isName, isOneOf, hname]; decide
  all_goals rcases isOneOf_classHeaderKinds.1 h with hkind | hkind
  case kind => rw [hkind]; decide
  case kind => rw [hkind]; decide
  all_goals
    intro hsplit
    rw [isOneOf, hkind] at hsplit
    exact absurd hsplit (by decide)

end Node

namespace Place

variable {header p : Place}

/-- A child that a class header leaves out as its name is its declared name. -/
theorem declaredPlace?_of_namesParent (hheader : header.node.isOneOf Node.classHeaderKinds = true)
    (hp : p ∈ header.children) (h : p.namesParent = true) : header.declaredPlace? = some p := by
  obtain ⟨index, child, hchild, rfl⟩ := mem_children_iff.1 hp
  have hrule : (header.below index child).namesParent =
      ((header.node.isDeclarator || header.node.isName ||
          header.node.isOneOf Node.declarationKinds || header.node.isOneOf Node.directiveKinds) &&
        header.node.declaredName.map (·.path) == some [index]) := by
    rcases Node.isOneOf_classHeaderKinds.1 hheader with hkind | hkind
    · simp only [namesParent, below, hkind]
      rfl
    · simp only [namesParent, below, hkind]
      rfl
  rw [hrule, Bool.and_eq_true_iff, beq_iff_eq, Option.map_eq_some_iff] at h
  obtain ⟨-, found, hfound, hpath⟩ := h
  have hplace : header.child? index = some (header.below index child) :=
    child?_eq_some_iff.2 ⟨child, hchild, rfl⟩
  rw [declaredPlace?, hfound, Option.bind_some, hpath, follow?, hplace]
  rfl

/-- The kind of the cursor for an identifier of a class header that is not its name. -/
def headerReference (p : Place) : CursorKind :=
  if p.node.inField "superclass" then .objCSuperClassRef else .objCClassRef

theorem identifierKind_of_classHeader
    (hheader : header.node.isOneOf Node.classHeaderKinds = true) (hp : p ∈ header.children) :
    p.identifierKind = p.headerReference := by
  have hparent : p.parentIs "class_interface" || p.parentIs "class_implementation" := by
    simp only [parentIs, parentKind?, parent?_of_mem_children hp, Option.map_some]
    rcases Node.isOneOf_classHeaderKinds.1 hheader with hkind | hkind
    · rw [hkind]
      rfl
    · rw [hkind]
      rfl
  rw [identifierKind, if_pos hparent, headerReference]

/-- A class header is no directive, so it has no condition. -/
theorem isCondition_of_classHeader
    (hheader : header.node.isOneOf Node.classHeaderKinds = true) (hp : p ∈ header.children) :
    p.isCondition = false := by
  have hplain : Text.beginsWith header.node.kind "preproc_" = false := by
    rcases Node.isOneOf_classHeaderKinds.1 hheader with hkind | hkind
    · rw [hkind]
      decide
    · rw [hkind]
      decide
  simp [isCondition, parent?_of_mem_children hp, hplain]

/-- An identifier of a class header that is not its name shows as a reference to a class. -/
theorem exposure_of_classHeader (options : Options) (source : Source)
    (hheader : header.node.isOneOf Node.classHeaderKinds = true) (hp : p ∈ header.children)
    (hkind : p.node.kind = "identifier") (hnamed : p.node.label.named = true)
    (hpresent : p.node.label.missing = false) (hfield : p.node.inField "declarator" = false)
    (hname : header.declaredPlace? ≠ some p) :
    p.exposure options source = .cursor p.headerReference := by
  have hnot : p.namesParent = false :=
    eq_false_of_ne_true fun h => hname (declaredPlace?_of_namesParent hheader hp h)
  have hreference := identifierKind_of_classHeader hheader hp
  have hcondition := isCondition_of_classHeader hheader hp
  have hdirective : header.node.isOneOf Node.directiveKinds = false :=
    Node.isOneOf_eq_false hheader (by decide)
  obtain ⟨index, child, -, rfl⟩ := mem_children_iff.1 hp
  rw [node_below] at hkind hnamed hpresent hfield
  have hcomment : (child.kind == "comment") = false := by
    rw [hkind]
    decide
  have hbody : (header.below index child).isBody = false := by
    simp only [isBody, node_below, hkind]
    rfl
  have hshown : (header.below index child).kindExposure options source =
      .cursor (header.below index child).identifierKind := by
    simp only [kindExposure, plainExposure, Node.directiveKind?, node_below, hkind]
    rfl
  rw [exposure_below, hnamed, hpresent, hcomment, hdirective, hbody, hcondition, hfield, hnot,
    hshown, hreference]
  simp

/-- A class header that shows at all shows as a declaration with a name. -/
theorem spellsName_of_classHeader {options : Options} {source : Source} {kind : CursorKind}
    (hheader : header.node.isOneOf Node.classHeaderKinds = true)
    (h : header.kindExposure options source = .cursor kind) : kind.spellsName = true := by
  rcases Node.isOneOf_classHeaderKinds.1 hheader with hclass | hclass
  all_goals
    simp only [kindExposure, plainExposure, Node.directiveKind?, hclass] at h
    obtain rfl := Exposure.cursor.inj h
    split
    · rfl
    · rfl

end Place

namespace SourceUnit

theorem spellsName_of_classHeader {u : SourceUnit} {c : Cursor} (hc : c ∈ u.root.preorder)
    (hroot : c.place.isRoot = false)
    (hheader : c.place.node.isOneOf Node.classHeaderKinds = true) :
    c.kind.spellsName = true := by
  have hdeclarators : ∀ kind ∈ Place.declaratorCursors, kind.spellsName = true := by decide
  obtain ⟨parent, -, ⟨-, -, hx⟩ | ⟨-, hx⟩⟩ := exposure_of_cursor hc hroot
  · exact hdeclarators _ (Place.mem_declaratorCursors hx)
  · exact Place.spellsName_of_classHeader hheader hx

theorem spellName_of_identifier (u : SourceUnit) {name : Node} (h : name.kind = "identifier") :
    u.spellName name = u.textOf name := by
  simp only [spellName, h]
  rfl

theorem spelling_of_headerReference (u : SourceUnit) (p : Place) :
    (⟨u, p, p.headerReference⟩ : Cursor).spelling = String.ofList (u.textOf p.node) := by
  simp only [Cursor.spelling, Place.headerReference]
  split
  · rfl
  · rfl

/-- No identifier of a class header is lost.  Each is either the name that the declaration is
spelled with, and then no child cursor, or exactly one child cursor, which refers to a class and is
spelled with its text. -/
theorem classHeader_identifiers {u : SourceUnit} {c : Cursor} {p : Place}
    (hc : c ∈ u.root.preorder) (hroot : c.place.isRoot = false)
    (hheader : c.place.node.isOneOf Node.classHeaderKinds = true) (hp : p ∈ c.place.children)
    (hkind : p.node.kind = "identifier") (hnamed : p.node.label.named = true)
    (hpresent : p.node.label.missing = false) (hfield : p.node.inField "declarator" = false) :
    (c.place.declaredPlace? = some p ∧ c.spelling = String.ofList (u.textOf p.node) ∧
        c.childrenAt p = []) ∨
      (c.place.declaredPlace? ≠ some p ∧
        ∃ d, c.childrenAt p = [d] ∧ d.place = p ∧
          d.kind = (if p.node.inField "superclass" then .objCSuperClassRef else .objCClassRef) ∧
          d.spelling = String.ofList (u.textOf p.node)) := by
  have hunit : c.unit = u := (mem_preorder_root.1 hc).1
  by_cases hname : c.place.declaredPlace? = some p
  · refine .inl ⟨hname, ?_, ?_⟩
    · rw [spelling_of_declaredPlace? (spellsName_of_classHeader hc hroot hheader) hname, hunit,
        spellName_of_identifier u hkind]
    · have hhidden : (c.unit.exposure p).kind? = none :=
        Place.kind?_exposure_of_folds _ _ hp hname (Node.folds_of_classHeader hheader hkind)
      rw [Cursor.childrenAt_eq hp, hhidden]
      rfl
  · refine .inr ⟨hname, ⟨u, p, p.headerReference⟩, ?_, rfl, rfl, spelling_of_headerReference u p⟩
    have hshown : u.exposure p = .cursor p.headerReference :=
      Place.exposure_of_classHeader _ _ hheader hp hkind hnamed hpresent hfield hname
    rw [Cursor.childrenAt_eq hp, hunit, hshown]
    rfl

/-- A category with a method. -/
def drawing : SourceUnit where
  path := "unit.m"
  dialect := .objC
  source := .ofString "@interface Widget (Drawing)\n- (void)draw;\n@end"
  tree :=
    .node ⟨"translation_unit", none, true, false, false, false, 0, 46⟩
      [.node ⟨"class_interface", none, true, false, false, false, 0, 46⟩
        [.node ⟨"@interface", none, false, false, false, false, 0, 10⟩ [],
         .node ⟨"identifier", none, true, false, false, false, 11, 17⟩ [],
         .node ⟨"(", none, false, false, false, false, 18, 19⟩ [],
         .node ⟨"identifier", some "category", true, false, false, false, 19, 26⟩ [],
         .node ⟨")", none, false, false, false, false, 26, 27⟩ [],
         .node ⟨"method_declaration", none, true, false, false, false, 28, 41⟩
          [.node ⟨"-", none, false, false, false, false, 28, 29⟩ [],
           .node ⟨"method_type", none, true, false, false, false, 30, 36⟩
            [.node ⟨"(", none, false, false, false, false, 30, 31⟩ [],
             .node ⟨"type_name", none, true, false, false, false, 31, 35⟩
              [.node ⟨"primitive_type", some "type", true, false, false, false, 31, 35⟩ []],
             .node ⟨")", none, false, false, false, false, 35, 36⟩ []],
           .node ⟨"identifier", none, true, false, false, false, 36, 40⟩ [],
           .node ⟨";", none, false, false, false, false, 40, 41⟩ []],
         .node ⟨"@end", none, false, false, false, false, 42, 46⟩ []]]
  options := .standard

/-- The category is spelled with the second identifier and refers to the class by the first. -/
theorem classHeader_identifiers_drawing :
    ∃ c ∈ drawing.root.preorder, ∃ widget name : Place,
      (Place.root drawing.tree).follow? [0, 1] = some widget ∧
      (Place.root drawing.tree).follow? [0, 3] = some name ∧
      c.kind = .objCCategoryDecl ∧
      (c.place.declaredPlace? = some name ∧ c.spelling = "Drawing" ∧ c.childrenAt name = []) ∧
      ∃ d, c.childrenAt widget = [d] ∧ d.place = widget ∧ d.kind = .objCClassRef ∧
        d.spelling = "Widget" := by
  have hheader : (Place.root drawing.tree).follow? [0] = some _ := rfl
  have hc : _ ∈ drawing.root.preorder :=
    mem_preorder_of_shown? (Place.In.root.of_follow? hheader) rfl
  refine ⟨_, hc, _, _, rfl, rfl, rfl, ?name, ?widget⟩
  case name =>
    rcases classHeader_identifiers hc rfl rfl (Place.mem_children_iff_child?.2 ⟨3, rfl⟩)
        rfl rfl rfl rfl with h | ⟨hnot, -⟩
    · exact h
    · exact absurd rfl hnot
  case widget =>
    rcases classHeader_identifiers hc rfl rfl (Place.mem_children_iff_child?.2 ⟨1, rfl⟩)
        rfl rfl rfl rfl with ⟨hname, -⟩ | ⟨-, h⟩
    · exact absurd (congrArg (Option.map Place.path) hname) (by decide)
    · exact h

end SourceUnit

end CodeCursor
