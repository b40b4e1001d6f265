import CodeCursor.Proofs.FunctionDeclarators

/-!
# Declarations of several names

A declaration with several declarators is not shown itself; each declarator is, by a rule of its
own.  With one declarator the declaration is shown as a whole, by its kind.  The two ways come to
the same: the declarators show in their order, each with the kind and the spelling that the
declaration would have if it held this declarator alone.
-/

namespace CodeCursor

namespace Node

/-- The node without its declarators, apart from the child with the given index. -/
def keeping (n : Node) (index : Nat) : Node :=
  let others := List.filter fun child => !child.inField "declarator"
  node n.label (others (n.children.take index) ++ n.children[index]?.toList ++
    others (n.children.drop (index + 1)))

@[simp] theorem label_keeping (n : Node) (index : Nat) : (n.keeping index).label = n.label := rfl

@[simp] theorem kind_keeping (n : Node) (index : Nat) : (n.keeping index).kind = n.kind := rfl

variable {n d : Node} {index : Nat}

theorem declarators_keeping (hd : n.children[index]? = some d)
    (hfield : d.inField "declarator" = true) :
    (n.keeping index).children.filter (·.inField "declarator") = [d] := by
  have hnone : ∀ nodes : List Node,
      (nodes.filter fun child => !child.inField "declarator").filter
        (·.inField "declarator") = [] := by
    intro nodes
    rw [List.filter_filter]
    simp
  rw [keeping, hd, children_node, List.filter_append, List.filter_append, hnone, hnone]
  simp [hfield]

theorem childIn?_keeping (hd : n.children[index]? = some d)
    (hfield : d.inField "declarator" = true) :
    (n.keeping index).childIn? "declarator" = some d := by
  rw [childIn?, ← List.head?_filter, declarators_keeping hd hfield]
  rfl

theorem declaratorCount_keeping (hd : n.children[index]? = some d)
    (hfield : d.inField "declarator" = true) : (n.keeping index).declaratorCount = 1 := by
  rw [declaratorCount, List.countP_eq_length_filter, declarators_keeping hd hfield]
  rfl

/-- A declaration has the name of its first declarator. -/
theorem declaredName_node_of_isSplit (hsplit : n.isOneOf splitKinds = true)
    (hd : n.childIn? "declarator" = some d) :
    n.declaredName.map (·.node) = d.declaredName.map (·.node) := by
  have hkind : n.isOneOf ownRuleKinds = false := isOneOf_eq_false hsplit (by decide)
  rw [childIn?_eq_bind] at hd
  obtain ⟨index, hindex, hchild⟩ := Option.bind_eq_some_iff.1 hd
  exact declaredName_node_of_nameRule (nameRule_of_indexIn? hkind hindex) hchild

theorem declaresFunction_keeping (hsplit : n.isOneOf splitKinds = true)
    (hd : n.children[index]? = some d) (hfield : d.inField "declarator" = true) :
    (n.keeping index).declaresFunction = d.declaresFunction :=
  declaresFunction_of_isSplit hsplit (childIn?_keeping hd hfield)

theorem declaredName_node_keeping (hsplit : n.isOneOf splitKinds = true)
    (hd : n.children[index]? = some d) (hfield : d.inField "declarator" = true) :
    (n.keeping index).declaredName.map (·.node) = d.declaredName.map (·.node) :=
  declaredName_node_of_isSplit hsplit (childIn?_keeping hd hfield)

theorem declaredNameKind?_keeping (hsplit : n.isOneOf splitKinds = true)
    (hd : n.children[index]? = some d) (hfield : d.inField "declarator" = true) :
    (n.keeping index).declaredNameKind? = d.declaredNameKind? := by
  have hkinds := congrArg (Option.map kind) (declaredName_node_keeping hsplit hd hfield)
  rw [Option.map_map, Option.map_map] at hkinds
  exact hkinds

end Node

namespace Place

def declarators (p : Place) : List Place :=
  p.children.filter (·.node.inField "declarator")

def isDeclaratorOf (q p : Place) : Bool :=
  q.node.inField "declarator" && q.parent?.map path == some p.path

theorem isRoot_eq_isNone (p : Place) : p.isRoot = p.parentKind?.isNone := by
  obtain ⟨n, trail⟩ := p
  cases trail with
  | nil => rfl
  | cons crumb trail => rfl

theorem length_declarators (p : Place) : p.declarators.length = p.node.declaratorCount := by
  rw [declarators, ← List.countP_eq_length_filter, Node.declaratorCount, ← children_map_node,
    List.countP_map]
  rfl

theorem declarators_sorted (p : Place) :
    p.declarators.Pairwise fun q r => q.path < r.path := by
  apply List.Pairwise.filter
  apply p.children_leftOf.imp
  intro q r h
  exact h.path_lt

theorem mem_declarators_iff {tree : Node} {p q : Place} (hp : p.In tree) (hq : q.In tree) :
    q ∈ p.declarators ↔ q.isDeclaratorOf p = true := by
  rw [declarators, List.mem_filter, isDeclaratorOf, Bool.and_eq_true, and_comm, beq_iff_eq]
  apply and_congr_right
  intro _
  constructor
  · intro hmem
    rw [parent?_of_mem_children hmem]
    rfl
  · intro hpath
    obtain ⟨r, hparent, hsame⟩ := Option.map_eq_some_iff.1 hpath
    cases hq with
    | root => contradiction
    | @child r' index child hr hchild =>
      obtain rfl := Option.some.inj hparent
      obtain rfl := hr.eq_of_path hp hsame
      exact mem_children_iff.2 ⟨index, child, hchild, rfl⟩

/-- A declaration that is split into what it would be with each declarator alone: one of fields,
or one out of class bodies that names no destructor. -/
inductive SplitsEvenly (p : Place) : Prop
  | fields (kind : p.node.kind = "field_declaration")
  | outside (kind : p.node.kind = "declaration")
      (body : p.parentIs "field_declaration_list" = false)
      (template : p.parentIs "template_declaration" = false)
      (destructor : ∀ d ∈ p.declarators, d.node.declaredNameKind? ≠ some "destructor_name")

theorem SplitsEvenly.isSplit {p : Place} (h : p.SplitsEvenly) :
    p.node.isOneOf Node.splitKinds = true := by
  cases h with
  | fields kind => rw [Node.isOneOf, kind]; rfl
  | outside kind => rw [Node.isOneOf, kind]; rfl

variable {options : Options} {source : Source} {p q d : Place} {index : Nat}

/-- One of several declarators of a declaration is never hidden, unless it is no proper node. -/
theorem exposure_of_declarator (hsplit : p.node.isOneOf Node.splitKinds = true)
    (hcount : 1 < p.node.declaratorCount) (hd : d ∈ p.declarators)
    (hnamed : d.node.label.named = true) (hmissing : d.node.label.missing = false)
    (hcomment : d.node.kind ≠ "comment") :
    d.exposure options source = declaratorExposure p.node d.node := by
  obtain ⟨hmem, hfield⟩ := List.mem_filter.1 hd
  obtain ⟨index, child, -, rfl⟩ := mem_children_iff.1 hmem
  rw [Node.isOneOf, List.contains_iff_mem] at hsplit
  have table : ∀ kind ∈ Node.splitKinds, Node.directiveKinds.contains kind = false ∧
      Node.definitionKinds.contains kind = false ∧ Text.beginsWith kind "preproc_" = false := by
    decide
  obtain ⟨hdirective, hdefinition, hbegins⟩ :
      p.node.isOneOf Node.directiveKinds = false ∧ p.node.isOneOf Node.definitionKinds = false ∧
        Text.beginsWith p.node.kind "preproc_" = false := table p.node.kind hsplit
  have hbody : (p.below index child).isBody = false := by
    rw [isBody, parent?_of_mem_children hmem]
    simp [hdefinition]
  have hcondition : (p.below index child).isCondition = false := by
    rw [isCondition, parent?_of_mem_children hmem]
    simp [hbegins]
  rw [node_below] at hnamed hmissing hcomment hfield
  rw [exposure_below, hnamed, hmissing, hbody, hcondition, hfield, decide_eq_true hcount]
  simp [hcomment, hdirective]

/-- Whether a declaration is hidden by where it stands: by its label or the kind of its parent. -/
def isBarred (p : Place) : Bool :=
  !p.node.label.named || p.node.label.missing ||
    p.parentKind?.any Node.directiveKinds.contains || p.isCondition

theorem isCondition_eq (p : Place) :
    p.isCondition = (p.node.inField "condition" &&
      p.parentKind?.any fun kind => Text.beginsWith kind "preproc_") := by
  rw [parentKind?, Option.any_map]
  rfl

theorem isBarred_congr {stop : Nat} (hlabel : q.node.label = { p.node.label with stop := stop })
    (hparent : q.parentKind? = p.parentKind?) : q.isBarred = p.isBarred := by
  have hfield : q.node.field = p.node.field := by rw [Node.field, Node.field, hlabel]
  rw [isBarred, isBarred, isCondition_eq, isCondition_eq, Node.inField, Node.inField, hlabel,
    hfield, hparent]

theorem exposure_below_of_isSplit {child : Node} (hsplit : child.isOneOf Node.splitKinds = true) :
    (p.below index child).exposure options source =
      if (p.below index child).isBarred then .hidden
      else if child.inField "declarator" && decide (1 < p.node.declaratorCount) then
        declaratorExposure p.node child
      else (p.below index child).kindExposure options source := by
  have table : ∀ kind ∈ Node.splitKinds, (kind == "comment") = false ∧
      (kind == "compound_statement") = false ∧ Node.nameKinds.contains kind = false := by decide
  rw [Node.isOneOf, List.contains_iff_mem] at hsplit
  obtain ⟨hcomment, hbody, hname⟩ := table _ hsplit
  have hnobody : (p.below index child).isBody = false := by
    rw [isBody, node_below, hbody, Bool.false_and]
  have hnoname : child.isName = false := hname
  rw [exposure_below, hcomment, hnobody, hnoname]
  simp only [Bool.false_or, Bool.and_false, Bool.false_and, Bool.false_eq_true, if_false,
    ← ite_or, isBarred, Bool.or_eq_true, or_assoc, false_or]
  rfl

theorem exposure_of_isSplit (hroot : p.isRoot = false)
    (hsplit : p.node.isOneOf Node.splitKinds = true)
    (hfield : p.node.inField "declarator" = false) :
    p.exposure options source =
      if p.isBarred then .hidden else p.kindExposure options source := by
  obtain ⟨n, trail⟩ := p
  cases trail with
  | nil => contradiction
  | cons crumb trail =>
    have hnone : n.inField "declarator" = false := hfield
    have hx : (below ⟨crumb.parent, trail⟩ crumb.index n).exposure options source = _ :=
      exposure_below_of_isSplit hsplit
    rw [hnone] at hx
    exact hx

/-- A declaration is hidden by where it stands, and by nothing else. -/
theorem exposure_eq_hidden_iff (h : q ∈ p.children)
    (hsplit : q.node.isOneOf Node.splitKinds = true) :
    q.exposure options source = .hidden ↔ q.isBarred = true := by
  obtain ⟨index, child, -, rfl⟩ := mem_children_iff.1 h
  have hshown : declaratorExposure p.node child ≠ .hidden := by
    unfold declaratorExposure
    split <;> simp
  have hkind : (p.below index child).kindExposure options source ≠ .hidden := by
    rcases kindExposure_of_isSplit options source hsplit with hk | hk
    all_goals
      rw [hk, declarationExposure]
      split <;> simp
  rw [node_below] at hsplit
  rw [exposure_below_of_isSplit hsplit]
  split
  · simpa
  · rename_i hbarred
    refine iff_of_false ?_ hbarred
    split
    · exact hshown
    · exact hkind

theorem functionKind_of_outside (hbody : q.parentIs "field_declaration_list" = false)
    (htemplate : q.parentIs "template_declaration" = false)
    (hname : q.node.declaredNameKind? ≠ some "destructor_name") :
    q.functionKind = .functionDecl := by
  have hclass : q.inClassBody = false := by simp [inClassBody, hbody, htemplate]
  rw [functionKind, hclass, beq_eq_false_iff_ne.2 hname]
  rfl

/-- A declaration with one declarator alone shows by its kind as the rule for one of several has
the declarator show. -/
theorem kindExposure_of_alone (heven : p.SplitsEvenly) (hd : p.child? index = some d)
    (hfield : d.node.inField "declarator" = true) (hnode : q.node = p.node.keeping index)
    (hparent : q.parentKind? = p.parentKind?) :
    q.kindExposure options source = declaratorExposure p.node d.node := by
  obtain ⟨child, hchild, rfl⟩ := child?_eq_some_iff.1 hd
  have hcount : q.node.declaratorCount = 1 := by
    rw [hnode]
    exact Node.declaratorCount_keeping hchild hfield
  have hfunction : q.node.declaresFunction = child.declaresFunction := by
    rw [hnode]
    exact Node.declaresFunction_keeping heven.isSplit hchild hfield
  have hname : q.node.declaredNameKind? = child.declaredNameKind? := by
    rw [hnode]
    exact Node.declaredNameKind?_keeping heven.isSplit hchild hfield
  cases heven with
  | fields kind =>
    have hkind : q.node.kind = "field_declaration" := by rw [hnode, Node.kind_keeping, kind]
    rw [kindExposure_fields options source hkind, declarationExposure, if_pos hcount, hfunction,
      declaratorExposure, kind]
    rfl
  | outside kind body template destructor =>
    have hkind : q.node.kind = "declaration" := by rw [hnode, Node.kind_keeping, kind]
    have hplain : q.functionKind = .functionDecl := by
      apply functionKind_of_outside
      · rw [parentIs, hparent]
        exact body
      · rw [parentIs, hparent]
        exact template
      · rw [hname]
        exact destructor _ (List.mem_filter.2 ⟨mem_children_iff_child?.2 ⟨index, hd⟩, hfield⟩)
    rw [kindExposure_declaration options source hkind, declarationExposure, if_pos hcount,
      hfunction, hplain, declaratorExposure, kind]
    rfl

end Place

namespace SourceUnit

variable {u v : SourceUnit} {p q : Place} {index : Nat}

/-- A declaration of several names in sight, which is split evenly and whose declarators are
proper nodes. -/
structure Splits (u : SourceUnit) (p : Place) : Prop where
  within : p.In u.tree
  root : p.isRoot = false
  covered : u.isCovered p = false
  visible : u.exposure p ≠ .hidden
  field : p.node.inField "declarator" = false
  evenly : p.SplitsEvenly
  several : 2 ≤ p.node.declaratorCount
  plain : ∀ d ∈ p.declarators, d.node.label.named = true ∧ d.node.label.missing = false ∧
    d.node.kind ≠ "comment"

/-- A copy, below a parent of the same kind and no hidden node, of a declaration that keeps one
declarator only: the child with the given index. -/
structure HoldsAlone (v : SourceUnit) (q : Place) (u : SourceUnit) (p : Place) (index : Nat) :
    Prop where
  source : v.source = u.source
  within : q.In v.tree
  covered : v.isCovered q = false
  node : q.node = p.node.keeping index
  parent : q.parentKind? = p.parentKind?

theorem shown?_of_declarator {d : Place} (hcovered : u.isCovered p = false)
    (hvisible : u.exposure p ≠ .hidden) (hsplit : p.node.isOneOf Node.splitKinds = true)
    (hcount : 1 < p.node.declaratorCount) (hd : d ∈ p.declarators)
    (hnamed : d.node.label.named = true) (hmissing : d.node.label.missing = false)
    (hcomment : d.node.kind ≠ "comment") :
    u.shown? d = (Place.declaratorExposure p.node d.node).kind? := by
  have hx : u.exposure d = Place.declaratorExposure p.node d.node :=
    Place.exposure_of_declarator hsplit hcount hd hnamed hmissing hcomment
  rw [shown?, isCovered_of_mem_children hcovered hvisible (List.mem_filter.1 hd).1, hx]
  rfl

namespace Splits

theorem isBarred_eq (h : u.Splits p) : p.isBarred = false := by
  obtain ⟨parent, hchild⟩ := h.within.exists_parent h.root
  rw [← Bool.not_eq_true]
  intro hbarred
  exact h.visible ((Place.exposure_eq_hidden_iff hchild h.evenly.isSplit).2 hbarred)

theorem exposure_eq (h : u.Splits p) : u.exposure p = .flattened := by
  have hx : u.exposure p = p.kindExposure u.options u.source := by
    rw [exposure, Place.exposure_of_isSplit h.root h.evenly.isSplit h.field, h.isBarred_eq]
    rfl
  have hcount : p.node.declaratorCount ≠ 1 := by
    have := h.several
    omega
  rcases Place.kindExposure_of_isSplit u.options u.source h.evenly.isSplit with hk | hk
  all_goals rw [hx, hk, Place.declarationExposure, if_neg hcount]

theorem shown?_declarator (h : u.Splits p) {d : Place} (hd : d ∈ p.declarators) :
    u.shown? d = (Place.declaratorExposure p.node d.node).kind? := by
  obtain ⟨hnamed, hmissing, hcomment⟩ := h.plain d hd
  exact shown?_of_declarator h.covered h.visible h.evenly.isSplit h.several hd hnamed hmissing
    hcomment

/-- The cursors at the declarators are these, in order. -/
theorem places_eq (h : u.Splits p) :
    (u.root.preorder.filter fun c => c.place.isDeclaratorOf p).map Cursor.place =
      p.declarators := by
  apply map_place_filter_preorder p.declarators_sorted
  intro d
  constructor
  · intro hd
    have hin : d.In u.tree := h.within.of_mem_children (List.mem_filter.1 hd).1
    obtain ⟨kind, hkind, -⟩ := Place.declaratorExposure_of_isSplit d.node h.evenly.isSplit
    have hshown : u.shown? d = some kind := by
      rw [h.shown?_declarator hd, hkind]
      rfl
    exact ⟨_, mem_preorder_of_shown? hin hshown, (Place.mem_declarators_iff h.within hin).1 hd,
      rfl⟩
  · rintro ⟨c, hc, hpick, rfl⟩
    have hin := (mem_preorder_root.1 hc).2.1
    exact (Place.mem_declarators_iff h.within hin).2 hpick

end Splits

/-- The declaration with one declarator alone is one cursor. -/
theorem HoldsAlone.shown?_eq (h : v.HoldsAlone q u p index) (hp : u.Splits p) {d : Place}
    (hd : p.child? index = some d) (hfield : d.node.inField "declarator" = true) :
    v.shown? q = (Place.declaratorExposure p.node d.node).kind? := by
  have hroot : q.isRoot = false := by
    rw [Place.isRoot_eq_isNone, h.parent, ← Place.isRoot_eq_isNone]
    exact hp.root
  have hsplit : q.node.isOneOf Node.splitKinds = true := by
    rw [h.node]
    exact hp.evenly.isSplit
  have hown : q.node.inField "declarator" = false := by
    rw [h.node]
    exact hp.field
  have hlabel : q.node.label = p.node.label := by
    rw [h.node, Node.label_keeping]
  have hbarred : q.isBarred = false := by
    rw [Place.isBarred_congr hlabel h.parent, hp.isBarred_eq]
  have hx : v.exposure q = q.kindExposure v.options v.source := by
    rw [exposure, Place.exposure_of_isSplit hroot hsplit hown, hbarred]
    rfl
  rw [shown?, h.covered, hx, Place.kindExposure_of_alone hp.evenly hd hfield h.node h.parent]
  rfl

/-- A declaration of several names shows one cursor for each of its declarators, in their order,
with the kind and the spelling of the single cursor that the declaration shows where it holds
this declarator alone. -/
theorem declarators_shown_as_alone {u : SourceUnit} {p : Place} (h : u.Splits p) :
    u.exposure p = .flattened ∧
    (u.root.preorder.filter fun c => c.place.isDeclaratorOf p).map Cursor.place =
      p.declarators ∧
    p.declarators.length = p.node.declaratorCount ∧
    ∀ c ∈ u.root.preorder, ∀ index, p.child? index = some c.place →
      c.place.node.inField "declarator" = true →
      ∀ (v : SourceUnit) (q : Place), v.HoldsAlone q u p index →
        ∃ single ∈ v.root.preorder, single.place = q ∧ single.kind = c.kind ∧
          single.spelling = c.spelling := by
  refine ⟨h.exposure_eq, h.places_eq, p.length_declarators, ?_⟩
  intro c hc index hd hfield v q halone
  obtain ⟨rfl, -, hshown⟩ := mem_preorder_root.1 hc
  obtain ⟨child, hchild, hplace⟩ := Place.child?_eq_some_iff.1 hd
  have hmem : c.place ∈ p.declarators :=
    List.mem_filter.2 ⟨Place.mem_children_iff_child?.2 ⟨index, hd⟩, hfield⟩
  rw [h.shown?_declarator hmem] at hshown
  have hsingle : v.shown? q = some c.kind := (halone.shown?_eq h hd hfield).trans hshown
  refine ⟨_, mem_preorder_of_shown? halone.within hsingle, rfl, rfl, ?_⟩
  have hspells : c.kind.spellsName = true := by
    obtain ⟨kind, hkind, hspells⟩ :=
      Place.declaratorExposure_of_isSplit c.place.node h.evenly.isSplit
    rw [hkind] at hshown
    rwa [← Option.some.inj hshown]
  have hname : q.node.declaredName.map (·.node) = c.place.node.declaredName.map (·.node) := by
    rw [hplace] at hfield ⊢
    rw [halone.node]
    exact Node.declaredName_node_keeping h.evenly.isSplit hchild hfield
  rw [Cursor.spelling, Cursor.spelling, spell_eq_spellDeclared _ _ hspells,
    spell_eq_spellDeclared _ _ hspells, spellDeclared_congr halone.source hname]

/-- A variable and a function in one declaration. -/
def severalNames : Node :=
  .node ⟨"declaration", none, true, false, false, false, 0, 12⟩
    [.node ⟨"primitive_type", some "type", true, false, false, false, 0, 3⟩ [],
     .node ⟨"identifier", some "declarator", true, false, false, false, 4, 5⟩ [],
     .node ⟨",", none, false, false, false, false, 5, 6⟩ [],
     .node ⟨"pointer_declarator", some "declarator", true, false, false, false, 7, 11⟩
      [.node ⟨"*", none, false, false, false, false, 7, 8⟩ [],
       .node ⟨"function_declarator", some "declarator", true, false, false, false, 8, 11⟩
        [.node ⟨"identifier", some "declarator", true, false, false, false, 8, 9⟩ [],
         .node ⟨"parameter_list", some "parameters", true, false, false, false, 9, 11⟩
          [.node ⟨"(", none, false, false, false, false, 9, 10⟩ [],
           .node ⟨")", none, false, false, false, false, 10, 11⟩ []]]],
     .node ⟨";", none, false, false, false, false, 11, 12⟩ []]

/-- A unit with the given declarations in the same source. -/
def several (declarations : List Node) : SourceUnit where
  path := "unit.c"
  dialect := .c
  source := .ofString "int a, *b();"
  tree := .node ⟨"translation_unit", none, true, false, false, false, 0, 12⟩ declarations
  options := .standard

/-- The second declarator shows as the function that it declares when it is alone. -/
theorem declarators_shown_as_alone_several :
    let u := several [severalNames]
    let v := several [severalNames.keeping 1, severalNames.keeping 3]
    let p := (Place.root u.tree).below 0 severalNames
    let q := (Place.root v.tree).below 1 (severalNames.keeping 3)
    u.Splits p ∧ v.HoldsAlone q u p 3 ∧ u.exposure p = .flattened ∧
      (u.root.preorder.filter fun c => c.place.isDeclaratorOf p).map Cursor.place =
        p.declarators ∧
      p.declarators.length = 2 ∧
      ∃ c ∈ u.root.preorder, p.child? 3 = some c.place ∧ c.kind = .functionDecl ∧
        ∃ single ∈ v.root.preorder, single.place = q ∧ single.kind = c.kind ∧
          single.spelling = c.spelling := by
  intro u v p q
  have hsplits : u.Splits p :=
    ⟨.child .root rfl, rfl, by decide, by decide, rfl, .outside rfl rfl rfl (by decide),
      by decide, by decide⟩
  have halone : v.HoldsAlone q u p 3 :=
    ⟨rfl, .child .root rfl, by decide, rfl, rfl⟩
  have hd : ∀ d ∈ p.child? 3, u.shown? d = some .functionDecl := by decide
  have hc : _ ∈ u.root.preorder := mem_preorder_of_shown? (.child (.child .root rfl) rfl) (hd _ rfl)
  obtain ⟨hx, hplaces, hlength, hsingle⟩ := declarators_shown_as_alone hsplits
  exact ⟨hsplits, halone, hx, hplaces, hlength, _, hc, rfl, rfl,
    hsingle _ hc 3 rfl rfl v q halone⟩

end SourceUnit

end CodeCursor
