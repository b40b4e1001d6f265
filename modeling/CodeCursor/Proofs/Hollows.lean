import CodeCursor.Proofs.Surroundings

/-!
# Nodes without what their blocks hold

What a node is called and what it shows as is read off the node and off some of what is below it,
but never off what stands inside a block.  So it can be read off the hollow node just as well, in
which the blocks are empty.
-/

namespace CodeCursor

namespace Node

variable {n : Node}

/-- Nodes that hold declarations or statements between braces, or all those of a source. -/
def blockKinds : List String :=
  ["translation_unit", "declaration_list", "compound_statement"]

def isBlock (n : Node) : Bool :=
  n.isOneOf blockKinds

/-- Whether the node is a block and not held in a field that names are looked for in.  No grammar
holds a block there. -/
def isSealed (n : Node) : Bool :=
  n.isBlock && !n.inField "declarator" && !n.inField "name"

theorem isSequence_of_isBlock (h : n.kind ∈ blockKinds) : n.isSequence = true := by
  have hsub : ∀ kind ∈ blockKinds, kind ∈ sequenceKinds := by decide
  exact isOneOf_eq_true_iff.2 (hsub _ h)

theorem kind_ne_body_of_isBlock (h : n.kind ∈ blockKinds) :
    (n.kind == "field_declaration_list") = false := by
  have hno : ∀ kind ∈ blockKinds, (kind == "field_declaration_list") = false := by decide
  exact hno _ h

mutual
/-- The node with all blocks at it and below it emptied. -/
def hollow : Node → Node
  | node label children =>
    if (node label children).isSealed then node label [] else node label (hollowAll children)

def hollowAll : List Node → List Node
  | [] => []
  | child :: rest => child.hollow :: hollowAll rest
end

theorem hollow_eq (n : Node) :
    n.hollow = node n.label (if n.isSealed then [] else n.children.map hollow) := by
  obtain ⟨label, children⟩ := n
  have all : ∀ nodes : List Node, hollowAll nodes = nodes.map hollow := by
    intro nodes
    induction nodes with
    | nil => rfl
    | cons child rest ih => rw [hollowAll, ih, List.map_cons]
  rw [hollow, all]
  split <;> rfl

theorem hollow_congr {label : Label} {nodes others : List Node}
    (h : nodes.map hollow = others.map hollow) :
    (node label nodes).hollow = (node label others).hollow := by
  have hsealed : (node label others).isSealed = (node label nodes).isSealed := rfl
  rw [hollow_eq, hollow_eq, hsealed, children_node, children_node, label_node, label_node, h]

theorem hollow_of_isSealed {label : Label} {nodes : List Node}
    (h : (node label nodes).isSealed = true) (others : List Node) :
    (node label nodes).hollow = (node label others).hollow := by
  have hsealed : (node label others).isSealed = true := h
  rw [hollow_eq, hollow_eq, h, hsealed]
  rfl

@[simp] theorem label_hollow (n : Node) : n.hollow.label = n.label := by
  rw [hollow_eq, label_node]

@[simp] theorem kind_hollow (n : Node) : n.hollow.kind = n.kind := by
  rw [kind, label_hollow, kind]

@[simp] theorem inField_hollow (n : Node) (field : String) :
    n.hollow.inField field = n.inField field := by
  rw [inField, Node.field, label_hollow, inField, Node.field]

@[simp] theorem isOneOf_hollow (n : Node) (kinds : List String) :
    n.hollow.isOneOf kinds = n.isOneOf kinds :=
  isOneOf_congr n.kind_hollow kinds

theorem children_hollow (h : n.isSealed = false) : n.hollow.children = n.children.map hollow := by
  rw [hollow_eq, children_node, h]
  rfl

theorem childIn?_hollow (h : n.isSealed = false) (field : String) :
    n.hollow.childIn? field = (n.childIn? field).map hollow := by
  rw [childIn?, children_hollow h, List.find?_map, childIn?]
  simp only [Function.comp_def, inField_hollow]

theorem findIdx?_hollow {p : Node → Bool} (hp : ∀ child : Node, p child.hollow = p child)
    (h : n.isSealed = false) : n.hollow.children.findIdx? p = n.children.findIdx? p := by
  rw [children_hollow h, List.findIdx?_map]
  simp only [Function.comp_def, hp]

theorem firstKind?_hollow (h : n.isSealed = false) : n.hollow.firstKind? = n.firstKind? := by
  rw [firstKind?, children_hollow h, List.head?_map, Option.map_map, firstKind?]
  simp only [Function.comp_def, kind_hollow]

theorem declaratorCount_hollow (h : n.isSealed = false) :
    n.hollow.declaratorCount = n.declaratorCount := by
  rw [declaratorCount, children_hollow h, List.countP_map, declaratorCount]
  simp only [Function.comp_def, inField_hollow]

theorem namedChildren_hollow (h : n.isSealed = false) :
    n.hollow.namedChildren = n.namedChildren.map hollow := by
  rw [namedChildren, children_hollow h, List.filter_map, namedChildren]
  simp only [Function.comp_def, label_hollow]

theorem indexIn?_hollow (h : n.isSealed = false) (field : String) :
    n.hollow.indexIn? field = n.indexIn? field :=
  findIdx?_hollow (fun child => child.inField_hollow field) h

theorem indexOfNamed?_hollow (h : n.isSealed = false) (kinds : List String) :
    n.hollow.indexOfNamed? kinds = n.indexOfNamed? kinds :=
  findIdx?_hollow (fun child => by rw [label_hollow, isOneOf_hollow]) h

theorem isCategory_hollow (h : n.isSealed = false) : n.hollow.isCategory = n.isCategory := by
  rw [isCategory, isOneOf_hollow, children_hollow h, List.any_map, isCategory]
  simp only [Function.comp_def, kind_hollow]

theorem nameRule_hollow (h : n.isSealed = false) : n.hollow.nameRule = n.nameRule := by
  simp only [nameRule, isOneOf_hollow, isCategory_hollow h, indexIn?_hollow h,
    indexOfNamed?_hollow h, kind_hollow]

theorem isSealed_eq_false_of_kind (h : n.kind ∉ blockKinds) : n.isSealed = false := by
  have hblock : n.isBlock = false := by
    rw [isBlock, ← Bool.not_eq_true, isOneOf_eq_true_iff]
    exact h
  rw [isSealed, hblock, Bool.false_and, Bool.false_and]

theorem isSealed_eq_false_of_inField
    (h : n.inField "declarator" = true ∨ n.inField "name" = true) : n.isSealed = false := by
  rw [isSealed]
  rcases h with h | h
  · rw [h, Bool.not_true, Bool.and_false, Bool.false_and]
  · rw [h, Bool.not_true, Bool.and_false]

theorem isSealed_of_canName (h : n.canName = true) : n.isSealed = false := by
  have hno : ∀ kind ∈ blockKinds,
      (nameKinds.contains kind || Text.endsIn kind "_declarator") = false := by decide
  apply isSealed_eq_false_of_kind
  intro hmem
  have hname : (n.isName || n.isDeclarator) = true := (Bool.and_eq_true_iff.1 h).2
  exact absurd (hname.symm.trans (hno _ hmem)) (by decide)

/-- A child that gives its name to the parent is no block. -/
theorem isSealed_of_nameRule {index : Nat} {child : Node}
    (hrule : n.nameRule = .nameOf (some index)) (hchild : n.children[index]? = some child) :
    child.isSealed = false := by
  have hfound : ∀ {p : Node → Bool}, n.children.findIdx? p = some index → p child = true := by
    intro p hp
    obtain ⟨_, hpos, -⟩ := List.findIdx?_eq_some_iff_getElem.1 hp
    obtain ⟨_, rfl⟩ := List.getElem?_eq_some_iff.1 hchild
    exact hpos
  have hnamed : ∀ kinds : List String, (∀ kind ∈ kinds, kind ∉ blockKinds) →
      n.indexOfNamed? kinds = some index → child.isSealed = false := by
    intro kinds hno h
    have hkind := (Bool.and_eq_true_iff.1 (hfound h)).2
    exact isSealed_eq_false_of_kind (hno _ (isOneOf_eq_true_iff.1 hkind))
  unfold nameRule at hrule
  split_ifs at hrule
  · exact isSealed_eq_false_of_inField (.inr (hfound (NameRule.nameOf.inj hrule)))
  · exact hnamed _ (by decide) (NameRule.nameOf.inj hrule)
  · exact hnamed _ (by decide) (NameRule.nameOf.inj hrule)
  · split at hrule
    · rename_i other hindex
      obtain rfl := Option.some.inj (NameRule.nameOf.inj hrule)
      rcases Option.or_eq_some_iff.1 hindex with hindex | ⟨-, hindex⟩
      · exact isSealed_eq_false_of_inField (.inl (hfound hindex))
      · exact isSealed_eq_false_of_inField (.inr (hfound hindex))
    · contradiction

end Node

/-- The same node found in the hollow node. -/
def Descendant.hollow (d : Descendant) : Descendant :=
  ⟨d.path, d.node.hollow⟩

namespace Node

variable {n : Node}

/-- What holds of a node whenever it holds of the node's children holds of every node. -/
@[elab_as_elim]
theorem induction {motive : Node → Prop}
    (step : ∀ n, (∀ child ∈ n.children, motive child) → motive n) (n : Node) : motive n :=
  step n fun child _ => induction step child
termination_by n.size
decreasing_by
  obtain ⟨label, children⟩ := n
  rw [size]
  exact Nat.lt_succ_of_le (size_le_sizeAll ‹_›)

theorem firstDeclaredName_hollow {nodes : List Node}
    (h : ∀ child ∈ nodes, child.isSealed = false →
      child.hollow.declaredName = child.declaredName.map Descendant.hollow) (index : Nat) :
    firstDeclaredName index (nodes.map hollow) =
      (firstDeclaredName index nodes).map Descendant.hollow := by
  induction nodes generalizing index with
  | nil => rfl
  | cons child rest ih =>
    obtain ⟨hchild, hrest⟩ := List.forall_mem_cons.1 h
    have hcan : child.hollow.canName = child.canName := by
      simp only [canName, isName, isDeclarator, label_hollow, inField_hollow, isOneOf_hollow,
        kind_hollow]
    rw [List.map_cons, firstDeclaredName, firstDeclaredName, hcan, ih hrest]
    by_cases hname : child.canName = true
    · rw [if_pos hname, if_pos hname, hchild (isSealed_of_canName hname)]
      cases child.declaredName <;> rfl
    · rw [if_neg hname, if_neg hname]

/-- The declared name of a node does not stand in a block below it. -/
theorem declaredName_hollow (h : n.isSealed = false) :
    n.hollow.declaredName = n.declaredName.map Descendant.hollow := by
  induction n using Node.induction with
  | step n ih =>
    obtain ⟨label, children⟩ := n
    have hhollow : (node label children).hollow = node label (children.map Node.hollow) := by
      rw [hollow_eq, h]
      rfl
    have hrule := nameRule_hollow h
    rw [hhollow] at hrule
    rw [hhollow, declaredName, declaredName, hrule]
    cases hn : (node label children).nameRule with
    | itself => exact congrArg (fun m => some (Descendant.mk [] m)) hhollow.symm
    | nameOf index =>
      cases index with
      | none => rfl
      | some index =>
        simp only [declaredNameAt_eq, List.getElem?_map]
        cases hchild : children[index]? with
        | none => rfl
        | some child =>
          have hname := ih child (List.mem_of_getElem? hchild) (isSealed_of_nameRule hn hchild)
          simp only [Option.map_some, Option.bind_some, hname, Option.map_map]
          rfl
    | child index =>
      cases index with
      | none => rfl
      | some index =>
        simp only [Option.bind_some, List.getElem?_map, Option.map_map]
        rfl
    | firstNamed => exact firstDeclaredName_hollow ih 0

theorem anyFunctionIn_hollow {nodes : List Node}
    (h : ∀ child ∈ nodes, child.isSealed = false →
      child.hollow.declaresFunction = child.declaresFunction) :
    anyFunctionIn (nodes.map hollow) = anyFunctionIn nodes := by
  induction nodes with
  | nil => rfl
  | cons child rest ih =>
    obtain ⟨hchild, hrest⟩ := List.forall_mem_cons.1 h
    rw [List.map_cons, anyFunctionIn, anyFunctionIn, inField_hollow, ih hrest]
    by_cases hfield : child.inField "declarator" = true
    · rw [if_pos hfield, if_pos hfield, hchild (isSealed_eq_false_of_inField (.inl hfield))]
    · rw [if_neg hfield, if_neg hfield]

/-- No block lies on the way inwards through the declarators. -/
theorem declaresFunction_hollow (h : n.isSealed = false) :
    n.hollow.declaresFunction = n.declaresFunction := by
  induction n using Node.induction with
  | step n ih =>
    obtain ⟨label, children⟩ := n
    have hhollow : (node label children).hollow = node label (children.map Node.hollow) := by
      rw [hollow_eq, h]
      rfl
    rw [hhollow, declaresFunction, declaresFunction]
    exact congrArg _ (anyFunctionIn_hollow ih)

theorem declaredNameKind?_hollow (h : n.isSealed = false) :
    n.hollow.declaredNameKind? = n.declaredNameKind? := by
  rw [declaredNameKind?, declaredName_hollow h, Option.map_map, declaredNameKind?]
  exact congrArg (fun f => n.declaredName.map f) (funext fun d => d.node.kind_hollow)

theorem isSealed_hollow (n : Node) : n.hollow.isSealed = n.isSealed := by
  rw [isSealed, isBlock, isOneOf_hollow, inField_hollow, inField_hollow]
  rfl

theorem kind_mem_of_isSealed (h : n.isSealed = true) : n.kind ∈ blockKinds := by
  rw [isSealed, Bool.and_eq_true, Bool.and_eq_true] at h
  exact isOneOf_eq_true_iff.1 h.1.1

theorem specifierKind_hollow (h : n.isSealed = false) (definition : CursorKind) :
    n.hollow.specifierKind definition = n.specifierKind definition := by
  rw [specifierKind, childIn?_hollow h, Option.isSome_map, specifierKind]

theorem assignmentKind_hollow (h : n.isSealed = false) :
    n.hollow.assignmentKind = n.assignmentKind := by
  rw [assignmentKind, childIn?_hollow h, assignmentKind]
  cases n.childIn? "operator" with
  | none => rfl
  | some operator => simp only [Option.map_some, kind_hollow]

theorem qualifiedKind_hollow (h : n.isSealed = false) : n.hollow.qualifiedKind = n.qualifiedKind := by
  rw [qualifiedKind, declaredNameKind?_hollow h, qualifiedKind]

theorem kindByToken_hollow (h : n.isSealed = false) (token : String) (yes no : CursorKind) :
    n.hollow.kindByToken token yes no = n.kindByToken token yes no := by
  rw [kindByToken, firstKind?_hollow h, kindByToken]

theorem hasNamed_hollow (h : n.isSealed = false) (kind : String) :
    n.hollow.hasNamed kind = n.hasNamed kind := by
  rw [hasNamed, indexOfNamed?_hollow h, hasNamed]

end Node

namespace Place

variable {options : Options} {source : Source} {p q : Place}

/-- The place with its node hollow, in the surroundings that it has. -/
def hollow (p : Place) : Place :=
  ⟨p.node.hollow, p.trail⟩

@[simp] theorem node_hollow (p : Place) : p.hollow.node = p.node.hollow := rfl

theorem functionKind_hollow (h : p.node.isSealed = false) :
    p.hollow.functionKind = p.functionKind := by
  rw [functionKind, node_hollow, Node.declaredNameKind?_hollow h]
  rfl

theorem identifierKind_hollow (p : Place) : p.hollow.identifierKind = p.identifierKind := by
  rw [identifierKind, node_hollow, Node.inField_hollow]
  rfl

theorem declarationExposure_hollow (h : p.node.isSealed = false) (function value : CursorKind) :
    p.hollow.declarationExposure function value = p.declarationExposure function value := by
  rw [declarationExposure, node_hollow, Node.declaratorCount_hollow h,
    Node.declaresFunction_hollow h, declarationExposure]

theorem plainExposure_hollow (h : p.node.isSealed = false) :
    p.hollow.plainExposure source = p.plainExposure source := by
  have hparent : ∀ kind, p.hollow.parentIs kind = p.parentIs kind := fun _ => rfl
  simp only [plainExposure, node_hollow, Node.kind_hollow, Node.label_hollow,
    functionKind_hollow h, identifierKind_hollow, declarationExposure_hollow h,
    Node.specifierKind_hollow h, Node.isCategory_hollow h, Node.kindByToken_hollow h,
    Node.qualifiedKind_hollow h, Node.hasNamed_hollow h, Node.assignmentKind_hollow h,
    Node.fixedExposure, hparent]

theorem kindExposure_of_isSealed (h : p.node.isSealed = true) :
    p.kindExposure options source = p.node.fixedExposure := by
  have hblock := Node.kind_mem_of_isSealed h
  simp only [Node.blockKinds, List.mem_cons, List.not_mem_nil, or_false] at hblock
  rw [kindExposure, plainExposure, Node.directiveKind?, Node.fixedExposure]
  rcases hblock with h | h | h
  all_goals
    rw [h]
    rfl

theorem kindExposure_hollow (p : Place) :
    p.hollow.kindExposure options source = p.kindExposure options source := by
  cases h : p.node.isSealed with
  | true =>
    have hhollow : p.hollow.node.isSealed = true := (Node.isSealed_hollow p.node).trans h
    rw [kindExposure_of_isSealed h, kindExposure_of_isSealed hhollow, Node.fixedExposure,
      node_hollow, Node.kind_hollow, Node.fixedExposure]
  | false =>
    rw [kindExposure, kindExposure, plainExposure_hollow h, Node.directiveKind?, node_hollow,
      Node.kind_hollow, Node.directiveKind?]

theorem namesParent_hollow (p : Place) : p.hollow.namesParent = p.namesParent := by
  simp only [namesParent, node_hollow, Node.inField_hollow, Node.kind_hollow]
  rfl

theorem declaratorExposure_hollow (parent : Node) {declarator : Node}
    (h : declarator.inField "declarator" = true) :
    declaratorExposure parent declarator.hollow = declaratorExposure parent declarator := by
  have hsealed := Node.isSealed_eq_false_of_inField (.inl h)
  rw [declaratorExposure, Node.declaresFunction_hollow hsealed, declaratorExposure]

/-- How a place shows does not depend on what the blocks at it and below it hold. -/
theorem exposure_hollow (p : Place) :
    p.hollow.exposure options source = p.exposure options source := by
  have hbody : p.hollow.isBody = p.isBody := by
    rw [isBody, node_hollow, Node.kind_hollow]
    rfl
  have hcondition : p.hollow.isCondition = p.isCondition := by
    rw [isCondition, node_hollow, Node.inField_hollow]
    rfl
  have htrail : p.hollow.trail = p.trail := rfl
  have hname : p.hollow.node.isName = p.node.isName := p.node.isOneOf_hollow _
  unfold exposure
  rw [htrail, hbody, hcondition, hname, namesParent_hollow, kindExposure_hollow, node_hollow,
    Node.label_hollow, Node.kind_hollow, Node.inField_hollow]
  cases p.trail with
  | nil => rfl
  | cons crumb trail =>
    cases hfield : p.node.inField "declarator" with
    | true => simp only [declaratorExposure_hollow crumb.parent hfield]
    | false => rfl

/-- A block that is a cursor has no name. -/
theorem kind_of_isSealed (h : p.node.isSealed = true) {kind : CursorKind}
    (hx : p.exposure options source = .cursor kind) : kind = .wholeUnit ∨ kind = .compoundStmt := by
  unfold exposure at hx
  split at hx
  · exact .inl (Exposure.cursor.inj hx).symm
  · split_ifs at hx with _ _ _ _ hseveral
    · rw [Node.isSealed_eq_false_of_inField (.inl (Bool.and_eq_true_iff.1 hseveral).1)] at h
      contradiction
    · have hblock := Node.kind_mem_of_isSealed h
      simp only [Node.blockKinds, List.mem_cons, List.not_mem_nil, or_false] at hblock
      rw [kindExposure_of_isSealed h, Node.fixedExposure] at hx
      rcases hblock with hkind | hkind | hkind
      · rw [hkind] at hx
        exact .inl (Exposure.cursor.inj hx).symm
      · rw [hkind] at hx
        contradiction
      · rw [hkind] at hx
        exact .inr (Exposure.cursor.inj hx).symm

/-- Two nodes that are the same but for what their blocks hold show alike in the same setting. -/
theorem exposure_of_hollow (hnode : p.node.hollow = q.node.hollow) (h : p.SameSetting q) :
    p.exposure options source = q.exposure options source := by
  have hsetting : p.hollow.SameSetting q.hollow :=
    ⟨h.parent, h.several, by rw [namesParent_hollow, namesParent_hollow, h.names], h.body⟩
  rw [← exposure_hollow p, ← exposure_hollow q]
  exact exposure_congr hnode hsetting

theorem SameSetting.trans {r : Place} (h : p.SameSetting q) (h' : q.SameSetting r) :
    p.SameSetting r :=
  ⟨h.parent.trans h'.parent, h.several.trans h'.several, h.names.trans h'.names,
    h.body.trans h'.body⟩

/-- The setting of a child looks at no more of it than its label. -/
theorem sameSetting_of_label {child child' : Node} (h : child.label = child'.label) (p : Place)
    (index : Nat) : (p.below index child).SameSetting (p.below index child') where
  parent := rfl
  several := rfl
  names := by simp only [namesParent, below, Node.inField, Node.field, Node.kind, h]
  body := rfl

/-- A node gives its children the same setting whatever its blocks hold. -/
theorem sameSetting_below_hollow (hnode : p.node.hollow = q.node.hollow)
    (hopen : p.node.isSealed = false)
    (hlist : p.node.kind = "template_declaration" →
      p.parentIs "field_declaration_list" = q.parentIs "field_declaration_list")
    (index : Nat) (child : Node) : (p.below index child).SameSetting (q.below index child) := by
  have hopen' : q.node.isSealed = false := by
    rw [← Node.isSealed_hollow, ← hnode, Node.isSealed_hollow, hopen]
  have hkind : p.node.kind = q.node.kind := by
    rw [← Node.kind_hollow, hnode, Node.kind_hollow]
  have hpath : ∀ d : Descendant, d.hollow.path = d.path := fun _ => rfl
  have hname : p.node.declaredName.map (·.path) = q.node.declaredName.map (·.path) := by
    have h := congrArg (fun n => n.declaredName.map (·.path)) hnode
    simp only [Node.declaredName_hollow hopen, Node.declaredName_hollow hopen', Option.map_map,
      Function.comp_def, hpath] at h
    exact h
  constructor
  · rw [parentKind?_below, parentKind?_below, hkind]
  · rw [amongSeveral_below, amongSeveral_below, ← Node.declaratorCount_hollow hopen, hnode,
      Node.declaratorCount_hollow hopen']
  · simp only [namesParent, below, hkind, hname, Node.isDeclarator, Node.isName, Node.isOneOf]
  · rw [inClassBody_below, inClassBody_below, ← hkind]
    cases h : p.node.kind == "template_declaration" with
    | false => rfl
    | true => rw [hlist (beq_iff_eq.1 h)]

end Place

namespace SourceUnit

variable {u : SourceUnit} {n : Node}

@[simp] theorem textOf_hollow (u : SourceUnit) (n : Node) : u.textOf n.hollow = u.textOf n := by
  rw [textOf, Node.label_hollow, textOf]

theorem spellName_hollow (u : SourceUnit) (n : Node) : u.spellName n.hollow = u.spellName n := by
  rw [spellName, Node.kind_hollow, textOf_hollow, spellName]

theorem spellDeclared_hollow (h : n.isSealed = false) :
    u.spellDeclared n.hollow = u.spellDeclared n := by
  rw [spellDeclared, Node.declaredName_hollow h, spellDeclared]
  cases n.declaredName with
  | none => rfl
  | some found => exact u.spellName_hollow found.node

theorem textIn_hollow (h : n.isSealed = false) (field : String) :
    u.textIn n.hollow field = u.textIn n field := by
  rw [textIn, Node.childIn?_hollow h, textIn]
  cases n.childIn? field with
  | none => rfl
  | some child => exact u.textOf_hollow child

theorem spellType_hollow (h : n.isSealed = false) : u.spellType n.hollow = u.spellType n := by
  rw [spellType, Node.kind_hollow, textOf_hollow, Node.declaredName_hollow h, spellType]
  cases n.declaredName with
  | none => rfl
  | some found =>
    simp only [Option.map_some, Descendant.hollow, spellName_hollow]

theorem spellMember_hollow (h : n.isSealed = false) :
    u.spellMember n.hollow = u.spellMember n := by
  rw [spellMember, Node.childIn?_hollow h, Node.kind_hollow, textOf_hollow, spellMember]
  cases n.childIn? "field" with
  | none => rfl
  | some field => exact u.textOf_hollow field

theorem calleeName?_hollow (function : Node) :
    calleeName? function.hollow = (calleeName? function).map Node.hollow := by
  have hno : ∀ kind ∈ Node.nameKinds, kind ∉ Node.blockKinds := by decide
  rw [calleeName?, Node.kind_hollow, Node.isName, Node.isOneOf_hollow, calleeName?, Node.isName]
  split_ifs with hfield hname
  · have hkind : function.kind = "field_expression" := beq_iff_eq.1 hfield
    exact Node.childIn?_hollow (Node.isSealed_eq_false_of_kind (by rw [hkind]; decide)) "field"
  · have hsealed := Node.isSealed_eq_false_of_kind (hno _ (Node.isOneOf_eq_true_iff.1 hname))
    rw [Node.declaredName_hollow hsealed, Option.map_map, Option.map_map]
    rfl
  · rfl

theorem spellCall_hollow (h : n.isSealed = false) : u.spellCall n.hollow = u.spellCall n := by
  have hname : (n.hollow.childIn? "function").bind calleeName? =
      ((n.childIn? "function").bind calleeName?).map Node.hollow := by
    rw [Node.childIn?_hollow h]
    cases n.childIn? "function" with
    | none => rfl
    | some function => exact calleeName?_hollow function
  rw [spellCall, hname, spellCall]
  cases (n.childIn? "function").bind calleeName? with
  | none => rfl
  | some name => exact u.spellName_hollow name

theorem sentSelector_hollow (h : n.isSealed = false) :
    u.sentSelector n.hollow = u.sentSelector n := by
  rw [sentSelector, Node.children_hollow h, List.flatMap_map, sentSelector]
  simp only [Node.inField_hollow, textOf_hollow, Node.kind_hollow]

theorem ownKeyword?_hollow (h : n.isSealed = false) :
    u.ownKeyword? n.hollow = u.ownKeyword? n := by
  rw [ownKeyword?, Node.children_hollow h, ownKeyword?]
  match n.children with
  | [] => rfl
  | [_] => rfl
  | word :: colon :: _ => simp only [List.map_cons, Node.kind_hollow, textOf_hollow]

theorem addSelectorPart_hollow (parts : SelectorParts) (child : Node) :
    u.addSelectorPart parts child.hollow = u.addSelectorPart parts child := by
  rw [addSelectorPart, Node.kind_hollow, textOf_hollow, addSelectorPart]
  split
  · rfl
  · rename_i hkind
    rw [ownKeyword?_hollow (Node.isSealed_eq_false_of_kind (by rw [hkind]; decide))]
  · rename_i hkind
    rw [ownKeyword?_hollow (Node.isSealed_eq_false_of_kind (by rw [hkind]; decide))]
  · rfl

theorem declaredSelector_hollow (h : n.isSealed = false) :
    u.declaredSelector n.hollow = u.declaredSelector n := by
  rw [declaredSelector, Node.namedChildren_hollow h, List.foldl_map, declaredSelector]
  simp only [addSelectorPart_hollow]

/-- The spelling of a node does not depend on what the blocks below it hold. -/
theorem spell_hollow (h : n.isSealed = false) (kind : CursorKind) :
    u.spell n.hollow kind = u.spell n kind := by
  simp only [spell, declaredSelector_hollow h, spellType_hollow h, spellDeclared_hollow h,
    spellMember_hollow h, spellCall_hollow h, textOf_hollow, sentSelector_hollow h,
    textIn_hollow h, spellInclusion]

/-- Two cursors for nodes that are the same but for what their blocks hold are spelled alike. -/
theorem spell_of_hollow {p q : Place} (hnode : p.node.hollow = q.node.hollow) {kind : CursorKind}
    (hx : u.exposure p = .cursor kind) : u.spell p.node kind = u.spell q.node kind := by
  cases h : p.node.isSealed with
  | true =>
    rcases Place.kind_of_isSealed h hx with rfl | rfl
    · rfl
    · rfl
  | false =>
    have hq : q.node.isSealed = false := by
      rw [← Node.isSealed_hollow, ← hnode, Node.isSealed_hollow, h]
    rw [← spell_hollow h, ← spell_hollow hq, hnode]

/-- Two nodes that are the same but for what their blocks hold show alike in the same setting, if
what they hold does. -/
theorem sketches_of_hollow {p q : Place} (hnode : p.node.hollow = q.node.hollow)
    (h : p.SameSetting q)
    (hbelow : u.sketchesBelow Cursor.kind p = u.sketchesBelow Cursor.kind q) :
    u.sketches Cursor.kind p = u.sketches Cursor.kind q := by
  have hlabel : p.node.label = q.node.label := by
    rw [← Node.label_hollow, hnode, Node.label_hollow]
  exact sketches_kind_congr hlabel (Place.exposure_of_hollow hnode h)
    (fun _ hx => spell_of_hollow hnode hx) hbelow

end SourceUnit

end CodeCursor
