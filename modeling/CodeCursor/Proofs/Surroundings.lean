import CodeCursor.Proofs.Sketches

/-!
# What surrounds a place

How a node shows depends on the node and on a few facts about what it stands in: the kind and the
name of its parent, how many declarators the parent has, and whether it stands in the body of a
class.  Where these facts agree, a node and all below it show alike.
-/

namespace CodeCursor

namespace Node

/-- Nodes that show as methods in the body of a class and as functions elsewhere. -/
def functionKinds : List String :=
  ["function_definition", "declaration"]

/-- Nodes that are a sequence of declarations or statements, in the grammar's words or in those of
the preprocessor. -/
def sequenceKinds : List String :=
  ["translation_unit", "declaration_list", "compound_statement", "field_declaration_list",
   "preproc_if", "preproc_ifdef", "preproc_else"]

def isSequence (n : Node) : Bool :=
  n.isOneOf sequenceKinds

/-- Whether the node is held in none of the fields that the rules for children of a sequence look
at. -/
def Unheld (n : Node) : Prop :=
  ∀ field ∈ ["condition", "declarator", "name"], n.inField field = false

theorem Unheld.of_field {n : Node} (h : n.field = none) : n.Unheld := by
  intro field _
  rw [inField, h]
  rfl

theorem isOneOf_congr {m n : Node} (h : m.kind = n.kind) (kinds : List String) :
    m.isOneOf kinds = n.isOneOf kinds := by
  rw [isOneOf, isOneOf, h]

end Node

namespace Place

variable {options : Options} {source : Source} {p q : Place}

/-- The kinds of parents that decide on the kind of a cursor, class bodies apart. -/
def askedKinds : List String :=
  ["instance_variable", "class_interface", "class_implementation", "class_declaration",
   "protocol_reference_list", "protocol_forward_declaration", "at_expression"]

theorem kindExposure_congr (hnode : p.node = q.node)
    (hparent : ∀ kind ∈ askedKinds, p.parentIs kind = q.parentIs kind)
    (hclass : p.node.isOneOf Node.functionKinds = true → p.inClassBody = q.inClassBody) :
    p.kindExposure options source = q.kindExposure options source := by
  have hfunction : ∀ kind ∈ Node.functionKinds, p.node.kind = kind →
      p.functionKind = q.functionKind := by
    intro kind hmem hkind
    rw [← hkind] at hmem
    rw [functionKind, functionKind, hnode, hclass (Node.isOneOf_eq_true_iff.2 hmem)]
  have hidentifier : p.identifierKind = q.identifierKind := by
    rw [identifierKind, identifierKind, hnode, hparent "class_interface" (by decide),
      hparent "class_implementation" (by decide), hparent "class_declaration" (by decide),
      hparent "protocol_reference_list" (by decide),
      hparent "protocol_forward_declaration" (by decide)]
  have hplain : p.plainExposure source = q.plainExposure source := by
    rw [plainExposure, plainExposure, declarationExposure, declarationExposure,
      declarationExposure, declarationExposure, hidentifier,
      hparent "instance_variable" (by decide), hparent "at_expression" (by decide), ← hnode]
    split
    case h_1 hkind => rw [hfunction _ (by decide) hkind]
    case h_2 hkind => rw [hfunction _ (by decide) hkind]
    all_goals rfl
  rw [kindExposure, kindExposure, hnode, hplain]

/-- Whether the parent has several declarators. -/
def amongSeveral (p : Place) : Bool :=
  p.parent?.any fun parent => decide (1 < parent.node.declaratorCount)

/-- The facts about what a place stands in that decide how it shows. -/
structure SameSetting (p q : Place) : Prop where
  parent : p.parentKind? = q.parentKind?
  several : p.amongSeveral = q.amongSeveral
  names : p.namesParent = q.namesParent
  body : p.inClassBody = q.inClassBody

theorem SameSetting.parentIs (h : p.SameSetting q) (kind : String) :
    p.parentIs kind = q.parentIs kind := by
  rw [Place.parentIs, Place.parentIs, h.parent]

theorem isBody_congr (hnode : p.node = q.node) (hparent : p.parentKind? = q.parentKind?) :
    p.isBody = q.isBody := by
  have hkinds : ∀ r : Place, (r.parent?.any fun a => a.node.isOneOf Node.definitionKinds) =
      r.parentKind?.any Node.definitionKinds.contains := by
    intro r
    rw [parentKind?, Option.any_map]
    rfl
  rw [isBody, isBody, hkinds, hkinds, hnode, hparent]

theorem isCondition_congr (hnode : p.node = q.node) (hparent : p.parentKind? = q.parentKind?) :
    p.isCondition = q.isCondition := by
  have hkinds : ∀ r : Place, (r.parent?.any fun a => Text.beginsWith a.node.kind "preproc_") =
      r.parentKind?.any (Text.beginsWith · "preproc_") := by
    intro r
    rw [parentKind?, Option.any_map]
  rw [isCondition, isCondition, hkinds, hkinds, hnode, hparent]

/-- A node shows alike in the same setting. -/
theorem exposure_congr (hnode : p.node = q.node) (h : p.SameSetting q) :
    p.exposure options source = q.exposure options source := by
  have hkind : p.kindExposure options source = q.kindExposure options source :=
    kindExposure_congr hnode (fun kind _ => h.parentIs kind) fun _ => h.body
  have hbody := isBody_congr hnode h.parent
  have hcondition := isCondition_congr hnode h.parent
  have hseveral := h.several
  have hparent := h.parent
  unfold exposure
  cases hp : p.trail with
  | nil =>
    cases hq : q.trail with
    | nil => rfl
    | cons crumb trail => simp [parentKind?, parent?, hp, hq] at hparent
  | cons crumb trail =>
    cases hq : q.trail with
    | nil => simp [parentKind?, parent?, hp, hq] at hparent
    | cons crumb' trail' =>
      simp only [parentKind?, parent?, hp, hq, Option.map_some, Option.some.injEq] at hparent
      simp only [amongSeveral, parent?, hp, hq, Option.any_some] at hseveral
      simp only [hnode, h.names, hkind, hbody, hcondition, hseveral,
        Node.isOneOf_congr hparent, declaratorExposure, hparent]

theorem parentKind?_below (p : Place) (index : Nat) (child : Node) :
    (p.below index child).parentKind? = some p.node.kind := rfl

@[simp] theorem parentIs_below (p : Place) (index : Nat) (child : Node) (kind : String) :
    (p.below index child).parentIs kind = (p.node.kind == kind) := rfl

theorem amongSeveral_below (p : Place) (index : Nat) (child : Node) :
    (p.below index child).amongSeveral = decide (1 < p.node.declaratorCount) := rfl

theorem inClassBody_below (p : Place) (index : Nat) (child : Node) :
    (p.below index child).inClassBody =
      (p.node.kind == "field_declaration_list" ||
        (p.node.kind == "template_declaration" && p.parentIs "field_declaration_list")) := rfl

/-- A node gives its children the same setting wherever it stands, unless it is a template, which
asks for what it stands in. -/
theorem sameSetting_below (hnode : p.node = q.node)
    (hlist : p.node.kind = "template_declaration" →
      p.parentIs "field_declaration_list" = q.parentIs "field_declaration_list")
    (index : Nat) (child : Node) : (p.below index child).SameSetting (q.below index child) where
  parent := by rw [parentKind?_below, parentKind?_below, hnode]
  several := by rw [amongSeveral_below, amongSeveral_below, hnode]
  names := by simp only [namesParent, below, hnode]
  body := by
    rw [inClassBody_below, inClassBody_below, ← hnode]
    cases h : p.node.kind == "template_declaration" with
    | false => rfl
    | true => rw [hlist (beq_iff_eq.1 h)]

/-- The only child of a sequence that names it is the macro that a conditional asks for. -/
theorem namesParent_below_sequence (h : p.node.isSequence = true) (index : Nat) (child : Node) :
    (p.below index child).namesParent =
      (p.node.kind == "preproc_ifdef" && child.inField "name") := by
  rw [Node.isSequence, Node.isOneOf_eq_true_iff] at h
  have hno : ∀ kind ∈ Node.sequenceKinds, (Text.endsIn kind "_declarator" ||
      Node.nameKinds.contains kind || Node.declarationKinds.contains kind ||
      Node.directiveKinds.contains kind) = false := by decide
  have hnone : (p.node.isDeclarator || p.node.isName || p.node.isOneOf Node.declarationKinds ||
      p.node.isOneOf Node.directiveKinds) = false := hno _ h
  unfold namesParent
  simp only [below]
  split
  case h_2 hkind =>
    rw [hkind]
    rfl
  case h_10 hifdef _ _ _ _ _ _ _ =>
    rw [hnone, beq_eq_false_iff_ne.2 hifdef]
    rfl
  -- The other parents that name a child are no sequences.
  all_goals
    rename_i hkind
    rw [hkind] at h
    exact absurd h (by decide)

theorem inClassBody_below_sequence (h : p.node.isSequence = true) (index : Nat) (child : Node) :
    (p.below index child).inClassBody = (p.node.kind == "field_declaration_list") := by
  rw [Node.isSequence, Node.isOneOf_eq_true_iff] at h
  have hno : ∀ kind ∈ Node.sequenceKinds, (kind == "template_declaration") = false := by decide
  rw [inClassBody_below, hno _ h, Bool.false_and, Bool.or_false]

theorem sameSetting_below_sequence (hp : p.node.isSequence = true)
    (hkind : p.node.kind = q.node.kind)
    (hcount : p.node.declaratorCount = q.node.declaratorCount) (i j : Nat) (child : Node) :
    (p.below i child).SameSetting (q.below j child) where
  parent := by rw [parentKind?_below, parentKind?_below, hkind]
  several := by rw [amongSeveral_below, amongSeveral_below, hcount]
  names := by
    have hq : q.node.isSequence = true := (Node.isOneOf_congr hkind _).symm.trans hp
    rw [namesParent_below_sequence hp, namesParent_below_sequence hq, hkind]
  body := by
    have hq : q.node.isSequence = true := (Node.isOneOf_congr hkind _).symm.trans hp
    rw [inClassBody_below_sequence hp, inClassBody_below_sequence hq, hkind]

/-- The rules that are left for a child of a sequence. -/
theorem exposure_below_sequence (options : Options) (source : Source)
    (hp : p.node.isSequence = true) {child : Node} (hchild : child.Unheld) (index : Nat) :
    (p.below index child).exposure options source =
      if !child.label.named || child.label.missing then .hidden
      else if child.kind == "comment" then .hidden
      else (p.below index child).kindExposure options source := by
  have hdirective : p.node.isOneOf Node.directiveKinds = false :=
    Node.isOneOf_eq_false hp (by decide)
  have hdefinition : p.node.isOneOf Node.definitionKinds = false :=
    Node.isOneOf_eq_false hp (by decide)
  have hbody : (p.below index child).isBody = false := by
    rw [isBody, parent?]
    simp only [below, Option.any_some, hdefinition, Bool.and_false]
  have hcondition : (p.below index child).isCondition = false := by
    rw [isCondition, node_below, hchild "condition" (by decide), Bool.false_and]
  rw [exposure_below, namesParent_below_sequence hp, hdirective, hbody, hcondition,
    hchild "declarator" (by decide), hchild "name" (by decide)]
  simp

theorem parentIs_of_sequence (hp : p.node.isSequence = true) (hq : q.node.isSequence = true)
    {i j : Nat} {child : Node} :
    ∀ kind ∈ askedKinds, (p.below i child).parentIs kind = (q.below j child).parentIs kind := by
  have hno : ∀ kind ∈ askedKinds, kind ∉ Node.sequenceKinds := by decide
  have hnot : ∀ r : Place, r.node.isSequence = true → ∀ kind ∈ askedKinds,
      (r.node.kind == kind) = false := by
    intro r hr kind hkind
    rw [beq_eq_false_iff_ne]
    rintro rfl
    exact hno _ hkind (Node.isOneOf_eq_true_iff.1 hr)
  intro kind hkind
  rw [parentIs_below, parentIs_below, hnot p hp kind hkind, hnot q hq kind hkind]

end Place

namespace SourceUnit

variable {u : SourceUnit} {p q : Place}

/-- A node and all below it show alike in the same setting. -/
theorem sketches_of_sameSetting (hnode : p.node = q.node) (h : p.SameSetting q) :
    u.sketches Cursor.kind p = u.sketches Cursor.kind q := by
  induction p using Place.induction generalizing q with
  | step p ih =>
    apply sketches_kind_congr (congrArg Node.label hnode) (Place.exposure_congr hnode h)
    · exact fun _ _ => by rw [hnode]
    · rw [sketchesBelow, sketchesBelow, ← hnode]
      apply sketchesAmong_congr
      intro k n hn
      have hmem : p.below (0 + k) n ∈ p.children :=
        Place.mem_children_iff.2 ⟨0 + k, n, by rwa [Nat.zero_add], rfl⟩
      have hsetting := Place.sameSetting_below hnode (fun _ => h.parentIs _) (0 + k) n
      exact ih _ hmem rfl hsetting

theorem sketchesAmong_of_sameSetting {i j : Nat} {nodes : List Node}
    (h : ∀ k n, nodes[k]? = some n → (p.below (i + k) n).SameSetting (q.below (j + k) n)) :
    u.sketchesAmong Cursor.kind p i nodes = u.sketchesAmong Cursor.kind q j nodes := by
  apply sketchesAmong_congr
  intro k n hn
  have hsame : (p.below (i + k) n).node = (q.below (j + k) n).node := rfl
  exact sketches_of_sameSetting hsame (h k n hn)

/-- What a node holds shows alike wherever the node stands, unless it is a template. -/
theorem sketchesBelow_of_node (hnode : p.node = q.node)
    (hlist : p.node.kind = "template_declaration" →
      p.parentIs "field_declaration_list" = q.parentIs "field_declaration_list") :
    u.sketchesBelow Cursor.kind p = u.sketchesBelow Cursor.kind q := by
  rw [sketchesBelow, sketchesBelow, hnode]
  exact sketchesAmong_of_sameSetting fun k n _ => Place.sameSetting_below hnode hlist (0 + k) n

/-- A child of a sequence shows alike in any other sequence, if both or neither are the body of a
class. -/
theorem sketches_below_sequence (hp : p.node.isSequence = true) (hq : q.node.isSequence = true)
    (hbody : (p.node.kind == "field_declaration_list") =
      (q.node.kind == "field_declaration_list"))
    {child : Node} (hunheld : child.Unheld) (i j : Nat) :
    u.sketches Cursor.kind (p.below i child) = u.sketches Cursor.kind (q.below j child) := by
  have hchild : (p.below i child).node = (q.below j child).node := rfl
  have hkind : (p.below i child).kindExposure u.options u.source =
      (q.below j child).kindExposure u.options u.source := by
    apply Place.kindExposure_congr hchild
    · exact Place.parentIs_of_sequence hp hq
    · intro _
      rw [Place.inClassBody_below_sequence hp, Place.inClassBody_below_sequence hq, hbody]
  apply sketches_kind_congr (congrArg Node.label hchild)
  · rw [exposure, exposure, Place.exposure_below_sequence _ _ hp hunheld,
      Place.exposure_below_sequence _ _ hq hunheld, hkind]
  · exact fun _ _ => rfl
  · exact sketchesBelow_of_node hchild fun _ => hbody

theorem sketchesAmong_below_sequence (hp : p.node.isSequence = true)
    (hq : q.node.isSequence = true)
    (hbody : (p.node.kind == "field_declaration_list") =
      (q.node.kind == "field_declaration_list"))
    {nodes : List Node} (hnodes : ∀ n ∈ nodes, n.field = none) (i j : Nat) :
    u.sketchesAmong Cursor.kind p i nodes = u.sketchesAmong Cursor.kind q j nodes := by
  apply sketchesAmong_congr
  intro k n hn
  have hunheld := Node.Unheld.of_field (hnodes n (List.mem_of_getElem? hn))
  exact sketches_below_sequence hp hq hbody hunheld (i + k) (j + k)

end SourceUnit

end CodeCursor
