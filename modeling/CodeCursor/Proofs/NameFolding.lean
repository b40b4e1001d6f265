import CodeCursor.Proofs.CursorTrees
import CodeCursor.Proofs.DeclaredNames

/-!
# Names folded into declarations

A name is left out of the cursor tree by a rule that sees its parent only, while the declaration
that is spelled with it may stand far above.  The two agree as long as each node on the way is of
a kind that the rule knows.
-/

namespace CodeCursor

namespace Node

/-- Declarations of which several declarators are shown each on its own. -/
def splitKinds : List String :=
  ["declaration", "field_declaration"]

/-- Nodes that leave out all their identifiers, as the words of a selector. -/
def selectorKinds : List String :=
  ["method_declaration", "method_definition", "keyword_declarator"]

/-- Whether nodes of a kind leave out the child by which they are spelled. -/
def foldsKind (kind : String) : Bool :=
  Text.endsIn kind "_declarator" || nameKinds.contains kind || declarationKinds.contains kind

/-- The conditions under which a node leaves out a child by which it is spelled. -/
structure Folds (holder name : Node) : Prop where
  isName : name.isName = true
  kind : foldsKind holder.kind = true
  selector : holder.isOneOf selectorKinds = true → name.kind = "identifier"
  split : holder.isOneOf splitKinds = true → holder.declaratorCount ≤ 1

end Node

namespace Place

/-- The rules for a child, in the order in which they are asked. -/
theorem exposure_below (options : Options) (source : Source) (p : Place) (index : Nat)
    (child : Node) :
    (p.below index child).exposure options source =
      if !child.label.named || child.label.missing then .hidden
      else if child.kind == "comment" || p.node.isOneOf Node.directiveKinds then .hidden
      else if options.contains .skipBodies && (p.below index child).isBody then .hidden
      else if (p.below index child).isCondition then .hidden
      else if child.inField "declarator" && decide (1 < p.node.declaratorCount) then
        declaratorExposure p.node child
      else if child.isName && (p.below index child).namesParent then .hidden
      else (p.below index child).kindExposure options source := rfl

/-- What the rules come to for a child: it is hidden, it is one of several declarators, or it is
shown by its kind and does not name its parent. -/
theorem exposure_cases (options : Options) (source : Source) {p q : Place}
    (h : q ∈ p.children) :
    q.exposure options source = .hidden ∨
      (q.node.inField "declarator" = true ∧ 1 < p.node.declaratorCount ∧
        q.exposure options source = declaratorExposure p.node q.node) ∨
      ((q.node.inField "declarator" = true → p.node.declaratorCount ≤ 1) ∧
        (q.node.isName = true → q.namesParent = false) ∧
        q.exposure options source = q.kindExposure options source) := by
  obtain ⟨index, child, -, rfl⟩ := mem_children_iff.1 h
  generalize hx : (p.below index child).exposure options source = x
  rw [exposure_below] at hx
  split_ifs at hx with _ _ _ _ hseveral hname
  · exact .inl hx.symm
  · exact .inl hx.symm
  · exact .inl hx.symm
  · exact .inl hx.symm
  · obtain ⟨hfield, hcount⟩ := Bool.and_eq_true_iff.1 hseveral
    exact .inr (.inl ⟨hfield, of_decide_eq_true hcount, hx.symm⟩)
  · exact .inl hx.symm
  · refine .inr (.inr ⟨fun hfield => ?_, fun hisName => ?_, hx.symm⟩)
    · by_contra hcount
      exact hseveral (Bool.and_eq_true_iff.2 ⟨hfield, decide_eq_true (Nat.lt_of_not_le hcount)⟩)
    · by_contra hnames
      exact hname (Bool.and_eq_true_iff.2 ⟨hisName, eq_true_of_ne_false hnames⟩)

/-- The kinds of cursors for one of several declarators. -/
def declaratorCursors : List CursorKind :=
  [.functionDecl, .varDecl, .cxxMethod, .fieldDecl]

theorem mem_declaratorCursors {parent declarator : Node} {kind : CursorKind}
    (h : declaratorExposure parent declarator = .cursor kind) : kind ∈ declaratorCursors := by
  unfold declaratorExposure at h
  split at h
  · obtain rfl := Exposure.cursor.inj h
    split
    · decide
    · decide
  · obtain rfl := Exposure.cursor.inj h
    split
    · decide
    · decide
  · contradiction

theorem declaratorExposure_eq_flattened {parent : Node} (declarator : Node)
    (h : parent.isOneOf Node.splitKinds = false) :
    declaratorExposure parent declarator = .flattened := by
  unfold declaratorExposure
  split
  · rename_i hkind
    simp [Node.isOneOf, Node.splitKinds, hkind] at h
  · rename_i hkind
    simp [Node.isOneOf, Node.splitKinds, hkind] at h
  · rfl

/-- The rule sees no more than the parent of the name, and that is enough for it. -/
theorem namesParent_of_folds {holder name : Place} (hmem : name ∈ holder.children)
    (hname : holder.declaredPlace? = some name) (hfolds : holder.node.Folds name.node) :
    name.namesParent = true := by
  obtain ⟨index, child, -, rfl⟩ := mem_children_iff.1 hmem
  have hother : ∀ kind, Node.foldsKind kind = false → holder.node.kind ≠ kind := by
    intro kind hno heq
    have hkind := hfolds.kind
    rw [heq, hno] at hkind
    contradiction
  have hselector : ∀ kind ∈ Node.selectorKinds, holder.node.kind = kind →
      (child.kind == "identifier") = true := by
    intro kind hmem heq
    apply beq_iff_eq.2
    apply hfolds.selector
    rw [Node.isOneOf, heq]
    exact List.contains_iff_mem.2 hmem
  unfold namesParent
  simp only [below]
  split
  case h_10 =>
    obtain ⟨found, hfound, hfollow⟩ := Option.bind_eq_some_iff.1 hname
    have hpath := (follow?_spec hfollow).1
    rw [path_below] at hpath
    have hkind : (holder.node.isDeclarator || holder.node.isName ||
      holder.node.isOneOf Node.declarationKinds) = true := hfolds.kind
    rw [hkind, hfound, Option.map_some, ← List.append_cancel_left hpath]
    simp
  -- The other parents have rules of their own, and only those of selectors fold their names.
  all_goals
    rename_i h
    first
    | exact absurd h (hother _ (by decide))
    | exact hselector _ (by decide) h

/-- A name that the rule leaves out is hidden, or flattened as one of several declarators. -/
theorem kind?_exposure_of_folds (options : Options) (source : Source) {holder name : Place}
    (hmem : name ∈ holder.children) (hname : holder.declaredPlace? = some name)
    (hfolds : holder.node.Folds name.node) : (name.exposure options source).kind? = none := by
  have hnames := namesParent_of_folds hmem hname hfolds
  rcases exposure_cases options source hmem with hx | ⟨-, hcount, hx⟩ | ⟨-, hnot, -⟩
  · rw [hx]
    rfl
  · have hsplit : holder.node.isOneOf Node.splitKinds = false := by
      by_contra hsplit
      exact absurd hcount (Nat.not_lt.2 (hfolds.split (eq_true_of_ne_false hsplit)))
    rw [hx, declaratorExposure_eq_flattened _ hsplit]
    rfl
  · rw [hnot hfolds.isName] at hnames
    contradiction

end Place

namespace SourceUnit

/-- A cursor below the root stands for one of several declarators, or is of the kind that its node
asks for. -/
theorem exposure_of_cursor {u : SourceUnit} {c : Cursor} (hc : c ∈ u.root.preorder)
    (hroot : c.place.isRoot = false) :
    ∃ parent : Place, c.place ∈ parent.children ∧
      ((c.place.node.inField "declarator" = true ∧ 1 < parent.node.declaratorCount ∧
          Place.declaratorExposure parent.node c.place.node = .cursor c.kind) ∨
        ((c.place.node.inField "declarator" = true → parent.node.declaratorCount ≤ 1) ∧
          c.place.kindExposure u.options u.source = .cursor c.kind)) := by
  obtain ⟨-, hin, hshown⟩ := mem_preorder_root.1 hc
  have hx : c.place.exposure u.options u.source = .cursor c.kind := (shown?_eq_some_iff.1 hshown).2
  obtain ⟨parent, hparent⟩ := hin.exists_parent hroot
  refine ⟨parent, hparent, ?_⟩
  rcases Place.exposure_cases u.options u.source hparent with h | ⟨hfield, hcount, h⟩ |
    ⟨hcount, -, h⟩
  · rw [h] at hx
    contradiction
  · exact .inl ⟨hfield, hcount, h.symm.trans hx⟩
  · exact .inr ⟨hcount, h.symm.trans hx⟩

theorem kind_of_isRoot {u : SourceUnit} {c : Cursor} (hc : c ∈ u.root.preorder)
    (hroot : c.place.isRoot = true) : c.kind = .wholeUnit := by
  have hx : u.exposure c.place = .cursor c.kind :=
    (shown?_eq_some_iff.1 (mem_preorder_root.1 hc).2.2).2
  rw [u.exposure_of_isRoot hroot] at hx
  exact (Exposure.cursor.inj hx).symm

/-- The declared name of a place is not shown itself if its parent is of a kind that leaves it
out, however far above it the place stands. -/
theorem declared_name_folded {u : SourceUnit} {p name holder : Place} (hp : p.In u.tree)
    (hname : p.declaredPlace? = some name) (hbelow : name ≠ p)
    (hholder : name.parent? = some holder) (hfolds : holder.node.Folds name.node) :
    ∀ c ∈ u.root.preorder, c.place.path ≠ name.path := by
  intro c hc hpath
  obtain ⟨q, hmem, hq⟩ := Place.exists_parent_of_declaredPlace? hname hbelow
  obtain rfl := Option.some.inj ((Place.parent?_of_mem_children hmem).symm.trans hholder)
  obtain ⟨-, hin, hshown⟩ := mem_preorder_root.1 hc
  obtain rfl := hin.eq_of_path (hp.of_mem_preorder (Place.declaredPlace?_mem_preorder hname)) hpath
  have hkind := (shown?_eq_some_iff.1 hshown).2
  have hnone := Place.kind?_exposure_of_folds u.options u.source hmem hq hfolds
  rw [← exposure, hkind] at hnone
  contradiction

/-- Two properties, of which the second has an atomic type. -/
def properties : SourceUnit where
  path := "unit.m"
  dialect := .objC
  source := .ofString "@interface P\n@property int *size;\n@property _Atomic(int) counter;\n@end"
  tree :=
    .node ⟨"translation_unit", none, true, false, false, false, 0, 70⟩
      [.node ⟨"class_interface", none, true, false, false, false, 0, 70⟩
        [.node ⟨"@interface", none, false, false, false, false, 0, 10⟩ [],
         .node ⟨"identifier", none, true, false, false, false, 11, 12⟩ [],
         .node ⟨"property_declaration", none, true, false, false, false, 13, 33⟩
          [.node ⟨"@property", none, false, false, false, false, 13, 22⟩ [],
           .node ⟨"struct_declaration", none, true, false, false, false, 23, 33⟩
            [.node ⟨"primitive_type", none, true, false, false, false, 23, 26⟩ [],
             .node ⟨"struct_declarator", none, true, false, false, false, 27, 32⟩
              [.node ⟨"pointer_declarator", none, true, false, false, false, 27, 32⟩
                [.node ⟨"*", none, false, false, false, false, 27, 28⟩ [],
                 .node ⟨"identifier", some "declarator", true, false, false, false, 28, 32⟩ []]],
             .node ⟨";", none, false, false, false, false, 32, 33⟩ []]],
         .node ⟨"property_declaration", none, true, false, false, false, 34, 65⟩
          [.node ⟨"@property", none, false, false, false, false, 34, 43⟩ [],
           .node ⟨"atomic_declaration", none, true, false, false, false, 44, 65⟩
            [.node ⟨"_Atomic", none, false, false, false, false, 44, 51⟩ [],
             .node ⟨"(", none, false, false, false, false, 51, 52⟩ [],
             .node ⟨"primitive_type", none, true, false, false, false, 52, 55⟩ [],
             .node ⟨")", none, false, false, false, false, 55, 56⟩ [],
             .node ⟨"field_identifier", none, true, false, false, false, 57, 64⟩ [],
             .node ⟨";", none, false, false, false, false, 64, 65⟩ []]],
         .node ⟨"@end", none, false, false, false, false, 66, 70⟩ []]]
  options := .standard

/-- The name of the first property is folded into it, from three nodes below. -/
theorem declared_name_folded_properties :
    ∃ p name holder : Place, (Place.root properties.tree).follow? [0, 2] = some p ∧
      (Place.root properties.tree).follow? [0, 2, 1, 1, 0, 1] = some name ∧
      p.In properties.tree ∧ p.declaredPlace? = some name ∧ name ≠ p ∧
      name.parent? = some holder ∧ holder.node.Folds name.node ∧
      ∀ c ∈ properties.root.preorder, c.place.path ≠ name.path := by
  have hp : (Place.root properties.tree).follow? [0, 2] = some _ := rfl
  have hin := Place.In.root.of_follow? hp
  refine ⟨_, _, _, hp, rfl, hin, rfl, ?below, rfl, ?folds,
    declared_name_folded hin rfl ?below rfl ?folds⟩
  case below => exact fun h => absurd (congrArg Place.path h) (by decide)
  case folds => exact ⟨rfl, rfl, by decide, by decide⟩

/-- The name of the atomic property is not folded, as the node that holds it is of a kind that
leaves nothing out. -/
theorem declared_name_shown_properties :
    ¬∀ c ∈ properties.root.preorder, c.isDeclaration = true →
      c.kind ≠ .objCInstanceMethodDecl → c.kind ≠ .objCClassMethodDecl →
      ∀ name, c.place.declaredPlace? = some name → name ≠ c.place →
      ∀ e ∈ properties.root.preorder, e.place ≠ name := by
  intro h
  have hp : (Place.root properties.tree).follow? [0, 3] = some _ := rfl
  have hname : (Place.root properties.tree).follow? [0, 3, 1, 4] = some _ := rfl
  have hc : _ ∈ properties.root.preorder :=
    mem_preorder_of_shown? (Place.In.root.of_follow? hp) rfl
  have he : _ ∈ properties.root.preorder :=
    mem_preorder_of_shown? (Place.In.root.of_follow? hname) rfl
  refine h _ hc rfl (by decide) (by decide) _ rfl ?_ _ he rfl
  exact fun heq => absurd (congrArg Place.path heq) (by decide)

end SourceUnit

end CodeCursor
