import CodeCursor.Proofs.LocationOrder
import CodeCursor.Proofs.Visits

/-!
# Nested extents

In a tree whose spans are nested, a node lies within the nodes above it and ends before the nodes
to its right begin.  The children of a cursor are gathered from different depths, through
flattened nodes and from the declarators of one declaration, but they stand from left to right,
so their extents follow one another within the extent of the cursor.
-/

namespace CodeCursor

namespace Node

/-- The node does not end before it begins, its children lie within it, and each of them ends
before the next ones begin. -/
def Nests (n : Node) : Prop :=
  n.label.start ≤ n.label.stop ∧
    (∀ child ∈ n.children,
      n.label.start ≤ child.label.start ∧ child.label.stop ≤ n.label.stop) ∧
    n.children.Pairwise fun a b => a.label.stop ≤ b.label.start

instance (n : Node) : Decidable n.Nests :=
  inferInstanceAs (Decidable (_ ∧ _ ∧ _))

/-- The spans of all nodes of the tree are nested and in source order. -/
def IsNested (tree : Node) : Prop :=
  ∀ p ∈ tree.places, p.node.Nests

instance (tree : Node) : Decidable tree.IsNested :=
  inferInstanceAs (Decidable (∀ p ∈ tree.places, p.node.Nests))

end Node

namespace Place

/-- The path to a place begins with the paths to the places above it, and with no other. -/
theorem In.exists_above {tree : Node} {p : Place} (hp : p.In tree) {path : List Nat}
    (h : path <+: p.path) : ∃ a : Place, a.In tree ∧ a.path = path ∧ p ∈ a.preorder := by
  induction hp with
  | root =>
    rw [path_root, List.prefix_nil] at h
    exact ⟨.root tree, .root, h.symm, self_mem_preorder _⟩
  | @child p index child hp hc ih =>
    rw [path_below, List.prefix_concat_iff] at h
    rcases h with rfl | h
    · exact ⟨p.below index child, .child hp hc, path_below p index child, self_mem_preorder _⟩
    · obtain ⟨a, ha, hpath, hbelow⟩ := ih h
      have hchild : p.below index child ∈ p.children := mem_children_iff.2 ⟨index, child, hc, rfl⟩
      exact ⟨a, ha, hpath, mem_preorder_trans hbelow (mem_preorder_of_mem_children hchild)⟩

theorem In.exists_parent_above {tree : Node} {p : Place} (hp : p.In tree) {path : List Nat}
    {index : Nat} (h : path ++ [index] <+: p.path) :
    ∃ (parent : Place) (child : Node), parent.In tree ∧ parent.path = path ∧
      parent.node.children[index]? = some child ∧ p ∈ (parent.below index child).preorder := by
  obtain ⟨a, ha, hpath, hbelow⟩ := hp.exists_above h
  cases ha with
  | root => simp at hpath
  | @child parent i child hparent hc =>
    rw [path_below] at hpath
    obtain ⟨hparentPath, hindex⟩ := List.append_inj' hpath rfl
    obtain rfl := List.singleton_inj.1 hindex
    exact ⟨parent, child, hparent, hparentPath, hc, hbelow⟩

/-- Of two places in preorder, the second lies below the first or to its right. -/
theorem preorder_below_or_leftOf (p : Place) :
    p.preorder.Pairwise fun a b => b ∈ a.preorder ∨ a.LeftOf b := by
  induction p using Place.induction with
  | step p ih =>
    rw [preorder_eq, List.pairwise_cons, List.pairwise_flatMap]
    refine ⟨?_, ih, ?_⟩
    · intro r hr
      obtain ⟨q, hq, hr⟩ := List.mem_flatMap.1 hr
      exact .inl (mem_preorder_iff.2 (.inr ⟨q, hq, hr⟩))
    · apply p.children_leftOf.imp
      intro a b hab r hr s hs
      exact .inr (hab.of_preorder hr hs)

section

variable {tree : Node} (hnested : tree.IsNested) {p q : Place}
include hnested

theorem In.nests (hp : p.In tree) : p.node.Nests :=
  hnested p (Node.mem_places_iff.2 hp)

theorem within_of_mem_preorder (hp : p.In tree) (hq : q ∈ p.preorder) :
    p.node.label.start ≤ q.node.label.start ∧ q.node.label.stop ≤ p.node.label.stop := by
  induction p using Place.induction with
  | step p ih =>
    rcases mem_preorder_iff.1 hq with rfl | ⟨child, hc, hq⟩
    · exact ⟨Nat.le_refl _, Nat.le_refl _⟩
    · have hbelow := ih child hc (hp.of_mem_children hc) hq
      have hnode : child.node ∈ p.node.children := by
        rw [← children_map_node]
        exact List.mem_map_of_mem hc
      have hchild := (hp.nests hnested).2.1 child.node hnode
      exact ⟨hchild.1.trans hbelow.1, hbelow.2.trans hchild.2⟩

/-- What lies to the left of a place ends before the place begins. -/
theorem LeftOf.stop_le_start (hp : p.In tree) (hq : q.In tree) (h : LeftOf p q) :
    p.node.label.stop ≤ q.node.label.start := by
  obtain ⟨shared, i, j, hij, hi, hj⟩ := h
  obtain ⟨parent, left, hparent, hpath, hleft, hp⟩ := hp.exists_parent_above hi
  obtain ⟨parent', right, hparent', hpath', hright, hq⟩ := hq.exists_parent_above hj
  obtain rfl := hparent.eq_of_path hparent' (hpath.trans hpath'.symm)
  have hordered : left.label.stop ≤ right.label.start := by
    obtain ⟨hilt, rfl⟩ := List.getElem?_eq_some_iff.1 hleft
    obtain ⟨hjlt, rfl⟩ := List.getElem?_eq_some_iff.1 hright
    exact List.pairwise_iff_getElem.1 (hparent.nests hnested).2.2 i j hilt hjlt hij
  calc p.node.label.stop
      ≤ left.label.stop := (within_of_mem_preorder hnested (.child hparent hleft) hp).2
    _ ≤ right.label.start := hordered
    _ ≤ q.node.label.start := (within_of_mem_preorder hnested (.child hparent hright) hq).1

end

end Place

/-- In preorder, no node begins before an earlier one. -/
theorem Node.IsNested.starts_sorted {tree : Node} (hnested : tree.IsNested) :
    tree.places.Pairwise fun p q => p.node.label.start ≤ q.node.label.start := by
  apply (Place.preorder_below_or_leftOf (.root tree)).imp_of_mem
  intro p q hp hq h
  rw [← Node.places, Node.mem_places_iff] at hp hq
  rcases h with hbelow | hleft
  · exact (Place.within_of_mem_preorder hnested hp hbelow).1
  · exact (hp.nests hnested).1.trans (hleft.stop_le_start hnested hp hq)

/-- An extent holds another one that begins no earlier and ends no later. -/
structure Extent.Contains (outer inner : Extent) : Prop where
  start : outer.start.UpTo inner.start
  stop : inner.stop.UpTo outer.stop

namespace SourceUnit

variable {u : SourceUnit}

theorem extentOf_contains {outer inner : Node} (hstart : outer.label.start ≤ inner.label.start)
    (hstop : inner.label.stop ≤ outer.label.stop) :
    (u.extentOf outer).Contains (u.extentOf inner) :=
  ⟨u.source.locate_upTo_locate hstart, u.source.locate_upTo_locate hstop⟩

/-- The extent of a cursor holds the extents of all cursors below, and the children of a cursor
follow one another: each ends before the next ones begin. -/
theorem extents_nested (u : SourceUnit) (hnested : u.tree.IsNested) :
    ∀ c ∈ u.root.preorder,
      c.extent.start.UpTo c.extent.stop ∧
      (∀ d ∈ c.preorder, c.extent.Contains d.extent) ∧
      c.children.Pairwise fun a b => a.extent.stop.UpTo b.extent.start := by
  intro c hc
  obtain ⟨hunit, hplace, -⟩ := mem_preorder_root.1 hc
  have hbelow : ∀ d ∈ c.preorder, d.unit = u ∧ d.place.In u.tree := by
    intro d hd
    obtain ⟨hunit, hplace, -⟩ := mem_preorder_root.1 (Cursor.mem_preorder_trans hc hd)
    exact ⟨hunit, hplace⟩
  have hchild : ∀ d ∈ c.children, d ∈ c.preorder := fun d hd =>
    Cursor.mem_preorder_iff.2 (.inr ⟨d, hd, d.self_mem_preorder⟩)
  refine ⟨?_, ?_, ?_⟩
  · exact c.unit.source.locate_upTo_locate (hplace.nests hnested).1
  · intro d hd
    have hwithin := Place.within_of_mem_preorder hnested hplace (Cursor.place_mem_preorder hd)
    rw [Cursor.extent, Cursor.extent, hunit, (hbelow d hd).1]
    exact extentOf_contains hwithin.1 hwithin.2
  · apply c.children_leftOf.imp_of_mem
    intro a b ha hb hab
    obtain ⟨haunit, haplace⟩ := hbelow a (hchild a ha)
    obtain ⟨hbunit, hbplace⟩ := hbelow b (hchild b hb)
    rw [Cursor.extent, Cursor.extent, haunit, hbunit]
    exact u.source.locate_upTo_locate (hab.stop_le_start hnested haplace hbplace)

/-- Three variables, two of them declared together under a condition. -/
def spread : SourceUnit where
  path := "unit.c"
  dialect := .c
  source := .ofString "int z;\n#if A\nint a = f(), *b;\n#endif\n"
  tree :=
    .node ⟨"translation_unit", none, true, false, false, false, 0, 37⟩
      [.node ⟨"declaration", none, true, false, false, false, 0, 6⟩
        [.node ⟨"primitive_type", some "type", true, false, false, false, 0, 3⟩ [],
         .node ⟨"identifier", some "declarator", true, false, false, false, 4, 5⟩ [],
         .node ⟨";", none, false, false, false, false, 5, 6⟩ []],
       .node ⟨"preproc_if", none, true, false, false, false, 7, 37⟩
        [.node ⟨"#if", none, false, false, false, false, 7, 10⟩ [],
         .node ⟨"identifier", some "condition", true, false, false, false, 11, 12⟩ [],
         .node ⟨"\n", none, false, false, false, false, 12, 13⟩ [],
         .node ⟨"declaration", none, true, false, false, false, 13, 29⟩
          [.node ⟨"primitive_type", some "type", true, false, false, false, 13, 16⟩ [],
           .node ⟨"init_declarator", some "declarator", true, false, false, false, 17, 24⟩
            [.node ⟨"identifier", some "declarator", true, false, false, false, 17, 18⟩ [],
             .node ⟨"=", none, false, false, false, false, 19, 20⟩ [],
             .node ⟨"call_expression", some "value", true, false, false, false, 21, 24⟩
              [.node ⟨"identifier", some "function", true, false, false, false, 21, 22⟩ [],
               .node ⟨"argument_list", some "arguments", true, false, false, false, 22, 24⟩
                [.node ⟨"(", none, false, false, false, false, 22, 23⟩ [],
                 .node ⟨")", none, false, false, false, false, 23, 24⟩ []]]],
           .node ⟨",", none, false, false, false, false, 24, 25⟩ [],
           .node ⟨"pointer_declarator", some "declarator", true, false, false, false, 26, 28⟩
            [.node ⟨"*", none, false, false, false, false, 26, 27⟩ [],
             .node ⟨"identifier", some "declarator", true, false, false, false, 27, 28⟩ []],
           .node ⟨";", none, false, false, false, false, 28, 29⟩ []],
         .node ⟨"#endif", none, false, false, false, false, 30, 36⟩ []]]
  options := .standard

theorem extents_nested_spread :
    spread.tree.IsNested ∧
      spread.root.children.map Cursor.extent =
        [⟨⟨1, 1, 0⟩, ⟨1, 7, 6⟩⟩, ⟨⟨3, 5, 17⟩, ⟨3, 12, 24⟩⟩, ⟨⟨3, 14, 26⟩, ⟨3, 16, 28⟩⟩] ∧
      (∀ d ∈ spread.root.preorder, spread.root.extent.Contains d.extent) ∧
      spread.root.children.Pairwise fun a b => a.extent.stop.UpTo b.extent.start := by
  have hnested : spread.tree.IsNested := by decide
  have hroot := spread.extents_nested hnested spread.root (Cursor.self_mem_preorder _)
  exact ⟨hnested, by decide, hroot.2.1, hroot.2.2⟩

end SourceUnit

end CodeCursor
