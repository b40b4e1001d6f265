import CodeCursor.Tree.Place
import Mathlib.Data.List.Nodup
import Mathlib.Order.Nat

/-!
# The places of a tree in order

A tree has one place for each of its nodes.  Here they are listed in preorder, and two places
are compared by where they stand: one below the other, or one to the left of the other.  What is
said of places is proved along one induction, from the children of a place to the place.
-/

namespace CodeCursor

namespace Place

def children (p : Place) : List Place :=
  p.node.children.zipIdx.map fun child => p.below child.2 child.1

/-- The places that a trail passes, the nearest first. -/
def passed : List Crumb → List Place
  | [] => []
  | crumb :: trail => ⟨crumb.parent, trail⟩ :: passed trail

def ancestors (p : Place) : List Place :=
  passed p.trail

def lineage (p : Place) : List Place :=
  p :: p.ancestors

@[simp] theorem ancestors_root (tree : Node) : (root tree).ancestors = [] := rfl

@[simp] theorem ancestors_below (p : Place) (index : Nat) (child : Node) :
    (p.below index child).ancestors = p.lineage := rfl

theorem mem_children_iff {p q : Place} :
    q ∈ p.children ↔ ∃ index child, p.node.children[index]? = some child ∧
      q = p.below index child := by
  simp only [children, List.mem_map, Prod.exists, List.mem_zipIdx_iff_getElem?]
  constructor
  · rintro ⟨child, index, hc, rfl⟩
    exact ⟨index, child, hc, rfl⟩
  · rintro ⟨index, child, hc, rfl⟩
    exact ⟨child, index, hc, rfl⟩

theorem ancestors_of_mem_children {p q : Place} (h : q ∈ p.children) :
    q.ancestors = p.lineage := by
  obtain ⟨index, child, -, rfl⟩ := mem_children_iff.1 h
  rfl

theorem parent?_of_mem_children {p q : Place} (h : q ∈ p.children) : q.parent? = some p := by
  obtain ⟨index, child, -, rfl⟩ := mem_children_iff.1 h
  rfl

theorem children_map_node (p : Place) : p.children.map node = p.node.children := by
  rw [children, List.map_map]
  exact List.zipIdx_map_fst 0 p.node.children

theorem In.of_mem_children {tree : Node} {p q : Place} (hp : In tree p)
    (h : q ∈ p.children) : In tree q := by
  obtain ⟨index, child, hc, rfl⟩ := mem_children_iff.1 h
  exact .child hp hc

theorem size_lt_of_mem_children {p q : Place} (h : q ∈ p.children) :
    q.node.size < p.node.size := by
  obtain ⟨index, child, hc, rfl⟩ := mem_children_iff.1 h
  exact Node.size_lt_of_mem (List.mem_of_getElem? hc)

/-- What holds of a place whenever it holds of the place's children holds of every place. -/
@[elab_as_elim]
theorem induction {motive : Place → Prop}
    (step : ∀ p, (∀ q ∈ p.children, motive q) → motive p) (p : Place) : motive p :=
  step p fun q _ => induction step q
termination_by p.node.size
decreasing_by exact size_lt_of_mem_children ‹_›

mutual
/-- The places of a node and of all below it, when the trail leads to the node. -/
def preorderAt (trail : List Crumb) : Node → List Place
  | .node label children =>
    ⟨.node label children, trail⟩ :: preorderAmong (.node label children) trail 0 children

/-- The places of children of a node and of all below them, counted from the given index. -/
def preorderAmong (parent : Node) (trail : List Crumb) (index : Nat) : List Node → List Place
  | [] => []
  | child :: rest =>
    preorderAt (⟨parent, index⟩ :: trail) child ++ preorderAmong parent trail (index + 1) rest
end

/-- The place and all below it, each before those below it. -/
def preorder (p : Place) : List Place :=
  preorderAt p.trail p.node

theorem preorder_eq (p : Place) : p.preorder = p :: p.children.flatMap preorder := by
  have among : ∀ (nodes : List Node) (index : Nat),
      preorderAmong p.node p.trail index nodes =
        ((nodes.zipIdx index).map fun child => p.below child.2 child.1).flatMap preorder := by
    intro nodes
    induction nodes with
    | nil => intro index; rfl
    | cons child rest ih =>
      intro index
      rw [preorderAmong, ih]
      rfl
  have h := among p.node.children 0
  obtain ⟨⟨label, children⟩, trail⟩ := p
  exact congrArg _ h

theorem self_mem_preorder (p : Place) : p ∈ p.preorder := by
  rw [preorder_eq]
  exact List.mem_cons_self

theorem mem_preorder_iff {p r : Place} :
    r ∈ p.preorder ↔ r = p ∨ ∃ q ∈ p.children, r ∈ q.preorder := by
  rw [preorder_eq, List.mem_cons, List.mem_flatMap]

theorem mem_preorder_trans {p q r : Place} (hq : q ∈ p.preorder) (hr : r ∈ q.preorder) :
    r ∈ p.preorder := by
  induction p using Place.induction with
  | step p ih =>
    rcases mem_preorder_iff.1 hq with rfl | ⟨child, hc, hq⟩
    · exact hr
    · exact mem_preorder_iff.2 (.inr ⟨child, hc, ih child hc hq⟩)

theorem mem_preorder_of_mem_children {p q : Place} (h : q ∈ p.children) : q ∈ p.preorder :=
  mem_preorder_iff.2 (.inr ⟨q, h, self_mem_preorder q⟩)

theorem size_le_of_mem_preorder {p q : Place} (h : q ∈ p.preorder) :
    q.node.size ≤ p.node.size := by
  induction p using Place.induction with
  | step p ih =>
    rcases mem_preorder_iff.1 h with rfl | ⟨child, hc, hq⟩
    · exact le_rfl
    · exact (ih child hc hq).trans (size_lt_of_mem_children hc).le

/-- Going up from a place below another one leads to that one. -/
theorem lineage_suffix {p q : Place} (h : q ∈ p.preorder) : p.lineage <:+ q.lineage := by
  induction p using Place.induction with
  | step p ih =>
    rcases mem_preorder_iff.1 h with rfl | ⟨child, hc, hq⟩
    · exact List.suffix_rfl
    · have hs := ih child hc hq
      rw [lineage, ancestors_of_mem_children hc] at hs
      exact (List.suffix_cons _ _).trans hs

theorem mem_lineage_of_mem_preorder {p q : Place} (h : q ∈ p.preorder) : p ∈ q.lineage :=
  (lineage_suffix h).subset List.mem_cons_self

/-- The way up from a place below another one passes places at or below that one first. -/
theorem lineage_eq_append {p q : Place} (h : q ∈ p.preorder) :
    ∃ inner, q.lineage = inner ++ p.ancestors ∧ ∀ r ∈ inner, r ∈ p.preorder := by
  induction p using Place.induction with
  | step p ih =>
    rcases mem_preorder_iff.1 h with rfl | ⟨child, hc, hq⟩
    · exact ⟨[q], rfl, by simp [q.self_mem_preorder]⟩
    · obtain ⟨inner, heq, hinner⟩ := ih child hc hq
      refine ⟨inner ++ [p], ?_, ?_⟩
      · rw [heq, ancestors_of_mem_children hc, lineage, List.append_assoc]
        rfl
      · intro r hr
        rcases List.mem_append.1 hr with hr | hr
        · exact mem_preorder_iff.2 (.inr ⟨child, hc, hinner r hr⟩)
        · rw [List.mem_singleton.1 hr]
          exact p.self_mem_preorder

theorem mem_ancestors_of_below {p q r : Place} (hq : q ∈ p.children) (hr : r ∈ q.preorder) :
    p ∈ r.ancestors := by
  have hs := lineage_suffix hr
  rw [lineage, lineage, ancestors_of_mem_children hq] at hs
  rcases List.suffix_cons_iff.1 hs with heq | hs
  · rw [← (List.cons.inj heq).2]
    exact List.mem_cons_self
  · exact hs.subset (List.mem_cons_of_mem _ List.mem_cons_self)

/-- A place lies below one child of another place at most. -/
theorem eq_of_mem_children {p c d q : Place} (hc : c ∈ p.children) (hd : d ∈ p.children)
    (hqc : q ∈ c.preorder) (hqd : q ∈ d.preorder) : c = d := by
  have hlength : c.lineage.length = d.lineage.length := by
    rw [lineage, lineage, ancestors_of_mem_children hc, ancestors_of_mem_children hd]
    rfl
  have hsuffix : c.lineage <:+ d.lineage :=
    List.suffix_of_suffix_length_le (lineage_suffix hqc) (lineage_suffix hqd) hlength.le
  exact (List.cons.inj (hsuffix.eq_of_length hlength)).1

theorem In.of_mem_preorder {tree : Node} {p q : Place} (hp : In tree p)
    (h : q ∈ p.preorder) : In tree q := by
  induction p using Place.induction with
  | step p ih =>
    rcases mem_preorder_iff.1 h with rfl | ⟨child, hc, hq⟩
    · exact hp
    · exact ih child hc (hp.of_mem_children hc) hq

theorem In.of_mem_ancestors {tree : Node} {p a : Place} (hp : In tree p)
    (ha : a ∈ p.ancestors) : In tree a := by
  induction hp with
  | root => simp at ha
  | child parent _ ih =>
    rcases List.mem_cons.1 ha with rfl | ha
    · exact parent
    · exact ih ha

theorem lineage_suffix_ancestors {p a : Place} (ha : a ∈ p.ancestors) :
    a.lineage <:+ p.ancestors := by
  obtain ⟨n, trail⟩ := p
  rw [ancestors] at ha ⊢
  induction trail with
  | nil => simp [passed] at ha
  | cons crumb trail ih =>
    rcases List.mem_cons.1 ha with rfl | ha
    · exact List.suffix_rfl
    · exact (ih ha).trans (List.suffix_cons _ _)

/-- What comes after a place in a list of ancestors are its own ancestors. -/
theorem ancestors_of_split {p a : Place} {before after : List Place}
    (h : p.ancestors = before ++ a :: after) : after = a.ancestors := by
  obtain ⟨n, trail⟩ := p
  rw [ancestors] at h
  induction trail generalizing before with
  | nil => simp [passed] at h
  | cons crumb trail ih =>
    rw [passed] at h
    cases before with
    | nil =>
      obtain ⟨rfl, rfl⟩ := List.cons.inj h
      rfl
    | cons b before => exact ih (List.cons.inj h).2

theorem path_prefix_of_mem_preorder {p q : Place} (h : q ∈ p.preorder) : p.path <+: q.path := by
  induction p using Place.induction with
  | step p ih =>
    rcases mem_preorder_iff.1 h with rfl | ⟨child, hc, hq⟩
    · exact List.prefix_rfl
    · obtain ⟨index, n, -, rfl⟩ := mem_children_iff.1 hc
      have hp := ih _ hc hq
      rw [path_below] at hp
      exact (List.prefix_append _ _).trans hp

/-- One place is to the left of another if their paths part at some place, where the first goes
on to an earlier child than the second. -/
def LeftOf (p q : Place) : Prop :=
  ∃ (shared : List Nat) (i j : Nat), i < j ∧ shared ++ [i] <+: p.path ∧ shared ++ [j] <+: q.path

theorem LeftOf.of_preorder {p q p' q' : Place} (h : LeftOf p q) (hp : p' ∈ p.preorder)
    (hq : q' ∈ q.preorder) : LeftOf p' q' := by
  obtain ⟨shared, i, j, hij, hi, hj⟩ := h
  exact ⟨shared, i, j, hij, hi.trans (path_prefix_of_mem_preorder hp),
    hj.trans (path_prefix_of_mem_preorder hq)⟩

/-- Nothing lies below two places of which one is to the left of the other. -/
theorem LeftOf.not_below {p q r : Place} (h : LeftOf p q) (hp : p.path <+: r.path)
    (hq : q.path <+: r.path) : False := by
  obtain ⟨shared, i, j, hij, hi, hj⟩ := h
  obtain ⟨s, hs⟩ := hi.trans hp
  obtain ⟨t, ht⟩ := hj.trans hq
  rw [← ht, List.append_assoc, List.append_assoc] at hs
  have heq := List.append_cancel_left hs
  simp only [List.cons_append, List.cons.injEq] at heq
  omega

theorem children_leftOf (p : Place) : p.children.Pairwise LeftOf := by
  have ordered : p.node.children.zipIdx.Pairwise fun a b => a.2 < b.2 := by
    apply List.pairwise_map.1
    rw [List.zipIdx_map_snd]
    exact List.pairwise_lt_range'
  apply List.pairwise_map.2
  apply ordered.imp
  intro a b hlt
  exact ⟨p.path, a.2, b.2, hlt, by simp, by simp⟩

theorem LeftOf.path_lt {p q : Place} (h : LeftOf p q) : p.path < q.path := by
  obtain ⟨shared, i, j, hij, ⟨s, hs⟩, ⟨t, ht⟩⟩ := h
  rw [← hs, ← ht, List.append_assoc, List.append_assoc]
  exact List.append_left_lt (List.cons_lt_cons_iff.2 (.inl hij))

theorem path_lt_of_mem_children {p q r : Place} (hq : q ∈ p.children) (hr : r ∈ q.preorder) :
    p.path < r.path := by
  obtain ⟨index, n, -, rfl⟩ := mem_children_iff.1 hq
  obtain ⟨s, hs⟩ := path_prefix_of_mem_preorder hr
  rw [← hs, path_below, List.append_assoc]
  conv_lhs => rw [← List.append_nil p.path]
  exact List.append_left_lt (List.nil_lt_cons _ _)

theorem path_lt_below (p : Place) (index : Nat) (child : Node) :
    p.path < (p.below index child).path := by
  rw [path_below]
  conv_lhs => rw [← List.append_nil p.path]
  exact List.append_left_lt (List.nil_lt_cons _ _)

theorem path_lt_of_mem_ancestors {p a : Place} (h : a ∈ p.ancestors) : a.path < p.path := by
  obtain ⟨n, trail⟩ := p
  induction trail generalizing n with
  | nil => simp [ancestors, passed] at h
  | cons crumb trail ih =>
    have hstep := path_lt_below ⟨crumb.parent, trail⟩ crumb.index n
    rcases List.mem_cons.1 h with rfl | h
    · exact hstep
    · exact List.lt_trans (ih crumb.parent h) hstep

/-- From the root down to a place the paths grow. -/
theorem lineage_reverse_sorted (p : Place) :
    p.lineage.reverse.Pairwise fun a b => a.path < b.path := by
  obtain ⟨n, trail⟩ := p
  rw [List.pairwise_reverse]
  induction trail generalizing n with
  | nil => exact List.pairwise_singleton _ _
  | cons crumb trail ih =>
    exact List.pairwise_cons.2 ⟨fun a ha => path_lt_of_mem_ancestors ha, ih crumb.parent⟩

/-- Preorder is the lexicographic order of the paths, so no place comes twice. -/
theorem preorder_sorted (p : Place) : p.preorder.Pairwise fun a b => a.path < b.path := by
  induction p using Place.induction with
  | step p ih =>
    rw [preorder_eq, List.pairwise_cons, List.pairwise_flatMap]
    refine ⟨?_, ih, ?_⟩
    · intro r hr
      obtain ⟨q, hq, hr⟩ := List.mem_flatMap.1 hr
      exact path_lt_of_mem_children hq hr
    · apply (children_leftOf p).imp
      intro a b hab r hr s hs
      exact (hab.of_preorder hr hs).path_lt

end Place

def Node.places (tree : Node) : List Place :=
  (Place.root tree).preorder

theorem Node.mem_places_iff {tree : Node} {p : Place} : p ∈ tree.places ↔ p.In tree := by
  constructor
  · exact Place.In.root.of_mem_preorder
  · intro h
    induction h with
    | root => exact Place.self_mem_preorder _
    | child _ hc ih =>
      exact Place.mem_preorder_trans ih
        (Place.mem_preorder_of_mem_children (Place.mem_children_iff.2 ⟨_, _, hc, rfl⟩))

/-- A place is known by its path. -/
theorem Place.In.eq_of_path {tree : Node} {p q : Place} (hp : p.In tree) (hq : q.In tree)
    (h : p.path = q.path) : p = q := by
  have hnodup : (tree.places.map Place.path).Nodup := by
    apply List.pairwise_map.2
    apply (Place.preorder_sorted _).imp
    intro a b hlt heq
    rw [heq] at hlt
    exact List.lt_irrefl _ hlt
  exact List.inj_on_of_nodup_map hnodup (Node.mem_places_iff.2 hp) (Node.mem_places_iff.2 hq) h

end CodeCursor
