import CodeCursor.Cursor.Tree
import CodeCursor.Proofs.Exposures

/-!
# Cursor trees against syntax trees

The children of a cursor are collected by a walk over siblings that looks through flattened nodes
and starts again at each cursor.  All such walks together show every place of the syntax tree
that is exposed as a cursor and lies below no hidden one, each once and in preorder, and they
hang it below the nearest place above it that is shown.
-/

namespace CodeCursor

def Place.isRoot (p : Place) : Bool :=
  p.trail.isEmpty

theorem Place.isRoot_of_mem_children {p q : Place} (h : q ∈ p.children) : q.isRoot = false := by
  obtain ⟨index, n, -, rfl⟩ := mem_children_iff.1 h
  rfl

theorem Place.In.exists_parent {tree : Node} {p : Place} (hp : p.In tree)
    (hroot : p.isRoot = false) : ∃ q : Place, p ∈ q.children := by
  cases hp with
  | root => contradiction
  | @child q index n _ hn => exact ⟨q, mem_children_iff.2 ⟨index, n, hn, rfl⟩⟩

namespace SourceUnit

/-- The cursors that a place contributes to the nearest cursor above it. -/
def contributed (u : SourceUnit) (p : Place) : List Cursor :=
  u.cursorsAt p.trail p.node

theorem cursorsAmong_eq (u : SourceUnit) (p : Place) :
    u.cursorsAmong p.node p.trail 0 p.node.children = p.children.flatMap u.contributed := by
  have among : ∀ (nodes : List Node) (index : Nat),
      u.cursorsAmong p.node p.trail index nodes =
        ((nodes.zipIdx index).map fun child => p.below child.2 child.1).flatMap
          u.contributed := by
    intro nodes
    induction nodes with
    | nil => intro index; rfl
    | cons child rest ih =>
      intro index
      rw [cursorsAmong, ih]
      rfl
  exact among p.node.children 0

theorem contributed_eq (u : SourceUnit) (p : Place) :
    u.contributed p =
      match u.exposure p with
      | .cursor kind => [⟨u, p, kind⟩]
      | .flattened => p.children.flatMap u.contributed
      | .hidden => [] := by
  rw [← cursorsAmong_eq]
  obtain ⟨⟨label, children⟩, trail⟩ := p
  rw [contributed, cursorsAt]
  rfl

theorem exposure_of_isRoot (u : SourceUnit) {p : Place} (h : p.isRoot = true) :
    u.exposure p = .cursor .wholeUnit := by
  obtain ⟨n, trail⟩ := p
  obtain rfl := List.isEmpty_iff.1 h
  rfl

/-- What a place contributes lies at the place or below it, is exposed as a cursor, and has only
flattened places between itself and what lies above the place. -/
theorem contributed_spec {u : SourceUnit} {p : Place} {c : Cursor} (h : c ∈ u.contributed p) :
    c.unit = u ∧ c.place ∈ p.preorder ∧ u.exposure c.place = .cursor c.kind ∧
      ∃ wrappers, c.place.ancestors = wrappers ++ p.ancestors ∧
        ∀ w ∈ wrappers, u.exposure w = .flattened := by
  induction p using Place.induction with
  | step p ih =>
    rw [contributed_eq] at h
    cases hx : u.exposure p with
    | cursor kind =>
      rw [hx] at h
      obtain rfl := List.mem_singleton.1 h
      exact ⟨rfl, p.self_mem_preorder, hx, [], rfl, by simp⟩
    | hidden =>
      rw [hx] at h
      simp at h
    | flattened =>
      rw [hx] at h
      obtain ⟨q, hq, hc⟩ := List.mem_flatMap.1 h
      obtain ⟨hu, hp, hk, wrappers, ha, hw⟩ := ih q hq hc
      -- What a child contributes goes through this place too, which becomes the last wrapper.
      refine ⟨hu, Place.mem_preorder_iff.2 (.inr ⟨q, hq, hp⟩), hk, wrappers ++ [p], ?_, ?_⟩
      · rw [ha, Place.ancestors_of_mem_children hq, Place.lineage, List.append_assoc]
        rfl
      · intro w hm
        rcases List.mem_append.1 hm with hm | hm
        · exact hw w hm
        · rwa [List.mem_singleton.1 hm]

/-- Cursors that siblings contribute stand from left to right. -/
theorem contributed_leftOf (u : SourceUnit) (p : Place) :
    (p.children.flatMap u.contributed).Pairwise fun a b => a.place.LeftOf b.place := by
  induction p using Place.induction with
  | step p ih =>
    rw [List.pairwise_flatMap]
    constructor
    · intro q hq
      rw [contributed_eq]
      split
      · exact List.pairwise_singleton _ _
      · exact ih q hq
      · exact .nil
    · apply p.children_leftOf.imp
      intro q r hqr a ha b hb
      exact hqr.of_preorder (contributed_spec ha).2.1 (contributed_spec hb).2.1

end SourceUnit

namespace Cursor

theorem children_eq (c : Cursor) :
    c.children = c.place.children.flatMap c.unit.contributed :=
  c.unit.cursorsAmong_eq c.place

theorem mem_preorder_of_mem_children {c d : Cursor} (h : d ∈ c.children) :
    ∃ q ∈ c.place.children, d.place ∈ q.preorder := by
  rw [children_eq] at h
  obtain ⟨q, hq, hd⟩ := List.mem_flatMap.1 h
  exact ⟨q, hq, (SourceUnit.contributed_spec hd).2.1⟩

theorem exposure_of_mem_children {c d : Cursor} (h : d ∈ c.children) :
    c.unit.exposure d.place = .cursor d.kind ∧
      ∃ wrappers, d.place.ancestors = wrappers ++ c.place.lineage ∧
        ∀ w ∈ wrappers, c.unit.exposure w = .flattened := by
  rw [children_eq] at h
  obtain ⟨q, hq, hd⟩ := List.mem_flatMap.1 h
  obtain ⟨-, -, hk, wrappers, ha, hw⟩ := SourceUnit.contributed_spec hd
  exact ⟨hk, wrappers, by rw [ha, Place.ancestors_of_mem_children hq], hw⟩

theorem children_leftOf (c : Cursor) :
    c.children.Pairwise fun a b => a.place.LeftOf b.place := by
  rw [children_eq]
  exact c.unit.contributed_leftOf c.place

theorem size_lt_of_mem_children {c d : Cursor} (h : d ∈ c.children) :
    d.place.node.size < c.place.node.size := by
  obtain ⟨q, hq, hd⟩ := mem_preorder_of_mem_children h
  exact (Place.size_le_of_mem_preorder hd).trans_lt (Place.size_lt_of_mem_children hq)

/-- What holds of a cursor whenever it holds of the cursor's children holds of every cursor. -/
@[elab_as_elim]
theorem induction {motive : Cursor → Prop}
    (step : ∀ c, (∀ d ∈ c.children, motive d) → motive c) (c : Cursor) : motive c :=
  step c fun d _ => induction step d
termination_by c.place.node.size
decreasing_by exact size_lt_of_mem_children ‹_›

def preorder (c : Cursor) : List Cursor :=
  (c.tree.outline 0).map (·.2)

theorem map_outline (c : Cursor) (depth : Nat) :
    (c.tree.outline depth).map (·.2) =
      c :: c.children.flatMap fun d => (d.tree.outline (depth + 1)).map (·.2) := by
  have outlineAll_eq : ∀ (depth : Nat) (trees : List CursorTree),
      CursorTree.outlineAll depth trees = trees.flatMap (·.outline depth) := by
    intro depth trees
    induction trees with
    | nil => rfl
    | cons tree rest ih => rw [CursorTree.outlineAll, ih, List.flatMap_cons]
  rw [tree_eq, CursorTree.outline, outlineAll_eq, List.map_cons, List.map_flatMap,
    List.flatMap_map]

theorem map_outline_eq_preorder (c : Cursor) (depth : Nat) :
    (c.tree.outline depth).map (·.2) = c.preorder := by
  induction c using Cursor.induction generalizing depth with
  | step c ih =>
    rw [preorder, map_outline, map_outline]
    have hbelow : (c.children.flatMap fun d => (d.tree.outline (depth + 1)).map (·.2)) =
        c.children.flatMap fun d => (d.tree.outline (0 + 1)).map (·.2) := by
      apply List.flatMap_congr
      intro d hd
      rw [ih d hd, ih d hd]
    rw [hbelow]

theorem preorder_eq (c : Cursor) : c.preorder = c :: c.children.flatMap preorder := by
  rw [preorder, map_outline]
  exact congrArg _ (List.flatMap_congr fun d _ => d.map_outline_eq_preorder 1)

theorem mem_preorder_iff {c e : Cursor} :
    e ∈ c.preorder ↔ e = c ∨ ∃ d ∈ c.children, e ∈ d.preorder := by
  rw [preorder_eq, List.mem_cons, List.mem_flatMap]

theorem at?_append (c : Cursor) (path more : List Nat) :
    c.at? (path ++ more) = (c.at? path).bind (·.at? more) := by
  induction path generalizing c with
  | nil => rfl
  | cons index path ih =>
    rw [List.cons_append, at?, at?, Option.bind_assoc]
    exact congrArg _ (funext fun d => ih d)

/-- The cursors listed are those that some path of child indices leads to. -/
theorem mem_preorder_iff_at? {c e : Cursor} : e ∈ c.preorder ↔ ∃ path, c.at? path = some e := by
  induction c using Cursor.induction with
  | step c ih =>
    rw [mem_preorder_iff]
    constructor
    · rintro (rfl | ⟨d, hd, he⟩)
      · exact ⟨[], rfl⟩
      · obtain ⟨path, hp⟩ := (ih d hd).1 he
        obtain ⟨index, hi⟩ := List.mem_iff_getElem?.1 hd
        exact ⟨index :: path, by simp [at?, hi, hp]⟩
    · rintro ⟨path, hp⟩
      cases path with
      | nil =>
        cases hp
        exact .inl rfl
      | cons index path =>
        obtain ⟨d, hi, hp⟩ := Option.bind_eq_some_iff.1 hp
        have hd := List.mem_of_getElem? hi
        exact .inr ⟨d, hd, (ih d hd).2 ⟨path, hp⟩⟩

theorem place_mem_preorder {c e : Cursor} (h : e ∈ c.preorder) :
    e.place ∈ c.place.preorder := by
  induction c using Cursor.induction with
  | step c ih =>
    rcases mem_preorder_iff.1 h with rfl | ⟨d, hd, he⟩
    · exact e.place.self_mem_preorder
    · obtain ⟨q, hq, hp⟩ := mem_preorder_of_mem_children hd
      have hc := Place.mem_preorder_of_mem_children hq
      exact Place.mem_preorder_trans hc (Place.mem_preorder_trans hp (ih d hd he))

theorem path_prefix_of_mem_children {c d : Cursor} (h : d ∈ c.children) :
    ∃ index, c.place.path ++ [index] <+: d.place.path := by
  obtain ⟨q, hq, hd⟩ := mem_preorder_of_mem_children h
  obtain ⟨index, n, -, rfl⟩ := Place.mem_children_iff.1 hq
  have hp := Place.path_prefix_of_mem_preorder hd
  rw [Place.path_below] at hp
  exact ⟨index, hp⟩

theorem path_ne_of_below {c d e : Cursor} (hd : d ∈ c.children) (he : e ∈ d.preorder) :
    c.place.path ≠ e.place.path := by
  intro heq
  obtain ⟨index, hp⟩ := path_prefix_of_mem_children hd
  have hlen := (hp.trans (Place.path_prefix_of_mem_preorder (place_mem_preorder he))).length_le
  rw [← heq, List.length_append, List.length_singleton] at hlen
  omega

/-- Two children are the same if the same place is that of a cursor of either. -/
theorem index_unique {c d d' e e' : Cursor} {i j : Nat} (hi : c.children[i]? = some d)
    (hj : c.children[j]? = some d') (he : e ∈ d.preorder) (he' : e' ∈ d'.preorder)
    (hsame : e.place.path = e'.place.path) : i = j := by
  have hp := Place.path_prefix_of_mem_preorder (place_mem_preorder he)
  have hp' := Place.path_prefix_of_mem_preorder (place_mem_preorder he')
  rw [← hsame] at hp'
  obtain ⟨hilt, rfl⟩ := List.getElem?_eq_some_iff.1 hi
  obtain ⟨hjlt, rfl⟩ := List.getElem?_eq_some_iff.1 hj
  have hleft := List.pairwise_iff_getElem.1 c.children_leftOf
  rcases Nat.lt_trichotomy i j with hlt | heq | hlt
  · exact ((hleft i j hilt hjlt hlt).not_below hp hp').elim
  · exact heq
  · exact ((hleft j i hjlt hilt hlt).not_below hp' hp).elim

theorem at?_injective {c e e' : Cursor} {path path' : List Nat} (h : c.at? path = some e)
    (h' : c.at? path' = some e') (hsame : e.place.path = e'.place.path) : path = path' := by
  induction path generalizing c path' with
  | nil =>
    cases h
    cases path' with
    | nil => rfl
    | cons j path' =>
      obtain ⟨d, hj, hd⟩ := Option.bind_eq_some_iff.1 h'
      exact (path_ne_of_below (List.mem_of_getElem? hj) (mem_preorder_iff_at?.2 ⟨_, hd⟩)
        hsame).elim
  | cons i path ih =>
    obtain ⟨d, hi, hd⟩ := Option.bind_eq_some_iff.1 h
    cases path' with
    | nil =>
      cases h'
      exact (path_ne_of_below (List.mem_of_getElem? hi) (mem_preorder_iff_at?.2 ⟨_, hd⟩)
        hsame.symm).elim
    | cons j path' =>
      obtain ⟨d', hj, hd'⟩ := Option.bind_eq_some_iff.1 h'
      -- Different children would have their cursors to the left and right of each other.
      obtain rfl := index_unique hi hj (mem_preorder_iff_at?.2 ⟨_, hd⟩)
        (mem_preorder_iff_at?.2 ⟨_, hd'⟩) hsame
      obtain rfl := Option.some.inj (hi.symm.trans hj)
      rw [ih hd hd']

end Cursor

namespace SourceUnit

/-- Whether a place above, other than the root, is hidden. -/
def isCovered (u : SourceUnit) (p : Place) : Bool :=
  p.ancestors.any fun a => !a.isRoot && u.exposure a == .hidden

/-- The kind of the cursor at a place.  There is none if the place is not exposed as one, or if
a place above it, other than the root, is hidden. -/
def shown? (u : SourceUnit) (p : Place) : Option CursorKind :=
  if u.isCovered p then none else (u.exposure p).kind?

def cursorAt? (u : SourceUnit) (p : Place) : Option Cursor :=
  (u.shown? p).map (⟨u, p, ·⟩)

/-- The nearest place above that is the root or is exposed as a cursor. -/
def nearestAbove? (u : SourceUnit) (p : Place) : Option Place :=
  p.ancestors.find? fun a => a.isRoot || (u.exposure a).kind?.isSome

theorem isRoot_eq_false {u : SourceUnit} {p : Place} (h : (u.exposure p).kind? = none) :
    p.isRoot = false := by
  cases hr : p.isRoot with
  | false => rfl
  | true =>
    rw [u.exposure_of_isRoot hr] at h
    cases h

theorem isCovered_of_mem_children {u : SourceUnit} {p q : Place} (h : u.isCovered p = false)
    (hx : u.exposure p ≠ .hidden) (hq : q ∈ p.children) : u.isCovered q = false := by
  rw [isCovered, Place.ancestors_of_mem_children hq, Place.lineage, List.any_cons, ← isCovered, h]
  simp [hx]

theorem cursorAt?_of_hidden {u : SourceUnit} {p q : Place} (hx : u.exposure p = .hidden)
    (hq : q ∈ p.preorder) : u.cursorAt? q = none := by
  have hroot : p.isRoot = false := isRoot_eq_false (u := u) (by rw [hx]; rfl)
  rcases List.mem_cons.1 (Place.mem_lineage_of_mem_preorder hq) with rfl | ha
  · simp [cursorAt?, shown?, hx]
  · have hc : u.isCovered q = true := List.any_eq_true.2 ⟨p, ha, by simp [hroot, hx]⟩
    simp [cursorAt?, shown?, hc]

/-- Below no hidden place, what a place contributes is, with all below it, the cursors of the
places from there on. -/
theorem preorder_contributed {u : SourceUnit} {p : Place} (h : u.isCovered p = false) :
    (u.contributed p).flatMap Cursor.preorder = p.preorder.filterMap u.cursorAt? := by
  induction p using Place.induction with
  | step p ih =>
    have hbelow : u.exposure p ≠ .hidden →
        (p.children.flatMap u.contributed).flatMap Cursor.preorder =
          (p.children.flatMap Place.preorder).filterMap u.cursorAt? := by
      intro hx
      rw [List.flatMap_assoc, List.filterMap_flatMap]
      exact List.flatMap_congr fun q hq => ih q hq (isCovered_of_mem_children h hx hq)
    rw [contributed_eq]
    cases hx : u.exposure p with
    | cursor kind =>
      have hp : u.cursorAt? p = some ⟨u, p, kind⟩ := by
        simp [cursorAt?, shown?, h, hx]
      rw [Place.preorder_eq, List.filterMap_cons, hp, ← hbelow (by simp [hx])]
      simp only [List.flatMap_cons, List.flatMap_nil, List.append_nil]
      rw [Cursor.preorder_eq, Cursor.children_eq]
    | flattened =>
      have hp : u.cursorAt? p = none := by
        simp [cursorAt?, shown?, h, hx]
      rw [Place.preorder_eq, List.filterMap_cons, hp, ← hbelow (by simp [hx])]
    | hidden =>
      exact (List.filterMap_eq_nil_iff.2 fun q hq => cursorAt?_of_hidden hx hq).symm

theorem contributed_root (u : SourceUnit) : u.contributed (.root u.tree) = [u.root] := by
  rw [contributed_eq, u.exposure_of_isRoot rfl]
  rfl

theorem preorder_root (u : SourceUnit) :
    u.root.preorder = u.tree.places.filterMap u.cursorAt? := by
  have h := preorder_contributed (u := u) (p := .root u.tree) rfl
  rwa [contributed_root, List.flatMap_singleton] at h

theorem shown?_eq_some_iff {u : SourceUnit} {p : Place} {kind : CursorKind} :
    u.shown? p = some kind ↔ u.isCovered p = false ∧ u.exposure p = .cursor kind := by
  rw [shown?]
  cases u.isCovered p <;> cases u.exposure p <;> simp

theorem mem_preorder_root {u : SourceUnit} {c : Cursor} :
    c ∈ u.root.preorder ↔
      c.unit = u ∧ c.place.In u.tree ∧ u.shown? c.place = some c.kind := by
  rw [preorder_root, List.mem_filterMap]
  constructor
  · rintro ⟨p, hp, hc⟩
    obtain ⟨kind, hk, rfl⟩ := Option.map_eq_some_iff.1 hc
    exact ⟨rfl, Node.mem_places_iff.1 hp, hk⟩
  · rintro ⟨rfl, hp, hk⟩
    exact ⟨c.place, Node.mem_places_iff.2 hp, by rw [cursorAt?, hk]; rfl⟩

theorem mem_preorder_of_shown? {u : SourceUnit} {p : Place} {kind : CursorKind}
    (hp : p.In u.tree) (h : u.shown? p = some kind) : ⟨u, p, kind⟩ ∈ u.root.preorder :=
  mem_preorder_root.2 ⟨rfl, hp, h⟩

theorem exposure_of_mem_preorder {u : SourceUnit} {c : Cursor} (h : c ∈ u.root.preorder) :
    c.unit.exposure c.place = .cursor c.kind := by
  obtain ⟨hu, -, hk⟩ := mem_preorder_root.1 h
  rw [hu]
  exact (shown?_eq_some_iff.1 hk).2

/-- What holds of the places of a tree in preorder holds of its cursors in preorder. -/
theorem preorder_root_pairwise (u : SourceUnit) {holds : Place → Place → Prop}
    (h : u.tree.places.Pairwise holds) :
    u.root.preorder.Pairwise fun c d => holds c.place d.place := by
  rw [preorder_root]
  apply h.filterMap
  intro p q hpq c hc d hd
  obtain ⟨kind, -, rfl⟩ := Option.map_eq_some_iff.1 hc
  obtain ⟨kind', -, rfl⟩ := Option.map_eq_some_iff.1 hd
  exact hpq

theorem preorder_root_sorted (u : SourceUnit) :
    u.root.preorder.Pairwise fun c d => c.place.path < d.place.path :=
  u.preorder_root_pairwise (Place.preorder_sorted (.root u.tree))

/-- Cursors that are picked out stand, in order, at the places that are theirs. -/
theorem map_place_filter_preorder {u : SourceUnit} {pick : Cursor → Bool} {places : List Place}
    (hsorted : places.Pairwise fun p q => p.path < q.path)
    (hmem : ∀ p, p ∈ places ↔ ∃ c ∈ u.root.preorder, pick c = true ∧ c.place = p) :
    (u.root.preorder.filter pick).map Cursor.place = places := by
  have hpicked : ((u.root.preorder.filter pick).map Cursor.place).Pairwise
      fun p q => p.path < q.path :=
    List.pairwise_map.2 (u.preorder_root_sorted.sublist List.filter_sublist)
  have hnodup : ∀ ps : List Place, ps.Pairwise (fun p q => p.path < q.path) → ps.Nodup := by
    intro ps hps
    apply hps.imp
    rintro p q hlt rfl
    exact List.lt_irrefl _ hlt
  have hperm : ((u.root.preorder.filter pick).map Cursor.place).Perm places := by
    apply (List.perm_ext_iff_of_nodup (hnodup _ hpicked) (hnodup _ hsorted)).2
    intro p
    rw [hmem, List.mem_map]
    simp only [List.mem_filter, and_assoc]
  apply hperm.eq_of_pairwise _ hpicked hsorted
  intro p q _ _ hpq hqp
  exact (List.lt_asymm hpq hqp).elim

theorem nearestAbove?_of_mem_children {c d : Cursor}
    (hc : (c.unit.exposure c.place).kind?.isSome = true) (h : d ∈ c.children) :
    c.unit.nearestAbove? d.place = some c.place := by
  obtain ⟨-, wrappers, ha, hw⟩ := Cursor.exposure_of_mem_children h
  have hnone : wrappers.find? (fun a => a.isRoot || (c.unit.exposure a).kind?.isSome) = none := by
    apply List.find?_eq_none.2
    intro w hm
    have hk : (c.unit.exposure w).kind? = none := by rw [hw w hm]; rfl
    simp [isRoot_eq_false hk, hk]
  rw [nearestAbove?, ha, List.find?_append, hnone, Place.lineage, List.find?_cons, hc]
  simp

/-- The cursors reached from the root are those of the places exposed as cursors below no hidden
place, each reached by one path of child indices only.  The parent is the nearest place above
that is the root or a cursor, and the preorder is that of the syntax tree. -/
theorem cursors_eq_shown_places (u : SourceUnit) :
    (∀ p kind, p.In u.tree → u.shown? p = some kind →
      ∃ path, u.root.at? path = some ⟨u, p, kind⟩ ∧
        ∀ other c, u.root.at? other = some c → c.place.path = p.path → other = path) ∧
    (∀ path c, u.root.at? path = some c →
      c.unit = u ∧ c.place.In u.tree ∧ u.shown? c.place = some c.kind) ∧
    (∀ path index c d, u.root.at? path = some c → u.root.at? (path ++ [index]) = some d →
      u.nearestAbove? d.place = some c.place) ∧
    u.root.preorder = u.tree.places.filterMap u.cursorAt? := by
  have hreached : ∀ path c, u.root.at? path = some c →
      c.unit = u ∧ c.place.In u.tree ∧ u.shown? c.place = some c.kind :=
    fun path c hc => mem_preorder_root.1 (Cursor.mem_preorder_iff_at?.2 ⟨path, hc⟩)
  refine ⟨?_, hreached, ?_, u.preorder_root⟩
  · intro p kind hp hk
    have hc : (⟨u, p, kind⟩ : Cursor) ∈ u.root.preorder := mem_preorder_root.2 ⟨rfl, hp, hk⟩
    obtain ⟨path, hpath⟩ := Cursor.mem_preorder_iff_at?.1 hc
    refine ⟨path, hpath, ?_⟩
    intro other c hother hsame
    exact Cursor.at?_injective hother hpath hsame
  · intro path index c d hc hd
    obtain ⟨rfl, -, hk⟩ := hreached path c hc
    have hx := (shown?_eq_some_iff.1 hk).2
    have hindex : c.children[index]? = some d := by
      simpa [Cursor.at?_append, hc, Cursor.at?] using hd
    exact nearestAbove?_of_mem_children (by rw [hx]; rfl) (List.mem_of_getElem? hindex)

end SourceUnit

end CodeCursor
