import CodeCursor.Proofs.NameFolding
import CodeCursor.Proofs.OptionFilters

/-!
# What is seen of cursor trees

Cursors of two parses are never the same, as each knows its own tree.  What is seen of them can be:
the kinds, the spellings, the extents and the order of all that stands below a place.  How a
place shows depends on little of what is around it, and that little is given a name here.
-/

namespace CodeCursor

inductive Sketch where
  | branch (kind : CursorKind) (spelling : String) (extent : Extent) (branches : List Sketch)

def Sketch.kind : Sketch → CursorKind
  | branch kind _ _ _ => kind

namespace CursorTree

mutual
/-- What is seen of a tree, with each cursor under the kind that it is given. -/
def sketch (kindOf : Cursor → CursorKind) : CursorTree → Sketch
  | branch cursor branches =>
    .branch (kindOf cursor) cursor.spelling cursor.extent (sketchAll kindOf branches)

def sketchAll (kindOf : Cursor → CursorKind) : List CursorTree → List Sketch
  | [] => []
  | tree :: rest => tree.sketch kindOf :: sketchAll kindOf rest
end

theorem sketch_branch (kindOf : Cursor → CursorKind) (c : Cursor) (branches : List CursorTree) :
    (branch c branches).sketch kindOf =
      .branch (kindOf c) c.spelling c.extent (branches.map (sketch kindOf)) := by
  have all : sketchAll kindOf branches = branches.map (sketch kindOf) := by
    induction branches with
    | nil => rfl
    | cons tree rest ih => rw [sketchAll, ih, List.map_cons]
  rw [sketch, all]

end CursorTree

/-- The exposure with the kind of its cursor changed. -/
def Exposure.mapKind (f : CursorKind → CursorKind) : Exposure → Exposure
  | cursor kind => cursor (f kind)
  | flattened => flattened
  | hidden => hidden

theorem Exposure.mapKind_id (x : Exposure) : x.mapKind id = x := by
  cases x <;> rfl

namespace SourceUnit

variable {u : SourceUnit} {kindOf kindOf' : Cursor → CursorKind} {p q : Place}

/-- What is seen of the cursors that a place contributes to the nearest cursor above it. -/
def sketches (u : SourceUnit) (kindOf : Cursor → CursorKind) (p : Place) : List Sketch :=
  (u.forest p).map (CursorTree.sketch kindOf)

/-- What is seen of the cursors that nodes contribute as children of a place, counted from the
given index. -/
def sketchesAmong (u : SourceUnit) (kindOf : Cursor → CursorKind) (p : Place) (index : Nat)
    (nodes : List Node) : List Sketch :=
  (nodes.zipIdx index).flatMap fun child => u.sketches kindOf (p.below child.2 child.1)

/-- What is seen of the cursors that the children of a place contribute.  At the place of a cursor
it is what is seen of the children of the cursor, as `sketchesBelow_cursor` says. -/
def sketchesBelow (u : SourceUnit) (kindOf : Cursor → CursorKind) (p : Place) : List Sketch :=
  u.sketchesAmong kindOf p 0 p.node.children

theorem sketchesBelow_eq (u : SourceUnit) (kindOf : Cursor → CursorKind) (p : Place) :
    u.sketchesBelow kindOf p = p.children.flatMap (u.sketches kindOf) := by
  rw [sketchesBelow, sketchesAmong, Place.children, List.flatMap_map]

theorem sketches_eq (u : SourceUnit) (kindOf : Cursor → CursorKind) (p : Place) :
    u.sketches kindOf p =
      match u.exposure p with
      | .cursor kind =>
        [.branch (kindOf ⟨u, p, kind⟩) (String.ofList (u.spell p.node kind)) (u.extentOf p.node)
          (u.sketchesBelow kindOf p)]
      | .flattened => u.sketchesBelow kindOf p
      | .hidden => [] := by
  have hbelow : (p.children.flatMap u.forest).map (CursorTree.sketch kindOf) =
      u.sketchesBelow kindOf p := by
    rw [sketchesBelow_eq, List.map_flatMap]
    rfl
  rw [sketches, forest_eq]
  cases u.exposure p with
  | cursor kind => rw [List.map_singleton, CursorTree.sketch_branch, hbelow]; rfl
  | flattened => exact hbelow
  | hidden => rfl

theorem sketchesBelow_cursor (c : Cursor) (kindOf : Cursor → CursorKind) :
    c.unit.sketchesBelow kindOf c.place =
      c.children.map fun d => d.tree.sketch kindOf := by
  rw [sketchesBelow_eq, Cursor.children_eq, List.map_flatMap]
  apply List.flatMap_congr
  intro q _
  rw [sketches, forest, List.map_map]
  rfl

theorem sketchesAmong_append (u : SourceUnit) (kindOf : Cursor → CursorKind) (p : Place)
    (index : Nat) (nodes more : List Node) :
    u.sketchesAmong kindOf p index (nodes ++ more) =
      u.sketchesAmong kindOf p index nodes ++
        u.sketchesAmong kindOf p (index + nodes.length) more := by
  rw [sketchesAmong, List.zipIdx_append, List.flatMap_append]
  rfl

theorem sketchesAmong_cons (u : SourceUnit) (kindOf : Cursor → CursorKind) (p : Place)
    (index : Nat) (n : Node) (nodes : List Node) :
    u.sketchesAmong kindOf p index (n :: nodes) =
      u.sketches kindOf (p.below index n) ++ u.sketchesAmong kindOf p (index + 1) nodes := rfl

theorem sketchesAmong_congr {i j : Nat} {nodes : List Node}
    (h : ∀ k n, nodes[k]? = some n →
      u.sketches kindOf (p.below (i + k) n) = u.sketches kindOf' (q.below (j + k) n)) :
    u.sketchesAmong kindOf p i nodes = u.sketchesAmong kindOf' q j nodes := by
  induction nodes generalizing i j with
  | nil => rfl
  | cons n rest ih =>
    have hfirst : u.sketches kindOf (p.below i n) = u.sketches kindOf' (q.below j n) := h 0 n rfl
    rw [sketchesAmong_cons, sketchesAmong_cons, hfirst, ih]
    intro k m hm
    rw [Nat.add_assoc, Nat.add_assoc, Nat.add_comm 1]
    exact h (k + 1) m hm

theorem sketchesAmong_eq_nil {i : Nat} {nodes : List Node}
    (h : ∀ n ∈ nodes, ∀ index, u.exposure (p.below index n) = .hidden) :
    u.sketchesAmong kindOf p i nodes = [] := by
  apply List.flatMap_eq_nil_iff.2
  intro child hchild
  rw [sketches_eq, h child.1 (List.fst_mem_of_mem_zipIdx hchild)]

/-- Two places show alike if they are exposed alike, spelled alike and hold what shows alike. -/
theorem sketches_congr (f : CursorKind → CursorKind) (hlabel : p.node.label = q.node.label)
    (hx : u.exposure q = (u.exposure p).mapKind f)
    (hkind : ∀ kind, kindOf' ⟨u, q, f kind⟩ = kindOf ⟨u, p, kind⟩)
    (hspell : ∀ kind, u.exposure p = .cursor kind →
      u.spell q.node (f kind) = u.spell p.node kind)
    (hbelow : u.sketchesBelow kindOf' q = u.sketchesBelow kindOf p) :
    u.sketches kindOf' q = u.sketches kindOf p := by
  have hextent : u.extentOf q.node = u.extentOf p.node := by rw [extentOf, extentOf, hlabel]
  rw [sketches_eq, sketches_eq, hx]
  cases hp : u.exposure p with
  | cursor kind => simp only [Exposure.mapKind, hkind, hspell kind hp, hextent, hbelow]
  | flattened => exact hbelow
  | hidden => rfl

theorem sketches_kind_congr (hlabel : p.node.label = q.node.label)
    (hx : u.exposure p = u.exposure q)
    (hspell : ∀ kind, u.exposure p = .cursor kind → u.spell p.node kind = u.spell q.node kind)
    (hbelow : u.sketchesBelow Cursor.kind p = u.sketchesBelow Cursor.kind q) :
    u.sketches Cursor.kind p = u.sketches Cursor.kind q := by
  refine (sketches_congr id hlabel ?_ (fun _ => rfl) ?_ hbelow.symm).symm
  · rw [hx, Exposure.mapKind_id]
  · exact fun kind h => (hspell kind h).symm

/-- Only the kinds that are given at a place and below it matter. -/
theorem sketches_kindOf_congr
    (h : ∀ q ∈ p.preorder, ∀ kind, kindOf ⟨u, q, kind⟩ = kindOf' ⟨u, q, kind⟩) :
    u.sketches kindOf p = u.sketches kindOf' p := by
  induction p using Place.induction with
  | step p ih =>
    have hbelow : u.sketchesBelow kindOf p = u.sketchesBelow kindOf' p := by
      rw [sketchesBelow_eq, sketchesBelow_eq]
      apply List.flatMap_congr
      intro q hq
      apply ih q hq
      intro r hr
      exact h r (Place.mem_preorder_iff.2 (.inr ⟨q, hq, hr⟩))
    apply sketches_congr id rfl
    · rw [Exposure.mapKind_id]
    · exact h p p.self_mem_preorder
    · exact fun _ _ => rfl
    · exact hbelow

/-- The same source with another tree. -/
def reparsed (u : SourceUnit) (tree : Node) : SourceUnit :=
  { u with tree }

/-- A place shows alike whatever tree it is said to belong to. -/
theorem sketches_reparsed (u : SourceUnit) (tree : Node) (p : Place) :
    (u.reparsed tree).sketches Cursor.kind p = u.sketches Cursor.kind p := by
  induction p using Place.induction with
  | step p ih =>
    have hbelow : (u.reparsed tree).sketchesBelow Cursor.kind p =
        u.sketchesBelow Cursor.kind p := by
      rw [sketchesBelow_eq, sketchesBelow_eq]
      exact List.flatMap_congr ih
    rw [sketches_eq, sketches_eq, hbelow]
    rfl

theorem sketchesBelow_reparsed (u : SourceUnit) (tree : Node) (p : Place) :
    (u.reparsed tree).sketchesBelow Cursor.kind p = u.sketchesBelow Cursor.kind p := by
  rw [sketchesBelow_eq, sketchesBelow_eq]
  exact List.flatMap_congr fun q _ => u.sketches_reparsed tree q

end SourceUnit

end CodeCursor
