import CodeCursor.Cursor.Spelling
import CodeCursor.Proofs.CursorTrees

/-!
# Options as filters

The same parse is looked at under different options.  The cursors under any options are those of a
detailed record from which some are taken out: the directives, which have nothing below them,
unless the record is asked for, and all that stands in a body if bodies are skipped.  Nothing
else about the cursors changes.
-/

namespace CodeCursor

/-- The same parse under other options. -/
def SourceUnit.under (u : SourceUnit) (options : Options) : SourceUnit :=
  { u with options }

/-- The cursor at the same place of the same parse, with the same kind, under other options. -/
def Cursor.under (c : Cursor) (options : Options) : Cursor :=
  { c with unit := c.unit.under options }

/-- Whether the options leave a cursor of a detailed record out: a directive if no record is
asked for, and a cursor at or below a body if bodies are skipped. -/
def Options.drops (options : Options) (c : Cursor) : Bool :=
  (!options.contains .preprocessingRecord && c.kind.isDirective) ||
    (options.contains .skipBodies && c.place.lineage.any Place.isBody)

/-- What becomes of a cursor of a detailed record under the options. -/
def Options.keep? (options : Options) (c : Cursor) : Option Cursor :=
  if options.drops c then none else some (c.under options)

namespace CursorTree

mutual
/-- The tree with each cursor replaced or taken out.  What is left of the branches of a cursor
that is taken out goes to the cursor above. -/
def filterMap (f : Cursor → Option Cursor) : CursorTree → List CursorTree
  | branch cursor branches =>
    match f cursor with
    | some kept => [branch kept (filterMapAll f branches)]
    | none => filterMapAll f branches

def filterMapAll (f : Cursor → Option Cursor) : List CursorTree → List CursorTree
  | [] => []
  | tree :: rest => tree.filterMap f ++ filterMapAll f rest
end

theorem filterMap_branch (f : Cursor → Option Cursor) (c : Cursor) (branches : List CursorTree) :
    (branch c branches).filterMap f =
      match f c with
      | some kept => [branch kept (branches.flatMap (filterMap f))]
      | none => branches.flatMap (filterMap f) := by
  have all : filterMapAll f branches = branches.flatMap (filterMap f) := by
    induction branches with
    | nil => rfl
    | cons tree rest ih => rw [filterMapAll, ih, List.flatMap_cons]
  rw [filterMap, all]

end CursorTree

namespace Cursor

theorem filterMap_tree (c : Cursor) (f : Cursor → Option Cursor) :
    c.tree.filterMap f =
      match f c with
      | some kept => [.branch kept (c.children.flatMap fun d => d.tree.filterMap f)]
      | none => c.children.flatMap fun d => d.tree.filterMap f := by
  rw [tree_eq, CursorTree.filterMap_branch, List.flatMap_map]

theorem filterMap_tree_eq_nil {c : Cursor} {f : Cursor → Option Cursor}
    (h : ∀ d ∈ c.preorder, f d = none) : c.tree.filterMap f = [] := by
  induction c using Cursor.induction with
  | step c ih =>
    rw [filterMap_tree, h c (mem_preorder_iff.2 (.inl rfl))]
    apply List.flatMap_eq_nil_iff.2
    intro d hd
    apply ih d hd
    intro e he
    exact h e (mem_preorder_iff.2 (.inr ⟨d, hd, he⟩))

/-- Taking cursors out twice is taking them out once. -/
theorem filterMap_filterMap_tree (c : Cursor) (f g : Cursor → Option Cursor) :
    (c.tree.filterMap f).flatMap (CursorTree.filterMap g) =
      c.tree.filterMap fun d => (f d).bind g := by
  induction c using Cursor.induction with
  | step c ih =>
    have hbelow : (c.children.flatMap fun d => d.tree.filterMap f).flatMap
        (CursorTree.filterMap g) =
        c.children.flatMap fun d => d.tree.filterMap fun e => (f e).bind g := by
      rw [List.flatMap_assoc]
      exact List.flatMap_congr ih
    rw [filterMap_tree, filterMap_tree]
    cases f c with
    | none => exact hbelow
    | some kept =>
      rw [List.flatMap_singleton, CursorTree.filterMap_branch, hbelow]
      rfl

end Cursor

namespace Options

theorem contains_union_of_disjoint {a b c : Options} (h : b.bits &&& c.bits = 0) :
    (a.union b).contains c = a.contains c := by
  have hbits : (a.bits ||| b.bits) &&& c.bits = a.bits &&& c.bits := by
    apply UInt32.toBitVec_inj.1
    rw [UInt32.toBitVec_and, UInt32.toBitVec_or, BitVec.and_or_distrib_right,
      ← UInt32.toBitVec_and b.bits, h]
    simp
  rw [contains, contains, union, hbits]

theorem contains_without_of_disjoint {a b c : Options} (h : b.bits &&& c.bits = 0) :
    (a.without b).contains c = a.contains c := by
  have hbits : (a.bits &&& ~~~b.bits) &&& c.bits = a.bits &&& c.bits := by
    apply UInt32.toBitVec_inj.1
    ext i hi
    have hbit : (b.bits &&& c.bits).toBitVec[i] = false := by simp [h]
    simp only [UInt32.toBitVec_and, UInt32.toBitVec_not, BitVec.getElem_and,
      BitVec.getElem_not] at hbit ⊢
    cases hb : b.bits.toBitVec[i] with
    | false => simp
    | true =>
      rw [hb, Bool.true_and] at hbit
      simp [hbit]
  rw [contains, contains, without, hbits]

theorem drops_union_briefComments (options : Options) (c : Cursor) :
    (options.union .briefComments).drops c = options.drops c := by
  have hrecord : (options.union .briefComments).contains .preprocessingRecord =
      options.contains .preprocessingRecord := contains_union_of_disjoint (by decide)
  have hskip : (options.union .briefComments).contains .skipBodies =
      options.contains .skipBodies := contains_union_of_disjoint (by decide)
  rw [drops, drops, hrecord, hskip]

end Options

namespace SourceUnit

variable {u : SourceUnit} {options : Options} {p : Place}

def forest (u : SourceUnit) (p : Place) : List CursorTree :=
  (u.contributed p).map Cursor.tree

theorem forest_eq (u : SourceUnit) (p : Place) :
    u.forest p =
      match u.exposure p with
      | .cursor kind => [.branch ⟨u, p, kind⟩ (p.children.flatMap u.forest)]
      | .flattened => p.children.flatMap u.forest
      | .hidden => [] := by
  rw [forest, contributed_eq]
  cases u.exposure p with
  | cursor kind =>
    simp only [List.map_cons, List.map_nil]
    rw [Cursor.tree_eq, Cursor.children_eq, List.map_flatMap]
    rfl
  | flattened => exact List.map_flatMap
  | hidden => rfl

/-- How a place shows under some options, when it is known how it shows in a record. -/
inductive ExposureUnder (u : SourceUnit) (options : Options) (p : Place) : Prop
  | body (hbody : (options.contains .skipBodies && p.isBody) = true)
      (hx : (u.under options).exposure p = .hidden)
  | directive (hrecord : options.contains .preprocessingRecord = false)
      (hdir : ((u.under .preprocessingRecord).exposure p).isDirective = true)
      (hx : (u.under options).exposure p = .hidden)
  | same (hbody : (options.contains .skipBodies && p.isBody) = false)
      (hdir : (!options.contains .preprocessingRecord &&
        ((u.under .preprocessingRecord).exposure p).isDirective) = false)
      (hx : (u.under options).exposure p = (u.under .preprocessingRecord).exposure p)

theorem exposureUnder (u : SourceUnit) (options : Options) (p : Place) :
    ExposureUnder u options p := by
  have hx : (u.under options).exposure p =
      if options.contains .skipBodies && p.isBody then .hidden
      else if !options.contains .preprocessingRecord &&
        ((u.under .preprocessingRecord).exposure p).isDirective then .hidden
      else (u.under .preprocessingRecord).exposure p :=
    Place.exposure_options options u.source p
  split at hx
  · rename_i hbody
    exact .body hbody hx
  · rename_i hbody
    split at hx
    · rename_i hdir
      rw [Bool.and_eq_true, Bool.not_eq_true'] at hdir
      exact .directive hdir.1 hdir.2 hx
    · rename_i hdir
      exact .same (Bool.eq_false_iff.2 hbody) (Bool.eq_false_iff.2 hdir) hx

/-- Everything that a skipped body contributes is taken out. -/
theorem filterMap_forest_of_body (h : (options.contains .skipBodies && p.isBody) = true) :
    (u.forest p).flatMap (CursorTree.filterMap options.keep?) = [] := by
  rw [forest, List.flatMap_map]
  apply List.flatMap_eq_nil_iff.2
  intro c hc
  apply Cursor.filterMap_tree_eq_nil
  intro d hd
  have hp := Place.mem_preorder_trans (contributed_spec hc).2.1 (Cursor.place_mem_preorder hd)
  rw [Bool.and_eq_true] at h
  have hbody : d.place.lineage.any Place.isBody = true :=
    List.any_eq_true.2 ⟨p, Place.mem_lineage_of_mem_preorder hp, h.2⟩
  simp [Options.keep?, Options.drops, h.1, hbody]

theorem forest_below_directive (h : (u.exposure p).isDirective = true) :
    p.children.flatMap u.forest = [] := by
  apply List.flatMap_eq_nil_iff.2
  intro q hq
  have hx : u.exposure q = .hidden :=
    Place.exposure_below_directive (Place.isOneOf_of_isDirective h) hq
  rw [forest_eq, hx]

theorem filterMap_forest_of_directive (h : options.contains .preprocessingRecord = false)
    (hdir : (u.exposure p).isDirective = true) :
    (u.forest p).flatMap (CursorTree.filterMap options.keep?) = [] := by
  rw [forest_eq, forest_below_directive hdir]
  cases hx : u.exposure p with
  | cursor kind =>
    rw [hx, Exposure.isDirective_cursor] at hdir
    have hdrop : options.keep? ⟨u, p, kind⟩ = none := by
      simp [Options.keep?, Options.drops, h, hdir]
    rw [List.flatMap_singleton, CursorTree.filterMap_branch, hdrop]
    rfl
  | flattened => rfl
  | hidden => rfl

/-- Below no skipped body, what a place contributes under some options is what it contributes to
a record, filtered by the options. -/
theorem forest_under (h : (options.contains .skipBodies && p.ancestors.any Place.isBody) = false) :
    (u.under options).forest p =
      ((u.under .preprocessingRecord).forest p).flatMap (CursorTree.filterMap options.keep?) := by
  induction p using Place.induction with
  | step p ih =>
    cases u.exposureUnder options p with
    | body hbody hx => rw [filterMap_forest_of_body hbody, forest_eq, hx]
    | directive hrecord hdir hx => rw [filterMap_forest_of_directive hrecord hdir, forest_eq, hx]
    | same hbody hdir hx =>
      -- No skipped body is at the place or above it, so the filter keeps what stands here.
      have hlineage : (options.contains .skipBodies && p.lineage.any Place.isBody) = false := by
        rw [Place.lineage, List.any_cons, Bool.and_or_distrib_left, h, hbody, Bool.or_false]
      have hbelow : p.children.flatMap (u.under options).forest =
          (p.children.flatMap (u.under .preprocessingRecord).forest).flatMap
            (CursorTree.filterMap options.keep?) := by
        rw [List.flatMap_assoc]
        apply List.flatMap_congr
        intro q hq
        apply ih q hq
        rwa [Place.ancestors_of_mem_children hq]
      rw [forest_eq, forest_eq (u.under .preprocessingRecord), hx, hbelow]
      cases hr : (u.under .preprocessingRecord).exposure p with
      | flattened => rfl
      | hidden => rfl
      | cursor kind =>
        rw [hr, Exposure.isDirective_cursor] at hdir
        have hkeep : options.keep? ⟨u.under .preprocessingRecord, p, kind⟩ =
            some ⟨u.under options, p, kind⟩ := by
          simp only [Options.keep?, Options.drops, hlineage, hdir, Bool.or_false]
          rfl
        simp only [List.flatMap_singleton]
        rw [CursorTree.filterMap_branch, hkeep]

theorem tree_under (u : SourceUnit) (options : Options) :
    [(u.under options).root.tree] =
      (u.under .preprocessingRecord).root.tree.filterMap options.keep? := by
  have hforest : ∀ options : Options,
      (u.under options).forest (.root u.tree) = [(u.under options).root.tree] := by
    intro options
    exact congrArg (List.map Cursor.tree) (u.under options).contributed_root
  have hroot : (options.contains .skipBodies &&
      (Place.root u.tree).ancestors.any Place.isBody) = false := by simp
  have h := forest_under (u := u) hroot
  rwa [hforest, hforest, List.flatMap_singleton] at h

theorem children_of_isDirective {c : Cursor} (hx : c.unit.exposure c.place = .cursor c.kind)
    (h : c.kind.isDirective = true) : c.children = [] := by
  have hnil : c.place.children.flatMap c.unit.forest = [] := by
    apply forest_below_directive
    rw [hx, Exposure.isDirective_cursor]
    exact h
  rw [Cursor.children_eq, ← List.map_eq_nil_iff (f := Cursor.tree), List.map_flatMap]
  exact hnil

/-- What options leave out they leave out with all below it. -/
theorem drops_of_mem_children {c d : Cursor} (hx : c.unit.exposure c.place = .cursor c.kind)
    (h : options.drops c = true) (hd : d ∈ c.children) : options.drops d = true := by
  rw [Options.drops, Bool.or_eq_true, Bool.and_eq_true, Bool.and_eq_true] at h ⊢
  rcases h with h | h
  · rw [children_of_isDirective hx h.2] at hd
    cases hd
  · obtain ⟨q, hq, hp⟩ := Cursor.mem_preorder_of_mem_children hd
    have hsuffix := Place.lineage_suffix
      (Place.mem_preorder_trans (Place.mem_preorder_of_mem_children hq) hp)
    obtain ⟨a, ha, hbody⟩ := List.any_eq_true.1 h.2
    exact .inr ⟨h.1, List.any_eq_true.2 ⟨a, hsuffix.subset ha, hbody⟩⟩

/-- The cursors under some options are those of a detailed record without the directives, which
are leaves, if no record is asked for, and without all that stands in a body if bodies are
skipped.  Comments change nothing about the tree, and no option changes what a cursor is. -/
theorem cursors_filtered_by_options (u : SourceUnit) (options : Options) :
    [(u.under options).root.tree] =
      (u.under .preprocessingRecord).root.tree.filterMap options.keep? ∧
    (∀ c ∈ (u.under options).root.preorder, c.kind.isDirective = true → c.children = []) ∧
    (∀ c ∈ (u.under .preprocessingRecord).root.preorder, options.drops c = true →
      ∀ d ∈ c.children, options.drops d = true) ∧
    [(u.under (options.union .briefComments)).root.tree] =
      (u.under options).root.tree.filterMap (fun c =>
        some (c.under (options.union .briefComments))) ∧
    ∀ c : Cursor, (c.under options).kind = c.kind ∧ (c.under options).place = c.place ∧
      (c.under options).spelling = c.spelling ∧ (c.under options).extent = c.extent := by
  refine ⟨u.tree_under options, ?_, ?_, ?_, fun c => ⟨rfl, rfl, rfl, rfl⟩⟩
  · intro c hc hdir
    exact children_of_isDirective (exposure_of_mem_preorder hc) hdir
  · intro c hc hdrop d hd
    exact drops_of_mem_children (exposure_of_mem_preorder hc) hdrop hd
  · have h := congrArg (List.flatMap (CursorTree.filterMap fun c =>
      some (c.under (options.union .briefComments)))) (u.tree_under options)
    rw [List.flatMap_singleton, Cursor.filterMap_filterMap_tree] at h
    rw [h, u.tree_under]
    have hkeep : (fun c => (options.keep? c).bind fun d =>
        some (d.under (options.union .briefComments))) =
        (options.union .briefComments).keep? := by
      funext c
      rw [Options.keep?, Options.keep?, Options.drops_union_briefComments]
      cases options.drops c <;> rfl
    rw [hkeep]

end SourceUnit

end CodeCursor
