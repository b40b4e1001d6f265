import CodeCursor.Proofs.Places
import CodeCursor.SourceUnit

/-!
# What a search for diagnostics finds

The search walks over the tree with one place at hand.  It is compared with a recursion over the
tree: what has been found, what is at the place or below it, and what comes after it on the way
back to the root, are together the same before and after each step.  A tree that is marked as it
should be loses nothing to the pruning, so the recursion meets the nodes that are to be reported,
each once and in preorder.
-/

namespace CodeCursor

def Label.isFaulty (label : Label) : Bool :=
  label.error || label.missing

/-- Whether the place is reported: it is faulty, and no place above it is an error. -/
def Place.isReported (p : Place) : Bool :=
  p.node.label.isFaulty && p.ancestors.all fun a => !a.node.label.error

/-- The places that are reported, in preorder. -/
def Node.reported (tree : Node) : List Place :=
  tree.places.filter Place.isReported

theorem Node.reported_sorted (tree : Node) :
    tree.reported.Pairwise fun p q => p.path < q.path :=
  (Place.preorder_sorted _).filter _

theorem Node.mem_reported_iff {tree : Node} {p : Place} :
    p ∈ tree.reported ↔ p.In tree ∧ p.isReported = true := by
  rw [reported, List.mem_filter, mem_places_iff]

/-- A node is marked to have an error exactly if it is faulty or one below it is. -/
def Node.IsMarked (tree : Node) : Prop :=
  ∀ p ∈ tree.places,
    p.node.label.hasError = true ↔ ∃ q ∈ p.preorder, q.node.label.isFaulty = true

instance (tree : Node) : Decidable tree.IsMarked :=
  inferInstanceAs (Decidable (∀ p ∈ tree.places,
    p.node.label.hasError = true ↔ ∃ q ∈ p.preorder, q.node.label.isFaulty = true))

namespace Place

theorem isReported_of_ancestors {p : Place}
    (h : ∀ a ∈ p.ancestors, a.node.label.error = false) :
    p.isReported = p.node.label.isFaulty := by
  have hall : (p.ancestors.all fun a => !a.node.label.error) = true := by
    rw [List.all_eq_true]
    intro a ha
    rw [h a ha]
    rfl
  rw [isReported, hall, Bool.and_true]

/-- Below a place that the search does not enter there is nothing to report: the place is an
error, or nothing below it is faulty. -/
theorem isReported_of_not_entered {tree : Node} (hm : tree.IsMarked) {p q r : Place}
    (hp : p.In tree) (h : (p.node.label.hasError && !p.node.label.error) = false)
    (hq : q ∈ p.children) (hr : r ∈ q.preorder) : r.isReported = false := by
  rw [isReported, Bool.and_eq_false_iff]
  rcases Bool.and_eq_false_iff.1 h with hclean | herror
  · left
    have hbelow : r ∈ p.preorder := mem_preorder_iff.2 (.inr ⟨q, hq, hr⟩)
    have hmark := hm p (Node.mem_places_iff.2 hp)
    by_contra hfaulty
    rw [Bool.not_eq_false] at hfaulty
    have hmarked := hmark.2 ⟨r, hbelow, hfaulty⟩
    rw [hclean] at hmarked
    contradiction
  · right
    rw [List.all_eq_false]
    exact ⟨p, mem_ancestors_of_below hq hr, by rw [herror]; decide⟩

/-- Where something is faulty, a place is reported: the place itself or an error above it. -/
theorem exists_reported {tree : Node} {p : Place} (hp : p.In tree)
    (h : ∃ a ∈ p.lineage, a.node.label.isFaulty = true) :
    ∃ r, r ∈ tree.reported := by
  induction hp with
  | root =>
    obtain ⟨a, ha, hfaulty⟩ := h
    cases List.mem_singleton.1 ha
    exact ⟨_, Node.mem_reported_iff.2 ⟨.root, by rwa [isReported_of_ancestors (by simp)]⟩⟩
  | @child p index child hp hc ih =>
    by_cases habove : ∃ a ∈ p.lineage, a.node.label.isFaulty = true
    · exact ih habove
    · have hself : child.label.isFaulty = true := by
        obtain ⟨a, ha, hfaulty⟩ := h
        rcases List.mem_cons.1 ha with rfl | ha
        · exact hfaulty
        · exact absurd ⟨a, ha, hfaulty⟩ habove
      have hclean : ∀ a ∈ (p.below index child).ancestors, a.node.label.error = false := by
        intro a ha
        by_contra herror
        rw [ancestors_below] at ha
        rw [Bool.not_eq_false] at herror
        exact habove ⟨a, ha, by rw [Label.isFaulty, herror]; rfl⟩
      refine ⟨_, Node.mem_reported_iff.2 ⟨.child hp hc, ?_⟩⟩
      rw [isReported_of_ancestors hclean]
      exact hself

end Place

namespace Diagnostic

variable (source : Source)

def ofFaulty (source : Source) (label : Label) : Diagnostic where
  severity := .error
  location := source.locate label.start
  fault :=
    if label.error then .unexpected (source.slice label.start label.stop)
    else .expected label.kind

theorem ofLabel?_eq (label : Label) :
    ofLabel? source label = if label.isFaulty then some (ofFaulty source label) else none := by
  unfold ofLabel? ofFaulty Label.isFaulty
  cases label.error <;> rfl

mutual
/-- The diagnostics of a node and of all below it. -/
def within (source : Source) : Node → List Diagnostic
  | .node label children =>
    (ofLabel? source label).toList ++
      if label.hasError && !label.error then withinAll source children else []

def withinAll (source : Source) : List Node → List Diagnostic
  | [] => []
  | n :: rest => within source n ++ withinAll source rest
end

/-- The diagnostics of what comes after a node and all below it, when this is the way to it. -/
def after (source : Source) : List Crumb → List Diagnostic
  | [] => []
  | crumb :: trail =>
    withinAll source (crumb.parent.children.drop (crumb.index + 1)) ++ after source trail

theorem within_eq (n : Node) :
    within source n = (ofLabel? source n.label).toList ++
      if n.label.hasError && !n.label.error then withinAll source n.children else [] := by
  cases n
  rw [within]
  rfl

/-- The diagnostics of a place, of all below it and of all after it. -/
def ahead (source : Source) (p : Place) : List Diagnostic :=
  within source p.node ++ after source p.trail

theorem ahead_child? (p : Place) (index : Nat) :
    (p.child? index).elim (after source p.trail) (ahead source) =
      withinAll source (p.node.children.drop index) ++ after source p.trail := by
  cases hn : p.node.children[index]? with
  | none =>
    have hdrop := List.drop_eq_nil_of_le (List.getElem?_eq_none_iff.1 hn)
    rw [hdrop, withinAll, Place.child?, hn]
    rfl
  | some n =>
    obtain ⟨hlt, rfl⟩ := List.getElem?_eq_some_iff.1 hn
    rw [List.drop_eq_getElem_cons hlt, withinAll, List.append_assoc, Place.child?, hn]
    rfl

theorem ahead_climb (n : Node) (trail : List Crumb) :
    (Place.climb n trail).elim [] (ahead source) = after source trail := by
  induction trail generalizing n with
  | nil => rfl
  | cons crumb trail ih =>
    have hsibling := ahead_child? source ⟨crumb.parent, trail⟩ (crumb.index + 1)
    rw [Place.climb, after, ← hsibling, Place.nextSibling?_cons]
    cases (⟨crumb.parent, trail⟩ : Place).child? (crumb.index + 1) with
    | none => exact ih crumb.parent
    | some sibling => rfl

/-- Ahead of the next place is what was ahead, less the place itself, and less what lies below it
if it is not entered. -/
theorem ahead_next? (enter : Bool) (p : Place) :
    (p.next? enter).elim [] (ahead source) =
      (if enter then withinAll source p.node.children else []) ++ after source p.trail := by
  have honward : p.onward?.elim [] (ahead source) = after source p.trail :=
    ahead_climb source p.node p.trail
  have hfirst := ahead_child? source p 0
  unfold Place.next?
  cases enter with
  | false => exact honward
  | true =>
    rw [if_pos rfl, if_pos rfl, Place.firstChild?]
    rw [List.drop_zero] at hfirst
    rw [← hfirst]
    cases p.child? 0 with
    | none => exact honward
    | some child => rfl

namespace Search

/-- What has been found together with what is still to be found. -/
def total (source : Source) (s : Search) : List Diagnostic :=
  s.found ++ ahead source s.place

/-- A step changes nothing about the total, and a search that is finished has found it. -/
theorem step_spec (s : Search) :
    match s.step source with
    | .going next => next.total source = s.total source
    | .finished found => found = s.total source := by
  have hnext := ahead_next? source
    (s.place.node.label.hasError && !s.place.node.label.error) s.place
  rw [total, ahead, within_eq, List.append_assoc, ← hnext, ← List.append_assoc, step]
  cases s.place.next? (s.place.node.label.hasError && !s.place.node.label.error) with
  | none => exact (List.append_nil _).symm
  | some next => rfl

inductive Steps (source : Source) : Nat → Search → Search → Prop
  | done (s : Search) : Steps source 0 s s
  | step {s next last : Search} {n : Nat} : s.step source = .going next →
      Steps source n next last → Steps source (n + 1) s last

variable {source} in
theorem Steps.total {n : Nat} {s last : Search} (h : Steps source n s last) :
    last.total source = s.total source := by
  induction h with
  | done s => rfl
  | @step s next last n hs _ ih =>
    have hstep := step_spec source s
    rw [hs] at hstep
    exact ih.trans hstep

theorem run_of_going {s next : Search} (h : s.step source = .going next) :
    s.run source = next.run source := by
  rw [run]
  split
  · rename_i next' h'
    cases h.symm.trans h'
    rfl
  · rename_i found h'
    cases h.symm.trans h'

theorem run_of_finished {s : Search} {found : List Diagnostic}
    (h : s.step source = .finished found) : s.run source = found := by
  rw [run]
  split
  · rename_i next h'
    cases h.symm.trans h'
  · rename_i found' h'
    cases h.symm.trans h'
    rfl

/-- A search ends, after fewer steps than there are nodes from its place on. -/
theorem ends (s : Search) : ∃ n last, n < s.place.sizeFrom ∧ Steps source n s last ∧
    last.step source = .finished (s.run source) := by
  induction s using Search.run.induct source with
  | case1 s next hs ih =>
    obtain ⟨n, last, hn, hsteps, hlast⟩ := ih
    -- A step that goes on leaves fewer nodes ahead, which pays for the step.
    have hlt := sizeFrom_step hs
    rw [← run_of_going source hs] at hlast
    exact ⟨n + 1, last, by omega, .step hs hsteps, hlast⟩
  | case2 s found hs =>
    have hpos : 0 < s.place.sizeFrom := by
      have hnode := s.place.node.size_pos
      unfold Place.sizeFrom
      omega
    rw [← run_of_finished source hs] at hs
    exact ⟨0, s, hpos, .done s, hs⟩

theorem run_eq_total (s : Search) : s.run source = s.total source := by
  obtain ⟨n, last, -, hsteps, hlast⟩ := ends source s
  have hspec := step_spec source last
  rw [hlast] at hspec
  exact hspec.trans hsteps.total

end Search

theorem withinAll_eq_flatMap (nodes : List Node) :
    withinAll source nodes = nodes.flatMap (within source) := by
  induction nodes with
  | nil => rfl
  | cons n rest ih => rw [withinAll, ih, List.flatMap_cons]

theorem withinAll_children (p : Place) :
    withinAll source p.node.children = p.children.flatMap fun q => within source q.node := by
  have hnodes : p.children.map Place.node = p.node.children := by
    rw [Place.children, List.map_map]
    exact List.zipIdx_map_fst 0 _
  rw [withinAll_eq_flatMap, ← hnodes, List.flatMap_map]

/-- In a tree that is marked as it should be, the recursion from a place with no error above it
gives one diagnostic for each place that is reported. -/
theorem within_eq_reported {tree : Node} (hm : tree.IsMarked) (p : Place) (hp : p.In tree)
    (h : ∀ a ∈ p.ancestors, a.node.label.error = false) :
    within source p.node =
      (p.preorder.filter Place.isReported).map fun q => ofFaulty source q.node.label := by
  induction p using Place.induction with
  | step p ih =>
    have hbelow : (if p.node.label.hasError && !p.node.label.error then
          withinAll source p.node.children else []) =
        ((p.children.flatMap Place.preorder).filter Place.isReported).map
          fun q => ofFaulty source q.node.label := by
      cases henter : p.node.label.hasError && !p.node.label.error with
      | true =>
        -- The place is no error, so its children have no error above them either.
        rw [if_pos rfl, withinAll_children, List.filter_flatMap, List.map_flatMap]
        apply List.flatMap_congr
        intro q hq
        apply ih q hq (hp.of_mem_children hq)
        intro a ha
        rw [Place.ancestors_of_mem_children hq] at ha
        rcases List.mem_cons.1 ha with rfl | ha
        · simpa using (Bool.and_eq_true_iff.1 henter).2
        · exact h a ha
      | false =>
        have hnone : (p.children.flatMap Place.preorder).filter Place.isReported = [] := by
          rw [List.filter_eq_nil_iff]
          intro r hr
          obtain ⟨q, hq, hr⟩ := List.mem_flatMap.1 hr
          rw [Place.isReported_of_not_entered hm hp henter hq hr]
          decide
        rw [hnone]
        rfl
    rw [within_eq, hbelow, ofLabel?_eq, ← Place.isReported_of_ancestors h, Place.preorder_eq,
      List.filter_cons]
    cases p.isReported with
    | true => rfl
    | false => rfl

theorem run_start {tree : Node} (hm : tree.IsMarked) :
    (Search.start tree).run source =
      tree.reported.map fun p => ofFaulty source p.node.label := by
  have hroot := within_eq_reported source hm (.root tree) .root (by simp)
  rw [Search.run_eq_total, Search.total, Search.start, List.nil_append, ahead]
  exact (List.append_nil _).trans hroot

end Diagnostic

namespace SourceUnit

theorem hasErrors_iff (u : SourceUnit) :
    u.hasErrors = true ↔ ∃ d ∈ u.diagnostics, d.severity = .error := by
  simp only [hasErrors, List.any_eq_true, beq_iff_eq]

/-- If the tree is marked as it should be, the search ends, and what it finds is one diagnostic
for each place that is reported, in preorder.  So the unit has errors exactly if something in the
tree is faulty. -/
theorem diagnostics_eq_reported (u : SourceUnit) (hm : u.tree.IsMarked) :
    (∃ steps last, steps < u.tree.size ∧
      Diagnostic.Search.Steps u.source steps (.start u.tree) last ∧
      last.step u.source = .finished u.diagnostics) ∧
    u.diagnostics = u.tree.reported.map (fun p => .ofFaulty u.source p.node.label) ∧
    (∀ p, p ∈ u.tree.reported ↔ p.In u.tree ∧ p.isReported = true) ∧
    u.tree.reported.Pairwise (fun p q => p.path < q.path) ∧
    (u.hasErrors = true ↔ ∃ p : Place, p.In u.tree ∧ p.node.label.isFaulty = true) := by
  have hroot := hm (.root u.tree) (Place.self_mem_preorder _)
  have hrun := Diagnostic.run_start u.source hm
  have hall : u.diagnostics = (Diagnostic.Search.start u.tree).run u.source := by
    rw [diagnostics, Diagnostic.all]
    split
    · rfl
    · rename_i hclean
      have hnone : u.tree.reported = [] := by
        rw [Node.reported, List.filter_eq_nil_iff]
        intro p hp hreported
        exact hclean (hroot.2 ⟨p, hp, (Bool.and_eq_true_iff.1 hreported).1⟩)
      rw [hrun, hnone, List.map_nil]
  refine ⟨?_, hall.trans hrun, fun _ => Node.mem_reported_iff, u.tree.reported_sorted, ?_⟩
  · obtain ⟨steps, last, hlt, hsteps, hlast⟩ :=
      Diagnostic.Search.ends u.source (.start u.tree)
    exact ⟨steps, last, hlt, hsteps, hall ▸ hlast⟩
  · rw [hasErrors_iff, hall.trans hrun]
    constructor
    · rintro ⟨d, hd, -⟩
      obtain ⟨p, hp, rfl⟩ := List.mem_map.1 hd
      obtain ⟨hp, hreported⟩ := Node.mem_reported_iff.1 hp
      exact ⟨p, hp, (Bool.and_eq_true_iff.1 hreported).1⟩
    · rintro ⟨p, hp, hfaulty⟩
      obtain ⟨r, hr⟩ := Place.exists_reported hp ⟨p, List.mem_cons_self, hfaulty⟩
      exact ⟨_, List.mem_map_of_mem hr, rfl⟩

/-- A source with text that could not be placed, with something missing in that text, and with a
semicolon missing after it. -/
def faulty : SourceUnit where
  path := "unit.c"
  dialect := .c
  source := .ofString "int a; ( int b"
  tree :=
    .node ⟨"translation_unit", none, true, false, false, true, 0, 14⟩
      [.node ⟨"declaration", none, true, false, false, false, 0, 6⟩ [],
       .node ⟨"ERROR", none, true, true, false, true, 7, 8⟩
         [.node ⟨")", none, false, false, true, true, 8, 8⟩ []],
       .node ⟨"declaration", none, true, false, false, true, 9, 14⟩
         [.node ⟨";", none, false, false, true, true, 14, 14⟩ []]]
  options := .standard

theorem diagnostics_faulty :
    faulty.tree.IsMarked ∧
      faulty.diagnostics =
        [⟨.error, ⟨1, 8, 7⟩, .unexpected ['(']⟩, ⟨.error, ⟨1, 15, 14⟩, .expected ";"⟩] ∧
      faulty.hasErrors = true := by
  have hm : faulty.tree.IsMarked := by decide
  obtain ⟨-, hall, -, -, herrors⟩ := diagnostics_eq_reported faulty hm
  have hmisplaced : (Place.root faulty.tree).node.children[1]? = some _ := rfl
  refine ⟨hm, ?_, herrors.2 ⟨_, .child .root hmisplaced, rfl⟩⟩
  rw [hall]
  decide

end SourceUnit

end CodeCursor
