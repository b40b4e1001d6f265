import CodeCursor.Comment.Preceding
import CodeCursor.Proofs.Visits
import Mathlib.Data.List.Chain

/-!
# The run of comments before a declaration

The comments that a declaration carries are found by going back over its siblings, with the line at
hand on which the last item taken begins.  What is found is the longest run of comments that ends
directly before the declaration, or before the template that holds it directly, with no empty line
between two comments or after the last one.
-/

namespace CodeCursor

namespace Place

/-- The siblings before a place, in source order.  Tokens and comments are among them. -/
inductive HasBefore : Place → List Node → Prop
  | root (tree : Node) : HasBefore (.root tree) []
  | child {parent : Place} {before after : List Node} {n : Node}
      (split : parent.node.children = before ++ n :: after) :
      HasBefore (parent.below before.length n) before

@[simp] theorem earlierSiblings_below (parent : Place) (index : Nat) (child : Node) :
    (parent.below index child).earlierSiblings = (parent.node.children.take index).reverse := rfl

theorem HasBefore.eq_earlierSiblings {p : Place} {siblings : List Node}
    (h : p.HasBefore siblings) : siblings = p.earlierSiblings.reverse := by
  cases h with
  | root => rfl
  | child split => simp [split]

theorem In.hasBefore {tree : Node} {p : Place} (hp : p.In tree) :
    p.HasBefore p.earlierSiblings.reverse := by
  cases hp with
  | root => exact .root tree
  | @child parent index child _ hc =>
    obtain ⟨hlt, hget⟩ := List.getElem?_eq_some_iff.1 hc
    have hsplit : parent.node.children =
        parent.node.children.take index ++ child :: parent.node.children.drop (index + 1) := by
      rw [← hget, List.getElem_cons_drop, List.take_append_drop]
    have hbefore := HasBefore.child hsplit
    rw [List.length_take_of_le hlt.le] at hbefore
    rwa [earlierSiblings_below, List.reverse_reverse]

/-- The place before which the comments of another place stand: the template that holds it
directly, or else the place itself. -/
inductive CommentedAt (p : Place) : Place → Prop
  | template {parent : Place} (child : p ∈ parent.children)
      (kind : parent.node.kind = "template_declaration") : CommentedAt p parent
  | own (other : ∀ parent : Place, p ∈ parent.children →
      parent.node.kind ≠ "template_declaration") : CommentedAt p p

theorem CommentedAt.unique {p a b : Place} (ha : p.CommentedAt a) (hb : p.CommentedAt b) :
    a = b := by
  cases ha with
  | template hchild hkind =>
    cases hb with
    | template hchild' _ =>
      exact Option.some.inj
        ((parent?_of_mem_children hchild).symm.trans (parent?_of_mem_children hchild'))
    | own other => exact absurd hkind (other a hchild)
  | own other =>
    cases hb with
    | template hchild hkind => exact absurd hkind (other b hchild)
    | own _ => rfl

theorem In.of_parent? {tree : Node} {p parent : Place} (hp : p.In tree)
    (h : p.parent? = some parent) : parent.In tree ∧ p ∈ parent.children := by
  cases hp with
  | root => contradiction
  | @child parent index child hparent hc =>
    obtain rfl := Option.some.inj h
    exact ⟨hparent, mem_children_iff.2 ⟨index, child, hc, rfl⟩⟩

end Place

namespace SourceUnit

variable {u : SourceUnit}

/-- A node ends no sooner than on the line before the one on which another node begins. -/
def Adjoins (u : SourceUnit) (n next : Node) : Prop :=
  (u.extentOf next).start.line ≤ (u.extentOf n).stop.line + 1

instance (u : SourceUnit) (n next : Node) : Decidable (u.Adjoins n next) :=
  inferInstanceAs (Decidable (_ ≤ _))

/-- Comments in source order, each of which adjoins the next, and the last the given node. -/
structure IsCommentRun (u : SourceUnit) (run : List Node) (anchor : Node) : Prop where
  comments : ∀ n ∈ run, n.kind = "comment"
  adjoined : (run ++ [anchor]).IsChain u.Adjoins

/-- The longest run of comments at the end of the siblings that come before a node. -/
structure IsLongestRun (u : SourceUnit) (siblings run : List Node) (anchor : Node) : Prop where
  isSuffix : run <:+ siblings
  isRun : u.IsCommentRun run anchor
  longest : ∀ other, other <:+ siblings → u.IsCommentRun other anchor → other <:+ run

theorem IsLongestRun.unique {siblings run other : List Node} {anchor : Node}
    (h : u.IsLongestRun siblings run anchor) (h' : u.IsLongestRun siblings other anchor) :
    run = other :=
  (h'.longest run h.isSuffix h.isRun).eq_of_length_le
    (h.longest other h'.isSuffix h'.isRun).length_le

/-- The same run seen from the node before which it stands. -/
theorem isCommentRun_reverse_iff {run : List Node} {anchor : Node} :
    u.IsCommentRun run.reverse anchor ↔
      (∀ n ∈ run, n.kind = "comment") ∧
        (anchor :: run).IsChain fun next n => u.Adjoins n next := by
  have hreverse : run.reverse ++ [anchor] = (anchor :: run).reverse := by
    rw [List.reverse_cons]
  constructor
  · rintro ⟨hcomments, hadjoined⟩
    rw [hreverse, List.isChain_reverse] at hadjoined
    exact ⟨fun n hn => hcomments n (List.mem_reverse.2 hn), hadjoined⟩
  · rintro ⟨hcomments, hadjoined⟩
    refine ⟨fun n hn => hcomments n (List.mem_reverse.1 hn), ?_⟩
    rw [hreverse, List.isChain_reverse]
    exact hadjoined

theorem attached_cons (line : Nat) (sibling : Node) (rest : List Node) :
    u.attached line (sibling :: rest) =
      if sibling.kind = "comment" ∧ line ≤ (u.extentOf sibling).stop.line + 1 then
        sibling :: u.attached (u.extentOf sibling).start.line rest
      else [] := by
  rw [attached]
  simp only [Bool.and_eq_true, beq_iff_eq, decide_eq_true_eq]

theorem attached_spec (siblings : List Node) (anchor : Node) :
    let found := u.attached (u.extentOf anchor).start.line siblings
    found <+: siblings ∧ (∀ n ∈ found, n.kind = "comment") ∧
      (anchor :: found).IsChain fun next n => u.Adjoins n next := by
  -- A comment that is taken is the anchor of all that comes before it.
  induction siblings generalizing anchor with
  | nil => exact ⟨List.nil_prefix, by simp [attached], List.isChain_singleton _⟩
  | cons sibling rest ih =>
    obtain ⟨hpre, hcomments, hadjoined⟩ := ih sibling
    simp only [attached_cons]
    split
    · rename_i htaken
      refine ⟨(List.prefix_cons_inj sibling).2 hpre, ?_, ?_⟩
      · rw [List.forall_mem_cons]
        exact ⟨htaken.1, hcomments⟩
      · rw [List.isChain_cons_cons]
        exact ⟨htaken.2, hadjoined⟩
    · exact ⟨List.nil_prefix, by simp, List.isChain_singleton _⟩

/-- Going back stops no sooner than it has to. -/
theorem prefix_attached {run siblings : List Node} {anchor : Node} (hpre : run <+: siblings)
    (hcomments : ∀ n ∈ run, n.kind = "comment")
    (hadjoined : (anchor :: run).IsChain fun next n => u.Adjoins n next) :
    run <+: u.attached (u.extentOf anchor).start.line siblings := by
  induction run generalizing anchor siblings with
  | nil => exact List.nil_prefix
  | cons n run ih =>
    obtain ⟨rest, rfl⟩ := hpre
    obtain ⟨hn, hcomments⟩ := List.forall_mem_cons.1 hcomments
    obtain ⟨hadjoins, hadjoined⟩ := List.isChain_cons_cons.1 hadjoined
    rw [List.cons_append, attached_cons, if_pos ⟨hn, hadjoins⟩, List.prefix_cons_inj]
    exact ih (List.prefix_append run rest) hcomments hadjoined

/-- Going back over all siblings finds the longest run. -/
theorem isLongestRun_attached (siblings : List Node) (anchor : Node) :
    u.IsLongestRun siblings.reverse
      (u.attached (u.extentOf anchor).start.line siblings).reverse anchor := by
  obtain ⟨hpre, hrun⟩ := u.attached_spec siblings anchor
  refine ⟨List.reverse_suffix.2 hpre, isCommentRun_reverse_iff.2 hrun, ?_⟩
  intro other hother hotherRun
  obtain ⟨back, rfl⟩ : ∃ back, other = back.reverse := ⟨other.reverse, other.reverse_reverse.symm⟩
  obtain ⟨hcomments, hadjoined⟩ := isCommentRun_reverse_iff.1 hotherRun
  exact List.reverse_suffix.2
    (prefix_attached (List.reverse_suffix.1 hother) hcomments hadjoined)

end SourceUnit

namespace Cursor

/-- A cursor carries the longest run of comments before the place at which it is commented. -/
def Carries (c : Cursor) (run : List Node) : Prop :=
  ∃ (anchor : Place) (siblings : List Node), c.place.CommentedAt anchor ∧
    anchor.HasBefore siblings ∧ c.unit.IsLongestRun siblings run anchor.node

theorem commentAnchor_spec {c : Cursor} {tree : Node} (hc : c.place.In tree) :
    c.commentAnchor.In tree ∧ c.place.CommentedAt c.commentAnchor := by
  rw [commentAnchor]
  cases hparent : c.place.parent? with
  | none =>
    refine ⟨hc, .own fun other hother => ?_⟩
    rw [Place.parent?_of_mem_children hother] at hparent
    contradiction
  | some parent =>
    obtain ⟨hin, hchild⟩ := hc.of_parent? hparent
    simp only [beq_iff_eq]
    split
    · rename_i hkind
      exact ⟨hin, .template hchild hkind⟩
    · rename_i hkind
      refine ⟨hc, .own fun other hother => ?_⟩
      rw [Place.parent?_of_mem_children hother] at hparent
      rwa [Option.some.inj hparent]

theorem carries_iff {c : Cursor} {tree : Node} (hc : c.place.In tree) {run : List Node} :
    c.Carries run ↔ run = c.comments := by
  obtain ⟨hanchor, hcommented⟩ := commentAnchor_spec hc
  have hlongest : c.unit.IsLongestRun c.commentAnchor.earlierSiblings.reverse c.comments
      c.commentAnchor.node := SourceUnit.isLongestRun_attached _ _
  constructor
  · rintro ⟨anchor, siblings, hat, hbefore, hrun⟩
    obtain rfl := hat.unique hcommented
    rw [hbefore.eq_earlierSiblings] at hrun
    exact hrun.unique hlongest
  · rintro rfl
    exact ⟨_, _, hcommented, hanchor.hasBefore, hlongest⟩

theorem asked_of_rawComment? {c : Cursor} (h : c.rawComment? ≠ none) :
    c.unit.options.contains .briefComments = true ∧ c.isDeclaration = true := by
  rw [rawComment?] at h
  split at h
  · rename_i hasked
    exact Bool.and_eq_true_iff.1 hasked
  · contradiction

/-- The comment of a cursor that can have one, by the comments that it carries. -/
theorem rawComment?_of_asked {c : Cursor} (hoption : c.unit.options.contains .briefComments = true)
    (hdeclaration : c.isDeclaration = true) :
    c.rawComment? =
      if c.comments = [] then none
      else some (['\n'].intercalate (c.comments.map c.unit.textOf)) := by
  rw [rawComment?, hoption, hdeclaration]
  cases c.comments with
  | nil => rfl
  | cons n run => rfl

end Cursor

namespace SourceUnit

/-- A cursor has a comment only if comments are asked for and it is a declaration.  It then carries
just one run of comments.  Its comment is their texts, joined by line feeds, and there is none
exactly if the run is empty. -/
theorem rawComment_eq_carried_run {u : SourceUnit} {c : Cursor} (hc : c ∈ u.root.preorder) :
    (c.rawComment? ≠ none →
      u.options.contains .briefComments = true ∧ c.isDeclaration = true) ∧
    (u.options.contains .briefComments = true → c.isDeclaration = true →
      ∃ run, (∀ other, c.Carries other ↔ other = run) ∧
        (c.rawComment? = none ↔ run = []) ∧
        (run ≠ [] → c.rawComment? = some (['\n'].intercalate (run.map u.textOf)))) := by
  obtain ⟨rfl, hplace, -⟩ := mem_preorder_root.1 hc
  refine ⟨Cursor.asked_of_rawComment?, ?_⟩
  intro hoption hdeclaration
  refine ⟨c.comments, fun other => Cursor.carries_iff hplace, ?_, ?_⟩
  · rw [Cursor.rawComment?_of_asked hoption hdeclaration]
    simp
  · intro hrun
    rw [Cursor.rawComment?_of_asked hoption hdeclaration, if_neg hrun]

/-- A template with two comments that belong to it, and one that an empty line keeps away. -/
def commented : SourceUnit where
  path := "unit.cpp"
  dialect := .cpp
  source := .ofString "// far\n\n// near\n/* on */ template <typename T>\nT f();\n"
  tree :=
    .node ⟨"translation_unit", none, true, false, false, false, 0, 54⟩
      [.node ⟨"comment", none, true, false, false, false, 0, 6⟩ [],
       .node ⟨"comment", none, true, false, false, false, 8, 15⟩ [],
       .node ⟨"comment", none, true, false, false, false, 16, 24⟩ [],
       .node ⟨"template_declaration", none, true, false, false, false, 25, 53⟩
        [.node ⟨"template", none, false, false, false, false, 25, 33⟩ [],
         .node ⟨"template_parameter_list", some "parameters", true, false, false, false, 34, 46⟩
          [.node ⟨"<", none, false, false, false, false, 34, 35⟩ [],
           .node ⟨"type_parameter_declaration", none, true, false, false, false, 35, 45⟩
            [.node ⟨"typename", none, false, false, false, false, 35, 43⟩ [],
             .node ⟨"type_identifier", none, true, false, false, false, 44, 45⟩ []],
           .node ⟨">", none, false, false, false, false, 45, 46⟩ []],
         .node ⟨"declaration", none, true, false, false, false, 47, 53⟩
          [.node ⟨"type_identifier", some "type", true, false, false, false, 47, 48⟩ [],
           .node ⟨"function_declarator", some "declarator", true, false, false, false, 49, 52⟩
            [.node ⟨"identifier", some "declarator", true, false, false, false, 49, 50⟩ [],
             .node ⟨"parameter_list", some "parameters", true, false, false, false, 50, 52⟩
              [.node ⟨"(", none, false, false, false, false, 50, 51⟩ [],
               .node ⟨")", none, false, false, false, false, 51, 52⟩ []]],
           .node ⟨";", none, false, false, false, false, 52, 53⟩ []]]]
  options := .briefComments

theorem rawComment_eq_carried_run_commented :
    ∃ c ∈ commented.root.preorder, c.kind = .functionDecl ∧
      commented.options.contains .briefComments = true ∧ c.isDeclaration = true ∧
      c.rawComment? = some "// near\n/* on */".toList ∧
      ∃ run, c.Carries run ∧ run ≠ [] ∧
        "// near\n/* on */".toList = ['\n'].intercalate (run.map commented.textOf) := by
  obtain ⟨c, hat, hkind, hdeclaration, hraw⟩ : ∃ c, commented.root.at? [1] = some c ∧
      c.kind = .functionDecl ∧ c.isDeclaration = true ∧
      c.rawComment? = some "// near\n/* on */".toList := ⟨_, rfl, rfl, rfl, rfl⟩
  have hc := Cursor.mem_preorder_iff_at?.2 ⟨_, hat⟩
  obtain ⟨run, hcarries, hnone, hsome⟩ := (rawComment_eq_carried_run hc).2 rfl hdeclaration
  have hrun : run ≠ [] := by
    intro h
    rw [hnone.2 h] at hraw
    contradiction
  refine ⟨c, hc, hkind, rfl, hdeclaration, hraw, run, (hcarries run).2 rfl, hrun, ?_⟩
  exact Option.some.inj (hraw.symm.trans (hsome hrun))

end SourceUnit

end CodeCursor
