import CodeCursor.Proofs.CommentRuns
import CodeCursor.Proofs.SplitDeclarations

/-!
# Comments before several names

A declaration of one name is a cursor as a whole, and the comments before it are its comments.
Where a declaration has several names its declarators are the cursors.  The comments of each are
those directly before it inside the declaration, so that a comment before the declaration is lost
as soon as there is a second name.
-/

namespace CodeCursor

/-- A declarator is commented inside its declaration. -/
theorem Cursor.isLongestRun_of_declarator {c : Cursor} {p : Place} {index : Nat}
    (hsplit : p.node.isOneOf Node.splitKinds = true) (h : p.child? index = some c.place) :
    c.unit.IsLongestRun (p.node.children.take index) c.comments c.place.node := by
  obtain ⟨child, -, hplace⟩ := Place.child?_eq_some_iff.1 h
  have hkind : (p.node.kind == "template_declaration") = false := by
    rcases Node.isOneOf_splitKinds.1 hsplit with hkind | hkind
    all_goals rw [hkind]; rfl
  have hparent : c.place.parent? = some p := by
    rw [hplace]
    rfl
  have hanchor : c.commentAnchor = c.place := by
    rw [commentAnchor, hparent]
    simp [hkind]
  have hearlier : c.place.earlierSiblings.reverse = p.node.children.take index := by
    rw [hplace, Place.earlierSiblings_below, List.reverse_reverse]
  rw [comments, hanchor, ← hearlier]
  exact SourceUnit.isLongestRun_attached _ _

namespace SourceUnit

variable {u v : SourceUnit} {p q : Place} {index : Nat}

/-- A copy, below a parent of the same kind and no hidden node, of a declaration that goes on after
the child with the given index and has several declarators. -/
structure Lengthens (v : SourceUnit) (q : Place) (u : SourceUnit) (p : Place) (index : Nat) :
    Prop where
  options : v.options = u.options
  within : q.In v.tree
  covered : v.isCovered q = false
  parent : q.parentKind? = p.parentKind?
  label : q.node.label = { p.node.label with stop := q.node.label.stop }
  upTo : q.node.children.take (index + 1) = p.node.children.take (index + 1)
  several : 1 < q.node.declaratorCount

namespace Lengthens

variable {first : Node}

theorem isSplit (h : v.Lengthens q u p index) (hsplit : p.node.isOneOf Node.splitKinds = true) :
    q.node.isOneOf Node.splitKinds = true := by
  have hkind : q.node.kind = p.node.kind := by rw [Node.kind, Node.kind, h.label]
  rwa [Node.isOneOf, hkind]

theorem take_eq (h : v.Lengthens q u p index) :
    q.node.children.take index = p.node.children.take index := by
  have htake := congrArg (List.take index) h.upTo
  rwa [List.take_take, List.take_take, Nat.min_eq_left (Nat.le_succ index)] at htake

theorem child?_eq (h : v.Lengthens q u p index) (hfirst : p.node.children[index]? = some first) :
    q.child? index = some (q.below index first) := by
  have hget := congrArg (fun nodes => nodes[index]?) h.upTo
  simp only [List.getElem?_take, Nat.lt_succ_self, if_true] at hget
  rw [Place.child?, hget, hfirst]
  rfl

/-- The longer declaration is not hidden where the shorter one is not. -/
theorem visible (h : v.Lengthens q u p index) (hp : p.In u.tree) (hroot : p.isRoot = false)
    (hsplit : p.node.isOneOf Node.splitKinds = true) (hvisible : u.exposure p ≠ .hidden) :
    v.exposure q ≠ .hidden := by
  have hown : q.isRoot = false := by
    rw [Place.isRoot_eq_isNone, h.parent, ← Place.isRoot_eq_isNone]
    exact hroot
  -- What hides a declaration is its label and the kind of its parent.
  obtain ⟨above, hchild⟩ := hp.exists_parent hroot
  obtain ⟨other, hother⟩ := h.within.exists_parent hown
  rw [exposure, Ne, Place.exposure_eq_hidden_iff hchild hsplit] at hvisible
  rw [exposure, Ne, Place.exposure_eq_hidden_iff hother (h.isSplit hsplit),
    Place.isBarred_congr h.label h.parent]
  exact hvisible

/-- The longer declaration shows its first declarator as a declaration. -/
theorem exists_declarator (h : v.Lengthens q u p index)
    (hsplit : p.node.isOneOf Node.splitKinds = true) (hvisible : v.exposure q ≠ .hidden)
    (hfirst : p.node.children[index]? = some first) (hfield : first.inField "declarator" = true)
    (hnamed : first.label.named = true) (hmissing : first.label.missing = false)
    (hcomment : first.kind ≠ "comment") :
    ∃ d ∈ v.root.preorder, d.place = q.below index first ∧ d.isDeclaration = true := by
  have hlong := h.isSplit hsplit
  have hmem : q.below index first ∈ q.children :=
    Place.mem_children_iff_child?.2 ⟨index, h.child?_eq hfirst⟩
  obtain ⟨kind, hkind, hspells⟩ := Place.declaratorExposure_of_isSplit first hlong
  have hshown := shown?_of_declarator h.covered hvisible hlong h.several
    (List.mem_filter.2 ⟨hmem, hfield⟩) hnamed hmissing hcomment
  rw [Place.node_below, hkind, Exposure.kind?_cursor] at hshown
  exact ⟨_, mem_preorder_of_shown? (h.within.of_mem_children hmem) hshown, rfl,
    (Bool.and_eq_true_iff.1 hspells).1⟩

end Lengthens

theorem isRoot_of_isDeclaration {c : Cursor} (hc : c ∈ u.root.preorder)
    (hdeclaration : c.isDeclaration = true) : c.place.isRoot = false := by
  have hx := exposure_of_mem_preorder hc
  rw [← Bool.not_eq_true]
  intro hroot
  rw [c.unit.exposure_of_isRoot hroot] at hx
  rw [Cursor.isDeclaration, ← Exposure.cursor.inj hx] at hdeclaration
  contradiction

/-- When a declaration of one name gets more names, the first of them is a declaration of its own.
Its comment is what the longest run of comments directly before it inside the declaration says, and
it has none if no comment stands there.  What stands before the declaration is no longer read. -/
theorem first_declarator_comment {u v : SourceUnit} {c : Cursor} {q : Place} {index : Nat}
    {first : Node} (hc : c ∈ u.root.preorder)
    (hsplit : c.place.node.isOneOf Node.splitKinds = true) (hraw : c.rawComment? ≠ none)
    (hindex : c.place.node.indexIn? "declarator" = some index)
    (hfirst : c.place.node.children[index]? = some first)
    (hnamed : first.label.named = true) (hmissing : first.label.missing = false)
    (hcomment : first.kind ≠ "comment") (hlonger : v.Lengthens q u c.place index) :
    ∃ d ∈ v.root.preorder, q.child? index = some d.place ∧ d.isDeclaration = true ∧
      ∃ run, v.IsLongestRun (c.place.node.children.take index) run first ∧
        d.rawComment? =
          if run = [] then none else some (['\n'].intercalate (run.map v.textOf)) := by
  have hx := exposure_of_mem_preorder hc
  obtain ⟨hoption, hdeclaration⟩ := Cursor.asked_of_rawComment? hraw
  have hroot := isRoot_of_isDeclaration hc hdeclaration
  obtain ⟨rfl, hplace, -⟩ := mem_preorder_root.1 hc
  have hvisible : v.exposure q ≠ .hidden := by
    apply hlonger.visible hplace hroot hsplit
    rw [hx]
    exact Exposure.noConfusion
  have hfield : first.inField "declarator" = true := by
    have hin := Node.childIn?_eq_bind c.place.node "declarator"
    rw [hindex, Option.bind_some, hfirst] at hin
    exact List.find?_some (p := fun child : Node => child.inField "declarator") hin
  obtain ⟨d, hd, hdplace, hdeclares⟩ :=
    hlonger.exists_declarator hsplit hvisible hfirst hfield hnamed hmissing hcomment
  obtain ⟨rfl, -, -⟩ := mem_preorder_root.1 hd
  have hchild : q.child? index = some d.place := by rw [hlonger.child?_eq hfirst, hdplace]
  have hrun := Cursor.isLongestRun_of_declarator (hlonger.isSplit hsplit) hchild
  rw [hlonger.take_eq, hdplace, Place.node_below] at hrun
  exact ⟨d, hd, hchild, hdeclares, d.comments, hrun,
    Cursor.rawComment?_of_asked (hlonger.options ▸ hoption) hdeclares⟩

/-- A unit with a comment on the line before a declaration. -/
def noted (source : String) (declaration : Node) : SourceUnit where
  path := "unit.c"
  dialect := .c
  source := .ofString source
  tree :=
    .node ⟨"translation_unit", none, true, false, false, false, 0, declaration.label.stop⟩
      [.node ⟨"comment", none, true, false, false, false, 0, 4⟩ [], declaration]
  options := .briefComments

def firstName : Node :=
  .node ⟨"identifier", some "declarator", true, false, false, false, 9, 10⟩ []

def oneDeclared : Node :=
  .node ⟨"declaration", none, true, false, false, false, 5, 11⟩
    [.node ⟨"primitive_type", some "type", true, false, false, false, 5, 8⟩ [],
     firstName,
     .node ⟨";", none, false, false, false, false, 10, 11⟩ []]

def twoDeclared : Node :=
  .node ⟨"declaration", none, true, false, false, false, 5, 14⟩
    [.node ⟨"primitive_type", some "type", true, false, false, false, 5, 8⟩ [],
     firstName,
     .node ⟨",", none, false, false, false, false, 10, 11⟩ [],
     .node ⟨"identifier", some "declarator", true, false, false, false, 12, 13⟩ [],
     .node ⟨";", none, false, false, false, false, 13, 14⟩ []]

def oneNoted : SourceUnit := noted "// n\nint a;" oneDeclared

def twoNoted : SourceUnit := noted "// n\nint a, b;" twoDeclared

/-- The declaration of two names. -/
def twoNoted.place : Place := (Place.root twoNoted.tree).below 1 twoDeclared

theorem exists_oneNoted : ∃ c ∈ oneNoted.root.preorder,
    c.place = (Place.root oneNoted.tree).below 1 oneDeclared ∧ c.rawComment? = some "// n".toList ∧
      twoNoted.Lengthens twoNoted.place oneNoted c.place 1 := by
  obtain ⟨c, hat, hplace, htext⟩ : ∃ c, oneNoted.root.at? [0] = some c ∧
      c.place = (Place.root oneNoted.tree).below 1 oneDeclared ∧
      c.rawComment? = some "// n".toList := ⟨_, rfl, rfl, rfl⟩
  refine ⟨c, Cursor.mem_preorder_iff_at?.2 ⟨_, hat⟩, hplace, htext, ?_⟩
  rw [hplace]
  exact ⟨rfl, .child .root rfl, by decide, rfl, rfl, rfl, by decide⟩

/-- The same declaration with one name and with two. -/
theorem first_declarator_comment_twoNoted :
    ∃ c ∈ oneNoted.root.preorder, c.rawComment? = some "// n".toList ∧
      twoNoted.Lengthens twoNoted.place oneNoted c.place 1 ∧
      ∃ d ∈ twoNoted.root.preorder, twoNoted.place.child? 1 = some d.place ∧
        d.isDeclaration = true ∧
        ∃ run, twoNoted.IsLongestRun (oneDeclared.children.take 1) run firstName ∧
          d.rawComment? =
            if run = [] then none else some (['\n'].intercalate (run.map twoNoted.textOf)) := by
  obtain ⟨c, hc, hplace, htext, hlonger⟩ := exists_oneNoted
  have hnode : c.place.node = oneDeclared := by rw [hplace, Place.node_below]
  have hsplit : c.place.node.isOneOf Node.splitKinds = true := by rw [hnode]; rfl
  have hindex : c.place.node.indexIn? "declarator" = some 1 := by rw [hnode]; rfl
  have hfirst : c.place.node.children[1]? = some firstName := by rw [hnode]; rfl
  refine ⟨c, hc, htext, hlonger, ?_⟩
  rw [← hnode]
  exact first_declarator_comment hc hsplit (htext ▸ Option.some_ne_none _) hindex hfirst rfl rfl
    (by decide) hlonger

/-- The comment on the line before is lost with the second name. -/
theorem comment_lost_twoNoted :
    ∃ c ∈ oneNoted.root.preorder, c.rawComment? = some "// n".toList ∧
      twoNoted.Lengthens twoNoted.place oneNoted c.place 1 ∧
      ∃ d ∈ twoNoted.root.preorder, twoNoted.place.child? 1 = some d.place ∧
        d.rawComment? = none := by
  obtain ⟨c, hc, -, htext, hlonger⟩ := exists_oneNoted
  obtain ⟨d, hat, hchild, hnone⟩ : ∃ d, twoNoted.root.at? [0] = some d ∧
      twoNoted.place.child? 1 = some d.place ∧ d.rawComment? = none := ⟨_, rfl, rfl, rfl⟩
  exact ⟨c, hc, htext, hlonger, d, Cursor.mem_preorder_iff_at?.2 ⟨_, hat⟩, hchild, hnone⟩

end SourceUnit

end CodeCursor
