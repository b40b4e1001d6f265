import CodeCursor.Proofs.CommentRuns

/-!
# Comments before templates

A declaration in a template is commented before the template.  Only the template that holds the
declaration directly is looked at.  In one template, or in none, that is where the comment stands
that goes with the whole.  In a template inside another one it is not: the comments are then those
between the two, and one before the outermost is lost.
-/

namespace CodeCursor

namespace Place

/-- The templates around a place, each directly inside the next, from the innermost on. -/
def templates (p : Place) : List Place :=
  p.ancestors.takeWhile (·.node.kind == "template_declaration")

/-- The outermost of the templates around a place, or the place itself if there is none. -/
def outermost (p : Place) : Place :=
  p.templates.getLast?.getD p

theorem earlierSiblings_subset {p parent : Place} (h : p ∈ parent.children) :
    p.earlierSiblings ⊆ parent.node.children := by
  obtain ⟨index, child, -, rfl⟩ := mem_children_iff.1 h
  rw [earlierSiblings_below]
  exact fun n hn => List.mem_of_mem_take (List.mem_reverse.1 hn)

theorem parent?_eq_head? (p : Place) : p.parent? = p.ancestors.head? := by
  obtain ⟨n, trail⟩ := p
  cases trail <;> rfl

end Place

/-- Of two templates around a place, one inside the other, the inner is a child of the outer. -/
theorem Place.mem_children_of_templates {tree : Node} {p inner outer : Place} {rest : List Place}
    (hp : p.In tree) (h : p.templates = inner :: outer :: rest) : inner ∈ outer.children := by
  obtain ⟨above, habove⟩ : p.templates <+: p.ancestors := List.takeWhile_prefix _
  rw [h] at habove
  have hinner : inner.In tree := hp.of_mem_ancestors (by simp [← habove])
  have hsplit : p.ancestors = [] ++ inner :: (outer :: rest ++ above) := habove.symm
  have hancestors : outer :: rest ++ above = inner.ancestors := ancestors_of_split hsplit
  have hparent : inner.parent? = some outer := by
    rw [parent?_eq_head?, ← hancestors]
    rfl
  exact (hinner.of_parent? hparent).2

/-- A comment that stands directly before a place among its siblings, and ends on the line where
the place begins or on the line before. -/
structure SourceUnit.Heads (u : SourceUnit) (comment : Node) (p : Place) : Prop where
  before : ∃ siblings, p.HasBefore (siblings ++ [comment])
  kind : comment.kind = "comment"
  adjoins : u.Adjoins comment p.node

theorem Place.In.outermost {tree : Node} {p : Place} (hp : p.In tree) : p.outermost.In tree := by
  rw [Place.outermost]
  cases hlast : p.templates.getLast? with
  | none => exact hp
  | some last =>
    have htemplate : last ∈ p.templates := List.mem_of_getLast? hlast
    exact hp.of_mem_ancestors ((List.takeWhile_subset _) htemplate)

theorem Place.In.hasBefore_concat {tree : Node} {p : Place} {n : Node} (hp : p.In tree)
    (h : p.earlierSiblings.head? = some n) : ∃ siblings, p.HasBefore (siblings ++ [n]) := by
  obtain ⟨rest, hsplit⟩ := List.head?_eq_some_iff.1 h
  have hbefore := hp.hasBefore
  rw [hsplit, List.reverse_cons] at hbefore
  exact ⟨_, hbefore⟩

namespace Cursor

variable {c : Cursor} {comment : Node}

theorem commentAnchor_eq (c : Cursor) :
    c.commentAnchor = c.place.templates.head?.getD c.place := by
  rw [commentAnchor, Place.parent?_eq_head?, Place.templates]
  cases c.place.ancestors with
  | nil => rfl
  | cons parent above =>
    rw [List.head?_cons, List.takeWhile_cons]
    cases h : parent.node.kind == "template_declaration" <;> simp [h]

/-- A comment at the head of what a cursor is commented at is the last that the cursor carries. -/
theorem comments_of_heads (h : c.unit.Heads comment c.commentAnchor) :
    ∃ run, c.comments = run ++ [comment] := by
  obtain ⟨siblings, hbefore⟩ := h.before
  have hearlier : c.commentAnchor.earlierSiblings = comment :: siblings.reverse := by
    rw [← List.reverse_reverse c.commentAnchor.earlierSiblings, ← hbefore.eq_earlierSiblings,
      List.reverse_concat]
  rw [comments, hearlier, SourceUnit.attached_cons, if_pos ⟨h.kind, h.adjoins⟩, List.reverse_cons]
  exact ⟨_, rfl⟩

theorem exists_heads {tree : Node} (hc : c.place.In tree) (hne : c.comments ≠ []) :
    ∃ comment, c.unit.Heads comment c.commentAnchor := by
  rw [comments] at hne
  cases hearlier : c.commentAnchor.earlierSiblings with
  | nil =>
    rw [hearlier] at hne
    contradiction
  | cons comment rest =>
    have hbefore := (commentAnchor_spec hc).1.hasBefore_concat (congrArg List.head? hearlier)
    rw [hearlier, SourceUnit.attached_cons] at hne
    split at hne
    · rename_i htaken
      exact ⟨comment, hbefore, htaken.1, htaken.2⟩
    · contradiction

theorem comments_subset_earlierSiblings (c : Cursor) :
    c.comments ⊆ c.commentAnchor.earlierSiblings := by
  intro comment hmem
  exact (c.unit.attached_spec _ _).1.subset (List.mem_reverse.1 hmem)

end Cursor

theorem suffix_intercalate {α : Type} (separator : List α) (before : List (List α))
    (last : List α) : last <:+ separator.intercalate (before ++ [last]) := by
  induction before with
  | nil => exact ⟨[], List.intercalate_singleton.symm⟩
  | cons first before ih =>
    have hrest : ∃ second rest, before ++ [last] = second :: rest :=
      List.exists_cons_of_ne_nil (by simp)
    obtain ⟨second, rest, hsplit⟩ := hrest
    rw [List.cons_append, hsplit, List.intercalate_cons_cons, ← hsplit]
    exact ih.trans (List.suffix_append _ _)

namespace SourceUnit

variable {u : SourceUnit} {c : Cursor}

theorem rawComment?_of_heads {comment : Node}
    (hoption : c.unit.options.contains .briefComments = true) (hdeclaration : c.isDeclaration = true)
    (h : c.unit.Heads comment c.commentAnchor) :
    ∃ text, c.rawComment? = some text ∧ c.unit.textOf comment <:+ text := by
  obtain ⟨run, hrun⟩ := Cursor.comments_of_heads h
  rw [Cursor.rawComment?_of_asked hoption hdeclaration, hrun, if_neg (by simp), List.map_append,
    List.map_singleton]
  exact ⟨_, rfl, suffix_intercalate _ _ _⟩

/-- With one template around a declaration, or with none, a comment at the head of the whole is
part of the declaration's comment.  With more, the declaration has a comment exactly if there is
one at the head of the innermost, and all its comments stand in the template around that. -/
theorem template_comment_carried {u : SourceUnit} {c : Cursor} (hc : c ∈ u.root.preorder)
    (hoption : u.options.contains .briefComments = true) (hdeclaration : c.isDeclaration = true) :
    (c.place.templates.length ≤ 1 → ∀ comment, u.Heads comment c.place.outermost →
      ∃ text, c.rawComment? = some text ∧ u.textOf comment <:+ text) ∧
    (∀ inner outer rest, c.place.templates = inner :: outer :: rest →
      (c.rawComment? ≠ none ↔ ∃ comment, u.Heads comment inner) ∧
      ∀ comment ∈ c.comments, comment ∈ outer.node.children) := by
  obtain ⟨rfl, hplace, -⟩ := mem_preorder_root.1 hc
  constructor
  · intro hfew comment hheads
    have hanchor : c.commentAnchor = c.place.outermost := by
      rw [Cursor.commentAnchor_eq, Place.outermost]
      match htemplates : c.place.templates with
      | [] => rfl
      | [template] => rfl
      | _ :: _ :: _ => simp [htemplates] at hfew
    rw [← hanchor] at hheads
    exact rawComment?_of_heads hoption hdeclaration hheads
  · intro inner outer rest htemplates
    -- Of the templates only the innermost is asked, so a comment is found inside the next one.
    have hanchor : c.commentAnchor = inner := by
      rw [Cursor.commentAnchor_eq, htemplates]
      rfl
    refine ⟨⟨?_, ?_⟩, ?_⟩
    · intro hsome
      have hne : c.comments ≠ [] := by
        intro hnone
        rw [Cursor.rawComment?_of_asked hoption hdeclaration, if_pos hnone] at hsome
        contradiction
      rw [← hanchor]
      exact Cursor.exists_heads hplace hne
    · rintro ⟨comment, hheads⟩
      rw [← hanchor] at hheads
      obtain ⟨text, htext, -⟩ := rawComment?_of_heads hoption hdeclaration hheads
      rw [htext]
      exact Option.some_ne_none text
    · intro comment hmem
      have hearlier := c.comments_subset_earlierSiblings hmem
      rw [hanchor] at hearlier
      exact Place.earlierSiblings_subset (Place.mem_children_of_templates hplace htemplates) hearlier

/-- A comment before two templates, one directly inside the other. -/
def nested : SourceUnit where
  path := "unit.cpp"
  dialect := .cpp
  source := .ofString "// doc\ntemplate <class T>\ntemplate <class U>\nvoid g();"
  tree :=
    .node ⟨"translation_unit", none, true, false, false, false, 0, 54⟩
      [.node ⟨"comment", none, true, false, false, false, 0, 6⟩ [],
       .node ⟨"template_declaration", none, true, false, false, false, 7, 54⟩
        [.node ⟨"template", none, false, false, false, false, 7, 15⟩ [],
         .node ⟨"template_parameter_list", some "parameters", true, false, false, false, 16, 25⟩
          [.node ⟨"<", none, false, false, false, false, 16, 17⟩ [],
           .node ⟨"type_parameter_declaration", none, true, false, false, false, 17, 24⟩
            [.node ⟨"class", none, false, false, false, false, 17, 22⟩ [],
             .node ⟨"type_identifier", none, true, false, false, false, 23, 24⟩ []],
           .node ⟨">", none, false, false, false, false, 24, 25⟩ []],
         .node ⟨"template_declaration", none, true, false, false, false, 26, 54⟩
          [.node ⟨"template", none, false, false, false, false, 26, 34⟩ [],
           .node ⟨"template_parameter_list", some "parameters", true, false, false, false, 35, 44⟩
            [.node ⟨"<", none, false, false, false, false, 35, 36⟩ [],
             .node ⟨"type_parameter_declaration", none, true, false, false, false, 36, 43⟩
              [.node ⟨"class", none, false, false, false, false, 36, 41⟩ [],
               .node ⟨"type_identifier", none, true, false, false, false, 42, 43⟩ []],
             .node ⟨">", none, false, false, false, false, 43, 44⟩ []],
           .node ⟨"declaration", none, true, false, false, false, 45, 54⟩
            [.node ⟨"primitive_type", some "type", true, false, false, false, 45, 49⟩ [],
             .node ⟨"function_declarator", some "declarator", true, false, false, false, 50, 53⟩
              [.node ⟨"identifier", some "declarator", true, false, false, false, 50, 51⟩ [],
               .node ⟨"parameter_list", some "parameters", true, false, false, false, 51, 53⟩
                [.node ⟨"(", none, false, false, false, false, 51, 52⟩ [],
                 .node ⟨")", none, false, false, false, false, 52, 53⟩ []]],
             .node ⟨";", none, false, false, false, false, 53, 54⟩ []]]]]
  options := .briefComments

/-- One template lets its comment through; of two, the inner one is asked. -/
theorem template_comment_carried_nested :
    (∃ c ∈ commented.root.preorder, c.isDeclaration = true ∧ c.place.templates.length = 1 ∧
      ∃ comment, commented.Heads comment c.place.outermost ∧
        ∃ text, c.rawComment? = some text ∧ commented.textOf comment <:+ text) ∧
    ∃ c ∈ nested.root.preorder, c.isDeclaration = true ∧
      ∃ inner outer, c.place.templates = [inner, outer] ∧
        (c.rawComment? ≠ none ↔ ∃ comment, nested.Heads comment inner) ∧
        ∀ comment ∈ c.comments, comment ∈ outer.node.children := by
  constructor
  · obtain ⟨c, hat, hdeclaration, hone, comment, hhead, hkind, hadjoins⟩ :
        ∃ c, commented.root.at? [1] = some c ∧ c.isDeclaration = true ∧
          c.place.templates.length = 1 ∧
          ∃ comment, c.place.outermost.earlierSiblings.head? = some comment ∧
            comment.kind = "comment" ∧ commented.Adjoins comment c.place.outermost.node :=
      ⟨_, rfl, rfl, rfl, _, rfl, rfl, by decide⟩
    have hc := Cursor.mem_preorder_iff_at?.2 ⟨_, hat⟩
    have hplace := (mem_preorder_root.1 hc).2.1
    have hheads : commented.Heads comment c.place.outermost :=
      ⟨hplace.outermost.hasBefore_concat hhead, hkind, hadjoins⟩
    exact ⟨c, hc, hdeclaration, hone, comment, hheads,
      (template_comment_carried hc rfl hdeclaration).1 hone.le comment hheads⟩
  · obtain ⟨c, hat, hdeclaration, inner, outer, htwo⟩ : ∃ c, nested.root.at? [2] = some c ∧
        c.isDeclaration = true ∧ ∃ inner outer, c.place.templates = [inner, outer] :=
      ⟨_, rfl, rfl, _, _, rfl⟩
    have hc := Cursor.mem_preorder_iff_at?.2 ⟨_, hat⟩
    exact ⟨c, hc, hdeclaration, inner, outer, htwo,
      (template_comment_carried hc rfl hdeclaration).2 inner outer [] htwo⟩

/-- The comment before the outermost of two templates is not the declaration's. -/
theorem template_comment_lost_nested :
    ∃ c ∈ nested.root.preorder, c.isDeclaration = true ∧
      (∃ comment, nested.Heads comment c.place.outermost) ∧ c.rawComment? = none := by
  obtain ⟨c, hat, hdeclaration, comment, hhead, hkind, hadjoins, hnone⟩ :
      ∃ c, nested.root.at? [2] = some c ∧ c.isDeclaration = true ∧
        ∃ comment, c.place.outermost.earlierSiblings.head? = some comment ∧
          comment.kind = "comment" ∧ nested.Adjoins comment c.place.outermost.node ∧
          c.rawComment? = none := ⟨_, rfl, rfl, _, rfl, rfl, by decide, rfl⟩
  have hc := Cursor.mem_preorder_iff_at?.2 ⟨_, hat⟩
  have hplace := (mem_preorder_root.1 hc).2.1
  exact ⟨c, hc, hdeclaration,
    ⟨comment, hplace.outermost.hasBefore_concat hhead, hkind, hadjoins⟩, hnone⟩

end SourceUnit

end CodeCursor
