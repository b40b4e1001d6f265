import CodeCursor.Proofs.Conditionals
import CodeCursor.Proofs.Hollows
import Mathlib.Logic.Relation

/-!
# Conditionals among statements and declarations

In a block a run of nodes can be divided between a conditional and its alternative.  Done once or
many times over, in one block or in blocks inside blocks, it changes nothing of what is seen of the
cursors.
-/

namespace CodeCursor

namespace Node

/-- One run of nodes in a block, at the node or somewhere below it, is divided between a
conditional and its alternative. -/
inductive Divided : Node → Node → Prop
  | here {label : Label} {before xs ys after : List Node} {conditional alternative : Guard}
      (block : label.kind ∈ blockKinds) (isConditional : conditional.IsConditional)
      (isAlternative : alternative.IsAlternative) (unheld : ∀ n ∈ xs ++ ys, n.field = none) :
      Divided (node label (before ++ (xs ++ ys) ++ after))
        (node label (before ++ conditional.around (xs ++ [alternative.around ys]) :: after))
  /-- A block in a field where names are looked for is left out.  No grammar has one there. -/
  | inside {label : Label} {before after : List Node} {child child' : Node}
      (free : child.isBlock = true → child.isSealed = true) (inner : Divided child child') :
      Divided (node label (before ++ child :: after)) (node label (before ++ child' :: after))

variable {m n : Node}

theorem Divided.label_eq (h : Divided m n) : m.label = n.label := by
  cases h <;> rfl

/-- A division is not seen from outside of the block. -/
theorem Divided.hollow_eq (h : Divided m n) (hfree : m.isBlock = true → m.isSealed = true) :
    m.hollow = n.hollow := by
  induction h with
  | here block => exact hollow_of_isSealed (hfree (isOneOf_eq_true_iff.2 block)) _
  | inside free _ ih =>
    apply hollow_congr
    rw [List.map_append, List.map_append, List.map_cons, List.map_cons, ih free]

/-- The number of declarators is read off the labels of the children. -/
theorem declaratorCount_of_label {label : Label} {before after : List Node} {child child' : Node}
    (h : child.label = child'.label) :
    (node label (before ++ child :: after)).declaratorCount =
      (node label (before ++ child' :: after)).declaratorCount := by
  simp only [declaratorCount, children_node, List.countP_append, List.countP_cons, inField, field,
    h]

end Node

namespace Place

/-- All children of a node keep their settings when a division is made inside one of them. -/
theorem sameSetting_inside {label : Label} {before after : List Node} {child child' : Node}
    (free : child.isBlock = true → child.isSealed = true) (inner : child.Divided child')
    {p q : Place} (hp : p.node = .node label (before ++ child :: after))
    (hq : q.node = .node label (before ++ child' :: after))
    (hlist : label.kind = "template_declaration" →
      p.parentIs "field_declaration_list" = q.parentIs "field_declaration_list")
    (index : Nat) (c : Node) : (p.below index c).SameSetting (q.below index c) := by
  have hkind : p.node.kind = q.node.kind := by rw [hp, hq]; rfl
  cases hsealed : p.node.isSealed with
  | true =>
    have hsequence := Node.isSequence_of_isBlock (Node.kind_mem_of_isSealed hsealed)
    have hcount : p.node.declaratorCount = q.node.declaratorCount := by
      rw [hp, hq]
      exact Node.declaratorCount_of_label inner.label_eq
    exact sameSetting_below_sequence hsequence hkind hcount index index c
  | false =>
    have hhollow : p.node.hollow = q.node.hollow := by
      rw [hp, hq]
      apply Node.hollow_congr
      rw [List.map_append, List.map_append, List.map_cons, List.map_cons, inner.hollow_eq free]
    apply sameSetting_below_hollow hhollow hsealed
    intro h
    rw [hp] at h
    exact hlist h

end Place

namespace SourceUnit

variable {u : SourceUnit} {p q : Place}

/-- What is divided between a conditional and its alternative shows as it did. -/
theorem sketches_divided {xs ys : List Node} {conditional alternative : Guard}
    (hp : p.node.isSequence = true) (hq : q.node.isSequence = true)
    (hbody : (p.node.kind == "field_declaration_list") = false)
    (hc : conditional.IsConditional) (ha : alternative.IsAlternative)
    (hunheld : ∀ n ∈ xs ++ ys, n.field = none) (i j : Nat) :
    u.sketches Cursor.kind (q.below j (conditional.around (xs ++ [alternative.around ys]))) =
      u.sketchesAmong Cursor.kind p i (xs ++ ys) := by
  obtain ⟨hxs, hys⟩ := List.forall_mem_append.1 hunheld
  have hfirst : (q.below j (conditional.around (xs ++ [alternative.around ys]))).node.isSequence =
      true := hc.isSequence _
  have hsecond : ∀ k, ((q.below j (conditional.around (xs ++ [alternative.around ys]))).below k
      (alternative.around ys)).node.isSequence = true := fun _ => ha.isSequence ys
  rw [sketches_guard hq hc.toIsGuard, sketchesAmong_append, sketchesAmong_cons,
    sketches_guard hfirst ha.toIsGuard, sketchesAmong_append,
    sketchesAmong_below_sequence hfirst hp ((hc.kind_ne_body _).trans hbody.symm) hxs _ i,
    sketchesAmong_below_sequence (hsecond _) hp ((ha.kind_ne_body ys).trans hbody.symm) hys _
      (i + xs.length)]
  exact congrArg _ (List.append_nil _)

/-- A division changes nothing of what is seen of the cursors below a node. -/
theorem sketchesBelow_of_divided {m n : Node} (h : m.Divided n) :
    ∀ {p q : Place}, p.node = m → q.node = n →
      (m.kind = "template_declaration" →
        p.parentIs "field_declaration_list" = q.parentIs "field_declaration_list") →
      u.sketchesBelow Cursor.kind q = u.sketchesBelow Cursor.kind p := by
  induction h with
  | @here label before xs ys after conditional alternative block hc ha hunheld =>
    intro p q hp hq _
    have hkind : q.node.kind = p.node.kind := by rw [hp, hq]; rfl
    have hblock : p.node.kind ∈ Node.blockKinds := by rw [hp]; exact block
    have hsequence := Node.isSequence_of_isBlock hblock
    have hsequence' : q.node.isSequence = true := (Node.isOneOf_congr hkind _).trans hsequence
    have hcount : q.node.declaratorCount = p.node.declaratorCount := by
      rw [hp, hq]
      exact hc.declaratorCount_around label before (xs ++ ys) after _ hunheld
    have hdivided := sketches_divided (u := u) hsequence hsequence'
      (Node.kind_ne_body_of_isBlock hblock) hc ha hunheld before.length before.length
    have hother : ∀ nodes i j, u.sketchesAmong Cursor.kind q i nodes =
        u.sketchesAmong Cursor.kind p j nodes := by
      intro nodes i j
      exact sketchesAmong_of_sameSetting fun k n _ =>
        Place.sameSetting_below_sequence hsequence' hkind hcount (i + k) (j + k) n
    rw [sketchesBelow, sketchesBelow, hp, hq, Node.children_node, Node.children_node,
      sketchesAmong_append, sketchesAmong_cons, sketchesAmong_append, sketchesAmong_append,
      Nat.zero_add, Nat.zero_add, hdivided, hother before 0 0,
      hother after _ (before ++ (xs ++ ys)).length, List.append_assoc]
  | @inside label before after child child' free inner ih =>
    intro p q hp hq hlist
    have hsetting := Place.sameSetting_inside free inner hp hq hlist
    have hother : ∀ nodes i,
        u.sketchesAmong Cursor.kind q i nodes = u.sketchesAmong Cursor.kind p i nodes := by
      intro nodes i
      exact (sketchesAmong_of_sameSetting fun k n _ => hsetting (i + k) n).symm
    have hchild : ∀ i, u.sketches Cursor.kind (p.below i child) =
        u.sketches Cursor.kind (q.below i child') := by
      intro i
      have hnode : (p.below i child).node.hollow = (q.below i child').node.hollow :=
        inner.hollow_eq free
      have hsame := (Place.sameSetting_of_label inner.label_eq p i).trans (hsetting i child')
      exact sketches_of_hollow hnode hsame (ih rfl rfl fun _ => hsame.parentIs _).symm
    rw [sketchesBelow, sketchesBelow, hp, hq, Node.children_node, Node.children_node,
      sketchesAmong_append, sketchesAmong_append, sketchesAmong_cons, sketchesAmong_cons, hother,
      hother, hchild]

theorem sketchesBelow_of_divisions {n : Node} (hp : p.node.kind ≠ "template_declaration")
    (h : Relation.ReflTransGen Node.Divided p.node n) :
    n.kind = p.node.kind ∧
      ∀ trail, u.sketchesBelow Cursor.kind ⟨n, trail⟩ = u.sketchesBelow Cursor.kind p := by
  induction h with
  | refl => exact ⟨rfl, fun _ => sketchesBelow_of_node rfl fun h => absurd h hp⟩
  | tail _ step ih =>
    obtain ⟨hkind, hbelow⟩ := ih
    refine ⟨(congrArg Label.kind step.label_eq).symm.trans hkind, fun trail => ?_⟩
    rw [← hbelow trail]
    exact sketchesBelow_of_divided step rfl rfl fun h => absurd (hkind.symm.trans h) hp

/-- However often runs of nodes are divided between conditionals and their alternatives, in a block
and in blocks inside of it, nothing of what is seen of the cursors in the block changes. -/
theorem block_divided {tree : Node} (hp : p.node.isBlock = true)
    (h : Relation.ReflTransGen Node.Divided p.node q.node) :
    (u.reparsed tree).sketchesBelow Cursor.kind q = u.sketchesBelow Cursor.kind p := by
  have hno : ∀ kind ∈ Node.blockKinds, kind ≠ "template_declaration" := by decide
  have hkind := hno _ (Node.isOneOf_eq_true_iff.1 hp)
  rw [sketchesBelow_reparsed]
  exact (sketchesBelow_of_divisions hkind h).2 q.trail

/-- A conditional that begins and ends at the offsets. -/
def ifGuard (start stop : Nat) : Guard where
  label := ⟨"preproc_if", none, true, false, false, false, start, stop⟩
  opening :=
    [.node ⟨"#if", none, false, false, false, false, start, start + 3⟩ [],
     .node ⟨"identifier", some "condition", true, false, false, false, start + 4, start + 5⟩ [],
     .node ⟨"\n", none, false, false, false, false, start + 5, start + 6⟩ []]
  closing := [.node ⟨"#endif", none, false, false, false, false, stop - 6, stop⟩ []]

def elseGuard (start stop : Nat) : Guard where
  label := ⟨"preproc_else", some "alternative", true, false, false, false, start, stop⟩
  opening := [.node ⟨"#else", none, false, false, false, false, start, start + 5⟩ []]
  closing := []

theorem isConditional_ifGuard (start stop : Nat) : (ifGuard start stop).IsConditional where
  kind := by simp [ifGuard, Guard.kinds]
  field := .inl rfl
  named := rfl
  present := rfl
  own := by
    intro part hpart
    simp only [ifGuard, List.cons_append, List.nil_append, List.mem_cons, List.not_mem_nil,
      or_false] at hpart
    rcases hpart with rfl | rfl | rfl | rfl
    · exact .inl rfl
    · exact .inr (.inl rfl)
    · exact .inl rfl
    · exact .inl rfl
  conditional := .inl rfl
  unheld := rfl

theorem isAlternative_elseGuard (start stop : Nat) : (elseGuard start stop).IsAlternative where
  kind := by simp [elseGuard, Guard.kinds]
  field := .inr rfl
  named := rfl
  present := rfl
  own := by
    intro part hpart
    obtain rfl := List.mem_singleton.1 hpart
    exact .inl rfl
  alternative := rfl
  held := rfl

def callStatement (start : Nat) : Node :=
  .node ⟨"expression_statement", none, true, false, false, false, start, start + 4⟩
    [.node ⟨"call_expression", none, true, false, false, false, start, start + 3⟩
      [.node ⟨"identifier", some "function", true, false, false, false, start, start + 1⟩ [],
       .node ⟨"argument_list", some "arguments", true, false, false, false,
          start + 1, start + 3⟩ []],
     .node ⟨";", none, false, false, false, false, start + 3, start + 4⟩ []]

def variableDeclaration : Node :=
  .node ⟨"declaration", none, true, false, false, false, 54, 60⟩
    [.node ⟨"primitive_type", some "type", true, false, false, false, 54, 57⟩ [],
     .node ⟨"identifier", some "declarator", true, false, false, false, 58, 59⟩ [],
     .node ⟨";", none, false, false, false, false, 59, 60⟩ []]

/-- The body of a function with the statements. -/
def functionBody (statements : List Node) : Node :=
  .node ⟨"compound_statement", some "body", true, false, false, false, 15, 47⟩
    ([.node ⟨"\x7b", none, false, false, false, false, 15, 16⟩ []] ++ statements ++
      [.node ⟨"\x7d", none, false, false, false, false, 46, 47⟩ []])

def functionHead : List Node :=
  [.node ⟨"primitive_type", some "type", true, false, false, false, 6, 10⟩ [],
   .node ⟨"function_declarator", some "declarator", true, false, false, false, 11, 14⟩
    [.node ⟨"identifier", some "declarator", true, false, false, false, 11, 12⟩ [],
     .node ⟨"parameter_list", some "parameters", true, false, false, false, 12, 14⟩ []]]

/-- A function with the statements. -/
def functionOf (statements : List Node) : Node :=
  .node ⟨"function_definition", none, true, false, false, false, 6, 47⟩
    (functionHead ++ [functionBody statements])

def wholeTree (items : List Node) : Node :=
  .node ⟨"translation_unit", none, true, false, false, false, 0, 67⟩ items

/-- A function that makes two calls, and a variable, without the conditionals around them. -/
def choices : SourceUnit where
  path := "unit.c"
  dialect := .c
  source := .ofString
    "#if A\nvoid f() \x7b\n#if B\ng();\n#else\nh();\n#endif\n\x7d\n#else\nint x;\n#endif"
  tree := wholeTree [functionOf [callStatement 23, callStatement 34], variableDeclaration]
  options := .standard

/-- The two calls divided between a conditional and its alternative. -/
def dividedCalls : Node :=
  (ifGuard 17 45).around [callStatement 23, (elseGuard 28 38).around [callStatement 34]]

/-- The function with the divided calls and the variable, divided once more. -/
def dividedTree : Node :=
  wholeTree [(ifGuard 0 67).around
    [functionOf [dividedCalls], (elseGuard 48 60).around [variableDeclaration]]]

theorem block_divided_choices :
    (Place.root choices.tree).node.isBlock = true ∧
      Relation.ReflTransGen Node.Divided choices.tree dividedTree ∧
      (choices.reparsed dividedTree).sketchesBelow Cursor.kind (.root dividedTree) =
        choices.sketchesBelow Cursor.kind (.root choices.tree) ∧
      (choices.reparsed dividedTree).root.children.map (fun d => d.tree.sketch Cursor.kind) =
        choices.root.children.map fun d => d.tree.sketch Cursor.kind := by
  have hcalls : (functionBody [callStatement 23, callStatement 34]).Divided
      (functionBody [dividedCalls]) := by
    refine @Node.Divided.here _ [_] [callStatement 23] [callStatement 34] [_] _ _ ?_
      (isConditional_ifGuard 17 45) (isAlternative_elseGuard 28 38) ?_
    · decide
    · simp [callStatement, Node.field]
  have hfunction : (functionOf [callStatement 23, callStatement 34]).Divided
      (functionOf [dividedCalls]) :=
    @Node.Divided.inside _ functionHead [] _ _ (fun _ => rfl) hcalls
  have hfirst : choices.tree.Divided (wholeTree [functionOf [dividedCalls], variableDeclaration]) :=
    @Node.Divided.inside _ [] [_] _ _ (fun h => absurd h (by decide)) hfunction
  have hsecond : (wholeTree [functionOf [dividedCalls], variableDeclaration]).Divided
      dividedTree := by
    refine @Node.Divided.here _ [] [functionOf [dividedCalls]] [variableDeclaration] [] _ _ ?_
      (isConditional_ifGuard 0 67) (isAlternative_elseGuard 48 60) ?_
    · decide
    · simp [functionOf, variableDeclaration, Node.field]
  have hdivided : Relation.ReflTransGen Node.Divided choices.tree dividedTree :=
    (Relation.ReflTransGen.single hfirst).tail hsecond
  have hblock : (Place.root choices.tree).node.isBlock = true := rfl
  have hbelow : (choices.reparsed dividedTree).sketchesBelow Cursor.kind (.root dividedTree) =
      choices.sketchesBelow Cursor.kind (.root choices.tree) := block_divided hblock hdivided
  refine ⟨hblock, hdivided, hbelow, ?_⟩
  rw [← sketchesBelow_cursor, ← sketchesBelow_cursor]
  exact hbelow

end SourceUnit

end CodeCursor
