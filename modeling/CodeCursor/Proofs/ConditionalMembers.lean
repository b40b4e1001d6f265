import CodeCursor.Proofs.Conditionals

/-!
# Conditionals in the body of a class

Members of a class keep their places, names and extents when a conditional is written around
them.  Their kinds are kept too but for one case: a function that is defined or declared inside the
conditional no longer finds the body of the class around it, and shows as a function where it
showed as a method.
-/

namespace CodeCursor

/-- The kind of a cursor for the node when it stands in no class body. -/
def Node.kindOutside (n : Node) (kind : CursorKind) : CursorKind :=
  if kind == .cxxMethod && n.isOneOf functionKinds then .functionDecl else kind

namespace Place

variable {options : Options} {source : Source} {p q : Place}

/-- Whether the path leads to a child from the first index up to before the last, or directly into
such a child that is a template. -/
def entersMember (first last : Nat) (inTemplate : Bool) : List Nat → Bool
  | [index] => decide (first ≤ index) && decide (index < last)
  | [index, _] => decide (first ≤ index) && decide (index < last) && inTemplate
  | _ => false

/-- Whether a place is one of the children of the other from the first index up to before the last,
or stands directly in a template that is one. -/
def standsAmong (p : Place) (first last : Nat) (q : Place) : Bool :=
  entersMember first last (q.parentIs "template_declaration") (q.path.drop p.path.length)

/-- The kind of a cursor below a class body with a conditional around the children from the first
index up to before the last. -/
def guardedKind (p : Place) (first last : Nat) (c : Cursor) : CursorKind :=
  if p.standsAmong first last c.place then c.place.node.kindOutside c.kind else c.kind

theorem functionKind_outside (hnode : p.node = q.node) (hp : p.inClassBody = true)
    (hq : q.inClassBody = false) (hkind : p.node.isOneOf Node.functionKinds = true) :
    q.functionKind = p.node.kindOutside p.functionKind := by
  rw [functionKind, functionKind, hp, hq, ← hnode, Node.kindOutside, hkind]
  split <;> rfl

theorem declarationExposure_outside (hnode : p.node = q.node)
    (hfunction : q.functionKind = p.node.kindOutside p.functionKind) :
    q.declarationExposure q.functionKind .varDecl =
      (p.declarationExposure p.functionKind .varDecl).mapKind p.node.kindOutside := by
  rw [declarationExposure, declarationExposure, hfunction, ← hnode]
  by_cases hone : p.node.declaratorCount = 1
  · rw [if_pos hone, if_pos hone]
    cases p.node.declaresFunction <;> rfl
  · rw [if_neg hone, if_neg hone]
    rfl

/-- Outside of class bodies a node shows under another kind only if it would be a method there. -/
theorem kindExposure_outside (hnode : p.node = q.node)
    (hparent : ∀ kind ∈ askedKinds, p.parentIs kind = q.parentIs kind)
    (hp : p.inClassBody = true) (hq : q.inClassBody = false) :
    q.kindExposure options source =
      (p.kindExposure options source).mapKind p.node.kindOutside := by
  by_cases hkind : p.node.isOneOf Node.functionKinds = true
  · have hfunction := functionKind_outside hnode hp hq hkind
    have hdeclaration := declarationExposure_outside hnode hfunction
    have hkinds := Node.isOneOf_eq_true_iff.1 hkind
    simp only [Node.functionKinds, List.mem_cons, List.not_mem_nil, or_false] at hkinds
    rw [kindExposure, kindExposure, plainExposure, plainExposure, hdeclaration, hfunction, ← hnode]
    rcases hkinds with h | h
    all_goals
      simp only [Node.directiveKind?, h]
      rfl
  · have hid : p.node.kindOutside = id := by
      funext kind
      rw [Node.kindOutside, eq_false_of_ne_true hkind, Bool.and_false]
      rfl
    rw [hid, Exposure.mapKind_id, kindExposure_congr hnode hparent fun h => absurd h hkind]

/-- A child of a sequence that is no class body, against one of a class body. -/
theorem exposure_below_outside (hp : p.node.isSequence = true)
    (hbody : (p.node.kind == "field_declaration_list") = true) (hq : q.node.isSequence = true)
    (hother : (q.node.kind == "field_declaration_list") = false) {child : Node}
    (hchild : child.Unheld) (i j : Nat) :
    (q.below j child).exposure options source =
      ((p.below i child).exposure options source).mapKind child.kindOutside := by
  have hsame : (p.below i child).node = (q.below j child).node := rfl
  have hkind : (q.below j child).kindExposure options source =
      ((p.below i child).kindExposure options source).mapKind child.kindOutside := by
    apply kindExposure_outside hsame (parentIs_of_sequence hp hq)
    · rw [inClassBody_below_sequence hp, hbody]
    · rw [inClassBody_below_sequence hq, hother]
  rw [exposure_below_sequence _ _ hp hchild, exposure_below_sequence _ _ hq hchild, hkind]
  split
  · rfl
  · split <;> rfl

/-- A child of a template that stands in no class body, against one of the same template in a class
body. -/
theorem exposure_below_template (hnode : p.node = q.node)
    (htemplate : p.node.kind = "template_declaration")
    (hbody : p.parentIs "field_declaration_list" = true)
    (hother : q.parentIs "field_declaration_list" = false) (index : Nat) (child : Node) :
    (q.below index child).exposure options source =
      ((p.below index child).exposure options source).mapKind child.kindOutside := by
  have hsame : (p.below index child).node = (q.below index child).node := rfl
  have hparents : (p.below index child).parentKind? = (q.below index child).parentKind? := by
    rw [parentKind?_below, parentKind?_below, hnode]
  have hnames : (p.below index child).namesParent = (q.below index child).namesParent := by
    simp only [namesParent, below, hnode]
  have hkind : (q.below index child).kindExposure options source =
      ((p.below index child).kindExposure options source).mapKind child.kindOutside := by
    apply kindExposure_outside hsame
    · intro kind _
      rw [parentIs_below, parentIs_below, hnode]
    · rw [inClassBody_below, htemplate, hbody]
      rfl
    · rw [inClassBody_below, ← hnode, htemplate, hother]
      rfl
  have hsplit : p.node.isOneOf Node.splitKinds = false := by
    rw [Node.isOneOf, htemplate]
    decide
  rw [exposure_below, exposure_below, ← hnode, ← hnames, hkind,
    ← isBody_congr hsame hparents,
    ← isCondition_congr hsame hparents,
    declaratorExposure_eq_flattened child hsplit]
  split_ifs <;> rfl

variable {first last : Nat}

theorem standsAmong_of_path {r : Place} {path : List Nat} (h : r.path = p.path ++ path) :
    p.standsAmong first last r =
      entersMember first last (r.parentIs "template_declaration") path := by
  rw [standsAmong, h, List.drop_left]

theorem standsAmong_below {i : Nat} (hfirst : first ≤ i) (hlast : i < last) (n : Node) :
    p.standsAmong first last (p.below i n) = true := by
  rw [standsAmong_of_path (path_below p i n)]
  simp [entersMember, hfirst, hlast]

theorem standsAmong_below_below {i : Nat} (hfirst : first ≤ i) (hlast : i < last) (n : Node)
    (k : Nat) (child : Node) :
    p.standsAmong first last ((p.below i n).below k child) =
      (n.kind == "template_declaration") := by
  have hpath : ((p.below i n).below k child).path = p.path ++ [i, k] := by simp
  rw [standsAmong_of_path hpath]
  simp [entersMember, hfirst, hlast]

/-- Nothing that is no member stands where the kinds change, and nothing below it does. -/
theorem standsAmong_of_index {i : Nat} (h : i < first ∨ last ≤ i) {n : Node} {r : Place}
    (hr : r ∈ (p.below i n).preorder) : p.standsAmong first last r = false := by
  obtain ⟨rest, hrest⟩ := path_prefix_of_mem_preorder hr
  rw [path_below, List.append_assoc] at hrest
  have hno : (decide (first ≤ i) && decide (i < last)) = false := by
    rw [← Bool.not_eq_true, Bool.and_eq_true, decide_eq_true_iff, decide_eq_true_iff]
    omega
  rw [standsAmong_of_path hrest.symm]
  match rest with
  | [] => exact hno
  | [_] => simp only [List.cons_append, List.nil_append, entersMember, hno, Bool.false_and]
  | _ :: _ :: _ => rfl

/-- Nothing below a child of a member stands where the kinds change. -/
theorem standsAmong_of_depth {i k : Nat} {n child : Node} {q r : Place}
    (hq : q ∈ ((p.below i n).below k child).children) (hr : r ∈ q.preorder) :
    p.standsAmong first last r = false := by
  obtain ⟨m, d, -, rfl⟩ := mem_children_iff.1 hq
  obtain ⟨rest, hrest⟩ := path_prefix_of_mem_preorder hr
  have hpath : r.path = p.path ++ (i :: k :: m :: rest) := by simp [← hrest]
  rw [standsAmong_of_path hpath]
  rfl

/-- Nothing below a member that is no template stands where the kinds change. -/
theorem standsAmong_of_kind {i k : Nat} {n child : Node} {r : Place}
    (hkind : (n.kind == "template_declaration") = false)
    (hr : r ∈ ((p.below i n).below k child).preorder) : p.standsAmong first last r = false := by
  rcases mem_preorder_iff.1 hr with rfl | ⟨q, hq, hr⟩
  · have hpath : ((p.below i n).below k child).path = p.path ++ [i, k] := by simp
    rw [standsAmong_of_path hpath, entersMember, parentIs_below, node_below, hkind, Bool.and_false]
  · exact standsAmong_of_depth hq hr

end Place

namespace SourceUnit

variable {u : SourceUnit} {p q : Place} {first last : Nat}

theorem spell_kindOutside (u : SourceUnit) (n : Node) (kind : CursorKind) :
    u.spell n (n.kindOutside kind) = u.spell n kind := by
  rw [Node.kindOutside]
  split
  · rename_i h
    obtain rfl := beq_iff_eq.1 (Bool.and_eq_true_iff.1 h).1
    rfl
  · rfl

theorem sketches_guardedKind {r : Place}
    (h : ∀ q ∈ r.preorder, p.standsAmong first last q = false) :
    u.sketches (p.guardedKind first last) r = u.sketches Cursor.kind r := by
  apply sketches_kindOf_congr
  intro q hq kind
  rw [Place.guardedKind, h q hq]
  rfl

theorem sketchesBelow_guardedKind {r : Place}
    (h : ∀ s ∈ r.children, ∀ q ∈ s.preorder, p.standsAmong first last q = false) :
    u.sketchesBelow (p.guardedKind first last) r = u.sketchesBelow Cursor.kind r := by
  rw [sketchesBelow_eq, sketchesBelow_eq]
  exact List.flatMap_congr fun s hs => sketches_guardedKind (h s hs)

/-- What a template holds shows, outside of the class body, under the changed kinds. -/
theorem sketches_below_template {n : Node} (hn : n.kind = "template_declaration")
    (hbody : (p.node.kind == "field_declaration_list") = true)
    (hother : (q.node.kind == "field_declaration_list") = false)
    {i : Nat} (hfirst : first ≤ i) (hlast : i < last) (j k : Nat) (child : Node) :
    u.sketches Cursor.kind ((q.below j n).below k child) =
      u.sketches (p.guardedKind first last) ((p.below i n).below k child) := by
  have hsame : (p.below i n).node = (q.below j n).node := rfl
  have hchild : ((p.below i n).below k child).node = ((q.below j n).below k child).node := rfl
  apply sketches_congr child.kindOutside (congrArg Node.label hchild)
  · exact Place.exposure_below_template hsame hn hbody hother k child
  · intro kind
    rw [Place.guardedKind, Place.standsAmong_below_below hfirst hlast, hn]
    rfl
  · exact fun kind _ => u.spell_kindOutside child kind
  · rw [sketchesBelow_guardedKind fun s hs r hr => Place.standsAmong_of_depth hs hr]
    exact (sketchesBelow_of_node hchild fun _ => rfl).symm

/-- A member of a class shows, outside of the class body, under the changed kinds. -/
theorem sketches_member {n : Node} (hn : n.Unheld) (hp : p.node.isSequence = true)
    (hbody : (p.node.kind == "field_declaration_list") = true) (hq : q.node.isSequence = true)
    (hother : (q.node.kind == "field_declaration_list") = false)
    {i : Nat} (hfirst : first ≤ i) (hlast : i < last) (j : Nat) :
    u.sketches Cursor.kind (q.below j n) =
      u.sketches (p.guardedKind first last) (p.below i n) := by
  have hsame : (p.below i n).node = (q.below j n).node := rfl
  apply sketches_congr n.kindOutside (congrArg Node.label hsame)
  · exact Place.exposure_below_outside hp hbody hq hother hn i j
  · intro kind
    rw [Place.guardedKind, Place.standsAmong_below hfirst hlast]
    rfl
  · exact fun kind _ => u.spell_kindOutside n kind
  · by_cases hkind : n.kind = "template_declaration"
    · apply sketchesAmong_congr
      intro k child _
      exact sketches_below_template hkind hbody hother hfirst hlast j (0 + k) child
    · have hbelow : ∀ r ∈ (p.below i n).children, ∀ s ∈ r.preorder,
          p.standsAmong first last s = false := by
        intro r hr s hs
        obtain ⟨k, child, -, rfl⟩ := Place.mem_children_iff.1 hr
        exact Place.standsAmong_of_kind (beq_eq_false_iff_ne.2 hkind) hs
      rw [sketchesBelow_guardedKind hbelow]
      exact (sketchesBelow_of_node hsame fun h => absurd h hkind).symm

/-- What is no member shows as before. -/
theorem sketches_no_member {n : Node} (hp : p.node.isSequence = true)
    (hkind : p.node.kind = q.node.kind)
    (hcount : p.node.declaratorCount = q.node.declaratorCount) {i : Nat}
    (hindex : i < first ∨ last ≤ i) (j : Nat) :
    u.sketches Cursor.kind (q.below j n) =
      u.sketches (p.guardedKind first last) (p.below i n) := by
  have hsame : (p.below i n).node = (q.below j n).node := rfl
  have hsetting := Place.sameSetting_below_sequence hp hkind hcount i j n
  rw [sketches_guardedKind fun r hr => Place.standsAmong_of_index hindex hr]
  exact (sketches_of_sameSetting hsame hsetting).symm

/-- With a conditional written around a run of members, what is seen of the class body changes in
kinds only, and only where a definition or declaration of a function in the run, or directly in a
template there, shows as a method: it shows as a function then. -/
theorem members_guarded {tree : Node} {label : Label} {before run after : List Node} {g : Guard}
    (hlabel : label.kind = "field_declaration_list") (hg : g.IsConditional)
    (hrun : ∀ n ∈ run, n.field = none)
    (hp : p.node = .node label (before ++ run ++ after))
    (hq : q.node = .node label (before ++ g.around run :: after)) :
    (u.reparsed tree).sketchesBelow Cursor.kind q =
      u.sketchesBelow (p.guardedKind before.length (before.length + run.length)) p := by
  have hbody : p.node.kind = "field_declaration_list" := by rw [hp]; exact hlabel
  have hkind : p.node.kind = q.node.kind := by rw [hp, hq]; rfl
  have hsequence : p.node.isSequence = true := by
    rw [Node.isSequence, Node.isOneOf_eq_true_iff, hbody]
    decide
  have hsequence' : q.node.isSequence = true := (Node.isOneOf_congr hkind _).symm.trans hsequence
  have hcount : p.node.declaratorCount = q.node.declaratorCount := by
    rw [hp, hq, hg.declaratorCount_around label before run after run hrun]
  have hbefore : u.sketchesAmong Cursor.kind q 0 before =
      u.sketchesAmong (p.guardedKind before.length (before.length + run.length)) p 0 before := by
    apply sketchesAmong_congr
    intro k n hn
    have hk := (List.getElem?_eq_some_iff.1 hn).1
    exact sketches_no_member hsequence hkind hcount (.inl (by omega)) (0 + k)
  have hafter : u.sketchesAmong Cursor.kind q (before.length + 1) after =
      u.sketchesAmong (p.guardedKind before.length (before.length + run.length)) p
        (before.length + run.length) after := by
    apply sketchesAmong_congr
    intro k n _
    exact sketches_no_member hsequence hkind hcount (.inr (by omega)) (before.length + 1 + k)
  have hguarded : u.sketches Cursor.kind (q.below before.length (g.around run)) =
      u.sketchesAmong (p.guardedKind before.length (before.length + run.length)) p
        before.length run := by
    rw [sketches_guard hsequence' hg.toIsGuard]
    apply sketchesAmong_congr
    intro k n hn
    have hk := (List.getElem?_eq_some_iff.1 hn).1
    have hunheld := Node.Unheld.of_field (hrun n (List.mem_of_getElem? hn))
    exact sketches_member hunheld hsequence (beq_iff_eq.2 hbody) (hg.isSequence run)
      (hg.kind_ne_body run) (by omega) (by omega) (g.opening.length + k)
  rw [sketchesBelow_reparsed, sketchesBelow, sketchesBelow, hp, hq, Node.children_node,
    Node.children_node, sketchesAmong_append, sketchesAmong_append, sketchesAmong_append,
    sketchesAmong_cons, List.length_append, Nat.zero_add, Nat.zero_add, hbefore, hguarded, hafter,
    List.append_assoc]

/-- A function without parameters and with an empty body, of which the name stands five characters
after the start. -/
def emptyFunction (start : Nat) : Node :=
  .node ⟨"function_definition", none, true, false, false, false, start, start + 12⟩
    [.node ⟨"primitive_type", some "type", true, false, false, false, start, start + 4⟩ [],
     .node ⟨"function_declarator", some "declarator", true, false, false, false,
        start + 5, start + 8⟩
      [.node ⟨"field_identifier", some "declarator", true, false, false, false,
        start + 5, start + 6⟩ [],
       .node ⟨"parameter_list", some "parameters", true, false, false, false,
          start + 6, start + 8⟩
        [.node ⟨"(", none, false, false, false, false, start + 6, start + 7⟩ [],
         .node ⟨")", none, false, false, false, false, start + 7, start + 8⟩ []]],
     .node ⟨"compound_statement", some "body", true, false, false, false, start + 9, start + 12⟩
      [.node ⟨"\x7b", none, false, false, false, false, start + 9, start + 10⟩ [],
       .node ⟨"\x7d", none, false, false, false, false, start + 11, start + 12⟩ []]]

def optionalLabel : Label :=
  ⟨"field_declaration_list", some "body", true, false, false, false, 9, 54⟩

/-- The macro that decides on a member. -/
def optionalGuard : Guard where
  label := ⟨"preproc_ifdef", none, true, false, false, false, 11, 39⟩
  opening :=
    [.node ⟨"#ifdef", none, false, false, false, false, 11, 17⟩ [],
     .node ⟨"identifier", some "name", true, false, false, false, 18, 19⟩ []]
  closing := [.node ⟨"#endif", none, false, false, false, false, 33, 39⟩ []]

/-- A source with a structure that has the members. -/
def structureTree (members : List Node) : Node :=
  .node ⟨"translation_unit", none, true, false, false, false, 0, 55⟩
    [.node ⟨"struct_specifier", none, true, false, false, false, 0, 54⟩
      [.node ⟨"struct", none, false, false, false, false, 0, 6⟩ [],
       .node ⟨"type_identifier", some "name", true, false, false, false, 7, 8⟩ [],
       .node optionalLabel
        (.node ⟨"\x7b", none, false, false, false, false, 9, 10⟩ [] :: members ++
          [.node ⟨"\x7d", none, false, false, false, false, 53, 54⟩ []])],
     .node ⟨";", none, false, false, false, false, 54, 55⟩ []]

/-- Two methods of a structure, as they are seen without the conditional around the first. -/
def twoMethods : SourceUnit where
  path := "unit.cpp"
  dialect := .cpp
  source := .ofString "struct S \x7b\n#ifdef A\nvoid f() \x7b \x7d\n#endif\nvoid g() \x7b \x7d\n\x7d;"
  tree := structureTree [emptyFunction 20, emptyFunction 40]
  options := .standard

theorem isConditional_optionalGuard : optionalGuard.IsConditional where
  kind := by decide
  field := .inl rfl
  named := rfl
  present := rfl
  own := by
    intro part hpart
    simp only [optionalGuard, List.cons_append, List.nil_append, List.mem_cons, List.not_mem_nil,
      or_false] at hpart
    rcases hpart with rfl | rfl | rfl
    · exact .inl rfl
    · exact .inr (.inr ⟨rfl, rfl, rfl⟩)
    · exact .inl rfl
  conditional := .inr rfl
  unheld := rfl

/-- The same structure with the conditional around the first method. -/
def guardedTree : Node :=
  structureTree [optionalGuard.around [emptyFunction 20], emptyFunction 40]

theorem members_guarded_twoMethods :
    ∃ (p q : Place) (label : Label) (before run after : List Node) (g : Guard),
      (Place.root twoMethods.tree).follow? [0, 2] = some p ∧
      (Place.root guardedTree).follow? [0, 2] = some q ∧
      label.kind = "field_declaration_list" ∧ g.IsConditional ∧ (∀ n ∈ run, n.field = none) ∧
      p.node = .node label (before ++ run ++ after) ∧
      q.node = .node label (before ++ g.around run :: after) ∧
      (twoMethods.reparsed guardedTree).sketchesBelow Cursor.kind q =
        twoMethods.sketchesBelow (p.guardedKind before.length (before.length + run.length)) p := by
  have hp : (Place.root twoMethods.tree).follow? [0, 2] = some _ := rfl
  have hq : (Place.root guardedTree).follow? [0, 2] = some _ := rfl
  have hrun : ∀ n ∈ [emptyFunction 20], n.field = none := by simp [emptyFunction, Node.field]
  exact ⟨_, _, optionalLabel, [_], [emptyFunction 20], [emptyFunction 40, _], optionalGuard,
    hp, hq, rfl, isConditional_optionalGuard, hrun, rfl, rfl,
    members_guarded rfl isConditional_optionalGuard hrun rfl rfl⟩

/-- The first method shows as a function with the conditional around it. -/
theorem members_changed_twoMethods :
    ¬∀ (u : SourceUnit) (tree : Node) (p q : Place) (label : Label)
      (before run after : List Node) (g : Guard), p.In u.tree → q.In tree →
      label.kind = "field_declaration_list" → g.IsConditional → (∀ n ∈ run, n.field = none) →
      p.node = .node label (before ++ run ++ after) →
      q.node = .node label (before ++ g.around run :: after) →
      (u.reparsed tree).sketchesBelow Cursor.kind q = u.sketchesBelow Cursor.kind p := by
  intro h
  have hp : (Place.root twoMethods.tree).follow? [0, 2] = some _ := rfl
  have hq : (Place.root guardedTree).follow? [0, 2] = some _ := rfl
  have hrun : ∀ n ∈ [emptyFunction 20], n.field = none := by simp [emptyFunction, Node.field]
  have hsame := h twoMethods _ _ _ optionalLabel [_] [emptyFunction 20] [emptyFunction 40, _]
    optionalGuard (Place.In.root.of_follow? hp) (Place.In.root.of_follow? hq) rfl
    isConditional_optionalGuard hrun rfl rfl
  have hkinds : [CursorKind.functionDecl, .cxxMethod] = [CursorKind.cxxMethod, .cxxMethod] :=
    congrArg (List.map Sketch.kind) hsame
  exact absurd hkinds (by decide)

end SourceUnit

end CodeCursor
