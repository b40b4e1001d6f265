import CodeCursor.Proofs.NameFolding

/-!
# Qualified names

A qualified name holds its name as the last of a chain of names, each written below the one
before.  All of them have the same declared name.  The rule that leaves a name out compares it with
its parent only, so it leaves out the simple name at the end of the chain and nothing else: the
name is borne by each component, and again by each declaration that is spelled with it.
-/

namespace CodeCursor

/-- Whether cursors of the kind declare a name, or refer by one to a type, a namespace or another
declaration. -/
def CursorKind.bearsName (kind : CursorKind) : Bool :=
  kind.isDeclaration || [typeRef, namespaceRef, declRefExpr].contains kind

/-- Whether the declared name of a place stands at the other one. -/
def Place.isNamedBy (p name : Place) : Bool :=
  p.declaredPlace?.any (·.path == name.path)

/-- Whether the cursor declares the name at a place, or refers by it. -/
def Cursor.isNamedBy (c : Cursor) (name : Place) : Bool :=
  c.kind.bearsName && c.place.isNamedBy name

namespace Node

/-- The composed names that show as references. -/
def referenceKinds : List String :=
  ["qualified_identifier", "template_function", "template_type"]

theorem isOneOf_composedNameKinds {n : Node} (h : n.isOneOf referenceKinds = true) :
    n.isOneOf composedNameKinds = true :=
  isOneOf_mono h (by decide)

theorem nameRule_of_composed {n : Node} (h : n.isOneOf composedNameKinds = true) :
    n.nameRule = .nameOf (n.indexIn? "name") := by
  have hsimple : n.isOneOf simpleNameKinds = false := isOneOf_eq_false h (by decide)
  rw [nameRule, hsimple, h]
  rfl

/-- The declared name of a node that is no simple name lies below the node. -/
theorem path_declaredName_ne_nil {n : Node} {found : Descendant} (h : n.declaredName = some found)
    (hrule : n.nameRule ≠ .itself) : found.path ≠ [] := by
  rcases declaredName_cases h with
    ⟨hitself, -⟩ | ⟨index, child, -, ⟨-, rfl⟩ | ⟨inner, -, rfl⟩⟩
  · exact absurd hitself hrule
  · exact List.cons_ne_nil _ _
  · exact List.cons_ne_nil _ _

end Node

namespace Place

theorem isNamedBy_iff {tree : Node} {p name : Place} (hp : p.In tree) (hname : name.In tree) :
    p.isNamedBy name = true ↔ p.declaredPlace? = some name := by
  rw [isNamedBy, Option.any_eq_true]
  constructor
  · rintro ⟨found, hfound, hpath⟩
    have hin := hp.of_mem_preorder (declaredPlace?_mem_preorder hfound)
    rw [hfound, hin.eq_of_path hname (beq_iff_eq.1 hpath)]
  · intro h
    exact ⟨name, h, beq_self_eq_true _⟩

theorem inField_eq_false {p : Place} {field other : String} (h : p.node.inField field = true)
    (hne : field ≠ other) : p.node.inField other = false := by
  rw [Node.inField, beq_iff_eq] at h
  rw [Node.inField, h, beq_eq_false_iff_ne]
  exact fun heq => hne (Option.some.inj heq)

/-- A composed name has the name that it holds under its field for one. -/
theorem declaredPlace?_of_composed {p q : Place}
    (hkind : p.node.isOneOf Node.composedNameKinds = true) (hname : p.childIn? "name" = some q) :
    p.declaredPlace? = q.declaredPlace? := by
  rw [childIn?_eq_bind] at hname
  obtain ⟨index, hindex, hchild⟩ := Option.bind_eq_some_iff.1 hname
  apply declaredPlace?_eq_of_nameRule _ hchild
  rw [Node.nameRule_of_composed hkind, hindex]

/-- A composed name does not count as the name of the composed name that it is written in. -/
theorem namesParent_of_composed {p q : Place}
    (hp : p.node.isOneOf Node.composedNameKinds = true)
    (hq : q.node.isOneOf Node.composedNameKinds = true) (hname : p.childIn? "name" = some q) :
    q.namesParent = false := by
  rw [childIn?_eq_bind] at hname
  obtain ⟨i, hi, hchild⟩ := Option.bind_eq_some_iff.1 hname
  obtain ⟨child, hc, rfl⟩ := child?_eq_some_iff.1 hchild
  have hother : ∀ kind, Node.composedNameKinds.contains kind = false → p.node.kind ≠ kind := by
    intro kind hno heq
    rw [Node.isOneOf, heq, hno] at hp
    contradiction
  have hpath : (p.node.declaredName.map (·.path) == some [i]) = false := by
    have hrule : p.node.nameRule = .nameOf (some i) := by
      rw [Node.nameRule_of_composed hp, hi]
    rw [Node.declaredName_of_nameRule hrule, hc, Option.bind_some, beq_eq_false_iff_ne]
    intro heq
    obtain ⟨found, hfound, hone⟩ := Option.map_eq_some_iff.1 heq
    obtain ⟨inner, hinner, rfl⟩ := Option.map_eq_some_iff.1 hfound
    refine Node.path_declaredName_ne_nil hinner ?_ (List.cons.inj hone).2
    rw [Node.nameRule_of_composed (n := child) hq]
    exact NameRule.noConfusion
  unfold namesParent
  simp only [below]
  split
  case h_10 => rw [hpath, Bool.and_false]
  all_goals
    rename_i h
    exact absurd h (hother _ (by decide))

/-- A component of a qualified name below the first shows by its kind. -/
theorem exposure_of_component (options : Options) (source : Source) {p q : Place}
    (hp : p.node.isOneOf Node.referenceKinds = true)
    (hq : q.node.isOneOf Node.referenceKinds = true) (hname : p.childIn? "name" = some q)
    (hnamed : q.node.label.named = true) (hmissing : q.node.label.missing = false) :
    q.exposure options source = q.kindExposure options source := by
  obtain ⟨hmem, hfield⟩ := childIn?_eq_some hname
  have hcondition : q.isCondition = false := by
    rw [isCondition, inField_eq_false hfield (by decide), Bool.false_and]
  have hdeclarator : q.node.inField "declarator" = false := inField_eq_false hfield (by decide)
  have hnames := namesParent_of_composed (Node.isOneOf_composedNameKinds hp)
    (Node.isOneOf_composedNameKinds hq) hname
  have table : ∀ kind ∈ Node.referenceKinds, (kind == "comment") = false ∧
      (kind == "compound_statement") = false ∧ Node.directiveKinds.contains kind = false := by
    decide
  obtain ⟨hcomment, hbody, -⟩ := table _ (List.contains_iff_mem.1 hq)
  obtain ⟨-, -, hdirective⟩ := table _ (List.contains_iff_mem.1 hp)
  have hnobody : q.isBody = false := by
    rw [isBody, hbody, Bool.false_and]
  obtain ⟨index, child, -, rfl⟩ := mem_children_iff.1 hmem
  rw [node_below] at hnamed hmissing hcomment hdeclarator
  have hnodirective : p.node.isOneOf Node.directiveKinds = false := hdirective
  rw [exposure_below, hnamed, hmissing, hcomment, hnodirective, hnobody, hcondition, hdeclarator,
    hnames]
  simp

theorem kindExposure_of_referenceKinds (options : Options) (source : Source) {p : Place}
    (h : p.node.isOneOf Node.referenceKinds = true) :
    ∃ kind, p.kindExposure options source = .cursor kind ∧ kind.bearsName = true := by
  simp only [Node.isOneOf, Node.referenceKinds, List.contains_iff_mem, List.mem_cons,
    List.not_mem_nil, or_false] at h
  rcases h with hkind | hkind | hkind
  · refine ⟨p.node.qualifiedKind, ?_, ?_⟩
    · simp only [kindExposure, plainExposure, Node.directiveKind?, hkind]
      rfl
    · rw [Node.qualifiedKind]
      split
      · rfl
      · rfl
  all_goals
    simp only [kindExposure, plainExposure, Node.directiveKind?, Node.fixedExposure, hkind]
    exact ⟨_, rfl, rfl⟩

/-- The components of a qualified name, from the outside in, and what the last of them holds as its
name.  Each holds the next one as its name, and the next one is a node that the text has. -/
inductive Chain : List Place → Place → Prop
  | last {p t : Place} (kind : p.node.isOneOf Node.referenceKinds = true)
      (name : p.childIn? "name" = some t) : Chain [p] t
  | link {p q t : Place} {rest : List Place} (kind : p.node.isOneOf Node.referenceKinds = true)
      (name : p.childIn? "name" = some q) (named : q.node.label.named = true)
      (missing : q.node.label.missing = false) (tail : Chain (q :: rest) t) :
      Chain (p :: q :: rest) t

namespace Chain

variable {p q t : Place} {chain : List Place}

theorem kind_of_mem (h : Chain chain t) (hp : p ∈ chain) :
    p.node.isOneOf Node.referenceKinds = true := by
  induction h with
  | last kind name => rwa [List.mem_singleton.1 hp]
  | link kind name named missing tail ih =>
    rcases List.mem_cons.1 hp with rfl | hp
    · exact kind
    · exact ih hp

theorem declaredPlace?_of_mem (h : Chain chain t) (hp : p ∈ chain) :
    p.declaredPlace? = t.declaredPlace? := by
  induction h generalizing p with
  | last kind name =>
    rw [List.mem_singleton.1 hp]
    exact declaredPlace?_of_composed (Node.isOneOf_composedNameKinds kind) name
  | link kind name named missing tail ih =>
    rcases List.mem_cons.1 hp with rfl | hp
    · rw [declaredPlace?_of_composed (Node.isOneOf_composedNameKinds kind) name]
      exact ih List.mem_cons_self
    · exact ih hp

/-- The last component holds the end of the chain as its name. -/
theorem exists_last (h : Chain chain t) : ∃ p : Place, t ∈ p.children ∧
    p.node.isOneOf Node.referenceKinds = true ∧ p.declaredPlace? = t.declaredPlace? := by
  induction h with
  | last kind name =>
    exact ⟨_, (childIn?_eq_some name).1, kind,
      declaredPlace?_of_composed (Node.isOneOf_composedNameKinds kind) name⟩
  | link kind name named missing tail ih => exact ih

/-- The way up from the end of a chain passes its components. -/
theorem ancestors_eq (h : Chain chain t) (hq : chain.head? = some q) :
    t.ancestors = chain.reverse ++ q.ancestors := by
  induction h generalizing q with
  | last kind name =>
    obtain rfl := Option.some.inj hq
    rw [ancestors_of_mem_children (childIn?_eq_some name).1]
    rfl
  | @link p c t rest kind name named missing tail ih =>
    obtain rfl := Option.some.inj hq
    rw [ih rfl, ancestors_of_mem_children (childIn?_eq_some name).1, List.reverse_cons (a := p),
      List.append_assoc]
    rfl

end Chain

/-- The simple name in which a chain ends is not shown. -/
theorem Chain.kind?_exposure_of_simple (options : Options) (source : Source) {chain : List Place}
    {t : Place} (h : Chain chain t) (hsimple : t.node.isOneOf Node.simpleNameKinds = true) :
    (t.exposure options source).kind? = none := by
  obtain ⟨p, hmem, hkind, hname⟩ := h.exists_last
  have table : ∀ kind ∈ Node.referenceKinds, Node.foldsKind kind = true ∧
      Node.selectorKinds.contains kind = false ∧ Node.splitKinds.contains kind = false := by
    decide
  obtain ⟨hfolds, hselector, hsplit⟩ := table _ (List.contains_iff_mem.1 hkind)
  apply kind?_exposure_of_folds options source hmem (hname.trans (declaredPlace?_eq_self hsimple))
  refine ⟨?_, hfolds, ?_, ?_⟩
  · exact Node.isOneOf_mono hsimple (by decide)
  · intro h
    rw [Node.isOneOf, hselector] at h
    contradiction
  · intro h
    rw [Node.isOneOf, hsplit] at h
    contradiction

end Place

namespace SourceUnit

variable {u : SourceUnit} {q t name : Place} {rest chain : List Place}

/-- Whether a cursor that can bear a name is shown at the place. -/
def bearsName (u : SourceUnit) (p : Place) : Bool :=
  (u.shown? p).any CursorKind.bearsName

theorem bearsName_iff {p : Place} :
    u.bearsName p = true ↔ ∃ kind, u.shown? p = some kind ∧ kind.bearsName = true :=
  Option.any_eq_true _ _

/-- If the first component shows as something that can bear a name, so does each one. -/
theorem bearsName_of_mem_chain (hchain : Place.Chain chain t) (hhead : chain.head? = some q)
    (hq : u.bearsName q = true) : ∀ p ∈ chain, u.bearsName p = true := by
  induction hchain generalizing q with
  | last kind name =>
    obtain rfl := Option.some.inj hhead
    simpa using hq
  | @link p c t rest kind name named missing tail ih =>
    obtain rfl := Option.some.inj hhead
    obtain ⟨shown, hshown, -⟩ := bearsName_iff.1 hq
    obtain ⟨hcovered, hx⟩ := shown?_eq_some_iff.1 hshown
    have hkind := tail.kind_of_mem List.mem_cons_self
    obtain ⟨below, hbelow, hbears⟩ :=
      Place.kindExposure_of_referenceKinds u.options u.source hkind
    have hc : u.bearsName c = true := by
      apply bearsName_iff.2 ⟨below, shown?_eq_some_iff.2 ⟨?_, ?_⟩, hbears⟩
      · apply isCovered_of_mem_children hcovered _ (Place.childIn?_eq_some name).1
        rw [hx]
        exact Exposure.noConfusion
      · exact (Place.exposure_of_component _ _ kind hkind name named missing).trans hbelow
    intro r hr
    rcases List.mem_cons.1 hr with rfl | hr
    · exact hq
    · exact ih rfl hc r hr

theorem bearsName_of_simple (hchain : Place.Chain chain t)
    (hsimple : t.node.isOneOf Node.simpleNameKinds = true) : u.bearsName t = false := by
  rw [← Bool.not_eq_true]
  intro hbears
  obtain ⟨kind, hshown, -⟩ := bearsName_iff.1 hbears
  have hx := hchain.kind?_exposure_of_simple u.options u.source hsimple
  rw [← exposure, (shown?_eq_some_iff.1 hshown).2] at hx
  contradiction

/-- The cursors named by a place stand on the way from the root down to it. -/
theorem map_place_isNamedBy (hname : name.In u.tree) :
    (u.root.preorder.filter (·.isNamedBy name)).map Cursor.place =
      name.lineage.reverse.filter fun p => u.bearsName p && p.isNamedBy name := by
  apply map_place_filter_preorder (name.lineage_reverse_sorted.sublist List.filter_sublist)
  intro p
  rw [List.mem_filter, List.mem_reverse, Bool.and_eq_true]
  constructor
  · rintro ⟨hp, hbears, hnamed⟩
    have hin : p.In u.tree := by
      rcases List.mem_cons.1 hp with rfl | ha
      · exact hname
      · exact hname.of_mem_ancestors ha
    obtain ⟨kind, hshown, hkind⟩ := bearsName_iff.1 hbears
    exact ⟨⟨u, p, kind⟩, mem_preorder_of_shown? hin hshown,
      Bool.and_eq_true_iff.2 ⟨hkind, hnamed⟩, rfl⟩
  · rintro ⟨c, hc, hnamed, rfl⟩
    obtain ⟨-, hin, hshown⟩ := mem_preorder_root.1 hc
    obtain ⟨hkind, hnamed⟩ := Bool.and_eq_true_iff.1 hnamed
    have hdeclared := (Place.isNamedBy_iff hin hname).1 hnamed
    exact ⟨Place.mem_lineage_of_mem_preorder (Place.declaredPlace?_mem_preorder hdeclared),
      bearsName_iff.2 ⟨c.kind, hshown, hkind⟩, hnamed⟩

/-- In a qualified name that shows, the name in which it ends is borne by each component, from the
outside in, and not by the simple name itself.  What else bears it stands above the qualified name,
as a declaration that is spelled with it does. -/
theorem name_borne_by_each_component (hq : q.In u.tree) (hchain : Place.Chain (q :: rest) t)
    (hname : q.declaredPlace? = some name) :
    ∃ above below : List Place,
      (u.root.preorder.filter (·.isNamedBy name)).map Cursor.place =
        above ++ (q :: rest).filter u.bearsName ++ below ∧
      (∀ p ∈ above, p ∈ q.ancestors) ∧ (∀ p ∈ below, p ∈ t.preorder) ∧
      (t.node.isOneOf Node.simpleNameKinds = true → below = []) ∧
      (u.bearsName q = true → (q :: rest).filter u.bearsName = q :: rest) := by
  have hin := hq.of_mem_preorder (Place.declaredPlace?_mem_preorder hname)
  have htname : t.declaredPlace? = some name :=
    (hchain.declaredPlace?_of_mem List.mem_cons_self).symm.trans hname
  obtain ⟨inner, hlineage, hinner⟩ :=
    Place.lineage_eq_append (Place.declaredPlace?_mem_preorder htname)
  rw [hchain.ancestors_eq rfl] at hlineage
  have hchained : (q :: rest).filter (fun p => u.bearsName p && p.isNamedBy name) =
      (q :: rest).filter u.bearsName := by
    apply List.filter_congr
    intro p hp
    rw [Place.isNamedBy, hchain.declaredPlace?_of_mem hp, htname, Option.any_some,
      beq_self_eq_true, Bool.and_true]
  refine ⟨q.ancestors.reverse.filter fun p => u.bearsName p && p.isNamedBy name,
    inner.reverse.filter fun p => u.bearsName p && p.isNamedBy name, ?_, ?_, ?_, ?_, ?_⟩
  · rw [map_place_isNamedBy hin, hlineage, ← hchained, List.reverse_append, List.reverse_append,
      List.reverse_reverse, List.filter_append, List.filter_append]
  · intro p hp
    exact List.mem_reverse.1 (List.mem_filter.1 hp).1
  · intro p hp
    exact hinner p (List.mem_reverse.1 (List.mem_filter.1 hp).1)
  · intro hsimple
    obtain rfl := Option.some.inj ((Place.declaredPlace?_eq_self hsimple).symm.trans htname)
    have hone : [t] = inner := by
      rw [Place.lineage, hchain.ancestors_eq rfl] at hlineage
      exact List.append_cancel_right hlineage
    rw [← hone, List.reverse_singleton, List.filter_singleton, bearsName_of_simple hchain hsimple]
    rfl
  · intro hbears
    exact List.filter_eq_self.2 (bearsName_of_mem_chain hchain rfl hbears)

/-- A function and a value, each with a qualified name. -/
def qualified : SourceUnit where
  path := "unit.cpp"
  dialect := .cpp
  source := .ofString "int a::b::f() \x7b return a::b::k; \x7d"
  tree :=
    .node ⟨"translation_unit", none, true, false, false, false, 0, 33⟩
      [.node ⟨"function_definition", none, true, false, false, false, 0, 33⟩
        [.node ⟨"primitive_type", some "type", true, false, false, false, 0, 3⟩ [],
         .node ⟨"function_declarator", some "declarator", true, false, false, false, 4, 13⟩
          [.node ⟨"qualified_identifier", some "declarator", true, false, false, false, 4, 11⟩
            [.node ⟨"namespace_identifier", some "scope", true, false, false, false, 4, 5⟩ [],
             .node ⟨"::", none, false, false, false, false, 5, 7⟩ [],
             .node ⟨"qualified_identifier", some "name", true, false, false, false, 7, 11⟩
              [.node ⟨"namespace_identifier", some "scope", true, false, false, false, 7, 8⟩ [],
               .node ⟨"::", none, false, false, false, false, 8, 10⟩ [],
               .node ⟨"identifier", some "name", true, false, false, false, 10, 11⟩ []]],
           .node ⟨"parameter_list", some "parameters", true, false, false, false, 11, 13⟩
            [.node ⟨"(", none, false, false, false, false, 11, 12⟩ [],
             .node ⟨")", none, false, false, false, false, 12, 13⟩ []]],
         .node ⟨"compound_statement", some "body", true, false, false, false, 14, 33⟩
          [.node ⟨"\x7b", none, false, false, false, false, 14, 15⟩ [],
           .node ⟨"return_statement", none, true, false, false, false, 16, 31⟩
            [.node ⟨"return", none, false, false, false, false, 16, 22⟩ [],
             .node ⟨"qualified_identifier", none, true, false, false, false, 23, 30⟩
              [.node ⟨"namespace_identifier", some "scope", true, false, false, false, 23, 24⟩ [],
               .node ⟨"::", none, false, false, false, false, 24, 26⟩ [],
               .node ⟨"qualified_identifier", some "name", true, false, false, false, 26, 30⟩
                [.node ⟨"namespace_identifier", some "scope", true, false, false, false, 26, 27⟩
                  [],
                 .node ⟨"::", none, false, false, false, false, 27, 29⟩ [],
                 .node ⟨"identifier", some "name", true, false, false, false, 29, 30⟩ []]],
             .node ⟨";", none, false, false, false, false, 30, 31⟩ []],
           .node ⟨"\x7d", none, false, false, false, false, 32, 33⟩ []]]]
  options := .standard

/-- The name of the function is borne by both components, and by what stands above them. -/
theorem name_borne_by_each_component_qualified :
    ∃ q r t : Place, (Place.root qualified.tree).follow? [0, 1, 0] = some q ∧
      (Place.root qualified.tree).follow? [0, 1, 0, 2] = some r ∧
      (Place.root qualified.tree).follow? [0, 1, 0, 2, 2] = some t ∧
      q.In qualified.tree ∧ Place.Chain [q, r] t ∧ q.declaredPlace? = some t ∧
      t.node.isOneOf Node.simpleNameKinds = true ∧ qualified.bearsName q = true ∧
      ∃ above below : List Place,
        (qualified.root.preorder.filter (·.isNamedBy t)).map Cursor.place =
          above ++ [q, r].filter qualified.bearsName ++ below ∧
        (∀ p ∈ above, p ∈ q.ancestors) ∧ (∀ p ∈ below, p ∈ t.preorder) ∧
        (t.node.isOneOf Node.simpleNameKinds = true → below = []) ∧
        (qualified.bearsName q = true → [q, r].filter qualified.bearsName = [q, r]) := by
  have hq : (Place.root qualified.tree).follow? [0, 1, 0] = some _ := rfl
  have hin := Place.In.root.of_follow? hq
  refine ⟨_, _, _, hq, rfl, rfl, hin, ?chain, rfl, rfl, ?bears,
    name_borne_by_each_component hin ?chain rfl⟩
  case chain => exact .link rfl rfl rfl rfl (.last rfl rfl)
  case bears => decide

/-- Not every qualified name is borne at most once. -/
theorem name_borne_again_qualified :
    ¬∀ (q t name : Place) (rest : List Place), q.In qualified.tree → Place.Chain (q :: rest) t →
      (∀ p ∈ q :: rest, p.node.kind = "qualified_identifier") → q.declaredPlace? = some name →
      (qualified.root.preorder.filter (·.isNamedBy name)).length ≤ 1 := by
  intro h
  have hq : (Place.root qualified.tree).follow? [0, 1, 0] = some _ := rfl
  have hlength := h _ _ _ [_] (Place.In.root.of_follow? hq)
    (.link rfl rfl rfl rfl (.last rfl rfl)) (by simp; decide) rfl
  revert hlength
  decide

end SourceUnit

end CodeCursor
