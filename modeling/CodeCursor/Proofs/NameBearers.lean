import CodeCursor.Cursor.Spelling
import CodeCursor.Proofs.NameFolding

/-!
# Declarations that bear the names of declarators

A name below declarators is hidden where it stands.  Whether it shows as the spelling of a
declaration is decided where the declarators begin, by the node that holds the outermost one.  In
most constructs that node, or the declarator itself, is a declaration with this name.  In the others
nothing is, and the name is lost.
-/

namespace CodeCursor

/-- Whether cursors of the kind are spelled with the declared names of their nodes. -/
def CursorKind.spellsName (kind : CursorKind) : Bool :=
  kind.isDeclaration &&
    !([objCInstanceMethodDecl, objCClassMethodDecl, cxxAccessSpecifier].contains kind)

theorem CursorKind.category?_of_spellsName {kind : CursorKind} (h : kind.spellsName = true) :
    kind.category? = some .declaration :=
  beq_iff_eq.1 (Bool.and_eq_true_iff.1 h).1

/-- Whether cursors of the kind are functions, methods or destructors. -/
def CursorKind.isFunction : CursorKind → Bool
  | functionDecl | cxxMethod | destructor => true
  | _ => false

theorem CursorKind.spellsName_of_isFunction {kind : CursorKind} (h : kind.isFunction = true) :
    kind.spellsName = true := by
  unfold isFunction at h
  split at h
  · rfl
  · rfl
  · rfl
  · contradiction

theorem SourceUnit.spell_eq_spellDeclared (u : SourceUnit) (n : Node) {kind : CursorKind}
    (h : kind.spellsName = true) : u.spell n kind = u.spellDeclared n := by
  have hcategory := CursorKind.category?_of_spellsName h
  unfold spell
  split
  all_goals first | exact absurd h (by decide) | rw [hcategory]

theorem SourceUnit.spellDeclared_congr {u v : SourceUnit} {n m : Node}
    (hsource : u.source = v.source)
    (hname : n.declaredName.map (·.node) = m.declaredName.map (·.node)) :
    u.spellDeclared n = v.spellDeclared m := by
  have hspell : ∀ name, u.spellName name = v.spellName name := by
    intro name
    simp only [spellName, textOf, hsource]
  have hcases : ∀ (w : SourceUnit) (k : Node),
      w.spellDeclared k = ((k.declaredName.map (·.node)).map w.spellName).getD [] := by
    intro w k
    rw [spellDeclared]
    cases k.declaredName <;> rfl
  rw [hcases, hcases, hname, funext hspell]

namespace Node

/-- Nodes that are a declaration of one name, which their declarator holds. -/
def bearerKinds : List String :=
  ["function_definition", "parameter_declaration", "optional_parameter_declaration",
   "type_definition", "property_declaration"]

theorem isOneOf_splitKinds {n : Node} :
    n.isOneOf splitKinds = true ↔ n.kind = "declaration" ∨ n.kind = "field_declaration" := by
  simp [isOneOf, splitKinds]

end Node

namespace Place

/-- Whether the place is a declaration of one name, which its declarator holds. -/
def isBearer (p : Place) : Bool :=
  p.node.isOneOf Node.bearerKinds ||
    p.node.isOneOf Node.splitKinds && p.node.declaratorCount == 1 ||
    p.node.kind == "struct_declaration" && p.parentIs "instance_variable"

theorem isFunction_functionKind (p : Place) : p.functionKind.isFunction = true := by
  unfold functionKind
  split
  · rfl
  · split <;> rfl

theorem declarationExposure_of_count {p : Place} {function value : CursorKind}
    (h : p.node.declaratorCount = 1) (hf : function.spellsName = true)
    (hv : value.spellsName = true) :
    ∃ kind, p.declarationExposure function value = .cursor kind ∧ kind.spellsName = true := by
  rw [declarationExposure, if_pos h]
  split
  · exact ⟨function, rfl, hf⟩
  · exact ⟨value, rfl, hv⟩

theorem kindExposure_declaration (options : Options) (source : Source) {p : Place}
    (h : p.node.kind = "declaration") :
    p.kindExposure options source = p.declarationExposure p.functionKind .varDecl := by
  simp only [kindExposure, plainExposure, Node.directiveKind?, h]
  rfl

theorem kindExposure_fields (options : Options) (source : Source) {p : Place}
    (h : p.node.kind = "field_declaration") :
    p.kindExposure options source = p.declarationExposure .cxxMethod .fieldDecl := by
  simp only [kindExposure, plainExposure, Node.directiveKind?, h]
  rfl

/-- The exposure of a declaration that can have several declarators, by its kind. -/
theorem kindExposure_of_isSplit (options : Options) (source : Source) {p : Place}
    (h : p.node.isOneOf Node.splitKinds = true) :
    p.kindExposure options source = p.declarationExposure p.functionKind .varDecl ∨
      p.kindExposure options source = p.declarationExposure .cxxMethod .fieldDecl := by
  rcases Node.isOneOf_splitKinds.1 h with hkind | hkind
  · exact .inl (kindExposure_declaration options source hkind)
  · exact .inr (kindExposure_fields options source hkind)

theorem kindExposure_of_isBearer (options : Options) (source : Source) {p : Place}
    (h : p.isBearer = true) :
    ∃ kind, p.kindExposure options source = .cursor kind ∧ kind.spellsName = true := by
  have hfunction := CursorKind.spellsName_of_isFunction p.isFunction_functionKind
  simp only [isBearer, Bool.or_eq_true, Bool.and_eq_true, beq_iff_eq, or_assoc] at h
  rcases h with hplain | ⟨hsplit, hcount⟩ | ⟨hkind, hparent⟩
  · simp only [Node.isOneOf, Node.bearerKinds, List.contains_iff_mem, List.mem_cons,
      List.not_mem_nil, or_false] at hplain
    rcases hplain with hkind | hkind | hkind | hkind | hkind
    · refine ⟨p.functionKind, ?_, hfunction⟩
      simp only [kindExposure, plainExposure, Node.directiveKind?, hkind]
      rfl
    all_goals
      simp only [kindExposure, plainExposure, Node.directiveKind?, Node.fixedExposure, hkind]
      exact ⟨_, rfl, rfl⟩
  · rcases kindExposure_of_isSplit options source hsplit with hx | hx
    · rw [hx]
      exact declarationExposure_of_count hcount hfunction rfl
    · rw [hx]
      exact declarationExposure_of_count hcount rfl rfl
  · refine ⟨.objCIvarDecl, ?_, rfl⟩
    simp only [kindExposure, plainExposure, Node.directiveKind?, hkind, hparent]
    rfl

theorem declaratorExposure_of_isSplit {parent : Node} (declarator : Node)
    (h : parent.isOneOf Node.splitKinds = true) :
    ∃ kind, declaratorExposure parent declarator = .cursor kind ∧ kind.spellsName = true := by
  unfold declaratorExposure
  rcases Node.isOneOf_splitKinds.1 h with hkind | hkind
  all_goals
    rw [hkind]
    refine ⟨_, rfl, ?_⟩
    split
    · rfl
    · rfl

/-- A place that stands in no field for declarators is exposed by its kind, or hidden. -/
theorem exposure_eq_kindExposure {options : Options} {source : Source} {p q : Place}
    (h : q ∈ p.children) (hfield : q.node.inField "declarator" = false)
    (hvisible : q.exposure options source ≠ .hidden) :
    q.exposure options source = q.kindExposure options source := by
  rcases exposure_cases options source h with hx | ⟨hin, -, -⟩ | ⟨-, -, hx⟩
  · exact absurd hx hvisible
  · rw [hfield] at hin
    contradiction
  · exact hx

/-- One of several declarators is exposed as such, or hidden. -/
theorem exposure_eq_declaratorExposure {options : Options} {source : Source} {p q : Place}
    (h : q ∈ p.children) (hfield : q.node.inField "declarator" = true)
    (hcount : 1 < p.node.declaratorCount) (hvisible : q.exposure options source ≠ .hidden) :
    q.exposure options source = declaratorExposure p.node q.node := by
  rcases exposure_cases options source h with hx | ⟨-, -, hx⟩ | ⟨hle, -, -⟩
  · exact absurd hx hvisible
  · exact hx
  · exact absurd hcount (Nat.not_lt.2 (hle hfield))

/-- What shows as a declaration with the name of a declarator: the place that takes its name from
the declarator, or the declarator itself. -/
inductive Bears (d : Place) : Place → Prop
  /-- A declaration of one name takes it from its declarator. -/
  | holder {x : Place} {index : Nat} (child : x.child? index = some d)
      (rule : x.node.nameRule = .nameOf (some index)) (bearer : x.isBearer = true)
      (root : x.isRoot = false) (field : x.node.inField "declarator" = false) : Bears d x
  /-- A declaration of several names shows each of its declarators. -/
  | several {x : Place} (child : d ∈ x.children) (field : d.node.inField "declarator" = true)
      (split : x.node.isOneOf Node.splitKinds = true) (count : 1 < x.node.declaratorCount) :
      Bears d d

end Place

namespace SourceUnit

theorem isCovered_of_mem_ancestors {u : SourceUnit} {p a : Place} (h : u.isCovered p = false)
    (ha : a ∈ p.ancestors) : u.isCovered a = false := by
  rw [isCovered, List.any_eq_false] at h ⊢
  intro b hb
  exact h b ((Place.lineage_suffix_ancestors ha).subset (List.mem_cons_of_mem _ hb))

theorem exposure_ne_hidden {u : SourceUnit} {p a : Place} (h : u.isCovered p = false)
    (ha : a ∈ p.ancestors) (hroot : a.isRoot = false) : u.exposure a ≠ .hidden := by
  rw [isCovered, List.any_eq_false] at h
  intro hx
  exact h a ha (by simp [hroot, hx])

/-- A cursor that is spelled with a declared name is spelled with the node at its place. -/
theorem spelling_of_declaredPlace? {c : Cursor} {name : Place} (hkind : c.kind.spellsName = true)
    (hname : c.place.declaredPlace? = some name) :
    c.spelling = String.ofList (c.unit.spellName name.node) := by
  obtain ⟨found, hfound, hfollow⟩ := Option.bind_eq_some_iff.1 hname
  have hnode : found.node = name.node :=
    Option.some.inj ((Node.at?_declaredName hfound).symm.trans (Place.follow?_spec hfollow).2)
  rw [Cursor.spelling, spell_eq_spellDeclared _ _ hkind, spellDeclared, hfound, ← hnode]

/-- A place that is exposed as a declaration spelled with a name, below no hidden place, is a
cursor with that spelling. -/
theorem exists_spelled_cursor {u : SourceUnit} {p name : Place} {kind : CursorKind}
    (hp : p.In u.tree) (hcovered : u.isCovered p = false) (hx : u.exposure p = .cursor kind)
    (hkind : kind.spellsName = true) (hname : p.declaredPlace? = some name) :
    ∃ c ∈ u.root.preorder, c.place = p ∧ c.isDeclaration = true ∧
      c.spelling = String.ofList (u.spellName name.node) :=
  ⟨⟨u, p, kind⟩, mem_preorder_of_shown? hp (shown?_eq_some_iff.2 ⟨hcovered, hx⟩), rfl,
    (Bool.and_eq_true_iff.1 hkind).1, spelling_of_declaredPlace? hkind hname⟩

/-- A name below declarators is the spelling of a declaration above it if something bears the
name of one of them. -/
theorem declared_name_carried {u : SourceUnit} {name d x : Place} (hname : name.In u.tree)
    (hcovered : u.isCovered name = false) (hd : d ∈ name.ancestors)
    (hdname : d.declaredPlace? = some name) (hx : d.Bears x) :
    x ∈ name.ancestors ∧ x.declaredPlace? = some name ∧
      ∃ c ∈ u.root.preorder, c.place = x ∧ c.isDeclaration = true ∧
        c.spelling = String.ofList (u.spellName name.node) := by
  have hdin := Place.In.of_mem_ancestors hname hd
  cases hx with
  | @holder x index child rule bearer root field =>
    have hchild := Place.mem_children_iff_child?.2 ⟨index, child⟩
    have hmem : x ∈ name.ancestors := by
      apply (Place.lineage_suffix_ancestors hd).subset
      rw [Place.lineage, Place.ancestors_of_mem_children hchild]
      exact List.mem_cons_of_mem _ List.mem_cons_self
    have hin := Place.In.of_mem_ancestors hname hmem
    obtain ⟨above, habove⟩ := hin.exists_parent root
    obtain ⟨kind, hkind, hspells⟩ := Place.kindExposure_of_isBearer u.options u.source bearer
    have hexposure : u.exposure x = .cursor kind :=
      (Place.exposure_eq_kindExposure habove field
        (exposure_ne_hidden hcovered hmem root)).trans hkind
    have hxname := Place.declaredPlace?_of_nameRule rule child hdname
    exact ⟨hmem, hxname, exists_spelled_cursor hin (isCovered_of_mem_ancestors hcovered hmem)
      hexposure hspells hxname⟩
  | @several x child field split count =>
    obtain ⟨kind, hkind, hspells⟩ := Place.declaratorExposure_of_isSplit d.node split
    have hexposure : u.exposure d = .cursor kind :=
      (Place.exposure_eq_declaratorExposure child field count
        (exposure_ne_hidden hcovered hd (Place.isRoot_of_mem_children child))).trans hkind
    exact ⟨hd, hdname, exists_spelled_cursor hdin (isCovered_of_mem_ancestors hcovered hd)
      hexposure hspells hdname⟩

/-- A function with a plain parameter and a pack of them. -/
def packed : SourceUnit where
  path := "unit.cpp"
  dialect := .cpp
  source := .ofString "void f(int *p, T... t);"
  tree :=
    .node ⟨"translation_unit", none, true, false, false, false, 0, 23⟩
      [.node ⟨"declaration", none, true, false, false, false, 0, 23⟩
        [.node ⟨"primitive_type", some "type", true, false, false, false, 0, 4⟩ [],
         .node ⟨"function_declarator", some "declarator", true, false, false, false, 5, 22⟩
          [.node ⟨"identifier", some "declarator", true, false, false, false, 5, 6⟩ [],
           .node ⟨"parameter_list", some "parameters", true, false, false, false, 6, 22⟩
            [.node ⟨"(", none, false, false, false, false, 6, 7⟩ [],
             .node ⟨"parameter_declaration", none, true, false, false, false, 7, 13⟩
              [.node ⟨"primitive_type", some "type", true, false, false, false, 7, 10⟩ [],
               .node ⟨"pointer_declarator", some "declarator", true, false, false, false, 11, 13⟩
                [.node ⟨"*", none, false, false, false, false, 11, 12⟩ [],
                 .node ⟨"identifier", some "declarator", true, false, false, false, 12, 13⟩ []]],
             .node ⟨",", none, false, false, false, false, 13, 14⟩ [],
             .node ⟨"variadic_parameter_declaration", none, true, false, false, false, 15, 21⟩
              [.node ⟨"type_identifier", some "type", true, false, false, false, 15, 16⟩ [],
               .node ⟨"variadic_declarator", some "declarator", true, false, false, false, 16, 21⟩
                [.node ⟨"...", none, false, false, false, false, 16, 19⟩ [],
                 .node ⟨"identifier", none, true, false, false, false, 20, 21⟩ []]],
             .node ⟨")", none, false, false, false, false, 21, 22⟩ []]],
         .node ⟨";", none, false, false, false, false, 22, 23⟩ []]]
  options := .standard

/-- The plain parameter bears its name. -/
theorem declared_name_carried_packed :
    ∃ name d x : Place, (Place.root packed.tree).follow? [0, 1, 1, 1, 1, 1] = some name ∧
      (Place.root packed.tree).follow? [0, 1, 1, 1, 1] = some d ∧
      (Place.root packed.tree).follow? [0, 1, 1, 1] = some x ∧
      name.In packed.tree ∧ packed.isCovered name = false ∧ d ∈ name.ancestors ∧
      d.declaredPlace? = some name ∧ d.Bears x ∧
      x ∈ name.ancestors ∧ x.declaredPlace? = some name ∧
        ∃ c ∈ packed.root.preorder, c.place = x ∧ c.isDeclaration = true ∧
          c.spelling = String.ofList (packed.spellName name.node) := by
  have hname : (Place.root packed.tree).follow? [0, 1, 1, 1, 1, 1] = some _ := rfl
  have hin := Place.In.root.of_follow? hname
  refine ⟨_, _, _, hname, rfl, rfl, hin, ?covered, List.mem_cons_self, rfl, ?bears,
    declared_name_carried hin ?covered List.mem_cons_self rfl ?bears⟩
  case covered => decide
  case bears => exact .holder rfl rfl rfl rfl rfl

/-- No declaration bears the name of the pack, which its declarator hides. -/
theorem declared_name_lost_packed :
    ¬∀ name holder : Place, name.In packed.tree → name.parent? = some holder →
      holder.node.isDeclarator = true → name.node.isName = true → name.namesParent = true →
      packed.exposure name = .hidden → packed.isCovered name = false →
      ∃ c ∈ packed.root.preorder, c.place ∈ name.ancestors ∧ c.isDeclaration = true ∧
        c.place.declaredPlace? = some name := by
  intro h
  have hpath : (Place.root packed.tree).follow? [0, 1, 1, 3, 1, 1] = some _ := rfl
  have hlost : ∀ name ∈ (Place.root packed.tree).follow? [0, 1, 1, 3, 1, 1],
      ∀ a ∈ name.ancestors, a.declaredPlace?.map Place.path = some name.path →
        packed.shown? a = none := by decide
  obtain ⟨c, hc, habove, -, hname⟩ := h _ _ (Place.In.root.of_follow? hpath) rfl rfl rfl
    (by decide) (by decide) (by decide)
  have hnone := hlost _ hpath c.place habove (by rw [hname]; rfl)
  rw [(mem_preorder_root.1 hc).2.2] at hnone
  contradiction

end SourceUnit

end CodeCursor
