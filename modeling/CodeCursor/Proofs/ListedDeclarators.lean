import CodeCursor.Proofs.NameBearers

/-!
# Declarations that show the first of several names

Type definitions and declarations of instance variables can list several declarators, as variables
can.  No rule splits them: each is one cursor, with the name of the first declarator, however many
there are.
-/

namespace CodeCursor

/-- The kind of nodes behind cursors of a kind, where these nodes list declarators but are shown
as a whole. -/
def CursorKind.listNode? : CursorKind → Option String
  | typedefDecl => some "type_definition"
  | objCIvarDecl => some "struct_declaration"
  | _ => none

theorem CursorKind.spellsName_of_listNode? {kind : CursorKind} {list : String}
    (h : kind.listNode? = some list) : kind.spellsName = true := by
  unfold listNode? at h
  split at h
  · rfl
  · rfl
  · contradiction

theorem CursorKind.isDirective_of_listNode? {kind : CursorKind} {list : String}
    (h : kind.listNode? = some list) : kind.isDirective = false := by
  unfold listNode? at h
  split at h
  · rfl
  · rfl
  · contradiction

namespace Node

/-- Whether a child is one of the declarators that the node lists. -/
def lists (n child : Node) : Bool :=
  if n.kind == "struct_declaration" then child.label.named && child.isOneOf ["struct_declarator"]
  else child.inField "declarator"

def listed (n : Node) : List Node :=
  n.children.filter n.lists

variable {n d : Node} {kind : CursorKind} {list : String}

theorem nameRule_of_lists {index : Nat} (hlist : kind.listNode? = some list)
    (hkind : n.kind = list) (hindex : n.children.findIdx? n.lists = some index) :
    n.nameRule = .nameOf (some index) := by
  unfold CursorKind.listNode? at hlist
  split at hlist
  · obtain rfl := Option.some.inj hlist
    have hown : n.isOneOf ownRuleKinds = false := by
      rw [isOneOf, hkind]
      decide
    apply nameRule_of_indexIn? hown
    rw [indexIn?, ← hindex]
    congr 1
    funext child
    rw [lists, hkind]
    rfl
  · obtain rfl := Option.some.inj hlist
    have hfirst : n.indexOfNamed? ["struct_declarator"] = some index := by
      rw [indexOfNamed?, ← hindex]
      congr 1
      funext child
      rw [lists, hkind]
      rfl
    rw [nameRule, hfirst]
    simp only [isCategory, isOneOf, hkind]
    rfl
  · contradiction

/-- A node that lists declarators has the name of the first one. -/
theorem declaredName_node_of_lists (hlist : kind.listNode? = some list) (hkind : n.kind = list)
    (hd : n.listed.head? = some d) :
    n.declaredName.map (·.node) = d.declaredName.map (·.node) := by
  rw [listed, List.head?_filter, List.find?_eq_bind_findIdx?_getElem?] at hd
  obtain ⟨index, hindex, hchild⟩ := Option.bind_eq_some_iff.1 hd
  exact declaredName_node_of_nameRule (nameRule_of_lists hlist hkind hindex) hchild

theorem kind_of_fixedExposure (hlist : kind.listNode? = some list)
    (h : n.fixedExposure = .cursor kind) : n.kind = list := by
  have table : ∀ entry ∈ fixedExposures, ∀ list ∈ entry.2.kind?.bind CursorKind.listNode?,
      entry.1 = list := by decide
  exact table _ (mem_fixedExposures h) list hlist

end Node

namespace Place

variable {options : Options} {source : Source} {p : Place} {kind : CursorKind} {list : String}

theorem kind_of_plainExposure (hlist : kind.listNode? = some list)
    (h : p.plainExposure source = .cursor kind) : p.node.kind = list := by
  revert h
  fun_cases plainExposure source p
  -- No function that tells kinds apart comes to one of these, and the table has each for one node.
  all_goals
    intro h
    grind [CursorKind.listNode?, functionKind, declarationExposure, identifierKind,
      Node.specifierKind, Node.kindByToken, Node.qualifiedKind, Node.assignmentKind,
      Node.kind_of_fixedExposure]

theorem listNode?_of_declaratorExposure {parent declarator : Node}
    (h : declaratorExposure parent declarator = .cursor kind) : kind.listNode? = none := by
  have table : ∀ kind ∈ declaratorCursors, kind.listNode? = none := by decide
  exact table kind (mem_declaratorCursors h)

theorem kind_of_kindExposure (hlist : kind.listNode? = some list)
    (h : p.kindExposure options source = .cursor kind) : p.node.kind = list :=
  kind_of_plainExposure hlist
    (plainExposure_of_kindExposure h (CursorKind.isDirective_of_listNode? hlist))

end Place

namespace SourceUnit

/-- The cursors of one kind for a place, which is the nearest one of its kind at or above them. -/
def cursorsFor (u : SourceUnit) (p : Place) (kind : CursorKind) : List Cursor :=
  u.root.preorder.filter fun c => c.kind == kind &&
    (c.place.lineage.find? (·.node.kind == p.node.kind)).map Place.path == some p.path

variable {u : SourceUnit} {c d : Cursor} {list : String}

theorem eq_of_mem_preorder (hc : c ∈ u.root.preorder) (hd : d ∈ u.root.preorder)
    (h : c.place = d.place) : c = d := by
  obtain ⟨rfl, -, hshown⟩ := mem_preorder_root.1 hc
  obtain ⟨hunit, -, hother⟩ := mem_preorder_root.1 hd
  rw [h, hother] at hshown
  obtain ⟨_, _, _⟩ := c
  obtain ⟨_, _, _⟩ := d
  cases h
  cases hunit
  cases hshown
  rfl

/-- The kind of a cursor that stands for a list of declarators tells that of its node. -/
theorem kind_of_mem_preorder (hc : c ∈ u.root.preorder) (hlist : c.kind.listNode? = some list) :
    c.place.node.kind = list := by
  cases hroot : c.place.isRoot with
  | true =>
    rw [kind_of_isRoot hc hroot] at hlist
    contradiction
  | false =>
    obtain ⟨parent, -, ⟨-, -, h⟩ | ⟨-, h⟩⟩ := exposure_of_cursor hc hroot
    · rw [Place.listNode?_of_declaratorExposure h] at hlist
      contradiction
    · exact Place.kind_of_kindExposure hlist h

theorem cursorsFor_eq_singleton (hc : c ∈ u.root.preorder) (hlist : c.kind.listNode? = some list) :
    u.cursorsFor c.place c.kind = [c] := by
  have hnearest : ∀ d ∈ u.root.preorder, d.kind = c.kind →
      d.place.lineage.find? (·.node.kind == c.place.node.kind) = some d.place := by
    intro d hd hkind
    have hsame : d.place.node.kind = c.place.node.kind := by
      rw [kind_of_mem_preorder hc hlist]
      apply kind_of_mem_preorder hd
      rw [hkind, hlist]
    rw [Place.lineage, List.find?_cons, hsame, beq_self_eq_true]
  have hplaces : (u.cursorsFor c.place c.kind).map Cursor.place = [c.place] := by
    apply map_place_filter_preorder (List.pairwise_singleton _ _)
    intro p
    rw [List.mem_singleton]
    constructor
    · rintro rfl
      exact ⟨c, hc, by rw [hnearest c hc rfl]; simp, rfl⟩
    · rintro ⟨d, hd, hpick, rfl⟩
      obtain ⟨hkind, hpath⟩ := Bool.and_eq_true_iff.1 hpick
      rw [hnearest d hd (beq_iff_eq.1 hkind)] at hpath
      exact (mem_preorder_root.1 hd).2.1.eq_of_path (mem_preorder_root.1 hc).2.1
        (Option.some.inj (beq_iff_eq.1 hpath))
  obtain ⟨d, hone, hplace⟩ := List.map_eq_singleton_iff.1 hplaces
  have hd : d ∈ u.cursorsFor c.place c.kind := by
    rw [hone]
    exact List.mem_singleton_self d
  rw [hone, eq_of_mem_preorder (List.mem_filter.1 hd).1 hc hplace]

/-- A cursor that stands for a list of declarators is the only one for its node, however many
there are, and is spelled with the name of the first. -/
theorem first_listed_shown {u : SourceUnit} {c : Cursor} (hc : c ∈ u.root.preorder)
    (hkind : c.kind = .typedefDecl ∨ c.kind = .objCIvarDecl)
    (hlisted : c.place.node.listed ≠ []) :
    u.cursorsFor c.place c.kind = [c] ∧
    (u.cursorsFor c.place c.kind).map Cursor.spelling =
      (c.place.node.listed.map fun d => String.ofList (u.spellDeclared d)).take 1 := by
  obtain ⟨list, hlist⟩ : ∃ list, c.kind.listNode? = some list := by
    rcases hkind with hkind | hkind
    · exact ⟨_, by rw [hkind]; rfl⟩
    · exact ⟨_, by rw [hkind]; rfl⟩
  have hone : u.cursorsFor c.place c.kind = [c] := cursorsFor_eq_singleton hc hlist
  refine ⟨hone, ?_⟩
  obtain ⟨first, rest, hfirst⟩ := List.exists_cons_of_ne_nil hlisted
  have hhead : c.place.node.listed.head? = some first := by rw [hfirst]; rfl
  have hname := Node.declaredName_node_of_lists hlist (kind_of_mem_preorder hc hlist) hhead
  have hspelled : c.spelling = String.ofList (u.spellDeclared first) := by
    rw [Cursor.spelling, (mem_preorder_root.1 hc).1,
      spell_eq_spellDeclared u _ (CursorKind.spellsName_of_listNode? hlist),
      spellDeclared_congr rfl hname]
  rw [hone, hfirst, List.map_cons, List.map_nil, hspelled]
  rfl

/-- Two names for types in one definition. -/
def twoNames : SourceUnit where
  path := "unit.c"
  dialect := .c
  source := .ofString "typedef int a, *b;"
  tree :=
    .node ⟨"translation_unit", none, true, false, false, false, 0, 18⟩
      [.node ⟨"type_definition", none, true, false, false, false, 0, 18⟩
        [.node ⟨"typedef", none, false, false, false, false, 0, 7⟩ [],
         .node ⟨"primitive_type", some "type", true, false, false, false, 8, 11⟩ [],
         .node ⟨"type_identifier", some "declarator", true, false, false, false, 12, 13⟩ [],
         .node ⟨",", none, false, false, false, false, 13, 14⟩ [],
         .node ⟨"pointer_declarator", some "declarator", true, false, false, false, 15, 17⟩
          [.node ⟨"*", none, false, false, false, false, 15, 16⟩ [],
           .node ⟨"type_identifier", some "declarator", true, false, false, false, 16, 17⟩ []],
         .node ⟨";", none, false, false, false, false, 17, 18⟩ []]]
  options := .standard

/-- The definition is one cursor, with the first of its two names. -/
theorem first_listed_shown_twoNames :
    ∃ c ∈ twoNames.root.preorder, c.kind = .typedefDecl ∧ c.place.node.listed ≠ [] ∧
      twoNames.cursorsFor c.place .typedefDecl = [c] ∧
      (twoNames.cursorsFor c.place .typedefDecl).map Cursor.spelling = ["a"] := by
  have hplace : (Place.root twoNames.tree).follow? [0] = some _ := rfl
  have hc : _ ∈ twoNames.root.preorder :=
    mem_preorder_of_shown? (Place.In.root.of_follow? hplace) rfl
  have hexact := first_listed_shown hc (.inl rfl) (List.cons_ne_nil _ _)
  exact ⟨_, hc, rfl, List.cons_ne_nil _ _, hexact.1, hexact.2⟩

/-- The second name has no cursor. -/
theorem second_listed_lost_twoNames :
    ¬∀ c ∈ twoNames.root.preorder, c.place.node.kind = "type_definition" →
      c.place.node.listed ≠ [] →
      (twoNames.cursorsFor c.place .typedefDecl).length = c.place.node.listed.length := by
  intro h
  have hplace : (Place.root twoNames.tree).follow? [0] = some _ := rfl
  have hc : _ ∈ twoNames.root.preorder :=
    mem_preorder_of_shown? (Place.In.root.of_follow? hplace) rfl
  have hcount := h _ hc rfl (List.cons_ne_nil _ _)
  have hone := cursorsFor_eq_singleton hc rfl
  rw [hone] at hcount
  contradiction

end SourceUnit

end CodeCursor
