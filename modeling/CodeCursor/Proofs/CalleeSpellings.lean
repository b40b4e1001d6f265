import CodeCursor.Proofs.NameBearers

/-!
# Calls and what they call

A call is spelled with the name of what it calls, and so is the reference to it below the call.
Each of the two reads the name by a rule of its own.  They agree where the name is called directly.
Where it is the name of a member, neither goes inwards from the node in the field, so that a scope
and template arguments stay with it, and only one of the two closes up what is written with blanks.
-/

namespace CodeCursor

/-- Whether cursors of the kind refer to what a name stands for, other than types and namespaces
and what Objective-C has names of its own for. -/
def CursorKind.isUse : CursorKind → Bool
  | declRefExpr | memberRefExpr => true
  | _ => false

theorem CursorKind.isDirective_of_isUse {kind : CursorKind} (h : kind.isUse = true) :
    kind.isDirective = false := by
  unfold isUse at h
  split at h
  · rfl
  · rfl
  · contradiction

namespace Node

/-- The kinds of nodes that show as such a reference, each with the reference it shows as. -/
def useKinds : List (String × CursorKind) :=
  [("identifier", .declRefExpr), ("qualified_identifier", .declRefExpr),
   ("template_function", .declRefExpr), ("field_identifier", .memberRefExpr),
   ("field_expression", .memberRefExpr)]

/-- Simple names that are spelled as they are written. -/
def plainNameKinds : List String :=
  ["identifier", "field_identifier", "type_identifier", "namespace_identifier"]

/-- Simple names whose blanks do not show in their spelling. -/
def closedUpKinds : List String :=
  ["operator_name", "destructor_name"]

/-- The name of what is called: that of the member in an access to one, and else that of the node
itself. -/
def calledName? (function : Node) : Option Node :=
  ((if function.kind == "field_expression" then function.childIn? "field"
    else some function).bind declaredName).map (·.node)

end Node

namespace Place

theorem mem_useKinds_of_plainExposure {source : Source} {p : Place} {kind : CursorKind}
    (h : p.plainExposure source = .cursor kind) (hkind : kind.isUse = true) :
    (p.node.kind, kind) ∈ Node.useKinds := by
  have table : ∀ entry ∈ Node.fixedExposures, ∀ kind ∈ entry.2.kind?, kind.isUse = true →
      (entry.1, kind) ∈ Node.useKinds := by decide
  have hfixed : p.node.fixedExposure = .cursor kind → (p.node.kind, kind) ∈ Node.useKinds :=
    fun h => table _ (Node.mem_fixedExposures h) kind rfl hkind
  revert h
  fun_cases plainExposure source p
  all_goals grind [CursorKind.isUse, Node.useKinds, declarationExposure, functionKind,
    identifierKind, Node.specifierKind, Node.kindByToken, Node.assignmentKind, Node.qualifiedKind]

theorem isUse_declaratorExposure {parent declarator : Node} {kind : CursorKind}
    (h : declaratorExposure parent declarator = .cursor kind) : kind.isUse = false := by
  have table : ∀ kind ∈ declaratorCursors, kind.isUse = false := by decide
  exact table kind (mem_declaratorCursors h)

end Place

namespace SourceUnit

variable {u : SourceUnit}

/-- The nodes that show as references to what a name stands for. -/
theorem mem_useKinds {c : Cursor} (hc : c ∈ u.root.preorder) (hkind : c.kind.isUse = true) :
    (c.place.node.kind, c.kind) ∈ Node.useKinds := by
  cases hroot : c.place.isRoot with
  | true =>
    rw [kind_of_isRoot hc hroot] at hkind
    contradiction
  | false =>
    obtain ⟨parent, -, ⟨-, -, h⟩ | ⟨-, h⟩⟩ := exposure_of_cursor hc hroot
    · rw [Place.isUse_declaratorExposure h] at hkind
      contradiction
    · have hplain :=
        Place.plainExposure_of_kindExposure h (CursorKind.isDirective_of_isUse hkind)
      exact Place.mem_useKinds_of_plainExposure hplain hkind

theorem spellName_of_open (u : SourceUnit) {name : Node}
    (h : name.isOneOf Node.closedUpKinds = false) : u.spellName name = u.textOf name := by
  simp only [Node.isOneOf, Node.closedUpKinds, List.contains_cons, List.contains_nil,
    Bool.or_false, Bool.or_eq_false_iff, beq_eq_false_iff_ne] at h
  unfold spellName
  split
  · exact absurd ‹_› h.1
  · exact absurd ‹_› h.2
  · rfl

theorem isOneOf_closedUpKinds_of_plain {n : Node} (h : n.isOneOf Node.plainNameKinds = true) :
    n.isOneOf Node.closedUpKinds = false :=
  Node.isOneOf_eq_false h (by decide)

theorem isOneOf_simpleNameKinds {n : Node} :
    n.isOneOf Node.simpleNameKinds = true ↔
      n.isOneOf Node.plainNameKinds = true ∨ n.isOneOf Node.closedUpKinds = true := by
  have hleft : Node.simpleNameKinds ⊆ Node.plainNameKinds ++ Node.closedUpKinds := by decide
  have hright : Node.plainNameKinds ++ Node.closedUpKinds ⊆ Node.simpleNameKinds := by decide
  simp only [Node.isOneOf, List.contains_iff_mem]
  constructor
  · exact fun h => List.mem_append.1 (hleft h)
  · exact fun h => hright (List.mem_append.2 h)

section

variable {c r : Cursor} {name : Node}

theorem spelling_of_call (hc : c ∈ u.root.preorder) (hcall : c.kind = .callExpr)
    (hcallee : c.place.childIn? "function" = some r.place) :
    c.spelling = String.ofList (((calleeName? r.place.node).map u.spellName).getD []) := by
  have hunit : c.unit = u := (mem_preorder_root.1 hc).1
  have hchild : c.place.node.childIn? "function" = some r.place.node := by
    rw [Place.node_childIn?, hcallee]
    rfl
  rw [Cursor.spelling, hcall, hunit]
  change String.ofList (u.spellCall c.place.node) = _
  rw [spellCall, hchild, Option.bind_some]
  cases calleeName? r.place.node <;> rfl

theorem spelling_of_declRefExpr (hr : r ∈ u.root.preorder) (hkind : r.kind = .declRefExpr) :
    r.spelling = String.ofList (u.spellDeclared r.place.node) := by
  rw [Cursor.spelling, hkind, (mem_preorder_root.1 hr).1]
  rfl

theorem spelling_of_memberRefExpr (hr : r ∈ u.root.preorder) (hkind : r.kind = .memberRefExpr) :
    r.spelling = String.ofList (u.spellMember r.place.node) := by
  rw [Cursor.spelling, hkind, (mem_preorder_root.1 hr).1]
  rfl

/-- A name that is called directly spells the call and the reference to it. -/
theorem spelling_of_direct_call (hc : c ∈ u.root.preorder) (hr : r ∈ u.root.preorder)
    (hcall : c.kind = .callExpr) (hcallee : c.place.childIn? "function" = some r.place)
    (huse : r.kind.isUse = true) (hname : r.place.node.calledName? = some name)
    (hdirect : r.place.node.kind ≠ "field_expression")
    (hleaf : r.place.node.kind = "field_identifier" → r.place.node.childIn? "field" = none) :
    c.spelling = String.ofList (u.spellName name) ∧
      r.spelling = String.ofList (u.spellName name) := by
  have hnot : (r.place.node.kind == "field_expression") = false := beq_eq_false_iff_ne.2 hdirect
  rw [Node.calledName?, hnot] at hname
  obtain ⟨found, hfound, rfl⟩ := Option.map_eq_some_iff.1 hname
  have hmem := mem_useKinds hr huse
  have hdeclared : r.place.node.declaredName = some found := hfound
  have hisName : r.place.node.isName = true := by
    have table : ∀ entry ∈ Node.useKinds, entry.1 ≠ "field_expression" →
        Node.nameKinds.contains entry.1 = true := by decide
    exact table _ hmem hdirect
  constructor
  · rw [spelling_of_call hc hcall hcallee, calleeName?, hnot, hisName, hdeclared]
    rfl
  · by_cases hkind : r.kind = .declRefExpr
    · rw [spelling_of_declRefExpr hr hkind, spellDeclared, hdeclared]
    · have hself : r.place.node.kind = "field_identifier" ∧ r.kind = .memberRefExpr := by
        have table : ∀ entry ∈ Node.useKinds, entry.1 ≠ "field_expression" →
            entry.2 ≠ .declRefExpr → entry.1 = "field_identifier" ∧ entry.2 = .memberRefExpr := by
          decide
        exact table _ hmem hdirect hkind
      have hplain : r.place.node.isOneOf Node.plainNameKinds = true := by
        rw [Node.isOneOf, hself.1]
        rfl
      rw [Node.declaredName_eq_self (isOneOf_simpleNameKinds.2 (.inl hplain))] at hdeclared
      obtain rfl := Option.some.inj hdeclared
      rw [spelling_of_memberRefExpr hr hself.2, spellMember, hleaf hself.1, hself.1,
        spellName_of_open u (isOneOf_closedUpKinds_of_plain hplain)]
      rfl

/-- In a call of a member both look no further than the field, and only the call closes it up. -/
theorem spelling_of_member_call (hc : c ∈ u.root.preorder) (hr : r ∈ u.root.preorder)
    (hcall : c.kind = .callExpr) (hcallee : c.place.childIn? "function" = some r.place)
    (huse : r.kind.isUse = true) (hmember : r.place.node.kind = "field_expression") {field : Node}
    (hfield : r.place.node.childIn? "field" = some field) :
    c.spelling = String.ofList (u.spellName field) ∧
      r.spelling = String.ofList (u.textOf field) := by
  have hkind : r.kind = .memberRefExpr := by
    have table : ∀ entry ∈ Node.useKinds, entry.1 = "field_expression" →
        entry.2 = .memberRefExpr := by decide
    exact table _ (mem_useKinds hr huse) hmember
  constructor
  · rw [spelling_of_call hc hcall hcallee, calleeName?, hmember, hfield]
    rfl
  · rw [spelling_of_memberRefExpr hr hkind, spellMember, hfield]

/-- A call and the reference to what it calls are spelled with the name that is called, if it is
called directly or is a member with a plain name.  The name of an operator or a destructor that is
a member is closed up in the spelling of the call only, and any other member is in both spellings
all that is written in the field, with its scope and template arguments.  The name of a member that
is called by itself is a word, and so has no field. -/
theorem call_spelled_like_callee (hc : c ∈ u.root.preorder) (hr : r ∈ u.root.preorder)
    (hcall : c.kind = .callExpr) (hcallee : c.place.childIn? "function" = some r.place)
    (huse : r.kind = .declRefExpr ∨ r.kind = .memberRefExpr)
    (hname : r.place.node.calledName? = some name)
    (hleaf : r.place.node.kind = "field_identifier" → r.place.node.childIn? "field" = none) :
    (r.place.node.kind ≠ "field_expression" →
      c.spelling = String.ofList (u.spellName name) ∧
        r.spelling = String.ofList (u.spellName name)) ∧
    ∀ field, r.place.node.kind = "field_expression" → r.place.node.childIn? "field" = some field →
      (field.isOneOf Node.plainNameKinds = true →
        c.spelling = String.ofList (u.spellName name) ∧
          r.spelling = String.ofList (u.spellName name)) ∧
      (field.isOneOf Node.closedUpKinds = true →
        c.spelling = String.ofList (u.spellName name) ∧
          r.spelling = String.ofList (u.textOf name)) ∧
      (field.isOneOf Node.simpleNameKinds = false →
        c.spelling = String.ofList (u.textOf field) ∧
          r.spelling = String.ofList (u.textOf field)) := by
  have hisUse : r.kind.isUse = true := by
    rcases huse with h | h
    · rw [h]
      rfl
    · rw [h]
      rfl
  refine ⟨fun hdirect =>
    spelling_of_direct_call hc hr hcall hcallee hisUse hname hdirect hleaf, ?_⟩
  intro field hmember hfield
  obtain ⟨hcs, hrs⟩ := spelling_of_member_call hc hr hcall hcallee hisUse hmember hfield
  have hself : field.isOneOf Node.simpleNameKinds = true → field = name := by
    intro hsimple
    rw [Node.calledName?, hmember, beq_self_eq_true, if_pos rfl, hfield, Option.bind_some,
      Node.declaredName_eq_self hsimple] at hname
    exact Option.some.inj hname
  refine ⟨?_, ?_, ?_⟩
  · intro hplain
    obtain rfl := hself (isOneOf_simpleNameKinds.2 (.inl hplain))
    exact ⟨hcs, by rw [hrs, spellName_of_open u (isOneOf_closedUpKinds_of_plain hplain)]⟩
  · intro hclosed
    obtain rfl := hself (isOneOf_simpleNameKinds.2 (.inr hclosed))
    exact ⟨hcs, hrs⟩
  · intro hcomposed
    have hopen : field.isOneOf Node.closedUpKinds = false := by
      rw [← Bool.not_eq_true] at hcomposed ⊢
      exact fun h => hcomposed (isOneOf_simpleNameKinds.2 (.inr h))
    exact ⟨by rw [hcs, spellName_of_open u hopen], hrs⟩

end

/-- A call of a template and one of a destructor, each a member. -/
def membersCalled : SourceUnit where
  path := "unit.cpp"
  dialect := .cpp
  source := .ofString "void f() \x7b a.g<int>(); b.~ S(); \x7d"
  tree :=
    .node ⟨"translation_unit", none, true, false, false, false, 0, 33⟩
      [.node ⟨"function_definition", none, true, false, false, false, 0, 33⟩
        [.node ⟨"primitive_type", some "type", true, false, false, false, 0, 4⟩ [],
         .node ⟨"function_declarator", some "declarator", true, false, false, false, 5, 8⟩
          [.node ⟨"identifier", some "declarator", true, false, false, false, 5, 6⟩ [],
           .node ⟨"parameter_list", some "parameters", true, false, false, false, 6, 8⟩
            [.node ⟨"(", none, false, false, false, false, 6, 7⟩ [],
             .node ⟨")", none, false, false, false, false, 7, 8⟩ []]],
         .node ⟨"compound_statement", some "body", true, false, false, false, 9, 33⟩
          [.node ⟨"\x7b", none, false, false, false, false, 9, 10⟩ [],
           .node ⟨"expression_statement", none, true, false, false, false, 11, 22⟩
            [.node ⟨"call_expression", none, true, false, false, false, 11, 21⟩
              [.node ⟨"field_expression", some "function", true, false, false, false, 11, 19⟩
                [.node ⟨"identifier", some "argument", true, false, false, false, 11, 12⟩ [],
                 .node ⟨".", some "operator", false, false, false, false, 12, 13⟩ [],
                 .node ⟨"template_method", some "field", true, false, false, false, 13, 19⟩
                  [.node ⟨"field_identifier", some "name", true, false, false, false, 13, 14⟩ [],
                   .node ⟨"template_argument_list", some "arguments", true, false, false, false,
                      14, 19⟩
                    [.node ⟨"<", none, false, false, false, false, 14, 15⟩ [],
                     .node ⟨"type_descriptor", none, true, false, false, false, 15, 18⟩
                      [.node ⟨"primitive_type", some "type", true, false, false, false, 15, 18⟩
                        []],
                     .node ⟨">", none, false, false, false, false, 18, 19⟩ []]]],
               .node ⟨"argument_list", some "arguments", true, false, false, false, 19, 21⟩
                [.node ⟨"(", none, false, false, false, false, 19, 20⟩ [],
                 .node ⟨")", none, false, false, false, false, 20, 21⟩ []]],
             .node ⟨";", none, false, false, false, false, 21, 22⟩ []],
           .node ⟨"expression_statement", none, true, false, false, false, 23, 31⟩
            [.node ⟨"call_expression", none, true, false, false, false, 23, 30⟩
              [.node ⟨"field_expression", some "function", true, false, false, false, 23, 28⟩
                [.node ⟨"identifier", some "argument", true, false, false, false, 23, 24⟩ [],
                 .node ⟨".", some "operator", false, false, false, false, 24, 25⟩ [],
                 .node ⟨"destructor_name", some "field", true, false, false, false, 25, 28⟩
                  [.node ⟨"~", none, false, false, false, false, 25, 26⟩ [],
                   .node ⟨"identifier", none, true, false, false, false, 27, 28⟩ []]],
               .node ⟨"argument_list", some "arguments", true, false, false, false, 28, 30⟩
                [.node ⟨"(", none, false, false, false, false, 28, 29⟩ [],
                 .node ⟨")", none, false, false, false, false, 29, 30⟩ []]],
             .node ⟨";", none, false, false, false, false, 30, 31⟩ []],
           .node ⟨"\x7d", none, false, false, false, false, 32, 33⟩ []]]]
  options := .standard

/-- The call of the destructor closes up its name, and the reference below the call does not. -/
theorem call_spelled_like_callee_membersCalled :
    ∃ c ∈ membersCalled.root.preorder, ∃ r ∈ membersCalled.root.preorder, ∃ name field : Node,
      (Place.root membersCalled.tree).follow? [0, 2, 2, 0] = some c.place ∧
      c.kind = .callExpr ∧ c.place.childIn? "function" = some r.place ∧
      (r.kind = .declRefExpr ∨ r.kind = .memberRefExpr) ∧
      r.place.node.calledName? = some name ∧
      (r.place.node.kind = "field_identifier" → r.place.node.childIn? "field" = none) ∧
      r.place.node.kind = "field_expression" ∧ r.place.node.childIn? "field" = some field ∧
      field.isOneOf Node.closedUpKinds = true ∧
      c.spelling = String.ofList (membersCalled.spellName name) ∧
      r.spelling = String.ofList (membersCalled.textOf name) := by
  have hcplace : (Place.root membersCalled.tree).follow? [0, 2, 2, 0] = some _ := rfl
  have hrplace : (Place.root membersCalled.tree).follow? [0, 2, 2, 0, 0] = some _ := rfl
  have hc : _ ∈ membersCalled.root.preorder :=
    mem_preorder_of_shown? (Place.In.root.of_follow? hcplace) rfl
  have hr : _ ∈ membersCalled.root.preorder :=
    mem_preorder_of_shown? (Place.In.root.of_follow? hrplace) rfl
  refine ⟨_, hc, _, hr, _, _, hcplace, rfl, rfl, .inr rfl, rfl, ?leaf, rfl, rfl, rfl,
    ((call_spelled_like_callee hc hr rfl rfl (.inr rfl) rfl ?leaf).2 _ rfl rfl).2.1 rfl⟩
  case leaf => exact fun h => absurd h (by decide)

/-- The template is called with its arguments in both spellings, and the two spellings for the
destructor are different. -/
theorem callee_misspelled_membersCalled :
    (¬∀ c ∈ membersCalled.root.preorder, c.kind = .callExpr → ∀ r ∈ membersCalled.root.preorder,
      c.place.childIn? "function" = some r.place →
      r.kind = .declRefExpr ∨ r.kind = .memberRefExpr →
      ∀ name, r.place.node.calledName? = some name →
      c.spelling = String.ofList (membersCalled.spellName name)) ∧
    ¬∀ c ∈ membersCalled.root.preorder, c.kind = .callExpr → ∀ r ∈ membersCalled.root.preorder,
      c.place.childIn? "function" = some r.place →
      r.kind = .declRefExpr ∨ r.kind = .memberRefExpr →
      ∀ name, r.place.node.calledName? = some name → c.spelling = r.spelling := by
  constructor
  · intro h
    have hcplace : (Place.root membersCalled.tree).follow? [0, 2, 1, 0] = some _ := rfl
    have hrplace : (Place.root membersCalled.tree).follow? [0, 2, 1, 0, 0] = some _ := rfl
    have hc : _ ∈ membersCalled.root.preorder :=
      mem_preorder_of_shown? (Place.In.root.of_follow? hcplace) rfl
    have hr : _ ∈ membersCalled.root.preorder :=
      mem_preorder_of_shown? (Place.In.root.of_follow? hrplace) rfl
    have hspelling := h _ hc rfl _ hr rfl (.inr rfl) _ rfl
    exact absurd (congrArg String.toList hspelling) (by decide)
  · intro h
    have hcplace : (Place.root membersCalled.tree).follow? [0, 2, 2, 0] = some _ := rfl
    have hrplace : (Place.root membersCalled.tree).follow? [0, 2, 2, 0, 0] = some _ := rfl
    have hc : _ ∈ membersCalled.root.preorder :=
      mem_preorder_of_shown? (Place.In.root.of_follow? hcplace) rfl
    have hr : _ ∈ membersCalled.root.preorder :=
      mem_preorder_of_shown? (Place.In.root.of_follow? hrplace) rfl
    have hspelling := h _ hc rfl _ hr rfl (.inr rfl) _ rfl
    exact absurd (congrArg String.toList hspelling) (by decide)

end SourceUnit

end CodeCursor
