import CodeCursor.Proofs.DeclaredNames

/-!
# The way to a declared name

The search for the declared name of a node asks children, which ask children of their own.  It is
repeated here with a bound on how deep it may go, so that a search that has not ended is told from
one that found nothing: no search goes deeper than there are nodes below it.  A search that finds
a name hands it up unchanged, from one child to its parent at a time, so that the same name is
found from every node on the way, and the last of them is a simple name.
-/

namespace CodeCursor

namespace Node

/-- The first name that a search finds among the children that can name their parent.  A child
whose search has not ended leaves the whole without an answer.  The children are counted from the
given index. -/
def firstNameBy (search : Node → Option (Option Descendant)) (index : Nat) :
    List Node → Option (Option Descendant)
  | [] => some none
  | child :: rest =>
    if child.canName then
      match search child with
      | none => none
      | some (some found) => some (some (found.under index))
      | some none => firstNameBy search (index + 1) rest
    else firstNameBy search (index + 1) rest

/-- The declared name by a search that may go through so many nodes on the way down.  Without an
answer the search has not ended. -/
def declaredNameWithin : Nat → Node → Option (Option Descendant)
  | 0, _ => none
  | depth + 1, n =>
    match n.nameRule with
    | .itself => some (some ⟨[], n⟩)
    | .nameOf none => some none
    | .nameOf (some index) =>
      match n.children[index]? with
      | none => some none
      | some child => (declaredNameWithin depth child).map (·.map (·.under index))
    | .child index => some (index.bind fun i => n.children[i]?.map (⟨[i], ·⟩))
    | .firstNamed => firstNameBy (declaredNameWithin depth) 0 n.children

theorem firstNameBy_eq {search : Node → Option (Option Descendant)} {nodes : List Node}
    (h : ∀ child ∈ nodes, search child = some child.declaredName) (index : Nat) :
    firstNameBy search index nodes = some (firstDeclaredName index nodes) := by
  induction nodes generalizing index with
  | nil => rfl
  | cons child rest ih =>
    have hrest := ih (fun c hc => h c (List.mem_cons_of_mem _ hc)) (index + 1)
    rw [firstNameBy, firstDeclaredName, h child List.mem_cons_self, hrest]
    split
    · cases child.declaredName with
      | none => rfl
      | some found => rfl
    · rfl

/-- A search that may go through as many nodes as there are has ended, with the declared name. -/
theorem declaredNameWithin_eq {depth : Nat} {n : Node} (h : n.size ≤ depth) :
    declaredNameWithin depth n = some n.declaredName := by
  induction depth generalizing n with
  | zero => exact absurd n.size_pos (Nat.not_lt.2 h)
  | succ depth ih =>
    have below : ∀ child ∈ n.children, declaredNameWithin depth child = some child.declaredName :=
      fun child hc => ih (Nat.le_of_lt_succ ((size_lt_of_mem hc).trans_le h))
    obtain ⟨label, children⟩ := n
    rw [declaredNameWithin, declaredName]
    cases (node label children).nameRule with
    | itself => rfl
    | nameOf index =>
      cases index with
      | none => rfl
      | some index =>
        simp only [declaredNameAt_eq, children_node]
        cases hc : children[index]? with
        | none => rfl
        | some child =>
          simp only [Option.bind_some]
          rw [below child (List.mem_of_getElem? hc)]
          rfl
    | child index => rfl
    | firstNamed => exact firstNameBy_eq below 0

/-- No node of the tree holds anything but an identifier under the field `category`. -/
def HasPlainCategories (tree : Node) : Prop :=
  ∀ p ∈ tree.places, ∀ child ∈ p.node.children,
    child.inField "category" = true → child.kind = "identifier"

instance (tree : Node) : Decidable tree.HasPlainCategories :=
  inferInstanceAs (Decidable (∀ p ∈ tree.places, ∀ child ∈ p.node.children,
    child.inField "category" = true → child.kind = "identifier"))

theorem HasPlainCategories.isOneOf {tree child : Node} (h : tree.HasPlainCategories) {p : Place}
    (hp : p.In tree) (hc : child ∈ p.node.children) (htaken : child.isTakenAsName = true) :
    child.isOneOf simpleNameKinds = true := by
  rw [isOneOf_eq_true_iff]
  rcases Bool.or_eq_true_iff.1 htaken with hcategory | hfield
  · rw [h p (mem_places_iff.2 hp) child hc hcategory]
    decide
  · rw [beq_iff_eq.1 hfield]
    decide

end Node

namespace Place

section Plain

variable {tree : Node} (hplain : tree.HasPlainCategories)
include hplain

/-- A name is found at a simple name, or it is the name of a child. -/
theorem declaredPlace?_cases_of_plain {p q : Place} (hp : p.In tree)
    (h : p.declaredPlace? = some q) :
    (p.node.isOneOf Node.simpleNameKinds = true ∧ q = p) ∨
      ∃ c ∈ p.children, c.declaredPlace? = some q := by
  rcases declaredPlace?_cases h with ⟨hitself, heq⟩ | ⟨c, hc, ⟨htaken, rfl⟩ | hcq⟩
  · exact .inl ⟨Node.nameRule_eq_itself_iff.1 hitself, heq⟩
  · obtain ⟨index, child, hchild, rfl⟩ := mem_children_iff.1 hc
    have hsimple := hplain.isOneOf hp (List.mem_of_getElem? hchild) htaken
    exact .inr ⟨_, hc, declaredPlace?_eq_self hsimple⟩
  · exact .inr ⟨c, hc, hcq⟩

theorem isOneOf_of_declaredPlace? {p name : Place} (hp : p.In tree)
    (h : p.declaredPlace? = some name) : name.node.isOneOf Node.simpleNameKinds = true := by
  induction p using Place.induction with
  | step p ih =>
    rcases declaredPlace?_cases_of_plain hplain hp h with ⟨hsimple, rfl⟩ | ⟨c, hc, hcname⟩
    · exact hsimple
    · exact ih c hc (hp.of_mem_children hc) hcname

theorem declaredPlace?_of_between {p q name : Place} (hp : p.In tree)
    (h : p.declaredPlace? = some name) (hq : q ∈ p.preorder) (hname : name ∈ q.preorder) :
    q.declaredPlace? = some name := by
  induction p using Place.induction with
  | step p ih =>
    rcases mem_preorder_iff.1 hq with rfl | ⟨d, hd, hqd⟩
    · exact h
    · have hbelow : name ∈ d.preorder := mem_preorder_trans hqd hname
      rcases declaredPlace?_cases_of_plain hplain hp h with ⟨-, rfl⟩ | ⟨c, hc, hcname⟩
      · -- The name is the place itself, which does not lie below its own child.
        have hlt := size_lt_of_mem_children hd
        have hle := size_le_of_mem_preorder hbelow
        omega
      · -- The child on the way is the one that the name was found from.
        obtain rfl := eq_of_mem_children hc hd (declaredPlace?_mem_preorder hcname) hbelow
        exact ih c hc (hp.of_mem_children hc) hcname hqd

end Plain

/-- The search for the declared name of a place ends, and if it finds a name, this is a simple
name at or below the place, and the declared name of each place on the way down to it. -/
theorem declared_name_on_way {tree : Node} (hplain : tree.HasPlainCategories) {p : Place}
    (hp : p.In tree) :
    (∀ depth, p.node.size ≤ depth →
      p.node.declaredNameWithin depth = some p.node.declaredName) ∧
    ∀ found, p.node.declaredName = some found →
      ∃ name, p.follow? found.path = some name ∧ name.node = found.node ∧ name ∈ p.preorder ∧
        name.node.isOneOf Node.simpleNameKinds = true ∧
        ∀ q ∈ p.preorder, name ∈ q.preorder → q.declaredPlace? = some name := by
  refine ⟨fun depth hdepth => Node.declaredNameWithin_eq hdepth, ?_⟩
  intro found hfound
  obtain ⟨name, hname, hnode⟩ := exists_follow? (Node.at?_declaredName hfound)
  have hplace : p.declaredPlace? = some name := Option.bind_eq_some_iff.2 ⟨found, hfound, hname⟩
  refine ⟨name, hname, hnode, declaredPlace?_mem_preorder hplace, ?_, ?_⟩
  · exact isOneOf_of_declaredPlace? hplain hp hplace
  · intro q hq hbelow
    exact declaredPlace?_of_between hplain hp hplace hq hbelow

end Place

/-- A category with a property. -/
def Node.tagged : Node :=
  .node ⟨"translation_unit", none, true, false, false, false, 0, 39⟩
    [.node ⟨"class_interface", none, true, false, false, false, 0, 39⟩
      [.node ⟨"@interface", none, false, false, false, false, 0, 10⟩ [],
       .node ⟨"identifier", none, true, false, false, false, 11, 12⟩ [],
       .node ⟨"(", none, false, false, false, false, 13, 14⟩ [],
       .node ⟨"identifier", some "category", true, false, false, false, 14, 17⟩ [],
       .node ⟨")", none, false, false, false, false, 17, 18⟩ [],
       .node ⟨"property_declaration", none, true, false, false, false, 19, 34⟩
        [.node ⟨"@property", none, false, false, false, false, 19, 28⟩ [],
         .node ⟨"struct_declaration", none, true, false, false, false, 29, 34⟩
          [.node ⟨"typedefed_specifier", none, true, false, false, false, 29, 31⟩
            [.node ⟨"id", none, false, false, false, false, 29, 31⟩ []],
           .node ⟨"struct_declarator", none, true, false, false, false, 32, 33⟩
            [.node ⟨"identifier", none, true, false, false, false, 32, 33⟩ []],
           .node ⟨";", none, false, false, false, false, 33, 34⟩ []]],
       .node ⟨"@end", none, false, false, false, false, 35, 39⟩ []]]

namespace Place

/-- The property and its declarator have the same name, and the category is named by its tag. -/
theorem declared_name_on_way_tagged :
    Node.tagged.HasPlainCategories ∧ ∃ header tag property declarator name : Place,
      (root Node.tagged).follow? [0] = some header ∧
      (root Node.tagged).follow? [0, 3] = some tag ∧
      (root Node.tagged).follow? [0, 5] = some property ∧
      (root Node.tagged).follow? [0, 5, 1, 1] = some declarator ∧
      (root Node.tagged).follow? [0, 5, 1, 1, 0] = some name ∧
      header.declaredPlace? = some tag ∧ property.declaredPlace? = some name ∧
      declarator.declaredPlace? = some name := by
  have hplain : Node.tagged.HasPlainCategories := by decide
  have hheader : (root Node.tagged).follow? [0] = some _ := rfl
  have hproperty : (root Node.tagged).follow? [0, 5] = some _ := rfl
  obtain ⟨-, htag⟩ := declared_name_on_way hplain (In.root.of_follow? hheader)
  obtain ⟨-, hname⟩ := declared_name_on_way hplain (In.root.of_follow? hproperty)
  obtain ⟨tag, hfollowTag, -, hbelowTag, -, hwayTag⟩ := htag _ rfl
  obtain ⟨name, hfollow, -, hbelow, -, hway⟩ := hname _ rfl
  have hdeclarator : (root Node.tagged).follow? [0, 5, 1, 1] = some _ := rfl
  refine ⟨hplain, _, tag, _, _, name, hheader, hfollowTag, hproperty, hdeclarator, hfollow, ?_⟩
  refine ⟨hwayTag _ (self_mem_preorder _) hbelowTag, hway _ (self_mem_preorder _) hbelow, ?_⟩
  exact hway _ (@mem_preorder_of_follow? _ _ [1, 1] rfl)
    (@mem_preorder_of_follow? _ _ [0] hfollow)

end Place

end CodeCursor
