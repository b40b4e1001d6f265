import CodeCursor.Naming.Declared
import CodeCursor.Proofs.Places

/-!
# Where a declared name stands

The declared name of a node is found by going inwards, from child to child.  Seen as a place, it is
the declared name of every place on the way: that of the parent of the name in particular, which
decides on its own whether the name is shown.
-/

namespace CodeCursor

namespace Node

theorem declaredNameAt_eq (nodes : List Node) (index : Nat) :
    declaredNameAt nodes index = nodes[index]?.bind declaredName := by
  induction nodes generalizing index with
  | nil => rfl
  | cons n rest ih =>
    cases index with
    | zero => rfl
    | succ index => exact ih index

theorem firstDeclaredName_eq_some {nodes : List Node} {start : Nat} {found : Descendant}
    (h : firstDeclaredName start nodes = some found) :
    ∃ (index : Nat) (child : Node) (inner : Descendant), nodes[index]? = some child ∧
      child.declaredName = some inner ∧ found = inner.under (start + index) := by
  induction nodes generalizing start with
  | nil => simp [firstDeclaredName] at h
  | cons n rest ih =>
    have later : firstDeclaredName (start + 1) rest = some found →
        ∃ (index : Nat) (child : Node) (inner : Descendant), (n :: rest)[index]? = some child ∧
          child.declaredName = some inner ∧ found = inner.under (start + index) := by
      intro h
      obtain ⟨index, child, inner, hc, hinner, rfl⟩ := ih h
      exact ⟨index + 1, child, inner, hc, hinner, by rw [Nat.add_assoc, Nat.add_comm 1]⟩
    rw [firstDeclaredName] at h
    split at h
    · split at h
      · rename_i inner hinner
        exact ⟨0, n, inner, rfl, hinner, (Option.some.inj h).symm⟩
      · exact later h
    · exact later h

theorem declaredName_of_nameRule {n : Node} {index : Nat}
    (h : n.nameRule = .nameOf (some index)) :
    n.declaredName = (n.children[index]?.bind declaredName).map (·.under index) := by
  obtain ⟨label, children⟩ := n
  rw [declaredName, h]
  simp only [declaredNameAt_eq, children_node]

/-- Kinds of nodes that do not look for their name in a field for declarators first. -/
def ownRuleKinds : List String :=
  nameKinds ++ classHeaderKinds ++ ["property_declaration", "struct_declaration",
    "atomic_declaration"]

theorem childIn?_eq_bind (n : Node) (field : String) :
    n.childIn? field = (n.indexIn? field).bind fun index => n.children[index]? :=
  List.find?_eq_bind_findIdx?_getElem?

/-- Any other node takes its name from its first declarator, if it holds one. -/
theorem nameRule_of_indexIn? {n : Node} {index : Nat} (hkind : n.isOneOf ownRuleKinds = false)
    (hindex : n.indexIn? "declarator" = some index) : n.nameRule = .nameOf (some index) := by
  have hnot : ∀ kinds : List String, kinds ⊆ ownRuleKinds → n.isOneOf kinds = false := by
    intro kinds hsub
    rw [← Bool.not_eq_true] at hkind ⊢
    exact fun h => hkind (isOneOf_mono h hsub)
  have hne : ∀ kind ∈ ownRuleKinds, (n.kind == kind) = false := by
    intro kind hmem
    have hone := hnot [kind] (by simpa using hmem)
    simpa [isOneOf] using hone
  rw [nameRule, hnot simpleNameKinds (by decide), hnot composedNameKinds (by decide), isCategory,
    hnot classHeaderKinds (by decide), hne _ (by decide), hne _ (by decide), hne _ (by decide),
    hindex]
  rfl

theorem nameRule_eq_itself_iff {n : Node} :
    n.nameRule = .itself ↔ n.isOneOf simpleNameKinds = true := by
  constructor
  · intro h
    by_contra hnot
    rw [nameRule, if_neg hnot] at h
    split_ifs at h
    split at h
    · contradiction
    · contradiction
  · intro h
    rw [nameRule, if_pos h]

/-- A simple name is its own declared name. -/
theorem declaredName_eq_self {n : Node} (h : n.isOneOf simpleNameKinds = true) :
    n.declaredName = some ⟨[], n⟩ := by
  obtain ⟨label, children⟩ := n
  rw [declaredName, nameRule_eq_itself_iff.2 h]

/-- A node that takes its name from a child has the same name as the child. -/
theorem declaredName_node_of_nameRule {n d : Node} {index : Nat}
    (hrule : n.nameRule = .nameOf (some index)) (hd : n.children[index]? = some d) :
    n.declaredName.map (·.node) = d.declaredName.map (·.node) := by
  rw [declaredName_of_nameRule hrule, hd, Option.bind_some, Option.map_map]
  rfl

/-- Whether some nodes take the child as their name as it is, without asking what names it. -/
def isTakenAsName (child : Node) : Bool :=
  child.inField "category" || child.kind == "field_identifier"

theorem isTakenAsName_of_nameRule {n child : Node} {index : Nat}
    (hrule : n.nameRule = .child (some index)) (hc : n.children[index]? = some child) :
    child.isTakenAsName = true := by
  have found : ∀ holds : Node → Bool, n.children.findIdx? holds = some index →
      holds child = true := by
    intro holds hindex
    obtain ⟨hlt, hholds, -⟩ := List.findIdx?_eq_some_iff_getElem.1 hindex
    rw [List.getElem?_eq_getElem hlt] at hc
    rwa [Option.some.inj hc] at hholds
  rw [isTakenAsName, Bool.or_eq_true]
  rw [nameRule] at hrule
  split_ifs at hrule
  · exact .inl (found _ (NameRule.child.inj hrule))
  · have hkind := found _ (NameRule.child.inj hrule)
    simp only [isOneOf, Bool.and_eq_true, List.contains_cons, List.contains_nil,
      Bool.or_false] at hkind
    exact .inr hkind.2
  · split at hrule
    · contradiction
    · contradiction

/-- The declared name of a node is the node itself, a child taken as it is, or the declared name
of a child. -/
theorem declaredName_cases {n : Node} {found : Descendant} (h : n.declaredName = some found) :
    (n.nameRule = .itself ∧ found = ⟨[], n⟩) ∨
      ∃ index child, n.children[index]? = some child ∧
        ((child.isTakenAsName = true ∧ found = ⟨[index], child⟩) ∨
          ∃ inner, child.declaredName = some inner ∧ found = inner.under index) := by
  obtain ⟨label, children⟩ := n
  rw [declaredName] at h
  cases hrule : (node label children).nameRule with
  | itself =>
    rw [hrule] at h
    exact .inl ⟨rfl, (Option.some.inj h).symm⟩
  | nameOf index =>
    rw [hrule] at h
    cases index with
    | none => simp at h
    | some index =>
      simp only [declaredNameAt_eq] at h
      obtain ⟨inner, hinner, rfl⟩ := Option.map_eq_some_iff.1 h
      obtain ⟨child, hc, hinner⟩ := Option.bind_eq_some_iff.1 hinner
      exact .inr ⟨index, child, hc, .inr ⟨inner, hinner, rfl⟩⟩
  | child index =>
    rw [hrule] at h
    obtain ⟨i, rfl, hi⟩ := Option.bind_eq_some_iff.1 h
    obtain ⟨child, hc, rfl⟩ := Option.map_eq_some_iff.1 hi
    exact .inr ⟨i, child, hc, .inl ⟨isTakenAsName_of_nameRule hrule hc, rfl⟩⟩
  | firstNamed =>
    rw [hrule] at h
    obtain ⟨index, child, inner, hc, hinner, rfl⟩ := firstDeclaredName_eq_some h
    exact .inr ⟨index, child, hc, .inr ⟨inner, hinner, by rw [Nat.zero_add]⟩⟩

/-- The path that is returned with a declared name leads to it. -/
theorem at?_declaredName {n : Node} {found : Descendant} (h : n.declaredName = some found) :
    n.at? found.path = some found.node := by
  rcases declaredName_cases h with
    ⟨-, rfl⟩ | ⟨index, child, hc, ⟨-, rfl⟩ | ⟨inner, hinner, rfl⟩⟩
  · rfl
  · rw [at?, hc]
    rfl
  · rw [Descendant.under, at?, hc]
    exact at?_declaredName hinner
termination_by n.size
decreasing_by exact size_lt_of_mem (List.mem_of_getElem? hc)

end Node

namespace Place

theorem child?_eq_some_iff {p q : Place} {index : Nat} :
    p.child? index = some q ↔
      ∃ child, p.node.children[index]? = some child ∧ q = p.below index child := by
  simp only [child?, Option.map_eq_some_iff, eq_comm (a := q)]

theorem mem_children_iff_child? {p q : Place} :
    q ∈ p.children ↔ ∃ index, p.child? index = some q := by
  simp only [mem_children_iff, child?_eq_some_iff]

theorem getElem?_children (p : Place) (index : Nat) : p.children[index]? = p.child? index := by
  rw [children, List.getElem?_map, List.getElem?_zipIdx, Option.map_map, child?]
  simp only [Nat.zero_add]
  rfl

/-- The first child held under a field of the given name. -/
def childIn? (p : Place) (field : String) : Option Place :=
  p.children.find? (·.node.inField field)

theorem childIn?_eq_some {p q : Place} {field : String} (h : p.childIn? field = some q) :
    q ∈ p.children ∧ q.node.inField field = true :=
  ⟨List.mem_of_find?_eq_some h, (List.find?_eq_some_iff_append.1 h).1⟩

theorem node_childIn? (p : Place) (field : String) :
    p.node.childIn? field = (p.childIn? field).map node := by
  rw [Node.childIn?, ← children_map_node, List.find?_map]
  rfl

theorem childIn?_eq_bind (p : Place) (field : String) :
    p.childIn? field = (p.node.indexIn? field).bind p.child? := by
  rw [childIn?, List.find?_eq_bind_findIdx?_getElem?, Node.indexIn?, ← children_map_node,
    List.findIdx?_map]
  exact congrArg _ (funext p.getElem?_children)

/-- The place reached from another one by a list of child indices. -/
def follow? (p : Place) : List Nat → Option Place
  | [] => some p
  | index :: path => (p.child? index).bind (·.follow? path)

theorem follow?_spec {p q : Place} {path : List Nat} (h : p.follow? path = some q) :
    q.path = p.path ++ path ∧ p.node.at? path = some q.node := by
  induction path generalizing p with
  | nil =>
    obtain rfl := Option.some.inj h
    exact ⟨(List.append_nil _).symm, rfl⟩
  | cons index path ih =>
    obtain ⟨c, hc, h⟩ := Option.bind_eq_some_iff.1 h
    obtain ⟨child, hchild, rfl⟩ := child?_eq_some_iff.1 hc
    obtain ⟨hpath, hnode⟩ := ih h
    rw [path_below, List.append_assoc] at hpath
    exact ⟨hpath, by rw [Node.at?, hchild]; exact hnode⟩

theorem exists_follow? {p : Place} {path : List Nat} {n : Node} (h : p.node.at? path = some n) :
    ∃ q, p.follow? path = some q ∧ q.node = n := by
  induction path generalizing p with
  | nil => exact ⟨p, rfl, Option.some.inj h⟩
  | cons index path ih =>
    obtain ⟨child, hchild, h⟩ := Option.bind_eq_some_iff.1 h
    obtain ⟨q, hq, hnode⟩ := @ih (p.below index child) h
    have hc : p.child? index = some (p.below index child) :=
      child?_eq_some_iff.2 ⟨child, hchild, rfl⟩
    exact ⟨q, Option.bind_eq_some_iff.2 ⟨_, hc, hq⟩, hnode⟩

theorem mem_preorder_of_follow? {p q : Place} {path : List Nat} (h : p.follow? path = some q) :
    q ∈ p.preorder := by
  induction path generalizing p with
  | nil =>
    obtain rfl := Option.some.inj h
    exact p.self_mem_preorder
  | cons index path ih =>
    obtain ⟨c, hc, h⟩ := Option.bind_eq_some_iff.1 h
    exact mem_preorder_iff.2 (.inr ⟨c, mem_children_iff_child?.2 ⟨index, hc⟩, ih h⟩)

theorem In.of_follow? {tree : Node} {p q : Place} {path : List Nat} (hp : p.In tree)
    (h : p.follow? path = some q) : q.In tree :=
  hp.of_mem_preorder (mem_preorder_of_follow? h)

/-- The place of the declared name of a node. -/
def declaredPlace? (p : Place) : Option Place :=
  p.node.declaredName.bind fun found => p.follow? found.path

theorem declaredPlace?_eq_self {p : Place} (h : p.node.isOneOf Node.simpleNameKinds = true) :
    p.declaredPlace? = some p := by
  rw [declaredPlace?, Node.declaredName_eq_self h]
  rfl

theorem declaredPlace?_cases {p q : Place} (h : p.declaredPlace? = some q) :
    (p.node.nameRule = .itself ∧ q = p) ∨
      ∃ c ∈ p.children, (c.node.isTakenAsName = true ∧ q = c) ∨ c.declaredPlace? = some q := by
  obtain ⟨found, hfound, hq⟩ := Option.bind_eq_some_iff.1 h
  rcases Node.declaredName_cases hfound with ⟨hrule, rfl⟩ | ⟨index, child, hc, hcase⟩
  · exact .inl ⟨hrule, (Option.some.inj hq).symm⟩
  · have hchild : p.child? index = some (p.below index child) :=
      child?_eq_some_iff.2 ⟨child, hc, rfl⟩
    refine .inr ⟨p.below index child, mem_children_iff_child?.2 ⟨index, hchild⟩, ?_⟩
    rcases hcase with ⟨htaken, rfl⟩ | ⟨inner, hinner, rfl⟩
    · left
      rw [follow?, hchild] at hq
      exact ⟨htaken, (Option.some.inj hq).symm⟩
    · right
      rw [Descendant.under, follow?, hchild] at hq
      exact Option.bind_eq_some_iff.2 ⟨inner, hinner, hq⟩

/-- What a place takes its name from has the same name, if either has one. -/
theorem declaredPlace?_eq_of_nameRule {p c : Place} {index : Nat}
    (hrule : p.node.nameRule = .nameOf (some index)) (hc : p.child? index = some c) :
    p.declaredPlace? = c.declaredPlace? := by
  obtain ⟨child, hchild, rfl⟩ := child?_eq_some_iff.1 hc
  rw [declaredPlace?, declaredPlace?, node_below, Node.declaredName_of_nameRule hrule, hchild,
    Option.bind_some]
  cases child.declaredName with
  | none => rfl
  | some inner =>
    simp only [Option.map_some, Option.bind_some, Descendant.under, follow?]
    rw [hc]
    rfl

theorem declaredPlace?_of_nameRule {p c q : Place} {index : Nat}
    (hrule : p.node.nameRule = .nameOf (some index)) (hc : p.child? index = some c)
    (h : c.declaredPlace? = some q) : p.declaredPlace? = some q :=
  (declaredPlace?_eq_of_nameRule hrule hc).trans h

/-- The parent of a declared name has it as its declared name. -/
theorem exists_parent_of_declaredPlace? {p q : Place} (h : p.declaredPlace? = some q)
    (hne : q ≠ p) : ∃ holder : Place, q ∈ holder.children ∧ holder.declaredPlace? = some q := by
  induction p using Place.induction with
  | step p ih =>
    rcases declaredPlace?_cases h with ⟨-, heq⟩ | ⟨c, hc, ⟨-, rfl⟩ | hcq⟩
    · exact absurd heq hne
    · exact ⟨p, hc, h⟩
    · by_cases heq : q = c
      · subst heq
        exact ⟨p, hc, h⟩
      · exact ih c hc hcq heq

theorem declaredPlace?_mem_preorder {p q : Place} (h : p.declaredPlace? = some q) :
    q ∈ p.preorder := by
  obtain ⟨found, -, hfollow⟩ := Option.bind_eq_some_iff.1 h
  exact mem_preorder_of_follow? hfollow

/-- A declared name is a name itself, or stands below what it names. -/
theorem mem_ancestors_of_declaredPlace? {p q : Place} (h : p.declaredPlace? = some q)
    (hkind : p.node.isOneOf Node.simpleNameKinds = false) : p ∈ q.ancestors := by
  rcases declaredPlace?_cases h with ⟨hrule, -⟩ | ⟨c, hc, hcase⟩
  · rw [Node.nameRule_eq_itself_iff.1 hrule] at hkind
    contradiction
  · have hq : q ∈ c.preorder := by
      rcases hcase with ⟨-, rfl⟩ | hcq
      · exact q.self_mem_preorder
      · exact declaredPlace?_mem_preorder hcq
    exact mem_ancestors_of_below hc hq

end Place

end CodeCursor
