import CodeCursor.Proofs.Surroundings

/-!
# Conditionals of the preprocessor

A conditional is written around a run of declarations or statements, together with some parts of
its own: its directive tokens and what it asks for.  It is flattened and its own parts are hidden,
so that only what it guards shows.
-/

namespace CodeCursor

/-- What a conditional consists of besides the nodes that it guards. -/
structure Guard where
  label : Label
  opening : List Node
  closing : List Node

namespace Guard

def kinds : List String :=
  ["preproc_if", "preproc_ifdef", "preproc_else"]

/-- The conditional around the nodes. -/
def around (g : Guard) (nodes : List Node) : Node :=
  .node g.label (g.opening ++ nodes ++ g.closing)

/-- Whether a node is a token, a condition, or the macro that the conditional asks for. -/
def Owns (g : Guard) (part : Node) : Prop :=
  part.label.named = false ∨ part.inField "condition" = true ∨
    (g.label.kind = "preproc_ifdef" ∧ part.inField "name" = true ∧ part.isName = true)

/-- The label of a conditional or of an alternative in one, with nothing but parts of its own. -/
structure IsGuard (g : Guard) : Prop where
  kind : g.label.kind ∈ kinds
  field : g.label.field = none ∨ g.label.field = some "alternative"
  named : g.label.named = true
  present : g.label.missing = false
  own : ∀ part ∈ g.opening ++ g.closing, g.Owns part

structure IsConditional (g : Guard) : Prop extends g.IsGuard where
  conditional : g.label.kind = "preproc_if" ∨ g.label.kind = "preproc_ifdef"
  unheld : g.label.field = none

structure IsAlternative (g : Guard) : Prop extends g.IsGuard where
  alternative : g.label.kind = "preproc_else"
  held : g.label.field = some "alternative"

variable {g : Guard}

@[simp] theorem label_around (g : Guard) (nodes : List Node) :
    (g.around nodes).label = g.label := rfl

theorem IsGuard.isSequence (hg : g.IsGuard) (nodes : List Node) :
    (g.around nodes).isSequence = true := by
  have hsub : ∀ kind ∈ kinds, kind ∈ Node.sequenceKinds := by decide
  exact Node.isOneOf_eq_true_iff.2 (hsub _ hg.kind)

theorem IsGuard.kind_ne_body (hg : g.IsGuard) (nodes : List Node) :
    ((g.around nodes).kind == "field_declaration_list") = false := by
  have hno : ∀ kind ∈ kinds, (kind == "field_declaration_list") = false := by decide
  exact hno _ hg.kind

theorem IsGuard.unheld (hg : g.IsGuard) (nodes : List Node) : (g.around nodes).Unheld := by
  have hno : ∀ field ∈ ["condition", "declarator", "name"], field ≠ "alternative" := by decide
  intro field hmem
  rw [Node.inField, Node.field, label_around]
  rcases hg.field with h | h
  · rw [h]
    rfl
  · rw [h, beq_eq_false_iff_ne]
    exact fun heq => hno field hmem (Option.some.inj heq).symm

/-- A conditional around nodes that are held in no field takes no declarators away. -/
theorem IsGuard.declaratorCount_around (hg : g.IsGuard) (label : Label)
    (before nodes after guarded : List Node) (hnodes : ∀ n ∈ nodes, n.field = none) :
    (Node.node label (before ++ g.around guarded :: after)).declaratorCount =
      (Node.node label (before ++ nodes ++ after)).declaratorCount := by
  have hguard : (g.around guarded).inField "declarator" = false := hg.unheld _ _ (by decide)
  have hnone : nodes.countP (·.inField "declarator") = 0 := by
    rw [List.countP_eq_zero]
    intro n hn
    rw [Node.Unheld.of_field (hnodes n hn) _ (by decide)]
    decide
  simp only [Node.declaratorCount, Node.children_node, List.countP_append, List.countP_cons,
    hguard, hnone]
  rfl

end Guard

namespace Place

variable {options : Options} {source : Source} {p : Place} {g : Guard}

theorem exposure_guard (hp : p.node.isSequence = true) (hg : g.IsGuard) (index : Nat)
    (nodes : List Node) :
    (p.below index (g.around nodes)).exposure options source = .flattened := by
  have hkind : (g.around nodes).kind ∈ Guard.kinds := hg.kind
  have hnamed : (g.around nodes).label.named = true := hg.named
  have hpresent : (g.around nodes).label.missing = false := hg.present
  rw [exposure_below_sequence _ _ hp (hg.unheld nodes), hnamed, hpresent, kindExposure,
    plainExposure, node_below, Node.directiveKind?, Node.fixedExposure]
  simp only [Guard.kinds, List.mem_cons, List.not_mem_nil, or_false] at hkind
  rcases hkind with h | h | h
  all_goals
    rw [h]
    rfl

/-- A part of its own is hidden in a conditional, wherever that stands. -/
theorem exposure_own (hg : g.IsGuard) {nodes : List Node} (hp : p.node = g.around nodes)
    {part : Node} (hpart : part ∈ g.opening ++ g.closing) (index : Nat) :
    (p.below index part).exposure options source = .hidden := by
  have hkind : p.node.kind = g.label.kind := by
    rw [hp]
    rfl
  rw [exposure_below]
  rcases hg.own part hpart with hown | hown | ⟨hifdef, hown, hisName⟩
  · rw [hown]
    rfl
  · have hbegins : ∀ kind ∈ Guard.kinds, Text.beginsWith kind "preproc_" = true := by decide
    have hcondition : (p.below index part).isCondition = true := by
      rw [isCondition, node_below, hown, parent?]
      exact hbegins _ (hkind ▸ hg.kind)
    simp [hcondition]
  · have hnames : (p.below index part).namesParent = true := by
      have hsequence : p.node.isSequence = true := hp ▸ hg.isSequence nodes
      rw [namesParent_below_sequence hsequence, hkind, hifdef, hown]
      rfl
    have hdeclarator : part.inField "declarator" = false := by
      rw [Node.inField, beq_iff_eq] at hown
      rw [Node.inField, hown]
      rfl
    simp [hnames, hisName, hdeclarator]

end Place

namespace SourceUnit

variable {u : SourceUnit} {kindOf : Cursor → CursorKind} {p : Place} {g : Guard}

/-- Of a conditional in a sequence only what it guards shows. -/
theorem sketches_guard (hp : p.node.isSequence = true) (hg : g.IsGuard) (index : Nat)
    (nodes : List Node) :
    u.sketches kindOf (p.below index (g.around nodes)) =
      u.sketchesAmong kindOf (p.below index (g.around nodes)) g.opening.length nodes := by
  have hown : ∀ part ∈ g.opening ++ g.closing, ∀ i,
      u.exposure ((p.below index (g.around nodes)).below i part) = .hidden :=
    fun part hpart i => Place.exposure_own hg rfl hpart i
  have hopening : u.sketchesAmong kindOf (p.below index (g.around nodes)) 0 g.opening = [] :=
    sketchesAmong_eq_nil fun part hpart => hown part (List.mem_append_left _ hpart)
  have hclosing : u.sketchesAmong kindOf (p.below index (g.around nodes))
      (0 + (g.opening ++ nodes).length) g.closing = [] :=
    sketchesAmong_eq_nil fun part hpart => hown part (List.mem_append_right _ hpart)
  have hchildren : (p.below index (g.around nodes)).node.children =
      g.opening ++ nodes ++ g.closing := rfl
  rw [sketches_eq, exposure, Place.exposure_guard hp hg]
  simp only
  rw [sketchesBelow, hchildren, sketchesAmong_append, sketchesAmong_append, hopening, hclosing,
    List.nil_append, List.append_nil, Nat.zero_add]

end SourceUnit

end CodeCursor
