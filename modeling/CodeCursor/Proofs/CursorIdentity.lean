import CodeCursor.Proofs.CursorTrees
import CodeCursor.Session

/-!
# Which cursors are the same

Two cursors are compared by their unit, their node and their kind, not by the way they were
reached.  The way does not matter: no node is reached by two paths of child indices, and a node is
exposed as one kind only, so the cursors of a unit are the same exactly if their paths are.
-/

namespace CodeCursor

theorem SessionCursor.same_iff {a b : SessionCursor} :
    a.same b = true ↔ a.unit = b.unit ∧ a.cursor.place.path = b.cursor.place.path ∧
      a.cursor.kind = b.cursor.kind := by
  simp only [same, Bool.and_eq_true, beq_iff_eq, and_assoc]

namespace Session

theorem cursor?_eq_some_iff {s : Session} {number : Nat} {path : List Nat} {a : SessionCursor} :
    s.cursor? number path = some a ↔
      ∃ u c, s.unit? number = some u ∧ u.root.at? path = some c ∧ a = ⟨number, c⟩ := by
  rw [cursor?]
  constructor
  · intro h
    obtain ⟨u, hu, h⟩ := Option.bind_eq_some_iff.1 h
    obtain ⟨c, hc, h⟩ := Option.bind_eq_some_iff.1 h
    exact ⟨u, c, hu, hc, (Option.some.inj h).symm⟩
  · rintro ⟨u, c, hu, hc, rfl⟩
    exact Option.bind_eq_some_iff.2 ⟨u, hu, Option.bind_eq_some_iff.2 ⟨c, hc, rfl⟩⟩

/-- Cursors that are reached in a session are the same exactly if they were reached in the same
unit by the same path.  Two cursors of one unit at one node are one cursor, whatever they are
exposed as, and no cursor is the same as one of another unit. -/
theorem same_iff_path_eq {s : Session} {m n : Nat} {p q : List Nat} {a b : SessionCursor}
    (ha : s.cursor? m p = some a) (hb : s.cursor? n q = some b) :
    (a.same b = true ↔ m = n ∧ p = q) ∧
    (m = n → a.cursor.place.path = b.cursor.place.path → p = q ∧ a = b) ∧
    (m ≠ n → a.same b = false) := by
  obtain ⟨u, c, hu, hc, rfl⟩ := cursor?_eq_some_iff.1 ha
  obtain ⟨v, d, hv, hd, rfl⟩ := cursor?_eq_some_iff.1 hb
  have hnode : m = n → c.place.path = d.place.path →
      p = q ∧ (⟨m, c⟩ : SessionCursor) = ⟨n, d⟩ := by
    rintro rfl hplace
    obtain rfl := Option.some.inj (hu.symm.trans hv)
    obtain rfl := Cursor.at?_injective hc hd hplace
    obtain rfl := Option.some.inj (hc.symm.trans hd)
    exact ⟨rfl, rfl⟩
  refine ⟨?_, hnode, ?_⟩
  · rw [SessionCursor.same_iff]
    constructor
    · rintro ⟨hunit, hplace, -⟩
      exact ⟨hunit, (hnode hunit hplace).1⟩
    · rintro ⟨rfl, rfl⟩
      obtain rfl := Option.some.inj (hu.symm.trans hv)
      obtain rfl := Option.some.inj (hc.symm.trans hd)
      exact ⟨rfl, rfl, rfl⟩
  · intro hunit
    rw [← Bool.not_eq_true, SessionCursor.same_iff]
    exact fun h => hunit h.1

end Session

/-- A text that declares one variable twice. -/
def SourceUnit.declaredTwice : SourceUnit where
  path := "unit.c"
  dialect := .c
  source := .ofString "int a;\nint a;"
  tree :=
    .node ⟨"translation_unit", none, true, false, false, false, 0, 13⟩
      [.node ⟨"declaration", none, true, false, false, false, 0, 6⟩
        [.node ⟨"primitive_type", some "type", true, false, false, false, 0, 3⟩ [],
         .node ⟨"identifier", some "declarator", true, false, false, false, 4, 5⟩ [],
         .node ⟨";", none, false, false, false, false, 5, 6⟩ []],
       .node ⟨"declaration", none, true, false, false, false, 7, 13⟩
        [.node ⟨"primitive_type", some "type", true, false, false, false, 7, 10⟩ [],
         .node ⟨"identifier", some "declarator", true, false, false, false, 11, 12⟩ [],
         .node ⟨";", none, false, false, false, false, 12, 13⟩ []]]
  options := .standard

namespace Session

/-- The text parsed twice, with a parse that failed in between. -/
def parsedTwice : Session :=
  ⟨.standard, [some .declaredTwice, none, some .declaredTwice]⟩

theorem same_iff_path_eq_parsedTwice :
    ∃ a b c, parsedTwice.cursor? 0 [0] = some a ∧ parsedTwice.cursor? 0 [1] = some b ∧
      parsedTwice.cursor? 2 [0] = some c ∧
      a.cursor.kind = b.cursor.kind ∧ a.cursor.place.path = c.cursor.place.path ∧
      a.same a = true ∧ ¬a.same b = true ∧ a.same c = false := by
  have ha : parsedTwice.cursor? 0 [0] = some _ := rfl
  have hb : parsedTwice.cursor? 0 [1] = some _ := rfl
  have hc : parsedTwice.cursor? 2 [0] = some _ := rfl
  refine ⟨_, _, _, ha, hb, hc, rfl, rfl, ?_, ?_, ?_⟩
  · exact (same_iff_path_eq ha ha).1.2 ⟨rfl, rfl⟩
  · intro hsame
    have hpath := ((same_iff_path_eq ha hb).1.1 hsame).2
    contradiction
  · exact (same_iff_path_eq ha hc).2.2 (by decide)

end Session

end CodeCursor
