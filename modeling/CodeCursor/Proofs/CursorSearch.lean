import CodeCursor.Proofs.Visits

/-!
# Searching below a cursor

The search for a spelling is a visit that stops at a cursor with this spelling and enters any
other.  It never skips, so the cursors it visits are a beginning of the preorder, and it ends at
the first cursor that has the spelling.
-/

namespace CodeCursor

namespace Cursor

theorem reachable_of_all (cs : List Cursor) : reachable (fun _ => True) cs = forest cs := by
  rw [reachable, List.filter_eq_self]
  simp [IsOpen]

section

variable {Record : Type} (visitor : Visitor Record) {holds : Record → Prop}

theorem keeps_cons (hstep : ∀ record c parent, holds record → holds (visitor record c parent).2)
    {parent c : Cursor} {rest : List Cursor}
    (hbelow : ∀ record, holds record → holds (visitSiblings visitor c record c.children).2)
    (hrest : ∀ record, holds record → holds (visitSiblings visitor parent record rest).2)
    {record : Record} (h : holds record) :
    holds (visitSiblings visitor parent record (c :: rest)).2 := by
  have hnext := hstep record c parent h
  obtain ⟨⟨verdict, next⟩, hanswer⟩ : ∃ answer, visitor record c parent = answer := ⟨_, rfl⟩
  simp only [visitSiblings_cons, hanswer] at hnext ⊢
  cases verdict with
  | stop => exact hnext
  | skip => exact hrest next hnext
  | enter =>
    have hlast := hbelow next hnext
    obtain ⟨⟨stopped, last⟩, hinner⟩ :
      ∃ inner, visitSiblings visitor c next c.children = inner := ⟨_, rfl⟩
    simp only [hinner] at hlast ⊢
    cases stopped with
    | true => exact hlast
    | false => exact hrest last hlast

/-- What each answer of a visitor keeps of its record, a whole visit keeps. -/
theorem visit_keeps (hstep : ∀ record c parent, holds record → holds (visitor record c parent).2)
    (c : Cursor) (record : Record) (h : holds record) : holds (c.visit visitor record).2 := by
  have hsiblings : ∀ c : Cursor, ∀ record, holds record →
      holds (visitSiblings visitor c record c.children).2 := by
    intro c
    induction c using Cursor.induction with
    | step c ih =>
      suffices hall : ∀ rest : List Cursor,
          (∀ d ∈ rest, ∀ record, holds record →
            holds (visitSiblings visitor d record d.children).2) →
          ∀ record, holds record → holds (visitSiblings visitor c record rest).2 from
        hall c.children ih
      intro rest hrest
      induction rest with
      | nil => exact fun _ h => h
      | cons d rest ihRest =>
        obtain ⟨hd, hrest⟩ := List.forall_mem_cons.1 hrest
        exact fun _ h => keeps_cons visitor hstep hd (ihRest hrest) h
  rw [visit_eq]
  exact hsiblings c record h

end

variable {spelling : String}

/-- What a search has found and the calls it has made: each call is answered by the spelling of its
cursor, and the last cursor that has the spelling is found. -/
structure Searched (spelling : String) (found : Option Cursor) (calls : List VisitorCall) :
    Prop where
  verdicts : ∀ call ∈ calls,
    call.verdict = if call.cursor.spelling = spelling then .stop else .enter
  found : found = ((calls.map VisitorCall.cursor).filter (·.spelling == spelling)).getLast?

theorem searched_step (state : Option Cursor × List VisitorCall) (c parent : Cursor)
    (h : Searched spelling state.1 state.2) :
    let next := ((finder spelling).logged state c parent).2
    Searched spelling next.1 next.2 := by
  obtain ⟨found, calls⟩ := state
  have hverdict : (finder spelling found c parent).1 =
      if c.spelling = spelling then .stop else .enter := by
    rw [finder]
    split <;> rfl
  constructor
  · intro call hcall
    rcases List.mem_append.1 hcall with hcall | hcall
    · exact h.verdicts call hcall
    · rw [List.mem_singleton.1 hcall]
      exact hverdict
  · have hfound := h.found
    simp only [Visitor.logged, finder, List.map_append, List.filter_append]
    split
    · rename_i hc
      simp [hc]
    · rename_i hc
      simpa [hc] using hfound

theorem searched (c : Cursor) (spelling : String) :
    Searched spelling (c.find? spelling) (c.calls (finder spelling) none) := by
  have hkept := visit_keeps (finder spelling).logged searched_step c (none, []) ⟨by simp, rfl⟩
  rw [(c.calls_spec (finder spelling) none).1] at hkept
  exact hkept

/-- The search goes through the preorder and ends there, or at the first cursor with the
spelling. -/
inductive SearchOutcome (c : Cursor) (spelling : String) : Prop
  | missing (stopped : (c.visit (finder spelling) none).1 = false)
      (others : ∀ d ∈ c.below, d.spelling ≠ spelling)
      (visited : (c.calls (finder spelling) none).map VisitorCall.cursor = c.below)
  | found (stopped : (c.visit (finder spelling) none).1 = true)
      (before : List Cursor) (d : Cursor) (after : List Cursor)
      (below : c.below = before ++ d :: after) (others : ∀ e ∈ before, e.spelling ≠ spelling)
      (spelled : d.spelling = spelling)
      (visited : (c.calls (finder spelling) none).map VisitorCall.cursor = before ++ [d])

theorem searchOutcome (c : Cursor) (spelling : String) : SearchOutcome c spelling := by
  have hverdicts := (c.searched spelling).verdicts
  have hvisits := (c.calls_spec (finder spelling) none).2
  obtain ⟨missed, hbelow, hmissed⟩ := hvisits.exists_missed (fun _ => True)
    c.forest_children_sorted (by
      intro call hcall hgoing
      rw [hverdicts call hcall] at hgoing ⊢
      split_ifs at hgoing ⊢ with hspelled
      · contradiction
      · simp)
  have hstops : ∀ call ∈ c.calls (finder spelling) none,
      call.verdict = .stop ↔ call.cursor.spelling = spelling := by
    intro call hcall
    rw [hverdicts call hcall]
    split_ifs with hspelled
    · simp [hspelled]
    · simp [hspelled]
  rw [reachable_of_all, ← below_eq_forest] at hbelow
  cases hstopped : (c.visit (finder spelling) none).1 with
  | false =>
    rw [hmissed hstopped, List.append_nil] at hbelow
    refine .missing hstopped ?_ hbelow.symm
    rw [hbelow]
    intro d hd
    obtain ⟨call, hcall, rfl⟩ := List.mem_map.1 hd
    rw [hstopped] at hvisits
    exact fun hspelled => hvisits.not_stop_of_going call hcall ((hstops call hcall).2 hspelled)
  | true =>
    obtain ⟨call, hcall, hstop⟩ := hvisits.stopped_iff.1 hstopped
    have hlast := hvisits.last_stops
    obtain ⟨before, after, hcalls⟩ := List.append_of_mem hcall
    rw [hcalls, List.pairwise_append, List.pairwise_cons] at hlast
    -- Nothing is called after the call that stops the visit.
    obtain rfl : after = [] := List.eq_nil_iff_forall_not_mem.2 fun e he =>
      hlast.2.1.1 e he hstop
    rw [hcalls] at hbelow hstops
    refine .found hstopped (before.map VisitorCall.cursor) call.cursor missed ?_ ?_ ?_ ?_
    · simpa using hbelow
    · intro e he
      obtain ⟨other, hother, rfl⟩ := List.mem_map.1 he
      intro hspelled
      exact hlast.2.2 other hother call List.mem_cons_self
        ((hstops other (List.mem_append_left _ hother)).2 hspelled)
    · exact (hstops call (by simp)).1 hstop
    · rw [hcalls, List.map_append]
      rfl

theorem search_eq (c : Cursor) (spelling : String) :
    c.find? spelling = c.below.find? (·.spelling == spelling) ∧
    (c.visit (finder spelling) none).1 = (c.find? spelling).isSome ∧
    (c.calls (finder spelling) none).map VisitorCall.cursor =
      c.below.take (c.below.findIdx (·.spelling == spelling) + 1) := by
  have hlast := (c.searched spelling).found
  cases c.searchOutcome spelling with
  | missing stopped others visited =>
    have hnone : ∀ d ∈ c.below, ¬(d.spelling == spelling) = true := by simpa using others
    have hfind : c.find? spelling = none := by
      rw [hlast, visited, List.filter_eq_nil_iff.2 hnone]
      rfl
    have hindex : c.below.findIdx (·.spelling == spelling) = c.below.length :=
      List.findIdx_eq_length.2 fun d hd => eq_false_of_ne_true (hnone d hd)
    refine ⟨?_, ?_, ?_⟩
    · rw [hfind, List.find?_eq_none.2 hnone]
    · rw [hfind, stopped]
      rfl
    · rw [visited, hindex, List.take_of_length_le (Nat.le_succ _)]
  | found stopped before d after below others spelled visited =>
    have hnone : ∀ e ∈ before, ¬(e.spelling == spelling) = true := by simpa using others
    have hd : (d.spelling == spelling) = true := beq_iff_eq.2 spelled
    have hfind : c.find? spelling = some d := by
      rw [hlast, visited, List.filter_append, List.filter_eq_nil_iff.2 hnone]
      simp [hd]
    have hindex : c.below.findIdx (·.spelling == spelling) = before.length := by
      rw [below, List.findIdx_append, List.findIdx_eq_length.2 fun e he =>
        eq_false_of_ne_true (hnone e he)]
      simp [List.findIdx_cons, hd]
    refine ⟨?_, ?_, ?_⟩
    · rw [hfind, below, List.find?_append, List.find?_eq_none.2 hnone, List.find?_cons, hd]
      rfl
    · rw [hfind, stopped]
      rfl
    · rw [visited, hindex, below, List.take_append, List.take_of_length_le (Nat.le_succ _)]
      simp

/-- The search returns the first cursor in preorder below the given one that has the spelling, if
there is one.  It visits the preorder up to that cursor and nothing more, or else all of it, and it
never returns the cursor it starts from. -/
theorem first_spelled_found (c : Cursor) (spelling : String) :
    let calls := c.calls (finder spelling) none
    c.below = c.children.flatMap (fun d => d :: d.below) ∧
    c.visit (finder spelling).logged (none, []) =
      ((c.find? spelling).isSome, c.find? spelling, calls) ∧
    (∀ call ∈ calls, call.verdict = if call.cursor.spelling = spelling then .stop else .enter) ∧
    c.find? spelling = c.below.find? (·.spelling == spelling) ∧
    calls.map VisitorCall.cursor =
      c.below.take (c.below.findIdx (·.spelling == spelling) + 1) ∧
    (c.find? spelling = none ↔ ∀ d ∈ c.below, d.spelling ≠ spelling) ∧
    c.find? spelling ≠ some c := by
  obtain ⟨hfind, hstopped, hvisited⟩ := c.search_eq spelling
  refine ⟨c.below_eq, ?_, (c.searched spelling).verdicts, hfind, hvisited, ?_, ?_⟩
  · rw [(c.calls_spec (finder spelling) none).1, hstopped]
    rfl
  · rw [hfind, List.find?_eq_none]
    simp
  · intro hself
    rw [hfind] at hself
    have hbefore := before_of_mem_below (List.mem_of_find?_eq_some hself)
    exact hbefore.asymm hbefore

end Cursor

end CodeCursor
