import CodeCursor.Cursor.Visit
import CodeCursor.Proofs.CursorTrees
import Mathlib.Data.List.Nodup
import Mathlib.Data.List.Pairwise

/-!
# The calls of a visit

A visitor may answer by whatever it has seen so far, so a visit is told by the calls it makes: the
cursor and the parent that are handed over, and the verdict that comes back.  The calls are written
down as the visit goes on.  They are those of a loop over siblings that starts again below each
cursor that is entered, and that ends for good where it is told to.
-/

namespace CodeCursor

/-- What a visitor was handed, and what it answered. -/
structure VisitorCall where
  cursor : Cursor
  parent : Cursor
  verdict : Verdict

/-- The visitor that answers like the given one and writes its calls down in order. -/
def Visitor.logged {Record : Type} (visitor : Visitor Record) :
    Visitor (Record × List VisitorCall) := fun state cursor parent =>
  let answer := visitor state.1 cursor parent
  (answer.1, answer.2, state.2 ++ [⟨cursor, parent, answer.1⟩])

/-- The calls of a visit to siblings, the parent first, and whether the last one stops it. -/
inductive Visits : Cursor → List Cursor → List VisitorCall → Bool → Prop
  | done (parent : Cursor) : Visits parent [] [] false
  | stop (parent c : Cursor) (rest : List Cursor) :
      Visits parent (c :: rest) [⟨c, parent, .stop⟩] true
  | skip {parent c : Cursor} {rest : List Cursor} {calls : List VisitorCall} {stopped : Bool}
      (after : Visits parent rest calls stopped) :
      Visits parent (c :: rest) (⟨c, parent, .skip⟩ :: calls) stopped
  | stopBelow {parent c : Cursor} (rest : List Cursor) {inner : List VisitorCall}
      (below : Visits c c.children inner true) :
      Visits parent (c :: rest) (⟨c, parent, .enter⟩ :: inner) true
  | enter {parent c : Cursor} {rest : List Cursor} {inner calls : List VisitorCall}
      {stopped : Bool} (below : Visits c c.children inner false)
      (after : Visits parent rest calls stopped) :
      Visits parent (c :: rest) (⟨c, parent, .enter⟩ :: (inner ++ calls)) stopped

namespace Cursor

/-- The cursors below this one, in preorder. -/
def below (c : Cursor) : List Cursor :=
  c.descendants.map (·.2)

theorem preorder_eq_cons_below (c : Cursor) : c.preorder = c :: c.below := rfl

theorem below_eq (c : Cursor) : c.below = c.children.flatMap preorder :=
  (List.cons.inj (c.preorder_eq_cons_below.symm.trans c.preorder_eq)).2

theorem mem_preorder_trans {c d e : Cursor} (hd : d ∈ c.preorder) (he : e ∈ d.preorder) :
    e ∈ c.preorder := by
  induction c using Cursor.induction with
  | step c ih =>
    rcases mem_preorder_iff.1 hd with rfl | ⟨child, hc, hd⟩
    · exact he
    · exact mem_preorder_iff.2 (.inr ⟨child, hc, ih child hc hd⟩)

/-- One cursor comes before another in the source. -/
def Before (c d : Cursor) : Prop :=
  c.place.path < d.place.path

theorem Before.asymm {c d : Cursor} (h : c.Before d) : ¬d.Before c :=
  List.lt_asymm h

theorem before_of_mem_below {c d : Cursor} (h : d ∈ c.below) : c.Before d := by
  rw [below_eq] at h
  obtain ⟨child, hc, hd⟩ := List.mem_flatMap.1 h
  obtain ⟨q, hq, hp⟩ := mem_preorder_of_mem_children hc
  exact Place.path_lt_of_mem_children hq (Place.mem_preorder_trans hp (place_mem_preorder hd))

theorem preorder_sorted (c : Cursor) : c.preorder.Pairwise Before := by
  induction c using Cursor.induction with
  | step c ih =>
    rw [preorder_eq_cons_below, List.pairwise_cons]
    refine ⟨fun d hd => before_of_mem_below hd, ?_⟩
    rw [below_eq, List.pairwise_flatMap]
    refine ⟨ih, c.children_leftOf.imp ?_⟩
    intro a b hab d hd e he
    exact (hab.of_preorder (place_mem_preorder hd) (place_mem_preorder he)).path_lt

/-- The cursors from the given ones down, in preorder. -/
def forest (cs : List Cursor) : List Cursor :=
  cs.flatMap preorder

theorem forest_cons (c : Cursor) (rest : List Cursor) :
    forest (c :: rest) = c :: (c.below ++ forest rest) := rfl

theorem below_eq_forest (c : Cursor) : c.below = forest c.children :=
  c.below_eq

theorem forest_children_sorted (c : Cursor) : (forest c.children).Pairwise Before := by
  rw [← below_eq_forest]
  exact (List.pairwise_cons.1 c.preorder_sorted).2

theorem forest_rest_sorted {c : Cursor} {rest : List Cursor}
    (h : (forest (c :: rest)).Pairwise Before) : (forest rest).Pairwise Before := by
  rw [forest_cons, List.pairwise_cons, List.pairwise_append] at h
  exact h.2.2.1

theorem self_mem_preorder (c : Cursor) : c ∈ c.preorder :=
  List.mem_cons_self

/-- Whether every cursor of the forest that stands above the given one may be entered. -/
def IsOpen (enters : Cursor → Prop) (cs : List Cursor) (d : Cursor) : Prop :=
  ∀ e ∈ forest cs, d ∈ e.below → enters e

section

variable (enters : Cursor → Prop) {c d : Cursor} {rest : List Cursor}

theorem isOpen_head (hsorted : (forest (c :: rest)).Pairwise Before) :
    IsOpen enters (c :: rest) c := by
  rw [forest_cons, List.pairwise_cons] at hsorted
  intro e he hc
  have hbefore := before_of_mem_below hc
  rcases List.mem_cons.1 he with rfl | he
  · exact (hbefore.asymm hbefore).elim
  · exact (hbefore.asymm (hsorted.1 e he)).elim

theorem isOpen_below_iff (hsorted : (forest (c :: rest)).Pairwise Before) (hd : d ∈ c.below) :
    IsOpen enters (c :: rest) d ↔ enters c ∧ IsOpen enters c.children d := by
  rw [forest_cons, List.pairwise_cons, List.pairwise_append] at hsorted
  obtain ⟨-, -, -, hleft⟩ := hsorted
  simp only [IsOpen, forest_cons, ← below_eq_forest, List.mem_cons, List.mem_append]
  constructor
  · intro h
    exact ⟨h c (.inl rfl) hd, fun e he => h e (.inr (.inl he))⟩
  · rintro ⟨hc, h⟩ e (rfl | he | he) hde
    · exact hc
    · exact h e he hde
    · exact ((before_of_mem_below hde).asymm (hleft d hd e he)).elim

theorem isOpen_rest_iff (hsorted : (forest (c :: rest)).Pairwise Before) (hd : d ∈ forest rest) :
    IsOpen enters (c :: rest) d ↔ IsOpen enters rest d := by
  have hnot : d ∉ c.preorder := by
    rw [forest_cons, ← List.cons_append, List.pairwise_append] at hsorted
    intro hc
    have hself := hsorted.2.2 d hc d hd
    exact hself.asymm hself
  simp only [IsOpen, forest_cons, ← List.cons_append, ← preorder_eq_cons_below, List.mem_append]
  constructor
  · exact fun h e he => h e (.inr he)
  · rintro h e (he | he) hde
    · exact (hnot (mem_preorder_trans he (List.mem_cons_of_mem _ hde))).elim
    · exact h e he hde

end

open Classical in
/-- The cursors of a forest that have only cursors above them which may be entered. -/
noncomputable def reachable (enters : Cursor → Prop) (cs : List Cursor) : List Cursor :=
  (forest cs).filter (IsOpen enters cs ·)

theorem mem_reachable {enters : Cursor → Prop} {cs : List Cursor} {d : Cursor} :
    d ∈ reachable enters cs ↔ d ∈ forest cs ∧ IsOpen enters cs d := by
  simp [reachable]

open Classical in
theorem reachable_cons (enters : Cursor → Prop) {c : Cursor} {rest : List Cursor}
    (hsorted : (forest (c :: rest)).Pairwise Before) :
    reachable enters (c :: rest) =
      c :: ((if enters c then reachable enters c.children else []) ++ reachable enters rest) := by
  have hrest : (forest rest).filter (IsOpen enters (c :: rest) ·) = reachable enters rest :=
    List.filter_congr fun d hd => by rw [isOpen_rest_iff enters hsorted hd]
  have hbelow : c.below.filter (IsOpen enters (c :: rest) ·) =
      if enters c then reachable enters c.children else [] := by
    split
    · rename_i hc
      rw [reachable, ← below_eq_forest]
      apply List.filter_congr
      intro d hd
      rw [isOpen_below_iff enters hsorted hd, and_iff_right hc]
    · rename_i hc
      apply List.filter_eq_nil_iff.2
      intro d hd
      simp [isOpen_below_iff enters hsorted hd, hc]
  rw [reachable, forest_cons, List.filter_cons_of_pos (by simpa using isOpen_head enters hsorted),
    List.filter_append, hbelow, hrest]

end Cursor

namespace Visits

open Cursor

variable {parent : Cursor} {cs : List Cursor} {calls : List VisitorCall} {stopped : Bool}

theorem visited_sublist (h : Visits parent cs calls stopped) :
    (calls.map VisitorCall.cursor).Sublist (forest cs) := by
  induction h with
  | done => exact .slnil
  | stop parent c rest =>
    rw [forest_cons]
    exact (List.nil_sublist _).cons_cons c
  | @skip _ c rest _ _ _ ih =>
    rw [forest_cons, List.map_cons]
    exact (ih.trans (List.sublist_append_right _ _)).cons_cons c
  | @stopBelow _ c rest _ _ ih =>
    rw [forest_cons, below_eq_forest, List.map_cons]
    exact (ih.trans (List.sublist_append_left _ _)).cons_cons c
  | @enter _ c _ _ _ _ _ _ ihBelow ihAfter =>
    rw [forest_cons, below_eq_forest, List.map_cons, List.map_append]
    exact (ihBelow.append ihAfter).cons_cons c

theorem parent_spec (h : Visits parent cs calls stopped) (hcs : ∀ c ∈ cs, c ∈ parent.children) :
    ∀ call ∈ calls, call.parent ∈ parent.preorder ∧ call.cursor ∈ call.parent.children := by
  induction h with
  | done => simp
  | stop parent c rest =>
    intro call hcall
    obtain rfl := List.mem_singleton.1 hcall
    exact ⟨parent.self_mem_preorder, hcs c List.mem_cons_self⟩
  | @skip parent c rest _ _ _ ih =>
    intro call hcall
    rcases List.mem_cons.1 hcall with rfl | hcall
    · exact ⟨parent.self_mem_preorder, hcs c List.mem_cons_self⟩
    · exact ih (fun d hd => hcs d (List.mem_cons_of_mem _ hd)) call hcall
  | @stopBelow parent c rest _ _ ih =>
    have hc := hcs c List.mem_cons_self
    intro call hcall
    rcases List.mem_cons.1 hcall with rfl | hcall
    · exact ⟨parent.self_mem_preorder, hc⟩
    · obtain ⟨hparent, hcursor⟩ := ih (fun _ hd => hd) call hcall
      exact ⟨mem_preorder_iff.2 (.inr ⟨c, hc, hparent⟩), hcursor⟩
  | @enter parent c rest _ _ _ _ _ ihBelow ihAfter =>
    have hc := hcs c List.mem_cons_self
    intro call hcall
    rcases List.mem_cons.1 hcall with rfl | hcall
    · exact ⟨parent.self_mem_preorder, hc⟩
    · rcases List.mem_append.1 hcall with hcall | hcall
      · obtain ⟨hparent, hcursor⟩ := ihBelow (fun _ hd => hd) call hcall
        exact ⟨mem_preorder_iff.2 (.inr ⟨c, hc, hparent⟩), hcursor⟩
      · exact ihAfter (fun d hd => hcs d (List.mem_cons_of_mem _ hd)) call hcall

theorem stopped_iff (h : Visits parent cs calls stopped) :
    stopped = true ↔ ∃ call ∈ calls, call.verdict = .stop := by
  induction h with
  | done => simp
  | stop => simp
  | skip _ ih => simpa using ih
  | stopBelow _ _ ih => simpa using ih
  | enter _ _ ihBelow ihAfter =>
    simp only [Bool.false_eq_true, false_iff, not_exists, not_and] at ihBelow
    rw [ihAfter]
    constructor
    · rintro ⟨call, hcall, hstop⟩
      exact ⟨call, by simp [hcall], hstop⟩
    · rintro ⟨call, hcall, hstop⟩
      rcases List.mem_cons.1 hcall with rfl | hcall
      · contradiction
      · rcases List.mem_append.1 hcall with hcall | hcall
        · exact absurd hstop (ihBelow call hcall)
        · exact ⟨call, hcall, hstop⟩

theorem not_stop_of_going (h : Visits parent cs calls false) :
    ∀ call ∈ calls, call.verdict ≠ .stop := by
  intro call hcall hstop
  exact Bool.false_ne_true (h.stopped_iff.2 ⟨call, hcall, hstop⟩)

theorem last_stops (h : Visits parent cs calls stopped) :
    calls.Pairwise fun call _ => call.verdict ≠ .stop := by
  induction h with
  | done => exact .nil
  | stop => exact List.pairwise_singleton _ _
  | skip _ ih => exact List.pairwise_cons.2 ⟨by simp, ih⟩
  | stopBelow _ _ ih => exact List.pairwise_cons.2 ⟨by simp, ih⟩
  | enter below _ ihBelow ihAfter =>
    refine List.pairwise_cons.2 ⟨by simp, List.pairwise_append.2 ⟨ihBelow, ihAfter, ?_⟩⟩
    intro call hcall _ _
    exact below.not_stop_of_going call hcall

/-- If of the cursors that do not stop the visit exactly those may be entered that the calls enter,
then the calls visit what can be reached, in order and up to the call that stops the visit. -/
theorem exists_missed (h : Visits parent cs calls stopped) (enters : Cursor → Prop)
    (hsorted : (forest cs).Pairwise Before)
    (henters : ∀ call ∈ calls, call.verdict ≠ .stop →
      (enters call.cursor ↔ call.verdict = .enter)) :
    ∃ missed, reachable enters cs = calls.map VisitorCall.cursor ++ missed ∧
      (stopped = false → missed = []) := by
  induction h with
  | done => exact ⟨[], rfl, fun _ => rfl⟩
  | stop =>
    rw [reachable_cons enters hsorted]
    exact ⟨_, rfl, by simp⟩
  | @skip _ c _ _ _ _ ih =>
    obtain ⟨hhead, htail⟩ := List.forall_mem_cons.1 henters
    have hc : ¬enters c := by simp [hhead]
    obtain ⟨missed, heq, hmissed⟩ := ih (forest_rest_sorted hsorted) htail
    rw [reachable_cons enters hsorted, if_neg hc, heq]
    exact ⟨missed, rfl, hmissed⟩
  | @stopBelow _ c _ _ _ ih =>
    obtain ⟨hhead, htail⟩ := List.forall_mem_cons.1 henters
    have hc : enters c := by simp [hhead]
    obtain ⟨missed, heq, -⟩ := ih c.forest_children_sorted htail
    rw [reachable_cons enters hsorted, if_pos hc, heq, List.append_assoc]
    exact ⟨_, rfl, by simp⟩
  | @enter _ c _ _ _ _ _ _ ihBelow ihAfter =>
    obtain ⟨hhead, htail⟩ := List.forall_mem_cons.1 henters
    have hc : enters c := by simp [hhead]
    obtain ⟨hinner, hafter⟩ := List.forall_mem_append.1 htail
    obtain ⟨_, heqBelow, hnone⟩ := ihBelow c.forest_children_sorted hinner
    obtain ⟨missed, heq, hmissed⟩ := ihAfter (forest_rest_sorted hsorted) hafter
    rw [reachable_cons enters hsorted, if_pos hc, heqBelow, hnone rfl, heq]
    exact ⟨missed, by simp, hmissed⟩

theorem calls_sorted (h : Visits parent cs calls stopped)
    (hsorted : (forest cs).Pairwise Before) :
    calls.Pairwise fun a b => a.cursor.Before b.cursor :=
  List.pairwise_map.1 (hsorted.sublist h.visited_sublist)

theorem visited_nodup (h : Visits parent cs calls stopped)
    (hsorted : (forest cs).Pairwise Before) :
    (calls.map fun call => call.cursor.place.path).Nodup := by
  apply List.pairwise_map.2
  apply (h.calls_sorted hsorted).imp
  intro a b hab heq
  rw [Before, heq] at hab
  exact List.lt_irrefl _ hab

/-- A call that stops the visit comes before no other. -/
theorem not_before_of_stop (h : Visits parent cs calls stopped)
    (hsorted : (forest cs).Pairwise Before) {call other : VisitorCall} (hcall : call ∈ calls)
    (hother : other ∈ calls) (hstop : call.verdict = .stop) :
    ¬call.cursor.Before other.cursor := by
  intro hbefore
  have hne : call ≠ other := by
    rintro rfl
    exact hbefore.asymm hbefore
  have hordered : calls.Pairwise fun a b =>
      (a.cursor.Before b.cursor ∧ a.verdict ≠ .stop) ∨
        (b.cursor.Before a.cursor ∧ b.verdict ≠ .stop) :=
    ((h.calls_sorted hsorted).and h.last_stops).imp Or.inl
  have hsymm : Std.Symm fun a b : VisitorCall =>
      (a.cursor.Before b.cursor ∧ a.verdict ≠ .stop) ∨
        (b.cursor.Before a.cursor ∧ b.verdict ≠ .stop) := ⟨fun _ _ => Or.symm⟩
  rcases hordered.forall hcall hother hne with ⟨-, hgoing⟩ | ⟨hafter, -⟩
  · exact hgoing hstop
  · exact hbefore.asymm hafter

/-- A cursor is visited exactly if all cursors above it are entered and none before it stops the
visit. -/
theorem mem_visited_iff (h : Visits parent cs calls stopped)
    (hsorted : (forest cs).Pairwise Before) {d : Cursor} (hd : d ∈ forest cs) :
    d ∈ calls.map VisitorCall.cursor ↔
      IsOpen (fun e => ∃ call ∈ calls, call.cursor = e ∧ call.verdict = .enter) cs d ∧
        ∀ call ∈ calls, call.cursor.Before d → call.verdict ≠ .stop := by
  have henters : ∀ call ∈ calls,
      (∃ other ∈ calls, other.cursor = call.cursor ∧ other.verdict = .enter) ↔
        call.verdict = .enter := by
    intro call hcall
    constructor
    · rintro ⟨other, hother, hcursor, henter⟩
      have hpath := congrArg (fun c : Cursor => c.place.path) hcursor
      rwa [← List.inj_on_of_nodup_map (h.visited_nodup hsorted) hother hcall hpath]
    · exact fun henter => ⟨call, hcall, rfl, henter⟩
  obtain ⟨missed, heq, hmissed⟩ := h.exists_missed
    (fun e => ∃ call ∈ calls, call.cursor = e ∧ call.verdict = .enter) hsorted
    fun call hcall _ => henters call hcall
  have hordered : (calls.map VisitorCall.cursor ++ missed).Pairwise Before := by
    rw [← heq]
    exact hsorted.sublist List.filter_sublist
  constructor
  · intro hvisited
    have hreachable := List.mem_append_left missed hvisited
    rw [← heq] at hreachable
    refine ⟨(mem_reachable.1 hreachable).2, ?_⟩
    intro call hcall hbefore hstop
    obtain ⟨other, hother, rfl⟩ := List.mem_map.1 hvisited
    exact h.not_before_of_stop hsorted hcall hother hstop hbefore
  · rintro ⟨hopen, hgoing⟩
    have hreachable := mem_reachable.2 ⟨hd, hopen⟩
    rw [heq] at hreachable
    rcases List.mem_append.1 hreachable with hvisited | hlost
    · exact hvisited
    · -- Something is missed only after a call that stops the visit.
      have hstopped : stopped = true := by
        by_contra hgoes
        rw [hmissed (eq_false_of_ne_true hgoes)] at hlost
        contradiction
      obtain ⟨call, hcall, hstop⟩ := h.stopped_iff.1 hstopped
      have hbefore := (List.pairwise_append.1 hordered).2.2 _ (List.mem_map_of_mem hcall) d hlost
      exact (hgoing call hcall hbefore hstop).elim

end Visits

namespace Cursor

variable {Record : Type} (visitor : Visitor Record)

/-- Visits siblings, one after the other, and all that is below them. -/
def visitSiblings (parent : Cursor) (record : Record) (cs : List Cursor) : Bool × Record :=
  CursorTree.visitAll visitor parent record (cs.map tree)

theorem visit_eq (c : Cursor) (record : Record) :
    c.visit visitor record = visitSiblings visitor c record c.children := by
  rw [visit, tree_eq]
  rfl

theorem visitSiblings_cons (parent c : Cursor) (rest : List Cursor) (record : Record) :
    visitSiblings visitor parent record (c :: rest) =
      match visitor record c parent with
      | (.stop, next) => (true, next)
      | (.skip, next) => visitSiblings visitor parent next rest
      | (.enter, next) =>
        match visitSiblings visitor c next c.children with
        | (true, last) => (true, last)
        | (false, last) => visitSiblings visitor parent last rest := by
  rw [visitSiblings, List.map_cons, tree_eq, CursorTree.visitAll, CursorTree.visit]
  obtain ⟨verdict, next⟩ := visitor record c parent
  cases verdict <;> rfl

/-- A visit to siblings goes the same way when its calls are written down, and they are the calls
of a loop. -/
def Logs (parent : Cursor) (cs : List Cursor) : Prop :=
  ∀ record, ∃ stopped last calls,
    visitSiblings visitor parent record cs = (stopped, last) ∧
    (∀ earlier, visitSiblings visitor.logged parent (record, earlier) cs =
      (stopped, last, earlier ++ calls)) ∧
    Visits parent cs calls stopped

theorem logged_eq {record next : Record} {c parent : Cursor} {verdict : Verdict}
    (h : visitor record c parent = (verdict, next)) (earlier : List VisitorCall) :
    visitor.logged (record, earlier) c parent =
      (verdict, next, earlier ++ [⟨c, parent, verdict⟩]) := by
  simp only [Visitor.logged, h]

theorem logs_cons {parent c : Cursor} {rest : List Cursor} (hbelow : Logs visitor c c.children)
    (hrest : Logs visitor parent rest) : Logs visitor parent (c :: rest) := by
  intro record
  obtain ⟨⟨verdict, next⟩, hanswer⟩ : ∃ answer, visitor record c parent = answer := ⟨_, rfl⟩
  have hlog := logged_eq visitor hanswer
  cases verdict with
  | stop =>
    refine ⟨true, next, _, ?_, fun earlier => ?_, .stop parent c rest⟩
    · simp only [visitSiblings_cons, hanswer]
    · simp only [visitSiblings_cons, hlog]
  | skip =>
    obtain ⟨stopped, last, calls, hplain, hlogged, hvisits⟩ := hrest next
    refine ⟨stopped, last, _, ?_, fun earlier => ?_, .skip hvisits⟩
    · simp only [visitSiblings_cons, hanswer, hplain]
    · simp only [visitSiblings_cons, hlog, hlogged, List.append_assoc, List.singleton_append]
  | enter =>
    obtain ⟨stopped, last, inner, hplain, hlogged, hvisits⟩ := hbelow next
    cases stopped with
    | true =>
      refine ⟨true, last, _, ?_, fun earlier => ?_, .stopBelow rest hvisits⟩
      · simp only [visitSiblings_cons, hanswer, hplain]
      · simp only [visitSiblings_cons, hlog, hlogged, List.append_assoc, List.singleton_append]
    | false =>
      obtain ⟨stopped, final, calls, hplain', hlogged', hvisits'⟩ := hrest last
      refine ⟨stopped, final, _, ?_, fun earlier => ?_, .enter hvisits hvisits'⟩
      · simp only [visitSiblings_cons, hanswer, hplain, hplain']
      · simp only [visitSiblings_cons, hlog, hlogged, hlogged', List.append_assoc,
          List.cons_append, List.nil_append]

theorem logs (c : Cursor) : Logs visitor c c.children := by
  induction c using Cursor.induction with
  | step c ih =>
    suffices h : ∀ rest : List Cursor, (∀ d ∈ rest, Logs visitor d d.children) →
        Logs visitor c rest from h c.children ih
    intro rest hrest
    induction rest with
    | nil =>
      intro record
      refine ⟨false, record, [], rfl, fun earlier => ?_, .done c⟩
      rw [List.append_nil]
      rfl
    | cons d rest ihRest =>
      obtain ⟨hd, hrest⟩ := List.forall_mem_cons.1 hrest
      exact logs_cons visitor hd (ihRest hrest)

/-- The calls that a visit below the cursor makes, in order. -/
def calls (c : Cursor) (record : Record) : List VisitorCall :=
  (c.visit visitor.logged (record, [])).2.2

theorem calls_spec (c : Cursor) (record : Record) :
    c.visit visitor.logged (record, []) =
      ((c.visit visitor record).1, (c.visit visitor record).2, c.calls visitor record) ∧
    Visits c c.children (c.calls visitor record) (c.visit visitor record).1 := by
  obtain ⟨stopped, last, made, hplain, hlogged, hvisits⟩ := logs visitor c record
  rw [calls, visit_eq, visit_eq, hplain, hlogged []]
  exact ⟨rfl, hvisits⟩

/-- The calls of a visit, whatever the visitor goes by.  They hand over cursors below the one
that is visited, in preorder and none twice, each with its parent.  A cursor is handed over exactly
if all cursors between are entered and no call before stops the visit.  No call follows one that
stops, and the visit says whether there is one. -/
theorem visit_calls (c : Cursor) (record : Record) :
    let calls := c.calls visitor record
    c.visit visitor.logged (record, []) =
      ((c.visit visitor record).1, (c.visit visitor record).2, calls) ∧
    (calls.map VisitorCall.cursor).Sublist c.below ∧
    c.below.Pairwise Before ∧
    (calls.map fun call => call.cursor.place.path).Nodup ∧
    (∀ call ∈ calls, call.parent ∈ c.preorder ∧ call.cursor ∈ call.parent.children) ∧
    (∀ d ∈ c.below, (∃ call ∈ calls, call.cursor = d) ↔
      (∀ e ∈ c.below, d ∈ e.below → ∃ call ∈ calls, call.cursor = e ∧ call.verdict = .enter) ∧
        ∀ call ∈ calls, call.cursor.Before d → call.verdict ≠ .stop) ∧
    calls.Pairwise (fun call _ => call.verdict ≠ .stop) ∧
    ((c.visit visitor record).1 = true ↔ ∃ call ∈ calls, call.verdict = .stop) := by
  obtain ⟨hlogged, hvisits⟩ := c.calls_spec visitor record
  have hsorted := c.forest_children_sorted
  rw [below_eq_forest]
  refine ⟨hlogged, hvisits.visited_sublist, hsorted, hvisits.visited_nodup hsorted,
    hvisits.parent_spec fun _ hd => hd, ?_, hvisits.last_stops, hvisits.stopped_iff⟩
  intro d hd
  rw [← List.mem_map]
  exact hvisits.mem_visited_iff hsorted hd

end Cursor

end CodeCursor
