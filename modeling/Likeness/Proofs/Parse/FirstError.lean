import Mathlib.Logic.Function.Iterate
import Mathlib.Tactic.Common
import Likeness.Proofs.Parse.Cursor
import Likeness.Proofs.Parse.Source

/-!
# The first error of a tree

The search for an error goes over a tree with one cursor and without a stack.  It comes to an end after two turns for
each node at most, and if the nodes tell rightly whether there is an error below them it finds the first one in
document order (`firstError_first`).

* `Search.step` : one turn of the search; `firstError_run` : the search is its turns;
* `Search.turns` : how many turns are left at most; `turns_step` : a turn takes at least one of them;
* `Search.sought` : the first error that is still ahead; `sought_step` : no turn goes past it.
-/

namespace Likeness.Parse

/-- Whether a node is an error or missing. -/
def NodeView.faulty (v : NodeView) : Bool := v.error || v.missing

namespace ConcreteTree

/-- The trees below the nodes of a tree, in document order. -/
def subtrees (t : ConcreteTree) : List ConcreteTree := t.nodes.map (·.2)

/-- The nodes of a tree in document order. -/
def views (t : ConcreteTree) : List NodeView := t.subtrees.map view

/-- Whether each node tells that there is an error below it exactly if there is one. -/
def TellsErrors (t : ConcreteTree) : Prop :=
  ∀ s ∈ t.subtrees, (s.view.broken = true ↔ ∃ v ∈ s.views, v.faulty = true)

instance (t : ConcreteTree) : Decidable t.TellsErrors := inferInstanceAs (Decidable (∀ s ∈ _, _ ↔ _))

mutual
theorem map_snd_nodesFrom (depth : Nat) : ∀ t : ConcreteTree, (t.nodesFrom depth).map (·.2) = t.subtrees
  | node v cs => by
    rw [subtrees, nodes, nodesFrom, nodesFrom, List.map_cons, List.map_cons, map_snd_nodesAll, map_snd_nodesAll]

theorem map_snd_nodesAll (depth : Nat) : ∀ ts : List ConcreteTree, (nodesAll depth ts).map (·.2) = ts.flatMap subtrees
  | [] => rfl
  | t :: ts => by
    rw [nodesAll, List.map_append, map_snd_nodesFrom depth t, map_snd_nodesAll depth ts, List.flatMap_cons]
end

theorem subtrees_node (v : NodeView) (cs : List ConcreteTree) :
    (node v cs).subtrees = node v cs :: cs.flatMap subtrees := by
  rw [subtrees, nodes, nodesFrom, List.map_cons, map_snd_nodesAll]

theorem views_node (v : NodeView) (cs : List ConcreteTree) : (node v cs).views = v :: cs.flatMap views := by
  rw [views, subtrees_node, List.map_cons, List.map_flatMap]
  rfl

/-- A tree whose nodes tell errors rightly, in its parts. -/
theorem tellsErrors_node {v : NodeView} {cs : List ConcreteTree} :
    (node v cs).TellsErrors ↔
      (v.broken = true ↔ ∃ u ∈ (node v cs).views, u.faulty = true) ∧ ∀ c ∈ cs, c.TellsErrors := by
  unfold TellsErrors
  rw [subtrees_node, List.forall_mem_cons]
  refine and_congr Iff.rfl ?_
  simp only [List.mem_flatMap]
  constructor
  · intro h c hc s hs
    exact h s ⟨c, hc, hs⟩
  · rintro h s ⟨c, hc, hs⟩
    exact h c hc s hs

end ConcreteTree

open ConcreteTree

/-! ### Turns of the search -/

/-- Where the search for an error stands. -/
inductive Search where
  /-- It has come to a node. -/
  | entering (c : Cursor)
  /-- It is done with a node and all below it. -/
  | leaving (c : Cursor)
  | ended (answer : Option NodeView)

namespace Search

/-- One turn of the search. -/
def step : Search → Search
  | entering c =>
    if c.view.error || c.view.missing then ended (some c.view)
    else match if c.view.broken then c.firstChild? else none with
      | some child => entering child
      | none => leaving c
  | leaving c =>
    match c.nextSibling? with
    | some next => entering next
    | none => match c.parent? with
      | some parent => leaving parent
      | none => ended none
  | ended a => ended a

def answer : Search → Option NodeView
  | ended a => a
  | entering _ => none
  | leaving _ => none

theorem iterate_step_ended (n : Nat) (a : Option NodeView) : step^[n] (ended a) = ended a :=
  Function.iterate_fixed rfl n

/-- The search from a node on, and behind one, is as many turns as there is fuel. -/
theorem firstError_run (fuel : Nat) :
    (∀ c, firstErrorFrom fuel c = (step^[fuel] (entering c)).answer) ∧
      ∀ c, firstErrorAfter fuel c = (step^[fuel] (leaving c)).answer := by
  induction fuel with
  | zero => exact ⟨fun c => rfl, fun c => rfl⟩
  | succ fuel ih =>
    obtain ⟨ihFrom, ihAfter⟩ := ih
    refine ⟨fun c => ?_, fun c => ?_⟩
    · rw [firstErrorFrom, Function.iterate_succ_apply, step]
      by_cases hfaulty : (c.view.error || c.view.missing) = true
      · rw [if_pos hfaulty, if_pos hfaulty, iterate_step_ended]
        rfl
      · rw [if_neg hfaulty, if_neg hfaulty]
        cases if c.view.broken then c.firstChild? else none with
        | some child => exact ihFrom child
        | none => exact ihAfter c
    · rw [firstErrorAfter, Function.iterate_succ_apply, step]
      cases c.nextSibling? with
      | some next => exact ihFrom next
      | none =>
        cases c.parent? with
        | some parent => exact ihAfter parent
        | none =>
          change none = (step^[fuel] (ended none)).answer
          rw [iterate_step_ended]
          rfl

/-! ### What one turn does -/

section Turns

variable {v : NodeView} {t u : ConcreteTree} {cs before after : List ConcreteTree} {path : List Crumb}

theorem step_entering_faulty (h : v.faulty = true) : step (entering ⟨.node v cs, path⟩) = ended (some v) :=
  if_pos h

theorem step_entering_down (h : v.faulty = false) (hbroken : v.broken = true) :
    step (entering ⟨.node v (t :: cs), path⟩) = entering ⟨t, ⟨v, [], cs⟩ :: path⟩ := by
  have hfaulty : ¬(v.error || v.missing) = true := Bool.eq_false_iff.1 h
  rw [step, Cursor.view, ConcreteTree.view, if_neg hfaulty, if_pos hbroken]
  rfl

theorem step_entering_past (h : v.faulty = false) (hpast : v.broken = false ∨ cs = []) :
    step (entering ⟨.node v cs, path⟩) = leaving ⟨.node v cs, path⟩ := by
  have hfaulty : ¬(v.error || v.missing) = true := Bool.eq_false_iff.1 h
  rw [step, Cursor.view, ConcreteTree.view, if_neg hfaulty]
  rcases hpast with hbroken | rfl
  · rw [if_neg (Bool.eq_false_iff.1 hbroken)]
  · cases v.broken <;> rfl

theorem step_leaving_next :
    step (leaving ⟨t, ⟨v, before, u :: after⟩ :: path⟩) = entering ⟨u, ⟨v, t :: before, after⟩ :: path⟩ := rfl

theorem step_leaving_last :
    step (leaving ⟨t, ⟨v, before, []⟩ :: path⟩) = leaving ⟨.node v (before.reverseAux [t]), path⟩ := rfl

theorem step_leaving_root : step (leaving ⟨t, []⟩) = ended none := rfl

end Turns

/-! ### The turns that are left -/

/-- How many turns the siblings after the nodes on the way up, and these nodes themselves, can take. -/
def owed : List Crumb → Nat
  | [] => 0
  | k :: path => 2 * sizeAll k.after + 1 + owed path

/-- How many turns can be left: two for each node that is not entered yet, and one for each that is not left yet. -/
def turns : Search → Nat
  | entering c => 2 * c.focus.size + owed c.path
  | leaving c => 1 + owed c.path
  | ended _ => 0

@[simp]
theorem owed_cons (v : NodeView) (before after : List ConcreteTree) (path : List Crumb) :
    owed (⟨v, before, after⟩ :: path) = 2 * sizeAll after + 1 + owed path := rfl

@[simp]
theorem turns_entering (t : ConcreteTree) (path : List Crumb) :
    turns (entering ⟨t, path⟩) = 2 * t.size + owed path := rfl

@[simp]
theorem turns_leaving (t : ConcreteTree) (path : List Crumb) : turns (leaving ⟨t, path⟩) = 1 + owed path := rfl

/-- Each turn uses up at least one of those that are left. -/
theorem turns_step {s : Search} (h : ∀ a, s ≠ ended a) : s.step.turns < s.turns := by
  cases s with
  | entering c =>
    obtain ⟨⟨v, cs⟩, path⟩ := c
    rw [turns_entering, size]
    cases hfaulty : v.faulty with
    | true =>
      rw [step_entering_faulty hfaulty, turns]
      omega
    | false =>
      by_cases hpast : v.broken = false ∨ cs = []
      · rw [step_entering_past hfaulty hpast, turns_leaving]
        omega
      · obtain ⟨hbroken, hcs⟩ := not_or.1 hpast
        obtain ⟨t, ts, rfl⟩ := List.exists_cons_of_ne_nil hcs
        rw [step_entering_down hfaulty (by simpa using hbroken), turns_entering, owed_cons, sizeAll]
        omega
  | leaving c =>
    obtain ⟨t, _ | ⟨⟨v, before, _ | ⟨u, after⟩⟩, path⟩⟩ := c
    · rw [step_leaving_root, turns_leaving, turns]
      omega
    · rw [step_leaving_last, turns_leaving, turns_leaving, owed_cons]
      omega
    · rw [step_leaving_next, turns_entering, turns_leaving, owed_cons, owed_cons, sizeAll]
      omega
  | ended a => exact absurd rfl (h a)

/-- The search comes to an end before its turns are used up. -/
theorem exists_ended (s : Search) : ∃ n a, n ≤ s.turns ∧ step^[n] s = ended a := by
  induction hturns : s.turns using Nat.strongRecOn generalizing s with
  | _ turns ih =>
    subst hturns
    by_cases hended : ∃ a, s = ended a
    · obtain ⟨a, rfl⟩ := hended
      exact ⟨0, a, Nat.zero_le _, rfl⟩
    · have hless := turns_step fun a ha => hended ⟨a, ha⟩
      obtain ⟨n, a, hn, hend⟩ := ih _ hless s.step rfl
      exact ⟨n + 1, a, by omega, hend⟩

/-! ### What is still ahead -/

/-- The first error in a row of trees. -/
def firstIn (ts : List ConcreteTree) : Option NodeView := (ts.flatMap views).find? NodeView.faulty

theorem firstIn_of_faulty {v : NodeView} (h : v.faulty = true) (cs ts : List ConcreteTree) :
    firstIn (.node v cs :: ts) = some v := by
  rw [firstIn, List.flatMap_cons, views_node, List.cons_append, List.find?_cons_of_pos h]

theorem firstIn_of_not_faulty {v : NodeView} (h : v.faulty = false) (cs ts : List ConcreteTree) :
    firstIn (.node v cs :: ts) = firstIn (cs ++ ts) := by
  rw [firstIn, List.flatMap_cons, views_node, List.cons_append, List.find?_cons_of_neg (by simp [h]), firstIn,
    List.flatMap_append]

/-- A tree that tells of no error below it can be passed over. -/
theorem firstIn_of_not_broken {v : NodeView} {cs : List ConcreteTree} (htells : (node v cs).TellsErrors)
    (h : v.broken = false) (ts : List ConcreteTree) : firstIn (.node v cs :: ts) = firstIn ts := by
  have hnone : ¬∃ u ∈ (node v cs).views, u.faulty = true := fun hsome => by
    simp [(tellsErrors_node.1 htells).1.2 hsome] at h
  have hfind : (node v cs).views.find? NodeView.faulty = none :=
    List.find?_eq_none.2 fun u hu hfaulty => hnone ⟨u, hu, hfaulty⟩
  rw [firstIn, List.flatMap_cons, List.find?_append, hfind]
  rfl

/-- The trees after the nodes on the way up, in document order. -/
def ahead (path : List Crumb) : List ConcreteTree := path.flatMap Crumb.after

theorem ahead_cons (v : NodeView) (before after : List ConcreteTree) (path : List Crumb) :
    ahead (⟨v, before, after⟩ :: path) = after ++ ahead path := rfl

/-- The trees that the search has not gone over. -/
def rest : Search → List ConcreteTree
  | entering c => c.focus :: ahead c.path
  | leaving c => ahead c.path
  | ended _ => []

/-- What the search is to find: its answer, or the first error that is still ahead. -/
def sought : Search → Option NodeView
  | entering c => firstIn (c.focus :: ahead c.path)
  | leaving c => firstIn (ahead c.path)
  | ended a => a

/-- A turn does not go past an error, and leaves nothing ahead that was not there before. -/
theorem sought_step {s : Search} (h : ∀ t ∈ s.rest, t.TellsErrors) :
    s.step.sought = s.sought ∧ ∀ t ∈ s.step.rest, t.TellsErrors := by
  cases s with
  | entering c =>
    obtain ⟨⟨v, cs⟩, path⟩ := c
    obtain ⟨htells, hahead⟩ := List.forall_mem_cons.1 h
    change _ = firstIn (.node v cs :: ahead path) ∧ _
    cases hfaulty : v.faulty with
    | true =>
      rw [step_entering_faulty hfaulty, firstIn_of_faulty hfaulty]
      exact ⟨rfl, by simp [rest]⟩
    | false =>
      by_cases hpast : v.broken = false ∨ cs = []
      · rw [step_entering_past hfaulty hpast]
        refine ⟨?_, hahead⟩
        rcases hpast with hbroken | rfl
        · exact (firstIn_of_not_broken htells hbroken _).symm
        · exact (firstIn_of_not_faulty hfaulty [] _).symm
      · obtain ⟨hbroken, hcs⟩ := not_or.1 hpast
        obtain ⟨t, ts, rfl⟩ := List.exists_cons_of_ne_nil hcs
        rw [step_entering_down hfaulty (by simpa using hbroken), firstIn_of_not_faulty hfaulty]
        refine ⟨rfl, fun u hu => ?_⟩
        rw [rest, ahead_cons, ← List.cons_append] at hu
        rcases List.mem_append.1 hu with hu | hu
        · exact (tellsErrors_node.1 htells).2 u hu
        · exact hahead u hu
  | leaving c =>
    -- behind a node nothing is looked at: the next sibling is what comes first ahead, and a last one leaves it as it is
    obtain ⟨t, _ | ⟨⟨v, before, _ | ⟨u, after⟩⟩, path⟩⟩ := c
    · exact ⟨rfl, h⟩
    · exact ⟨rfl, h⟩
    · exact ⟨rfl, h⟩
  | ended a => exact ⟨rfl, h⟩

theorem sought_iterate (n : Nat) {s : Search} (h : ∀ t ∈ s.rest, t.TellsErrors) : (step^[n] s).sought = s.sought := by
  induction n generalizing s with
  | zero => rfl
  | succ n ih =>
    obtain ⟨hsought, hrest⟩ := sought_step h
    rw [Function.iterate_succ_apply, ih hrest, hsought]

end Search

open Search

/-! ### The whole search -/

/-- The search comes to an end after two turns for each node at most, and its answer is the first error. -/
theorem search_ends (t : ConcreteTree) (ht : t.TellsErrors) :
    ∃ n ≤ 2 * t.size, step^[n] (entering (.ofTree t)) = ended (t.views.find? NodeView.faulty) := by
  obtain ⟨n, a, hn, hend⟩ := exists_ended (entering (.ofTree t))
  have hsought := sought_iterate n (s := entering (.ofTree t)) (by simpa [rest, Cursor.ofTree, ahead] using ht)
  rw [hend] at hsought
  refine ⟨n, hn, hend.trans (congrArg ended (Eq.trans hsought ?_))⟩
  simp [sought, firstIn, Cursor.ofTree, ahead]

/-- From then on further fuel does not change the answer. -/
theorem firstErrorFrom_eq {t : ConcreteTree} (ht : t.TellsErrors) {fuel : Nat} (hfuel : 2 * t.size ≤ fuel) :
    firstErrorFrom fuel (.ofTree t) = t.views.find? NodeView.faulty := by
  obtain ⟨n, hn, hend⟩ := search_ends t ht
  obtain ⟨extra, rfl⟩ := Nat.exists_eq_add_of_le (Nat.le_trans hn hfuel)
  rw [(firstError_run _).1, Nat.add_comm, Function.iterate_add_apply, hend, iterate_step_ended]
  rfl

theorem firstError_eq {t : ConcreteTree} (ht : t.TellsErrors) : firstError t = t.views.find? NodeView.faulty :=
  firstErrorFrom_eq ht (by omega)

theorem exists_faulty_of_broken {t : ConcreteTree} (ht : t.TellsErrors) (hbroken : t.view.broken = true) :
    ∃ v ∈ t.views, v.faulty = true := by
  obtain ⟨v, cs⟩ := t
  exact (tellsErrors_node.1 ht).1.1 hbroken

/-- In a tree whose nodes tell rightly whether there is an error below them, the search comes to an end after two turns
for each node at most. It finds the first node in document order that is an error or missing, and nothing exactly if
there is none. A source whose tree has an error is refused at that node, never for want of one. -/
theorem firstError_first (t : ConcreteTree) (ht : t.TellsErrors) :
    (∃ n ≤ 2 * t.size, step^[n] (entering (.ofTree t)) = ended (firstError t)) ∧
    (∀ fuel, 2 * t.size ≤ fuel → firstErrorFrom fuel (.ofTree t) = firstError t) ∧
    (∀ v, firstError t = some v ↔ ∃ before after, t.views = before ++ v :: after ∧ v.faulty = true ∧
      ∀ u ∈ before, u.faulty = false) ∧
    (firstError t = none ↔ ∀ v ∈ t.views, v.faulty = false) ∧
    (t.view.broken = true → ∃ v, firstError t = some v ∧
      let e : Error := ⟨v.row + 1, v.column + 1, if v.missing then .missing v.kind else .unexpectedSyntax⟩
      (∀ limit, syntaxTreeOf limit t = .error e) ∧
      ∀ (source : String) (o : Options), o.check = .ok () → ConcreteTree.ofText table source = t →
        syntaxTree source o = .error e) := by
  have hfirst := firstError_eq ht
  refine ⟨?_, fun fuel hfuel => (firstErrorFrom_eq ht hfuel).trans hfirst.symm, fun v => ?_, ?_, fun hbroken => ?_⟩
  · rw [hfirst]
    exact search_ends t ht
  · rw [hfirst, List.find?_eq_some_iff_append]
    constructor
    · rintro ⟨hv, before, after, hviews, hbefore⟩
      exact ⟨before, after, hviews, hv, fun u hu => by simpa using hbefore u hu⟩
    · rintro ⟨before, after, hviews, hv, hbefore⟩
      exact ⟨hv, before, after, hviews, fun u hu => by simpa using hbefore u hu⟩
  · rw [hfirst, List.find?_eq_none]
    simp only [Bool.not_eq_true]
  · obtain ⟨u, hu, hfaulty⟩ := exists_faulty_of_broken ht hbroken
    obtain ⟨v, hv⟩ := Option.isSome_iff_exists.1 (List.find?_isSome.2 ⟨u, hu, hfaulty⟩)
    have hfound : firstError t = some v := hfirst.trans hv
    have herror : ∀ limit, syntaxTreeOf limit t = .error
        ⟨v.row + 1, v.column + 1, if v.missing then .missing v.kind else .unexpectedSyntax⟩ := fun limit => by
      rw [syntaxTreeOf, if_pos hbroken, describeError, hfound]
      rfl
    refine ⟨v, hfound, herror, fun source o ho htext => ?_⟩
    rw [syntaxTree_eq ho, htext, herror]

/-- A missing colon before misfit text. -/
theorem firstError_first_missing_colon :
    let colon : NodeView := { kind := ":", named := false, missing := true, broken := true, row := 1, column := 4 }
    let t : ConcreteTree := .node { kind := "module", broken := true }
      [.node { kind := "pass_statement" } [],
        .node { kind := "if_statement", broken := true, row := 1 }
          [.node { kind := "identifier", field := some "condition", row := 1, column := 3 } [], .node colon []],
        .node { kind := "ERROR", error := true, broken := true, row := 2 } []]
    t.TellsErrors ∧ firstError t = some colon ∧ syntaxTreeOf 1000 t = .error ⟨2, 5, .missing ":"⟩ := by
  intro colon t
  have ht : t.TellsErrors := by decide
  obtain ⟨-, -, hfirst, -, herror⟩ := firstError_first t ht
  have hcolon : firstError t = some colon := (hfirst colon).2 ⟨t.views.take 4, t.views.drop 5, by decide⟩
  obtain ⟨v, hv, hsyntax, -⟩ := herror rfl
  obtain rfl := Option.some.inj (hv.symm.trans hcolon)
  exact ⟨ht, hcolon, hsyntax 1000⟩

end Likeness.Parse
