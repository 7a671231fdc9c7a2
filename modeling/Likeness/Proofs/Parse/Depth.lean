import Mathlib.Tactic.Common
import Likeness.Proofs.Parse.Cursor
import Likeness.Proofs.Parse.Source

/-!
# Depth limits

A concrete tree is turned into a syntax tree by one cursor that goes over all of its nodes.  It comes out node for node,
unless some node is too deep, and then the first such node is at fault (`lower_within_limit`).

* `within` : what a limit makes of a result, by the nodes that were gone over for it;
* `lower_run` : what the cursor yields from a node on, and along a row of siblings;
* `lower_eq` : the result for a whole tree.
-/

namespace Likeness.Parse

open Likeness.Tree (SyntaxTree)

namespace ConcreteTree

mutual
/-- The syntax tree of a tree: the same nodes in the same order, with their kinds, fields and whether they are named. -/
def toSyntax : ConcreteTree → SyntaxTree
  | node v cs => .node v.kind v.field v.named (toSyntaxAll cs)

def toSyntaxAll : List ConcreteTree → List SyntaxTree
  | [] => []
  | t :: ts => toSyntax t :: toSyntaxAll ts
end

mutual
/-- The depths of nodes have no gaps: below a node at the limit or above it that is too deep there is one at the
limit. -/
theorem exists_at_limit {limit depth : Nat} (hdepth : depth ≤ limit) : ∀ {t : ConcreteTree} {n : Nat × ConcreteTree},
    n ∈ t.nodesFrom depth → limit ≤ n.1 → ∃ m ∈ t.nodesFrom depth, m.1 = limit
  | node v cs, n, hn, hlimit => by
    rw [nodesFrom] at hn ⊢
    rcases Nat.eq_or_lt_of_le hdepth with rfl | hlt
    · exact ⟨_, List.mem_cons_self, rfl⟩
    · rcases List.mem_cons.1 hn with rfl | hn
      · exact absurd hlimit (by simpa using hlt)
      · obtain ⟨m, hm, hat⟩ := exists_at_limit_all hlt hn hlimit
        exact ⟨m, List.mem_cons_of_mem _ hm, hat⟩

theorem exists_at_limit_all {limit depth : Nat} (hdepth : depth ≤ limit) :
    ∀ {ts : List ConcreteTree} {n : Nat × ConcreteTree},
    n ∈ nodesAll depth ts → limit ≤ n.1 → ∃ m ∈ nodesAll depth ts, m.1 = limit
  | [], n, hn, _ => by cases hn
  | t :: ts, n, hn, hlimit => by
    rw [nodesAll] at hn ⊢
    rcases List.mem_append.1 hn with hn | hn
    · obtain ⟨m, hm, hat⟩ := exists_at_limit hdepth hn hlimit
      exact ⟨m, List.mem_append_left _ hm, hat⟩
    · obtain ⟨m, hm, hat⟩ := exists_at_limit_all hdepth hn hlimit
      exact ⟨m, List.mem_append_right _ hm, hat⟩
end

/-- If no node is at the limit then all of them are above it. -/
theorem lt_limit_of_ne {limit : Nat} {t : ConcreteTree} (h : ∀ n ∈ t.nodes, n.1 ≠ limit) : ∀ n ∈ t.nodes, n.1 < limit := by
  intro n hn
  by_contra hlimit
  obtain ⟨m, hm, hat⟩ := exists_at_limit (Nat.zero_le limit) hn (Nat.le_of_not_lt hlimit)
  exact h m hm hat

end ConcreteTree

open ConcreteTree

/-! ### Results under a limit -/

/-- A result for which nodes were gone over: the first of them at the limit is an error. -/
def within {α : Type} (limit : Nat) (nodes : List (Nat × ConcreteTree)) (a : α) : Except Error α :=
  match nodes.find? (·.1 == limit) with
  | some n => .error (.at' n.2.view (.tooDeep limit))
  | none => .ok a

section Within

variable {α β : Type} {limit : Nat}

theorem within_cons_self (depth : Nat) (t : ConcreteTree) (nodes : List (Nat × ConcreteTree)) (a : α) :
    within depth ((depth, t) :: nodes) a = .error (.at' t.view (.tooDeep depth)) := by
  rw [within, List.find?_cons_of_pos (by simp)]

theorem within_cons_of_ne {n : Nat × ConcreteTree} (hn : n.1 ≠ limit) (nodes : List (Nat × ConcreteTree)) (a : α) :
    within limit (n :: nodes) a = within limit nodes a := by
  rw [within, List.find?_cons_of_neg (by simpa using hn), within]

theorem within_eq_ok_iff {ns : List (Nat × ConcreteTree)} {a b : α} :
    within limit ns a = .ok b ↔ b = a ∧ ∀ n ∈ ns, n.1 ≠ limit := by
  rw [within]
  cases hfind : ns.find? (·.1 == limit) with
  | some n =>
    have hn : n.1 = limit := by simpa using List.find?_some hfind
    constructor
    · intro h
      cases h
    · rintro ⟨-, hns⟩
      exact absurd hn (hns n (List.mem_of_find?_eq_some hfind))
  | none =>
    have hns : ∀ n ∈ ns, n.1 ≠ limit := fun n hn => by simpa using List.find?_eq_none.1 hfind n hn
    rw [Except.ok.injEq, eq_comm]
    exact (and_iff_left hns).symm

theorem within_eq_error_iff {ns : List (Nat × ConcreteTree)} {a : α} {e : Error} :
    within limit ns a = .error e ↔ ∃ before n after, ns = before ++ n :: after ∧ n.1 = limit ∧
      (∀ m ∈ before, m.1 ≠ limit) ∧ e = .at' n.2.view (.tooDeep limit) := by
  constructor
  · intro h
    rw [within] at h
    split at h
    · rename_i n hfind
      obtain ⟨hn, before, after, hns, hbefore⟩ := List.find?_eq_some_iff_append.1 hfind
      refine ⟨before, n, after, hns, by simpa using hn, fun m hm => by simpa using hbefore m hm, ?_⟩
      exact (Except.error.inj h).symm
    · cases h
  · rintro ⟨before, n, after, rfl, hn, hbefore, rfl⟩
    have hfind : (before ++ n :: after).find? (·.1 == limit) = some n :=
      List.find?_eq_some_iff_append.2 ⟨by simpa using hn, before, after, rfl, fun m hm => by simpa using hbefore m hm⟩
    rw [within, hfind]

/-- What is gone over later does not matter to a fault. -/
theorem within_append_of_error {ns : List (Nat × ConcreteTree)} {a : α} {e : Error} (h : within limit ns a = .error e)
    (ms : List (Nat × ConcreteTree)) (b : β) : within limit (ns ++ ms) b = .error e := by
  obtain ⟨before, n, after, rfl, hn, hbefore, rfl⟩ := within_eq_error_iff.1 h
  exact within_eq_error_iff.2 ⟨before, n, after ++ ms, by simp, hn, hbefore, rfl⟩

theorem within_append_of_ok {ns : List (Nat × ConcreteTree)} {a a' : α} (h : within limit ns a = .ok a')
    (ms : List (Nat × ConcreteTree)) (b : β) : within limit (ns ++ ms) b = within limit ms b := by
  have hfind : ns.find? (·.1 == limit) = none :=
    List.find?_eq_none.2 fun n hn => by simpa using (within_eq_ok_iff.1 h).2 n hn
  rw [within, List.find?_append, hfind]
  rfl

theorem within_map (f : α → β) (ns : List (Nat × ConcreteTree)) (a : α) :
    (within limit ns a).map f = within limit ns (f a) := by
  simp only [within]
  cases ns.find? (·.1 == limit) <;> rfl

end Within

/-! ### One step of the cursor -/

section Steps

variable {limit fuel depth : Nat} {c c' next : Cursor} {t : SyntaxTree}

theorem lowerNode_of_limit (h : limit ≤ depth) :
    lowerNode limit (fuel + 1) depth c = .error (.at' c.view (.tooDeep limit)) := by
  rw [lowerNode, if_pos h]

theorem lowerNode_of_leaf (h : depth < limit) (hchild : c.firstChild? = none) :
    lowerNode limit (fuel + 1) depth c = .ok (.node c.view.kind c.view.field c.view.named [], c) := by
  rw [lowerNode, if_neg (Nat.not_le_of_lt h), hchild]

theorem lowerNode_of_child (h : depth < limit) (hchild : c.firstChild? = some next) :
    lowerNode limit (fuel + 1) depth c = (lowerSiblings limit fuel (depth + 1) next).map fun r =>
      (.node c.view.kind c.view.field c.view.named r.1, (r.2.parent?).getD r.2) := by
  rw [lowerNode, if_neg (Nat.not_le_of_lt h), hchild]
  rfl

theorem lowerSiblings_of_error {e : Error} (hnode : lowerNode limit fuel depth c = .error e) :
    lowerSiblings limit (fuel + 1) depth c = .error e := by
  rw [lowerSiblings, hnode]
  rfl

theorem lowerSiblings_of_last (hnode : lowerNode limit fuel depth c = .ok (t, c')) (hnext : c'.nextSibling? = none) :
    lowerSiblings limit (fuel + 1) depth c = .ok ([t], c') := by
  rw [lowerSiblings, hnode]
  simp only [ok_bind, hnext]
  rfl

theorem lowerSiblings_of_next (hnode : lowerNode limit fuel depth c = .ok (t, c'))
    (hnext : c'.nextSibling? = some next) :
    lowerSiblings limit (fuel + 1) depth c = (lowerSiblings limit fuel depth next).map fun r => (t :: r.1, r.2) := by
  rw [lowerSiblings, hnode]
  simp only [ok_bind, hnext]
  rfl

end Steps

/-! ### The run of the cursor -/

/-- With the given fuel, enough for the tree below it, the cursor goes over that tree and comes back. -/
def LowersNodes (limit fuel : Nat) : Prop :=
  ∀ depth c, depth ≤ limit → 2 * c.focus.size ≤ fuel + 1 →
    lowerNode limit fuel depth c = within limit (c.focus.nodesFrom depth) (c.focus.toSyntax, c)

/-- With the given fuel, enough for the trees before it, the cursor goes over a row of siblings, and from the last of
them its way up leads where it led before. -/
def LowersRows (limit fuel : Nat) : Prop :=
  ∀ depth c, depth ≤ limit → 2 * sizeAll c.row ≤ fuel →
    (lowerSiblings limit fuel depth c).map (fun r => (r.1, r.2.parent?)) =
      within limit (nodesAll depth c.row) (toSyntaxAll c.row, c.parent?)

theorem lowersNodes_succ {limit fuel : Nat} (hrows : LowersRows limit fuel) : LowersNodes limit (fuel + 1) := by
  rintro depth ⟨⟨v, cs⟩, path⟩ hdepth hfuel
  let c : Cursor := ⟨.node v cs, path⟩
  change lowerNode limit (fuel + 1) depth c = _
  rw [nodesFrom, toSyntax]
  rcases Nat.eq_or_lt_of_le hdepth with rfl | hlt
  · rw [lowerNode_of_limit (Nat.le_refl depth), within_cons_self]
    rfl
  rw [within_cons_of_ne (Nat.ne_of_lt hlt)]
  cases hchild : c.firstChild? with
  | none =>
    obtain rfl : cs = [] := Cursor.children_of_firstChild?_eq_none hchild
    rw [lowerNode_of_leaf hlt hchild]
    rfl
  | some child =>
    have hrow : child.row = cs := Cursor.row_firstChild hchild
    have hrun := hrows (depth + 1) child hlt (by
      rw [size] at hfuel
      rw [hrow]
      omega)
    rw [hrow, Cursor.parent?_firstChild hchild] at hrun
    rw [lowerNode_of_child hlt hchild,
      ← within_map (fun r => (SyntaxTree.node v.kind v.field v.named r.1, c)) _ (toSyntaxAll cs, some c), ← hrun]
    cases hsiblings : lowerSiblings limit fuel (depth + 1) child with
    | error e => rfl
    | ok r =>
      -- the last of the children leads back to where the cursor went down
      rw [hsiblings] at hrun
      have hup : r.2.parent? = some c := (Prod.mk.inj (within_eq_ok_iff.1 hrun.symm).1).2
      simp only [Except.map, hup]
      rfl

theorem lowersRows_succ {limit fuel : Nat} (hnodes : LowersNodes limit fuel) (hrows : LowersRows limit fuel) :
    LowersRows limit (fuel + 1) := by
  intro depth c hdepth hfuel
  have hsize := c.focus.size_pos
  rw [Cursor.row, sizeAll] at hfuel
  have hnode := hnodes depth c hdepth (by omega)
  rw [Cursor.row, nodesAll, toSyntaxAll]
  cases hfirst : within limit (c.focus.nodesFrom depth) (c.focus.toSyntax, c) with
  | error e =>
    rw [lowerSiblings_of_error (hnode.trans hfirst), within_append_of_error hfirst]
    rfl
  | ok r =>
    obtain rfl := (within_eq_ok_iff.1 hfirst).1
    rw [within_append_of_ok hfirst]
    cases hnext : c.nextSibling? with
    | none =>
      rw [lowerSiblings_of_last (hnode.trans hfirst) hnext, Cursor.after_of_nextSibling?_eq_none hnext]
      rfl
    | some next =>
      have hrow : next.row = c.after := Cursor.row_nextSibling hnext
      have hrun := hrows depth next hdepth (by
        rw [hrow]
        omega)
      rw [hrow, Cursor.parent?_nextSibling hnext] at hrun
      rw [lowerSiblings_of_next (hnode.trans hfirst) hnext,
        ← within_map (fun r => (c.focus.toSyntax :: r.1, r.2)) _ (toSyntaxAll c.after, c.parent?), ← hrun]
      cases lowerSiblings limit fuel depth next <;> rfl

theorem lower_run (limit fuel : Nat) : LowersNodes limit fuel ∧ LowersRows limit fuel := by
  induction fuel with
  | zero =>
    -- without fuel there is no node to go over
    refine ⟨fun depth c _ hfuel => ?_, fun depth c _ hfuel => ?_⟩
    · have hsize := c.focus.size_pos
      omega
    · have hsize := c.focus.size_pos
      rw [Cursor.row, sizeAll] at hfuel
      omega
  | succ fuel ih => exact ⟨lowersNodes_succ ih.2, lowersRows_succ ih.1 ih.2⟩

theorem lower_eq (limit : Nat) (t : ConcreteTree) : lower limit t = within limit t.nodes t.toSyntax := by
  have hrun := (lower_run limit (2 * t.size + 1)).1 0 (.ofTree t) (Nat.zero_le limit)
    (Nat.le_add_right (2 * t.size) 2)
  rw [lower, hrun, within_map]
  rfl

/-- A tree is turned into a syntax tree exactly if all of its nodes are above the limit. The syntax tree is that of the
tree, whatever the limit. Otherwise the error is at the first node whose depth is the limit. -/
theorem lower_within_limit (limit : Nat) (t : ConcreteTree) :
    ((∃ s, lower limit t = .ok s) ↔ ∀ n ∈ t.nodes, n.1 < limit) ∧
    (∀ s, lower limit t = .ok s → s = t.toSyntax ∧ ∀ higher, limit ≤ higher → lower higher t = .ok s) ∧
    ∀ e, lower limit t = .error e → ∃ before n after, t.nodes = before ++ n :: after ∧ n.1 = limit ∧
      (∀ m ∈ before, m.1 ≠ limit) ∧ e = ⟨n.2.view.row + 1, n.2.view.column + 1, .tooDeep limit⟩ := by
  refine ⟨⟨?_, fun h => ?_⟩, fun s h => ?_, fun e h => ?_⟩
  · rintro ⟨s, h⟩
    rw [lower_eq] at h
    exact lt_limit_of_ne (within_eq_ok_iff.1 h).2
  · refine ⟨t.toSyntax, ?_⟩
    rw [lower_eq]
    exact within_eq_ok_iff.2 ⟨rfl, fun n hn => Nat.ne_of_lt (h n hn)⟩
  · rw [lower_eq] at h
    obtain ⟨rfl, hne⟩ := within_eq_ok_iff.1 h
    refine ⟨rfl, fun higher hle => ?_⟩
    rw [lower_eq]
    exact within_eq_ok_iff.2 ⟨rfl, fun n hn => Nat.ne_of_lt (Nat.lt_of_lt_of_le (lt_limit_of_ne hne n hn) hle)⟩
  · rw [lower_eq] at h
    exact within_eq_error_iff.1 h

end Likeness.Parse
