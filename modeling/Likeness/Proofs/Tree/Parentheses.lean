import Mathlib.Logic.Relation
import Mathlib.Tactic.Common
import Likeness.Proofs.Tree.Places
import Likeness.Proofs.Tree.Symbols

/-!
# Comments and parentheses

A tree is normalized alike with and without comments, and with and without parentheses around expressions
(`additions_unseen`).  Parentheses change what is handed down to the node in them: it is no longer a part of its parent,
and no longer among declared parameters.  So a name must have been an ordinary variable before, and nodes that pass
declarations on are left out.

* `Slot` : a row of children anywhere in a tree; `exists_slot_of_mem_places` : every node below the root
  stands in one;
* `Slot.normalize_fill_congr` : rows that are normalized alike may stand for each other;
* `normalAt_inParentheses` : a node and the same node in parentheses are normalized alike.
-/

namespace Likeness.Tree

/-! ### Slots -/

/-- A node with a gap among its children. -/
structure Frame where
  node : Node
  before : List SyntaxTree
  after : List SyntaxTree

/-- A gap among the children of a node somewhere in a tree. -/
structure Slot where
  /-- The way up from the gap but for the root, the nearest first. -/
  inner : List Frame
  root : Frame

/-- The node with a row of children in its gap. -/
def Frame.fill (f : Frame) (ts : List SyntaxTree) : SyntaxTree :=
  .node f.node.kind f.node.field f.node.named (f.before ++ ts ++ f.after)

namespace Slot

variable (s : Slot)

/-- The whole tree with a row of children in the gap. -/
def fill (ts : List SyntaxTree) : SyntaxTree := s.root.fill (s.inner.foldl (fun ts f => [f.fill ts]) ts)

/-- The nodes above the gap but for the root. -/
def above : List Node := s.inner.map (·.node)

/-- The place of a tree in the gap. -/
def place (t : SyntaxTree) : Place := ⟨t.top, s.above, s.root.node⟩

/-- The gap that is left between further children. -/
def narrow (before after : List SyntaxTree) : Slot → Slot
  | ⟨[], r⟩ => ⟨[], ⟨r.node, r.before ++ before, after ++ r.after⟩⟩
  | ⟨f :: inner, r⟩ => ⟨⟨f.node, f.before ++ before, after ++ f.after⟩ :: inner, r⟩

theorem fill_narrow (before after ts : List SyntaxTree) :
    (s.narrow before after).fill ts = s.fill (before ++ ts ++ after) := by
  obtain ⟨_ | ⟨f, inner⟩, r⟩ := s <;> simp [narrow, fill, Frame.fill]

theorem above_narrow (before after : List SyntaxTree) : (s.narrow before after).above = s.above := by
  obtain ⟨_ | ⟨f, inner⟩, r⟩ := s <;> rfl

theorem root_node_narrow (before after : List SyntaxTree) : (s.narrow before after).root.node = s.root.node := by
  obtain ⟨_ | ⟨f, inner⟩, r⟩ := s <;> rfl

end Slot

mutual
theorem exists_slot_of_mem_placesFrom {p : Place} : ∀ {t : SyntaxTree} {s : Slot},
    p ∈ t.placesFrom s.above s.root.node → ∃ (s' : Slot) (u : SyntaxTree), s'.fill [u] = s.fill [t] ∧ s'.place u = p
  | .node kind field named children, s, hp => by
    rw [SyntaxTree.placesFrom] at hp
    rcases List.mem_cons.1 hp with rfl | hp
    · exact ⟨s, .node kind field named children, rfl, rfl⟩
    · obtain ⟨s', u, hfill, hplace⟩ :=
        exists_slot_of_mem_placesAll (s := ⟨⟨⟨kind, field, named⟩, [], []⟩ :: s.inner, s.root⟩) hp
      refine ⟨s', u, hfill.trans ?_, hplace⟩
      simp [Slot.fill, Frame.fill]

theorem exists_slot_of_mem_placesAll {p : Place} : ∀ {ts : List SyntaxTree} {s : Slot},
    p ∈ SyntaxTree.placesAll s.above s.root.node ts →
    ∃ (s' : Slot) (u : SyntaxTree), s'.fill [u] = s.fill ts ∧ s'.place u = p
  | [], _, hp => by cases hp
  | t :: ts, s, hp => by
    rw [SyntaxTree.placesAll] at hp
    rcases List.mem_append.1 hp with hp | hp
    · obtain ⟨s', u, hfill, hplace⟩ := exists_slot_of_mem_placesFrom (s := s.narrow [] ts)
        (by rwa [Slot.above_narrow, Slot.root_node_narrow])
      exact ⟨s', u, hfill.trans (s.fill_narrow [] ts [t]), hplace⟩
    · obtain ⟨s', u, hfill, hplace⟩ := exists_slot_of_mem_placesAll (s := s.narrow [t] [])
        (by rwa [Slot.above_narrow, Slot.root_node_narrow])
      refine ⟨s', u, hfill.trans ((s.fill_narrow [t] [] ts).trans ?_), hplace⟩
      rw [List.append_nil, List.singleton_append]
end

/-- Every node below the root stands in a gap. -/
theorem exists_slot_of_mem_places {m : SyntaxTree} {p : Place} (hp : p ∈ m.places) :
    ∃ (s : Slot) (t : SyntaxTree), s.fill [t] = m ∧ s.place t = p := by
  obtain ⟨s, t, hfill, hplace⟩ := exists_slot_of_mem_placesAll (s := ⟨[], ⟨m.top, [], []⟩⟩) hp
  refine ⟨s, t, hfill.trans ?_, hplace⟩
  cases m
  simp [Slot.fill, Frame.fill, SyntaxTree.top, SyntaxTree.kind, SyntaxTree.field, SyntaxTree.named, SyntaxTree.children]

/-- What a node is normalized to depends on its children by what these are normalized to. -/
theorem Frame.normalAt_fill_congr {f : Frame} {above : List Node} {root : Node} {ts us : List SyntaxTree}
    (h : ts.flatMap (normalAt (f.node :: above) root) = us.flatMap (normalAt (f.node :: above) root)) :
    normalAt above root (f.fill ts) = normalAt above root (f.fill us) := by
  rw [normalAt_node, normalAt_node]
  refine congrArg (Place.normal ⟨f.node, above, root⟩) ?_
  change (f.before ++ ts ++ f.after).flatMap (normalAt (f.node :: above) root) =
    (f.before ++ us ++ f.after).flatMap (normalAt (f.node :: above) root)
  simp only [List.flatMap_append, h]

/-- Rows that are normalized alike in a gap may stand for each other there. -/
theorem Slot.normalize_fill_congr {s : Slot} {ts us : List SyntaxTree}
    (h : ts.flatMap (normalAt s.above s.root.node) = us.flatMap (normalAt s.above s.root.node)) :
    normalize (s.fill ts) = normalize (s.fill us) := by
  obtain ⟨inner, root⟩ := s
  induction inner generalizing ts us with
  | nil =>
    have h : ts.flatMap (normalAt [] root.node) = us.flatMap (normalAt [] root.node) := h
    rw [normalize_node, normalize_node]
    refine congrArg (NormalTree.node _) ?_
    change (root.before ++ ts ++ root.after).flatMap (normalAt [] root.node) =
      (root.before ++ us ++ root.after).flatMap (normalAt [] root.node)
    simp only [List.flatMap_append, h]
  | cons f inner ih =>
    have hfilled : normalAt (inner.map (·.node)) root.node (f.fill ts) =
        normalAt (inner.map (·.node)) root.node (f.fill us) := Frame.normalAt_fill_congr h
    change normalize (fill ⟨inner, root⟩ [f.fill ts]) = normalize (fill ⟨inner, root⟩ [f.fill us])
    refine ih ?_
    rw [List.flatMap_singleton, List.flatMap_singleton]
    exact hfilled

/-! ### Comments -/

theorem normalAt_comment {above : List Node} {root : Node} {c : SyntaxTree} (hc : c.top.IsComment) :
    normalAt above root c = [] := by
  have hopens : ¬c.top.Opens := fun h => h.1 hc
  have hstays : ¬Place.Stays ⟨c.top, above, root⟩ := fun h => h.1 hc
  rw [normalAt_node, Place.normal, if_neg hopens, if_neg hstays]

/-! ### Parentheses -/

/-- A pair of parentheses. -/
def parentheses (field : Option String) : Node := ⟨"parenthesized_expression", field, true⟩

theorem opens_parentheses (field : Option String) : (parentheses field).Opens := by
  have hplain : "parenthesized_expression" ≠ "comment" ∧
      ¬("parenthesized_expression" = "identifier" ∨ "parenthesized_expression" = "keyword_identifier") ∧
      ¬(literalType? "parenthesized_expression").isSome = true := by decide
  exact ⟨hplain.1, hplain.2.1, hplain.2.2, .inl rfl⟩

namespace SyntaxTree

def withoutField (t : SyntaxTree) : SyntaxTree := .node t.kind none t.named t.children

/-- A tree in parentheses that play its part. -/
def inParentheses (t : SyntaxTree) : SyntaxTree :=
  .node "parenthesized_expression" t.field true [punctuation "(", t.withoutField, punctuation ")"]

end SyntaxTree

/-- A child declares parameters whatever is handed down to a node, unless the node passes this on. -/
theorem declares_eq {a : Node} (hkind : a.kind ∉ defaultKinds ++ patternKinds) (field : Option String) (i j : Bool) :
    declares a.kind field i = declares a.kind field j := by
  have hpasses : ¬a.Passes field := by
    intro h
    rcases h with h | h
    · exact hkind (List.mem_append_right _ h)
    · exact hkind (List.mem_append_left _ h.1)
  rw [Bool.eq_iff_iff, declares_iff, declares_iff]
  simp [hpasses]

section Parentheses

variable {above : List Node} {root : Node}

/-- Inside parentheses a name is an ordinary variable. -/
theorem role_in_parentheses (field : Option String) (a : Node) (ha : a.field = none) :
    Place.role ⟨a, parentheses field :: above, root⟩ = .variableName := by
  have hpart : Place.part? ⟨a, parentheses field :: above, root⟩ = none := by
    change nameParts.lookup ("parenthesized_expression", a.field) = none
    rw [ha]
    decide
  have hparameters : ¬Place.InParameters ⟨a, parentheses field :: above, root⟩ := by
    rw [← Place.declaredIn_iff, declaredIn]
    exact Bool.not_eq_true _ ▸ declares_parentheses a.field _
  rw [Place.role, hpart, if_neg hparameters]
  rfl

theorem normalAt_bracket (field : Option String) {text : String} (htext : text = "(" ∨ text = ")") :
    normalAt (parentheses field :: above) root (punctuation text) = [] := by
  have hopens : ¬(punctuation text).top.Opens := by
    rcases htext with rfl | rfl <;> decide
  have hkeeps : ¬((punctuation text).top.IsName ∨ (punctuation text).top.IsLiteral ∨ false = true ∨
      "parenthesized_expression" ∈ operatorKinds) := by
    rcases htext with rfl | rfl <;> decide
  have hstays : ¬Place.Stays ⟨(punctuation text).top, parentheses field :: above, root⟩ := fun h => hkeeps h.2.2
  rw [normalAt_node, Place.normal, if_neg hopens, if_neg hstays]

/-- A node without its field is normalized alike in parentheses. -/
theorem normalAt_withoutField (field : Option String) {t : SyntaxTree} (hnamed : t.named = true)
    (hkind : t.kind ∉ defaultKinds ++ patternKinds)
    (hrole : t.top.IsName → Place.role ⟨t.top, above, root⟩ = .variableName) :
    normalAt (parentheses field :: above) root t.withoutField = normalAt above root t := by
  let p : Place := ⟨t.top, above, root⟩
  let q : Place := ⟨t.withoutField.top, parentheses field :: above, root⟩
  have hbelow : t.children.flatMap (normalAt (q.node :: q.above) root) =
      t.children.flatMap (normalAt (p.node :: p.above) root) := by
    refine List.flatMap_congr fun child _ => ?_
    have hdeclares : declaredIn (q.node :: q.above) child.field = declaredIn (p.node :: p.above) child.field :=
      declares_eq (a := t.top) hkind child.field _ _
    change normalNodes ⟨t.kind, declaredIn (q.node :: q.above) child.field⟩ child = _
    rw [hdeclares]
    rfl
  have hlabel : q.label = p.label := by
    by_cases hname : t.top.IsName
    · calc q.label = .name q.role := if_pos hname
        _ = .name .variableName := congrArg _ (role_in_parentheses field _ rfl)
        _ = .name p.role := congrArg _ (hrole hname).symm
        _ = p.label := (if_pos hname).symm
    · have hq : q.label = _ := if_neg hname
      have hp : p.label = _ := if_neg hname
      rw [hq, hp]
      rfl
  have hstays : q.Stays ↔ p.Stays := (q.stays_iff_of_named hnamed).trans (p.stays_iff_of_named hnamed).symm
  rw [normalAt_node, normalAt_node]
  change q.normal (t.children.flatMap (normalAt (q.node :: q.above) root)) =
    p.normal (t.children.flatMap (normalAt (p.node :: p.above) root))
  rw [hbelow]
  exact Place.normal_congr (show q.node.Opens ↔ p.node.Opens from Iff.rfl) hstays hlabel _

/-- A node and the same node in parentheses are normalized alike, if the node does not pass declarations on and is not
a name with a part of its own. -/
theorem normalAt_inParentheses {t : SyntaxTree} (hnamed : t.named = true)
    (hkind : t.kind ∉ defaultKinds ++ patternKinds)
    (hrole : t.top.IsName → Place.role ⟨t.top, above, root⟩ = .variableName) :
    normalAt above root t.inParentheses = normalAt above root t := by
  have hopens := opens_parentheses t.field
  have hstays : ¬Place.Stays ⟨parentheses t.field, above, root⟩ := fun h => h.2.1 rfl
  rw [normalAt_node]
  change Place.normal ⟨parentheses t.field, above, root⟩ ([punctuation "(", t.withoutField, punctuation ")"].flatMap
    (normalAt (parentheses t.field :: above) root)) = _
  rw [Place.normal, if_pos hopens, if_neg hstays, List.flatMap_cons, List.flatMap_cons, List.flatMap_singleton,
    normalAt_bracket _ (.inl rfl), normalAt_bracket _ (.inr rfl), normalAt_withoutField _ hnamed hkind hrole,
    List.nil_append, List.append_nil]

end Parentheses

/-! ### Additions that are not seen -/

/-- One comment or one pair of parentheses is put into a tree: a comment anywhere below the root, parentheses around a
node that does not pass declarations on and is an ordinary variable if it is a name. -/
inductive Adds : SyntaxTree → SyntaxTree → Prop
  | comment (s : Slot) {c : SyntaxTree} (hc : c.top.IsComment) : Adds (s.fill []) (s.fill [c])
  | parentheses (s : Slot) {t : SyntaxTree} (hnamed : t.named = true) (hkind : t.kind ∉ defaultKinds ++ patternKinds)
      (hrole : t.top.IsName → (s.place t).role = .variableName) : Adds (s.fill [t]) (s.fill [t.inParentheses])

theorem normalize_adds {m m' : SyntaxTree} (h : Adds m m') : normalize m' = normalize m := by
  cases h with
  | comment s hc =>
    refine Slot.normalize_fill_congr ?_
    rw [List.flatMap_singleton, normalAt_comment hc, List.flatMap_nil]
  | parentheses s hnamed hkind hrole =>
    refine Slot.normalize_fill_congr ?_
    rw [List.flatMap_singleton, List.flatMap_singleton]
    exact normalAt_inParentheses hnamed hkind hrole

/-- Comments anywhere below the root and parentheses around expressions, in any number, are not seen when a tree is
normalized. -/
theorem additions_unseen {m m' : SyntaxTree} (h : Relation.ReflTransGen Adds m m') :
    normalize m' = normalize m ∧ (normalize m').symbols = (normalize m).symbols := by
  have heq : normalize m' = normalize m := by
    induction h with
    | refl => rfl
    | tail _ hstep ih => exact (normalize_adds hstep).trans ih
  exact ⟨heq, congrArg NormalTree.symbols heq⟩

/-- `a + b`, and `(a) + b` with a comment behind it. -/
theorem additions_unseen_sum :
    let a : SyntaxTree := .node "identifier" (some "left") true []
    let rest : List SyntaxTree := [.node "+" (some "operator") false [], .node "identifier" (some "right") true []]
    let sum (left : SyntaxTree) : SyntaxTree := .node "binary_operator" none true (left :: rest)
    let m := textOf (sum a)
    let m' : SyntaxTree := .node "module" none true
      [.node "expression_statement" none true [sum a.inParentheses], .node "comment" none true []]
    Relation.ReflTransGen Adds m m' ∧ normalize m' = normalize m ∧ (normalize m').symbols = (normalize m).symbols := by
  intro a rest sum m m'
  let statement : Frame := ⟨⟨"expression_statement", none, true⟩, [], []⟩
  have hparentheses : Adds m (textOf (sum a.inParentheses)) :=
    .parentheses ⟨[⟨⟨"binary_operator", none, true⟩, [], rest⟩, statement], ⟨⟨"module", none, true⟩, [], []⟩⟩ rfl
      (by decide) (fun _ => by decide)
  have hcomment : Adds (textOf (sum a.inParentheses)) m' :=
    .comment ⟨[], ⟨⟨"module", none, true⟩, [statement.fill [sum a.inParentheses]], []⟩⟩ rfl
  have hsteps : Relation.ReflTransGen Adds m m' := .tail (.single hparentheses) hcomment
  exact ⟨hsteps, additions_unseen hsteps⟩

end Likeness.Tree
