import Mathlib.Data.List.Basic
import Mathlib.Tactic.Common
import Likeness.Proofs.Decimal.Fraction
import Likeness.Proofs.Overlap.Metric
import Likeness.Tree.Normal

/-!
# What the symbols tell about a tree

A node with children is closed by a mark of its own, a leaf is not.  So the symbols leave open whether a label that
both may have stands on a leaf, and two trees can have the same symbols (`nested_lists_have_equal_symbols`).

* `outline` : the nodes in document order, each with its label and whether it is a leaf;
* `serialize_append_inj` : together with the leaves the symbols give the tree back;
* `labels_serialize` and `count_close_serialize` : what the symbols give by themselves;
* `inner_structural` : in a normalized tree only structural nodes have children.
-/

namespace Likeness.Tree

/-- The label of a node, if a symbol is one. -/
def Symbol.label? : Symbol → Option Label
  | node l => some l
  | close => none

/-! ### Outlines -/

namespace NormalTree

mutual
/-- The nodes of a tree in document order: the label, and whether the node is a leaf. -/
def outline : NormalTree → List (Label × Bool)
  | .node l cs => (l, cs.isEmpty) :: outlineAll cs

def outlineAll : List NormalTree → List (Label × Bool)
  | [] => []
  | t :: ts => outline t ++ outlineAll ts
end

theorem outlineAll_append (ts us : List NormalTree) :
    outlineAll (ts ++ us) = outlineAll ts ++ outlineAll us := by
  induction ts with
  | nil => rfl
  | cons t ts ih => rw [List.cons_append, outlineAll, outlineAll, ih, List.append_assoc]

/-- The labels of the nodes below the root, in document order. -/
def labels (t : NormalTree) : List Label := (outlineAll t.children).map (·.1)

/-- Which of the nodes below the root are leaves, in document order. -/
def leafMarks (t : NormalTree) : List Bool := (outlineAll t.children).map (·.2)

theorem serialize_node (l : Label) (cs : List NormalTree) :
    serialize (.node l cs) = .node l :: (if cs.isEmpty then [] else serializeAll cs ++ [.close]) := by
  rw [serialize]

/-! ### Reading symbols back -/

/-- Symbols that no tree begins with. -/
def Stops (r : List Symbol) : Prop := ∀ l rest, r ≠ .node l :: rest

theorem stops_nil : Stops [] := by
  intro l rest h
  cases h

theorem stops_close (r : List Symbol) : Stops (.close :: r) := by
  intro l rest h
  cases h

mutual
/-- Symbols and leaves give a tree and what follows it. -/
theorem serialize_append_inj : ∀ {t u : NormalTree} {r r' : List Symbol} {m m' : List Bool},
    serialize t ++ r = serialize u ++ r' → (outline t).map (·.2) ++ m = (outline u).map (·.2) ++ m' →
    t = u ∧ r = r' ∧ m = m'
  | .node l cs, .node l' cs', r, r', m, m', hs, hm => by
    rw [serialize_node, serialize_node] at hs
    rw [outline, outline] at hm
    obtain ⟨hl, htail⟩ := List.cons.inj hs
    obtain ⟨hleaf, hmarks⟩ := List.cons.inj hm
    obtain rfl : l = l' := Symbol.node.inj hl
    have hleaf : cs.isEmpty = cs'.isEmpty := hleaf
    cases hb : cs'.isEmpty with
    | true =>
      obtain rfl := List.isEmpty_iff.1 hb
      obtain rfl := List.isEmpty_iff.1 (hleaf.trans hb)
      exact ⟨rfl, htail, hmarks⟩
    | false =>
      have hkids : serializeAll cs ++ .close :: r = serializeAll cs' ++ .close :: r' := by
        simpa [hleaf, hb] using htail
      obtain ⟨rfl, hrest, rfl⟩ := serializeAll_append_inj hkids hmarks (stops_close r) (stops_close r')
      exact ⟨rfl, (List.cons.inj hrest).2, rfl⟩

theorem serializeAll_append_inj : ∀ {ts us : List NormalTree} {r r' : List Symbol} {m m' : List Bool},
    serializeAll ts ++ r = serializeAll us ++ r' →
    (outlineAll ts).map (·.2) ++ m = (outlineAll us).map (·.2) ++ m' → Stops r → Stops r' →
    ts = us ∧ r = r' ∧ m = m'
  | [], [], r, r', m, m', hs, hm, _, _ => ⟨rfl, hs, hm⟩
  | [], .node l cs :: us, r, r', m, m', hs, _, hr, _ => by
    rw [serializeAll, serializeAll, serialize_node] at hs
    exact absurd hs (hr _ _)
  | .node l cs :: ts, [], r, r', m, m', hs, _, _, hr' => by
    rw [serializeAll, serializeAll, serialize_node] at hs
    exact absurd hs.symm (hr' _ _)
  | t :: ts, u :: us, r, r', m, m', hs, hm, hr, hr' => by
    rw [serializeAll, serializeAll, List.append_assoc, List.append_assoc] at hs
    rw [outlineAll, outlineAll, List.map_append, List.map_append, List.append_assoc, List.append_assoc] at hm
    obtain ⟨rfl, hs, hm⟩ := serialize_append_inj hs hm
    obtain ⟨rfl, rfl, rfl⟩ := serializeAll_append_inj hs hm hr hr'
    exact ⟨rfl, rfl, rfl⟩
end

theorem symbols_eq_nil_iff (t : NormalTree) : t.symbols = [] ↔ t.children = [] := by
  rw [symbols]
  cases t.children with
  | nil => simp [serializeAll]
  | cons u us =>
    cases u
    simp [serializeAll, serialize]

/-- Trees with the same label at the root are equal if their symbols and their leaves are. -/
theorem eq_of_symbols_eq {t u : NormalTree} (hroot : t.label = u.label) (hs : t.symbols = u.symbols)
    (hm : t.leafMarks = u.leafMarks) : t = u := by
  obtain ⟨l, ts⟩ := t
  obtain ⟨l', us⟩ := u
  have hs : serializeAll ts ++ [] = serializeAll us ++ [] := congrArg (· ++ []) hs
  have hm : (outlineAll ts).map (·.2) ++ [] = (outlineAll us).map (·.2) ++ [] := congrArg (· ++ []) hm
  obtain ⟨rfl, -, -⟩ := serializeAll_append_inj hs hm stops_nil stops_nil
  obtain rfl : l = l' := hroot
  rfl

/-! ### What symbols give by themselves -/

mutual
/-- The symbols that are no marks are the labels in document order. -/
theorem labels_serialize : ∀ t : NormalTree, (serialize t).filterMap Symbol.label? = (outline t).map (·.1)
  | .node l cs => by
    rw [serialize_node, outline, List.map_cons, ← labels_serializeAll cs]
    cases cs <;> simp [Symbol.label?, serializeAll]

theorem labels_serializeAll : ∀ ts : List NormalTree,
    (serializeAll ts).filterMap Symbol.label? = (outlineAll ts).map (·.1)
  | [] => rfl
  | t :: ts => by
    rw [serializeAll, outlineAll, List.filterMap_append, List.map_append, labels_serialize t, labels_serializeAll ts]
end

mutual
/-- There is one mark for each node with children. -/
theorem count_close_serialize : ∀ t : NormalTree, (serialize t).count .close = ((outline t).map (·.2)).count false
  | .node l cs => by
    rw [serialize_node, outline, List.map_cons]
    have hkids := count_close_serializeAll cs
    cases cs with
    | nil => simp [outlineAll]
    | cons c cs =>
      simp [hkids]

theorem count_close_serializeAll : ∀ ts : List NormalTree,
    (serializeAll ts).count .close = ((outlineAll ts).map (·.2)).count false
  | [] => rfl
  | t :: ts => by
    rw [serializeAll, outlineAll, List.count_append, List.map_append, List.count_append, count_close_serialize t,
      count_close_serializeAll ts]
end

/-- Equal labels in document order mark the same leaves, if no label is on a leaf of one and on a node with children
of the other. -/
theorem map_snd_eq {o o' : List (Label × Bool)} (hlabels : o.map (·.1) = o'.map (·.1))
    (hmixed : ∀ l b, (l, b) ∈ o → (l, !b) ∉ o') : o.map (·.2) = o'.map (·.2) := by
  induction o generalizing o' with
  | nil => simp_all
  | cons p o ih =>
    obtain ⟨l, b⟩ := p
    rcases o' with _ | ⟨⟨l', b'⟩, o'⟩
    · cases hlabels
    · obtain ⟨hl, hrest⟩ := List.cons.inj hlabels
      obtain rfl : l = l' := hl
      have hb : b = b' := by
        by_contra hne
        refine hmixed l b (by simp) ?_
        have : (!b) = b' := by cases b <;> cases b' <;> simp_all
        simp [this]
      have hkids := ih hrest fun l b hin hin' =>
        hmixed l b (List.mem_cons_of_mem _ hin) (List.mem_cons_of_mem _ hin')
      rw [List.map_cons, List.map_cons, hkids, hb]

end NormalTree

/-! ### Normalized trees -/

open NormalTree

/-- Whether a label is that of a node that keeps its children when it is normalized. -/
def Label.isStructural : Label → Bool
  | shape _ => true
  | other _ => true
  | operator _ => false
  | name _ => false
  | literal _ => false

theorem isStructural_of_kept {kind : String} {field : Option String} {named : Bool} {scope : Scope} {l : Label}
    (hl : fateOf kind field named scope = .kept l) : l.isStructural = true := by
  unfold fateOf at hl
  repeat' split at hl
  all_goals cases hl
  unfold Label.ofKind
  split <;> rfl

mutual
theorem inner_normalNodes {l : Label} : ∀ {t : SyntaxTree} {scope : Scope},
    (l, false) ∈ outlineAll (normalNodes scope t) → l.isStructural = true
  | .node kind field named children, scope => by
    rw [normalNodes]
    intro hl
    split at hl
    · cases hl
    · exact inner_normalAll hl
    · simp [outlineAll, outline] at hl
    · rename_i l' hkept
      rw [outlineAll, outlineAll, List.append_nil, outline] at hl
      rcases List.mem_cons.1 hl with hl | hl
      · obtain ⟨rfl, -⟩ := Prod.mk.inj hl
        exact isStructural_of_kept hkept
      · exact inner_normalAll hl

theorem inner_normalAll {l : Label} : ∀ {ts : List SyntaxTree} {parent : String} {inherited unwrapped : Bool},
    (l, false) ∈ outlineAll (normalAll parent inherited unwrapped ts) → l.isStructural = true
  | [], _, _, _, hl => by cases hl
  | t :: ts, parent, inherited, unwrapped, hl => by
    rw [normalAll, outlineAll_append] at hl
    rcases List.mem_append.1 hl with hl | hl
    · exact inner_normalNodes hl
    · exact inner_normalAll hl
end

theorem label_normalize (m : SyntaxTree) : (normalize m).label = .shape .module := by
  cases m
  rfl

/-- In a normalized tree only structural nodes have children. -/
theorem inner_structural {m : SyntaxTree} {l : Label} (hl : (l, false) ∈ outlineAll (normalize m).children) :
    l.isStructural = true := by
  cases m
  exact inner_normalAll hl

/-- The symbols of a normalized tree and its leaves tell the tree. The symbols by themselves tell the labels in
document order and the number of nodes with children, and they tell the tree unless a structural label is on a leaf
of the one and on a node with children of the other. Under the metric by subsequences trees that are not empty are
wholly alike exactly if their symbols are equal, also when the share is rounded, as long as the number of symbols is
not. -/
theorem symbols_and_leaves_determine_tree (m₁ m₂ : SyntaxTree) :
    let t₁ := normalize m₁
    let t₂ := normalize m₂
    (t₁ = t₂ ↔ t₁.symbols = t₂.symbols ∧ t₁.leafMarks = t₂.leafMarks) ∧
    (t₁.symbols = t₂.symbols → t₁.labels = t₂.labels ∧ t₁.leafMarks.count false = t₂.leafMarks.count false) ∧
    ((∀ l, l.isStructural = true → ∀ b, (l, b) ∈ outlineAll t₁.children → (l, !b) ∉ outlineAll t₂.children) →
      t₁.symbols = t₂.symbols → t₁ = t₂) ∧
    ∀ o : Overlap.Options, o.metricFor t₁.symbols.length t₂.symbols.length = .lcs →
      t₁.children ≠ [] → t₂.children ≠ [] →
      (((o.compare t₁.symbols t₂.symbols).value : ℚ) = 1 ↔ t₁.symbols = t₂.symbols) ∧
        (t₁.symbols.length + t₂.symbols.length < 2 ^ 53 →
          (((o.compare t₁.symbols t₂.symbols).value : Float) = 1 ↔ t₁.symbols = t₂.symbols)) := by
  intro t₁ t₂
  have hroot : t₁.label = t₂.label := (label_normalize m₁).trans (label_normalize m₂).symm
  have hlabels : t₁.symbols = t₂.symbols → t₁.labels = t₂.labels := fun hs => by
    rw [labels, labels, ← labels_serializeAll, ← labels_serializeAll]
    exact congrArg _ hs
  refine ⟨⟨?_, fun h => eq_of_symbols_eq hroot h.1 h.2⟩, fun hs => ⟨hlabels hs, ?_⟩, fun hmixed hs => ?_,
    fun o ho h₁ h₂ => ?_⟩
  · intro h
    rw [h]
    exact ⟨rfl, rfl⟩
  · rw [leafMarks, leafMarks, ← count_close_serializeAll, ← count_close_serializeAll]
    exact congrArg _ hs
  · refine eq_of_symbols_eq hroot hs (map_snd_eq (hlabels hs) fun l b hin hin' => ?_)
    -- the node with children is the one whose label is structural
    have hl : l.isStructural = true := by
      cases b with
      | false => exact inner_structural hin
      | true => exact inner_structural hin'
    exact hmixed l hl b hin hin'
  · have hs₁ : t₁.symbols ≠ [] := mt (symbols_eq_nil_iff t₁).1 h₁
    have hs₂ : t₂.symbols ≠ [] := mt (symbols_eq_nil_iff t₂).1 h₂
    rw [Overlap.Options.compare, ho]
    refine ⟨?_, fun hshort => ?_⟩
    · exact Overlap.value_overlap_lcs_eq_one_iff (Number.fractionsWhole_rat _) hs₁ hs₂ le_rfl
    · exact Overlap.value_overlap_lcs_eq_one_iff Binary64.fractionsWhole_float hs₁ hs₂ (by omega)

/-! ### Two trees with the same symbols -/

/-- A bracket or a comma. -/
def punctuation (text : String) : SyntaxTree := .node text none false []

/-- The syntax tree of a list in brackets. -/
def listOf (items : List SyntaxTree) : SyntaxTree :=
  .node "list" none true (punctuation "[" :: items.intersperse (punctuation ",") ++ [punctuation "]"])

/-- The syntax tree of a text with one expression. -/
def textOf (expression : SyntaxTree) : SyntaxTree :=
  .node "module" none true [.node "expression_statement" none true [expression]]

/-- `[[], [x]]` and `[[[], x]]` have the same symbols, and count as wholly alike. -/
theorem nested_lists_have_equal_symbols :
    let x : SyntaxTree := .node "identifier" none true []
    let t₁ := normalize (textOf (listOf [listOf [], listOf [x]]))
    let t₂ := normalize (textOf (listOf [listOf [listOf [], x]]))
    t₁.symbols = t₂.symbols ∧ t₁ ≠ t₂ ∧
      ((({} : Overlap.Options).compare t₁.symbols t₂.symbols).value : ℚ) = 1 ∧
      ((({} : Overlap.Options).compare t₁.symbols t₂.symbols).value : Float) = 1 := by
  intro x t₁ t₂
  have hs : t₁.symbols = t₂.symbols := by decide
  have hmetric : ({} : Overlap.Options).metricFor t₁.symbols.length t₂.symbols.length = .lcs := by decide
  refine ⟨hs, fun h => ?_, ?_, ?_⟩
  · have hm : t₁.leafMarks ≠ t₂.leafMarks := by decide
    exact hm (congrArg leafMarks h)
  · rw [Overlap.Options.compare, hmetric]
    exact (Overlap.value_overlap_lcs_eq_one_iff (Number.fractionsWhole_rat _) (by decide) (by decide) le_rfl).2 hs
  · rw [Overlap.Options.compare, hmetric]
    exact (Overlap.value_overlap_lcs_eq_one_iff Binary64.fractionsWhole_float (by decide) (by decide) (by decide)).2 hs

end Likeness.Tree
