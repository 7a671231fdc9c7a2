import Mathlib.Data.List.Basic
import Mathlib.Data.List.GetD
import Mathlib.Tactic.Common
import Likeness.Fingerprint.Winnow

/-!
# Winnowing window by window

* `selection h w` is winnowing read off the windows: of each window the last place of its least hash, and that
  place once for all windows in a row that have it;
* `Frontier h l r cs` is the invariant of the scan: `cs` are the places from `l` to before `r` whose hash is less
  than every later one, the newest first;
* `winnow_eq_selection` : the scan gives the selection, and `mem_selection` tells which marks are in it.
-/

namespace Likeness.Fingerprint

/-! ### The last place of a least hash -/

/-- Whether the hash at place `i` is a least one of the window of `w` hashes from place `l` on. -/
def holdsLeast (h : List UInt64) (l w i : Nat) : Bool :=
  (List.range' l w).all fun j => h.getD i 0 ≤ h.getD j 0

/-- The last place of the window of `w` hashes from place `l` on that holds its least hash. -/
def lastLeast? (h : List UInt64) (l w : Nat) : Option Nat :=
  (List.range' l w).findRev? (holdsLeast h l w)

/-- `i` is the last place of a least hash among the places from `l` to before `r`. -/
structure LastLeast (h : List UInt64) (l r i : Nat) : Prop where
  left : l ≤ i
  right : i < r
  least : ∀ j, l ≤ j → j < r → h.getD i 0 ≤ h.getD j 0
  last : ∀ j, i < j → j < r → h.getD i 0 < h.getD j 0

theorem findRev?_range'_eq_some {p : Nat → Bool} {l w i : Nat} :
    (List.range' l w).findRev? p = some i ↔
      p i = true ∧ l ≤ i ∧ i < l + w ∧ ∀ j, i < j → j < l + w → p j = false := by
  rw [List.findRev?_eq_find?_reverse]
  induction w with
  | zero => simp; omega
  | succ w ih =>
    rw [List.range'_1_concat, List.reverse_append, List.reverse_singleton, List.singleton_append]
    by_cases hp : p (l + w) = true
    · rw [List.find?_cons_of_pos hp, Option.some.injEq]
      constructor
      · rintro rfl
        exact ⟨hp, by omega, by omega, fun j h1 h2 => by omega⟩
      · rintro ⟨-, -, hi, hlast⟩
        by_contra hne
        have := hlast (l + w) (by omega) (by omega)
        simp [hp] at this
    · rw [List.find?_cons_of_neg hp, ih]
      constructor
      · rintro ⟨hi, h1, h2, hlast⟩
        refine ⟨hi, h1, by omega, fun j hij hj => ?_⟩
        rcases Nat.lt_or_ge j (l + w) with hj' | hj'
        · exact hlast j hij hj'
        · obtain rfl : j = l + w := by omega
          simpa using hp
      · rintro ⟨hi, h1, h2, hlast⟩
        have hne : i ≠ l + w := fun e => hp (e ▸ hi)
        exact ⟨hi, h1, by omega, fun j hij hj => hlast j hij (by omega)⟩

theorem holdsLeast_iff {h : List UInt64} {l w i : Nat} :
    holdsLeast h l w i = true ↔ ∀ j, l ≤ j → j < l + w → h.getD i 0 ≤ h.getD j 0 := by
  simp [holdsLeast]

theorem lastLeast?_eq_some {h : List UInt64} {l w i : Nat} :
    lastLeast? h l w = some i ↔ LastLeast h l (l + w) i := by
  rw [lastLeast?, findRev?_range'_eq_some, holdsLeast_iff]
  constructor
  · rintro ⟨hleast, h1, h2, hlast⟩
    refine ⟨h1, h2, hleast, fun j hij hj => ?_⟩
    have hj' : ¬ ∀ k, l ≤ k → k < l + w → h.getD j 0 ≤ h.getD k 0 := by
      rw [← holdsLeast_iff, hlast j hij hj]
      simp
    push Not at hj'
    obtain ⟨k, hk1, hk2, hk⟩ := hj'
    exact UInt64.lt_of_le_of_lt (hleast k hk1 hk2) (UInt64.not_le.1 hk)
  · intro hi
    refine ⟨hi.least, hi.left, hi.right, fun j hij hj => ?_⟩
    rw [← Bool.not_eq_true, holdsLeast_iff]
    intro hj'
    exact UInt64.not_le.2 (hi.last j hij hj) (hj' i hi.left hi.right)

namespace LastLeast

variable {h : List UInt64} {l r i : Nat}

/-- A place by itself. -/
theorem single : LastLeast h l (l + 1) l := by
  refine ⟨Nat.le_refl l, Nat.lt_succ_self l, fun j h1 h2 => ?_, fun j h1 h2 => by omega⟩
  obtain rfl : j = l := by omega
  exact UInt64.le_refl _

/-- One more place, which is the last least one unless its hash is greater. -/
theorem extend (hi : LastLeast h l r i) :
    LastLeast h l (r + 1) (if h.getD r 0 ≤ h.getD i 0 then r else i) := by
  have hlr : l ≤ r := Nat.le_trans hi.left (Nat.le_of_lt hi.right)
  have hcut : ∀ j, j < r + 1 → j < r ∨ j = r := fun j hj => by omega
  split
  · rename_i hle
    refine ⟨hlr, Nat.lt_succ_self r, fun j h1 h2 => ?_, fun j h1 h2 => by omega⟩
    rcases hcut j h2 with hj | rfl
    · exact UInt64.le_trans hle (hi.least j h1 hj)
    · exact UInt64.le_refl _
  · rename_i hlt
    have hlt := UInt64.not_le.1 hlt
    refine ⟨hi.left, Nat.lt_succ_of_lt hi.right, fun j h1 h2 => ?_, fun j h1 h2 => ?_⟩
    · rcases hcut j h2 with hj | rfl
      · exact hi.least j h1 hj
      · exact UInt64.le_of_lt hlt
    · rcases hcut j h2 with hj | rfl
      · exact hi.last j h1 hj
      · exact hlt

theorem exists_of_lt (h : List UInt64) (hlr : l < r) : ∃ i, LastLeast h l r i := by
  induction r with
  | zero => omega
  | succ r ih =>
    rcases Nat.lt_or_ge l r with hlt | hge
    · obtain ⟨i, hi⟩ := ih hlt
      exact ⟨_, hi.extend⟩
    · obtain rfl : r = l := by omega
      exact ⟨r, single⟩

end LastLeast

/-- The mark of a place. -/
def markAt (h : List UInt64) (i : Nat) : Mark := ⟨h.getD i 0, i⟩

@[simp] theorem markAt_position (h : List UInt64) (i : Nat) : (markAt h i).position = i := rfl

@[simp] theorem markAt_hash (h : List UInt64) (i : Nat) : (markAt h i).hash = h.getD i 0 := rfl

theorem of_drop_eq_cons {h xs : List UInt64} {i : Nat} {x : UInt64} (hd : h.drop i = x :: xs) :
    i < h.length ∧ h.getD i 0 = x ∧ h.drop (i + 1) = xs := by
  have hi : i < h.length := by
    by_contra hi
    rw [List.drop_eq_nil_of_le (Nat.le_of_not_lt hi)] at hd
    cases hd
  rw [List.drop_eq_getElem_cons hi] at hd
  obtain ⟨hx, hxs⟩ := List.cons.inj hd
  exact ⟨hi, by simp [hi, hx], hxs⟩

theorem leastFrom_eq {h : List UInt64} : ∀ {hs : List UInt64} {i p : Nat}, h.drop i = hs →
    LastLeast h 0 i p → i ≤ h.length →
    ∃ q, LastLeast h 0 h.length q ∧ leastFrom (markAt h p) i hs = markAt h q := by
  intro hs
  induction hs with
  | nil =>
    intro i p hd hp hi
    obtain rfl : i = h.length := Nat.le_antisymm hi (List.drop_eq_nil_iff.1 hd)
    exact ⟨p, hp, rfl⟩
  | cons x xs ih =>
    intro i p hd hp _
    obtain ⟨hi, rfl, hd'⟩ := of_drop_eq_cons hd
    obtain ⟨q, hq, e⟩ := ih hd' hp.extend hi
    refine ⟨q, hq, ?_⟩
    rw [← e, leastFrom, markAt_hash]
    split <;> rfl

/-! ### The frontier of a window -/

/-- The candidates of the window from `l` to before `r`: the places whose hash is less than every later one, the
newest first. -/
structure Frontier (h : List UInt64) (l r : Nat) (cs : List Mark) : Prop where
  descending : cs.Pairwise fun a b => b.position < a.position ∧ b.hash < a.hash
  mem_iff : ∀ m, m ∈ cs ↔ l ≤ m.position ∧ m.position < r ∧ m = markAt h m.position ∧
    ∀ j, m.position < j → j < r → m.hash < h.getD j 0

theorem mem_dropWhile_hash {cs : List Mark} {v : UInt64} (hcs : cs.Pairwise fun a b => b.hash < a.hash)
    (m : Mark) : m ∈ cs.dropWhile (fun c => v ≤ c.hash) ↔ m ∈ cs ∧ m.hash < v := by
  induction cs with
  | nil => simp
  | cons c cs ih =>
    obtain ⟨hc, hcs⟩ := List.pairwise_cons.1 hcs
    by_cases hv : v ≤ c.hash
    · rw [List.dropWhile_cons_of_pos (by simpa using hv), ih hcs]
      constructor
      · rintro ⟨hm, hlt⟩
        exact ⟨List.mem_cons_of_mem _ hm, hlt⟩
      · rintro ⟨hm, hlt⟩
        rcases List.mem_cons.1 hm with rfl | hm
        · exact absurd hv (UInt64.not_le.2 hlt)
        · exact ⟨hm, hlt⟩
    · rw [List.dropWhile_cons_of_neg (by simpa using hv)]
      have hlt := UInt64.not_le.1 hv
      constructor
      · intro hm
        refine ⟨hm, ?_⟩
        rcases List.mem_cons.1 hm with rfl | hm
        · exact hlt
        · exact UInt64.lt_trans (hc m hm) hlt
      · exact fun hm => hm.1

theorem mem_takeWhile_position {cs : List Mark} {l : Nat}
    (hcs : cs.Pairwise fun a b => b.position < a.position) (m : Mark) :
    m ∈ cs.takeWhile (fun c => l ≤ c.position) ↔ m ∈ cs ∧ l ≤ m.position := by
  induction cs with
  | nil => simp
  | cons c cs ih =>
    obtain ⟨hc, hcs⟩ := List.pairwise_cons.1 hcs
    by_cases hl : l ≤ c.position
    · rw [List.takeWhile_cons_of_pos (by simpa using hl), List.mem_cons, List.mem_cons, ih hcs]
      constructor
      · rintro (rfl | ⟨hm, hle⟩)
        · exact ⟨.inl rfl, hl⟩
        · exact ⟨.inr hm, hle⟩
      · rintro ⟨rfl | hm, hle⟩
        · exact .inl rfl
        · exact .inr ⟨hm, hle⟩
    · rw [List.takeWhile_cons_of_neg (by simpa using hl)]
      constructor
      · intro hm
        cases hm
      · rintro ⟨hm, hle⟩
        rcases List.mem_cons.1 hm with rfl | hm
        · exact absurd hle hl
        · have := hc m hm
          omega

namespace Frontier

variable {h : List UInt64} {l r : Nat} {cs : List Mark}

theorem nil (h : List UInt64) : Frontier h 0 0 [] :=
  ⟨List.Pairwise.nil, fun m => by simp⟩

/-- A window grows by one place at its right end. -/
theorem add (hf : Frontier h l r cs) (hlr : l ≤ r) :
    Frontier h l (r + 1) (addCandidate (markAt h r) cs) := by
  have hmem := mem_dropWhile_hash (v := h.getD r 0) (hf.descending.imp fun hab => hab.2)
  refine ⟨?_, fun m => ?_⟩
  · refine List.pairwise_cons.2 ⟨fun m hm => ?_, hf.descending.sublist (List.dropWhile_sublist _)⟩
    obtain ⟨hm, hlt⟩ := (hmem m).1 hm
    exact ⟨((hf.mem_iff m).1 hm).2.1, hlt⟩
  · rw [addCandidate, List.mem_cons, markAt_hash, hmem, hf.mem_iff]
    constructor
    · rintro (rfl | ⟨⟨h1, h2, h3, h4⟩, hlt⟩)
      · exact ⟨hlr, Nat.lt_succ_self r, rfl, fun j h1 h2 => by simp at h1; omega⟩
      · refine ⟨h1, Nat.lt_succ_of_lt h2, h3, fun j hj1 hj2 => ?_⟩
        rcases Nat.lt_or_ge j r with hj | hj
        · exact h4 j hj1 hj
        · obtain rfl : j = r := by omega
          exact hlt
    · rintro ⟨h1, h2, h3, h4⟩
      rcases Nat.lt_or_ge m.position r with hm | hm
      · exact .inr ⟨⟨h1, hm, h3, fun j hj1 hj2 => h4 j hj1 (by omega)⟩, h4 r hm (by omega)⟩
      · have e : m.position = r := by omega
        exact .inl (e ▸ h3)

/-- A window loses places at its left end. -/
theorem evict (hf : Frontier h l r cs) {l' : Nat} (hl : l ≤ l') :
    Frontier h l' r (cs.takeWhile fun c => l' ≤ c.position) := by
  refine ⟨hf.descending.sublist (List.takeWhile_sublist _), fun m => ?_⟩
  rw [mem_takeWhile_position (hf.descending.imp fun hab => hab.1), hf.mem_iff]
  constructor
  · rintro ⟨⟨-, h2⟩, h1⟩
    exact ⟨h1, h2⟩
  · rintro ⟨h1, h2⟩
    exact ⟨⟨Nat.le_trans hl h1, h2⟩, h1⟩

/-- The oldest candidate is the last least place. -/
theorem getLast?_eq (hf : Frontier h l r cs) {i : Nat} (hi : LastLeast h l r i) :
    cs.getLast? = some (markAt h i) := by
  have hmem : markAt h i ∈ cs := (hf.mem_iff _).2 ⟨hi.left, hi.right, rfl, hi.last⟩
  obtain ⟨init, c, rfl⟩ := (List.eq_nil_or_concat' cs).resolve_left (List.ne_nil_of_mem hmem)
  rw [List.getLast?_concat]
  have hc := (hf.mem_iff c).1 (by simp)
  rcases List.mem_append.1 hmem with hm | hm
  · -- a candidate older than the last least place would have a smaller hash
    obtain ⟨hpos, hlt⟩ := (List.pairwise_append.1 hf.descending).2.2 _ hm c (by simp)
    have := hi.least c.position hc.1 hc.2.1
    rw [hc.2.2.1] at hlt
    exact absurd this (UInt64.not_le.2 hlt)
  · rw [List.mem_singleton.1 hm]

end Frontier

/-! ### The selection -/

/-- The mark that the window from place `l` on adds to the selection: its last least place, unless the window
before has the same. -/
def added? (h : List UInt64) (w l : Nat) : Option Mark :=
  if l = 0 ∨ lastLeast? h (l - 1) w ≠ lastLeast? h l w then (lastLeast? h l w).map (markAt h) else none

/-- Winnowing by windows of `w` hashes, read off the windows from left to right. Fewer hashes than a window has
are one window. -/
def selection (h : List UInt64) (w : Nat) : List Mark :=
  if h.length < w then (lastLeast? h 0 h.length).toList.map (markAt h)
  else (List.range (h.length + 1 - w)).filterMap (added? h w)

theorem selectFrom_of_lt {w i : Nat} {cs : List Mark} {last : Option Nat} {x : UInt64} {xs : List UInt64}
    (hi : i + 1 < w) : selectFrom w i cs last (x :: xs) = selectFrom w (i + 1) (addCandidate ⟨x, i⟩ cs) last xs := by
  rw [selectFrom, if_pos hi]

theorem selectFrom_of_le {w i : Nat} {cs cs' : List Mark} {last : Option Nat} {x : UInt64} {xs : List UInt64}
    {c : Mark} (hi : w ≤ i + 1)
    (hcs : (addCandidate ⟨x, i⟩ cs).takeWhile (fun c => i + 1 - w ≤ c.position) = cs') (hc : cs'.getLast? = some c) :
    selectFrom w i cs last (x :: xs) =
      (if last = some c.position then none else some c).toList ++
        selectFrom w (i + 1) cs' (some c.position) xs := by
  rw [selectFrom, if_neg (by omega)]
  simp only [hcs, hc]
  by_cases hl : last = some c.position <;> simp [hl]

/-- The scan from place `i` on adds the marks of the windows that end there or later. -/
theorem selectFrom_eq {h : List UInt64} {w : Nat} (hw : 0 < w) : ∀ {hs : List UInt64} {i : Nat} {cs : List Mark}
    {last : Option Nat}, h.drop i = hs → i ≤ h.length → Frontier h (i - w) i cs →
    last = (if i < w then none else lastLeast? h (i - w) w) →
    selectFrom w i cs last hs =
      (List.range' (i + 1 - w) (h.length + 1 - w - (i + 1 - w))).filterMap (added? h w) := by
  intro hs
  induction hs with
  | nil =>
    intro i cs last hd hi _ _
    obtain rfl : i = h.length := Nat.le_antisymm hi (List.drop_eq_nil_iff.1 hd)
    simp [selectFrom]
  | cons x xs ih =>
    intro i cs last hd _ hf hlast
    obtain ⟨hi, rfl, hd'⟩ := of_drop_eq_cons hd
    have hadd : Frontier h (i - w) (i + 1) (addCandidate ⟨h.getD i 0, i⟩ cs) := hf.add (Nat.sub_le i w)
    rcases Nat.lt_or_ge (i + 1) w with hlt | hge
    · -- no window is complete yet
      have e0 : i - w = i + 1 - w := by omega
      have e1 : i + 1 + 1 - w = i + 1 - w := by omega
      rw [selectFrom_of_lt hlt, ih hd' hi (e0 ▸ hadd) (by rw [hlast, if_pos (by omega), if_pos hlt]), e1]
    · have hev := hadd.evict (show i - w ≤ i + 1 - w by omega)
      have hend : i + 1 - w + w = i + 1 := by omega
      obtain ⟨p, hp⟩ := LastLeast.exists_of_lt h (show i + 1 - w < i + 1 by omega)
      have hp' : lastLeast? h (i + 1 - w) w = some p := lastLeast?_eq_some.2 (hend.symm ▸ hp)
      have hadded : added? h w (i + 1 - w) = if last = some p then none else some (markAt h p) := by
        rw [added?, hp', hlast]
        by_cases hiw : i < w
        · simp [hiw, show i + 1 - w = 0 by omega]
        · by_cases heq : lastLeast? h (i - w) w = some p <;>
            simp [hiw, heq, show i + 1 - w - 1 = i - w by omega, show i + 1 - w ≠ 0 by omega]
      have hlen : h.length + 1 - w - (i + 1 - w) = h.length + 1 - w - (i + 1 + 1 - w) + 1 := by omega
      rw [selectFrom_of_le hge rfl (hev.getLast?_eq hp), markAt_position,
        ih hd' hi hev (by rw [if_neg (by omega), hp']), hlen, List.range'_succ, List.filterMap_cons, hadded,
        show i + 1 - w + 1 = i + 1 + 1 - w by omega]
      split <;> rfl

theorem winnow_eq_selection (h : List UInt64) (w : Nat) : winnow h w = selection h (max w 1) := by
  have hw : 0 < max w 1 := by omega
  cases h with
  | nil => simp [winnow, selection, lastLeast?]
  | cons x xs =>
    rw [winnow]
    split
    · rename_i hle
      obtain ⟨q, hq, e⟩ := leastFrom_eq (h := x :: xs) (i := 1) rfl LastLeast.single (Nat.succ_pos _)
      have e : leastFrom ⟨x, 0⟩ 1 xs = markAt (x :: xs) q := e
      have hq' : lastLeast? (x :: xs) 0 (x :: xs).length = some q := lastLeast?_eq_some.2 (by simpa using hq)
      rw [selection, e]
      split
      · rw [hq']
        rfl
      · have e1 : (x :: xs).length + 1 - max w 1 = 1 := by omega
        have e2 : max w 1 = (x :: xs).length := by omega
        have hadded : added? (x :: xs) (x :: xs).length 0 = some (markAt (x :: xs) q) := by
          rw [added?, if_pos (.inl rfl), hq']
          rfl
        rw [e1, e2, List.range_one, List.filterMap_cons, hadded]
        rfl
    · rename_i hgt
      have hscan : selectFrom (max w 1) 0 [] none (x :: xs) = _ :=
        selectFrom_eq hw (h := x :: xs) rfl (Nat.zero_le _) (by simpa using Frontier.nil _) (by simp)
      rw [selection, if_neg (by omega), List.range_eq_range', hscan, show 0 + 1 - max w 1 = 0 by omega, Nat.sub_zero]

/-! ### What is selected -/

/-- The last least place does not move back when the window moves on. -/
theorem LastLeast.mono {h : List UInt64} {w l l' i i' : Nat} (hi : LastLeast h l (l + w) i)
    (hi' : LastLeast h l' (l' + w) i') (hl : l ≤ l') : i ≤ i' := by
  by_contra hlt
  have h1 := hi.left
  have h2 := hi.right
  have h3 := hi'.left
  have hle := hi.least i' (by omega) (by omega)
  exact UInt64.not_le.2 (hi'.last i (by omega) (by omega)) hle

theorem added?_eq_some {h : List UInt64} {w l : Nat} {m : Mark} (hm : added? h w l = some m) :
    ∃ i, LastLeast h l (l + w) i ∧ m = markAt h i ∧ (l ≠ 0 → lastLeast? h (l - 1) w ≠ some i) := by
  rw [added?] at hm
  split at hm
  · rename_i hnew
    obtain ⟨i, hi, rfl⟩ := Option.map_eq_some_iff.1 hm
    refine ⟨i, lastLeast?_eq_some.1 hi, rfl, fun hl => ?_⟩
    rw [← hi]
    exact hnew.resolve_left hl
  · cases hm

/-- The last least place of every window is in the selection. -/
theorem markAt_mem_selection {h : List UInt64} {w l i : Nat} (hl : l + w ≤ h.length)
    (hi : LastLeast h l (l + w) i) : markAt h i ∈ selection h w := by
  rw [selection, if_neg (by omega), List.mem_filterMap]
  induction l with
  | zero => exact ⟨0, by simp; omega, by simp [added?, lastLeast?_eq_some.2 hi]⟩
  | succ l ih =>
    by_cases hsame : lastLeast? h l w = some i
    · exact ih (by omega) (lastLeast?_eq_some.1 hsame)
    · refine ⟨l + 1, by simp; omega, ?_⟩
      rw [added?, lastLeast?_eq_some.2 hi, if_pos (.inr hsame)]
      rfl

/-- If there is a whole window, then the selection has the last least places of the windows. -/
theorem mem_selection {h : List UInt64} {w : Nat} (hw : w ≤ h.length) {m : Mark} :
    m ∈ selection h w ↔ ∃ l i, l + w ≤ h.length ∧ LastLeast h l (l + w) i ∧ m = markAt h i := by
  constructor
  · intro hm
    rw [selection, if_neg (by omega), List.mem_filterMap] at hm
    obtain ⟨l, hl, hm⟩ := hm
    obtain ⟨i, hi, rfl, -⟩ := added?_eq_some hm
    have := List.mem_range.1 hl
    exact ⟨l, i, by omega, hi, rfl⟩
  · rintro ⟨l, i, hl, hi, rfl⟩
    exact markAt_mem_selection hl hi

theorem of_mem_selection {h : List UInt64} {w : Nat} {m : Mark} (hm : m ∈ selection h w) :
    m.position < h.length ∧ m = markAt h m.position := by
  rcases Nat.lt_or_ge h.length w with hlt | hge
  · rw [selection, if_pos hlt] at hm
    obtain ⟨i, hi, rfl⟩ := List.mem_map.1 hm
    have hi := lastLeast?_eq_some.1 (Option.mem_toList.1 hi)
    exact ⟨by simpa using hi.right, rfl⟩
  · obtain ⟨l, i, hl, hi, rfl⟩ := (mem_selection hge).1 hm
    exact ⟨Nat.lt_of_lt_of_le hi.right hl, rfl⟩

theorem selection_increasing (h : List UInt64) {w : Nat} (hw : 0 < w) :
    (selection h w).Pairwise fun a b => a.position < b.position := by
  rw [selection]
  split
  · cases lastLeast? h 0 h.length <;> simp
  · rw [List.pairwise_filterMap]
    refine List.pairwise_lt_range.imp fun {l l'} hl m hm m' hm' => ?_
    obtain ⟨i, hi, rfl, -⟩ := added?_eq_some hm
    obtain ⟨i', hi', rfl, hnew⟩ := added?_eq_some hm'
    obtain ⟨j, hj⟩ := LastLeast.exists_of_lt h (show l' - 1 < l' - 1 + w by omega)
    have h1 := hi.mono hj (by omega)
    have h2 := hj.mono hi' (by omega)
    have h3 : j ≠ i' := by
      rintro rfl
      exact hnew (by omega) (lastLeast?_eq_some.2 hj)
    simp only [markAt_position]
    omega

/-! ### Parts of a longer sequence -/

theorem getD_middle {u h v : List UInt64} {j : Nat} (hj : j < h.length) :
    (u ++ h ++ v).getD (u.length + j) 0 = h.getD j 0 := by
  rw [List.append_assoc, List.getD_append_right _ _ _ _ (Nat.le_add_right _ _), Nat.add_sub_cancel_left,
    List.getD_append _ _ _ _ hj]

theorem LastLeast.shift {h : List UInt64} {l r i : Nat} (hi : LastLeast h l r i) (hr : r ≤ h.length)
    (u v : List UInt64) : LastLeast (u ++ h ++ v) (u.length + l) (u.length + r) (u.length + i) := by
  have h1 := hi.left
  have h2 := hi.right
  refine ⟨by omega, by omega, fun j hj1 hj2 => ?_, fun j hj1 hj2 => ?_⟩
  · obtain ⟨j, rfl⟩ := Nat.exists_eq_add_of_le (show u.length ≤ j by omega)
    rw [getD_middle (by omega), getD_middle (by omega)]
    exact hi.least j (by omega) (by omega)
  · obtain ⟨j, rfl⟩ := Nat.exists_eq_add_of_le (show u.length ≤ j by omega)
    rw [getD_middle (by omega), getD_middle (by omega)]
    exact hi.last j (by omega) (by omega)

/-- What is selected of a sequence with a whole window is selected of every sequence that it is a part of. -/
theorem winnow_part {h a : List UInt64} {w : Nat} (hpart : h <:+: a) (hw : max w 1 ≤ h.length) {m : Mark}
    (hm : m ∈ winnow h w) : ∃ m' ∈ winnow a w, m'.hash = m.hash := by
  obtain ⟨u, v, rfl⟩ := hpart
  rw [winnow_eq_selection, mem_selection hw] at hm
  obtain ⟨l, i, hl, hi, rfl⟩ := hm
  have hi' := hi.shift hl u v
  rw [← Nat.add_assoc] at hi'
  refine ⟨markAt (u ++ h ++ v) (u.length + i), ?_, getD_middle (Nat.lt_of_lt_of_le hi.right hl)⟩
  rw [winnow_eq_selection]
  exact markAt_mem_selection (by simp; omega) hi'

theorem winnow_ne_nil {h : List UInt64} {w : Nat} (hw : max w 1 ≤ h.length) : winnow h w ≠ [] := by
  obtain ⟨i, hi⟩ := LastLeast.exists_of_lt h (show 0 < 0 + max w 1 by omega)
  rw [winnow_eq_selection]
  exact List.ne_nil_of_mem (markAt_mem_selection (by omega) hi)

theorem winnow_eq_nil_iff {h : List UInt64} {w : Nat} : winnow h w = [] ↔ h = [] := by
  constructor
  · intro hnil
    rcases Nat.lt_or_ge h.length (max w 1) with hshort | hlong
    · cases h with
      | nil => rfl
      | cons x xs =>
        rw [winnow, if_pos (Nat.le_of_lt hshort)] at hnil
        cases hnil
    · exact absurd hnil (winnow_ne_nil hlong)
  · rintro rfl
    rfl

/-! ### The scan and the windows -/

/-- The scan selects what the windows select: the last least hash of each, with its place and once. The places
increase, and every window has one. -/
theorem winnow_selects_windows (h : List UInt64) (w : Nat) :
    winnow h w = selection h (max w 1) ∧
    ((winnow h w).map (·.position)).Pairwise (· < ·) ∧ ((winnow h w).map (·.position)).Nodup ∧
    (∀ m ∈ winnow h w, h[m.position]? = some m.hash) ∧
    ∀ l, l + max w 1 ≤ h.length → ∃ m ∈ winnow h w, l ≤ m.position ∧ m.position < l + max w 1 := by
  have hw : 0 < max w 1 := by omega
  rw [winnow_eq_selection]
  have hinc : ((selection h (max w 1)).map (·.position)).Pairwise (· < ·) :=
    List.pairwise_map.2 (selection_increasing h hw)
  refine ⟨rfl, hinc, hinc.imp Nat.ne_of_lt, fun m hm => ?_, fun l hl => ?_⟩
  · obtain ⟨hlt, e⟩ := of_mem_selection hm
    rw [e]
    simp [hlt]
  · obtain ⟨i, hi⟩ := LastLeast.exists_of_lt h (show l < l + max w 1 by omega)
    exact ⟨markAt h i, markAt_mem_selection hl hi, hi.left, hi.right⟩

-- of equal hashes each window selects the last
example : (winnow [5, 5, 5, 7, 5] 3).map (·.position) = [2, 4] := by decide

end Likeness.Fingerprint
