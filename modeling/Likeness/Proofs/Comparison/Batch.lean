import Mathlib.Data.List.Forall2
import Mathlib.Data.List.FinRange
import Mathlib.Tactic.Ring
import Likeness.Proofs.Comparison.Operations

/-!
# A batch compares every two files

A batch takes its files through one store, and leaves out those that cannot be prepared. What remains stands
against its files one by one (`forall₂_preparedOf`), so the pairs of a batch are the pairs of files, and each of
them is answered as by a comparator that has only these two (`batch_compares_all_pairs`).
-/

namespace Likeness

/-! ### Pairs by their places -/

/-- The places of every two elements of a list of length `m`, the earlier one first. -/
def indexPairs (m : Nat) : List (Fin m × Fin m) :=
  (List.finRange m).flatMap fun i => ((List.finRange m).filter (i < ·)).map (i, ·)

theorem mem_indexPairs {m : Nat} {ij : Fin m × Fin m} : ij ∈ indexPairs m ↔ ij.1 < ij.2 := by
  simp only [indexPairs, List.mem_flatMap, List.mem_finRange, true_and, List.mem_map, List.mem_filter,
    decide_eq_true_eq]
  constructor
  · rintro ⟨i, j, hij, rfl⟩
    exact hij
  · intro hij
    exact ⟨ij.1, ij.2, hij, rfl⟩

/-- The places come in lexicographic order. -/
theorem sorted_indexPairs (m : Nat) : (indexPairs m).Pairwise (Prod.Lex (· < ·) (· < ·)) := by
  have hsorted : (List.finRange m).Pairwise (· < ·) := List.pairwise_lt_finRange m
  rw [indexPairs, List.pairwise_flatMap]
  refine ⟨fun i _ => ?_, hsorted.imp ?_⟩
  · -- with one first element
    rw [List.pairwise_map]
    exact (hsorted.filter _).imp fun hjk => Prod.Lex.right i hjk
  · intro i i' hii' p hp q hq
    obtain ⟨j, -, rfl⟩ := List.mem_map.1 hp
    obtain ⟨j', -, rfl⟩ := List.mem_map.1 hq
    exact Prod.Lex.left j j' hii'

theorem indexPairs_succ (m : Nat) :
    indexPairs (m + 1) =
      (List.finRange m).map (fun j => (0, j.succ)) ++ (indexPairs m).map (Prod.map Fin.succ Fin.succ) := by
  have hhead : (List.finRange (m + 1)).filter ((0 : Fin (m + 1)) < ·) = (List.finRange m).map Fin.succ := by
    rw [List.finRange_succ, List.filter_cons_of_neg (by simp), List.filter_eq_self]
    simp [Fin.pos_iff_ne_zero]
  have htail : ∀ i : Fin m, (List.finRange (m + 1)).filter (i.succ < ·) =
      ((List.finRange m).filter (i < ·)).map Fin.succ := by
    intro i
    rw [List.finRange_succ, List.filter_cons_of_neg (by simp), List.filter_map]
    congr 1
    apply List.filter_congr
    simp
  rw [indexPairs, indexPairs, List.finRange_succ, List.flatMap_cons, ← List.finRange_succ, hhead, List.flatMap_map,
    List.map_flatMap]
  simp [htail, Function.comp_def]

variable {β γ : Type}

theorem pairs_eq_map_indexPairs (xs : List β) :
    pairs xs = (indexPairs xs.length).map (Prod.map xs.get xs.get) := by
  induction xs with
  | nil => rfl
  | cons x xs ih =>
    have hfirst : xs.map (x, ·) = (List.finRange xs.length).map fun j => (x, xs.get j) := by
      conv_lhs => rw [← List.map_get_finRange xs, List.map_map]
      rfl
    change _ = (indexPairs (xs.length + 1)).map _
    rw [pairs, ih, hfirst, indexPairs_succ, List.map_append, List.map_map, List.map_map]
    rfl

theorem length_pairs (xs : List β) : (pairs xs).length = xs.length * (xs.length - 1) / 2 := by
  induction xs with
  | nil => simp [pairs]
  | cons x xs ih =>
    have hstep : (xs.length + 1) * xs.length = xs.length * 2 + xs.length * (xs.length - 1) := by
      cases xs.length with
      | zero => rfl
      | succ m => simp; ring
    rw [pairs, List.length_append, List.length_map, ih, List.length_cons, Nat.add_sub_cancel, hstep]
    omega

theorem forall₂_pairs {R : β → γ → Prop} {xs : List β} {ys : List γ} (h : List.Forall₂ R xs ys) :
    List.Forall₂ (fun p q => R p.1 q.1 ∧ R p.2 q.2) (pairs xs) (pairs ys) := by
  induction h with
  | nil => exact .nil
  | cons hxy h ih =>
    refine List.rel_append (List.forall₂_map_left_iff.2 (List.forall₂_map_right_iff.2 ?_)) ih
    exact h.imp fun _ _ hzw => ⟨hxy, hzw⟩

/-- What is gathered from two lists is the same where their elements stand against each other. -/
theorem filterMap_eq_of_forall₂ {δ : Type} {f : β → Option δ} {g : γ → Option δ} {xs : List β} {ys : List γ}
    (h : List.Forall₂ (fun x y => f x = g y) xs ys) : xs.filterMap f = ys.filterMap g := by
  induction h with
  | nil => rfl
  | cons hxy _ ih => simp only [List.filterMap_cons, hxy, ih]

/-- The error of a result that has one. -/
def error? {ε : Type} : Except ε β → Option ε
  | .ok _ => none
  | .error e => some e

variable {α : Type} [Number α]

/-! ### The files of a batch -/

namespace BatchRun

variable {s : Settings α} {store : Store} {texts : List String}

/-- The files that pass the check. -/
def passing (s : Settings α) (files : List SourceFile) : List SourceFile :=
  files.filter fun f => (f.check s.maxBytes).isOk

omit [Number α] in
theorem prepareAll_of_check_error {f : SourceFile} {e : InputError} (hf : f.check s.maxBytes = .error e)
    (files : List SourceFile) :
    prepareAll s store (f :: files) = (f.filename, .error (.input e)) :: prepareAll s store files := by
  rw [prepareAll, Settings.prepare_of_check_error hf]

omit [Number α] in
/-- A file that passes the check is prepared, and leaves the store for the files behind it. -/
theorem exists_prepareAll {f : SourceFile} (hf : f.check s.maxBytes = .ok ())
    (hstore : store.MadeUnder s.deriveOptions texts) (files : List SourceFile) :
    ∃ kept store', prepareAll s store (f :: files) =
        (f.filename, .ok ⟨f.filename, f.encoding, f.text, kept⟩) :: prepareAll s store' files ∧
      store'.MadeUnder s.deriveOptions (texts ++ [f.text]) ∧
      kept.value.MadeFor s.deriveOptions (texts ++ [f.text]) f.text := by
  obtain ⟨kept, store', hget, hmade, hkept⟩ := hstore.getOrDerive Nat.one_ne_zero f.text
  refine ⟨kept, store', ?_, hmade, hkept⟩
  rw [prepareAll, Settings.prepare_of_check hf, hget]
  rfl

omit [Number α] in
/-- The sources of a batch stand against the files that pass the check. Each is prepared to what it is by itself if no
two different texts have one digest. -/
theorem forall₂_preparedOf (files : List SourceFile) (hstore : store.MadeUnder s.deriveOptions texts) :
    List.Forall₂
      (fun f p => p.file = f ∧
        (DigestsApart (texts ++ (passing s files).map (·.text)) → s.prepareAlone f = .ok p.unstamped))
      (passing s files) (preparedOf (prepareAll s store files)) := by
  induction files generalizing store texts with
  | nil => exact .nil
  | cons f files ih =>
    cases hf : f.check s.maxBytes with
    | error e =>
      rw [prepareAll_of_check_error hf, passing, List.filter_cons_of_neg (by rw [hf]; exact Bool.false_ne_true)]
      exact ih hstore
    | ok u =>
      obtain ⟨kept, store', hprepare, hmade, hkept⟩ := exists_prepareAll hf hstore files
      rw [hprepare, passing, List.filter_cons_of_pos (by rw [hf]; rfl)]
      refine .cons ⟨rfl, fun hapart => ?first⟩ ((ih hmade).imp fun g p hgp => ⟨hgp.1, fun hapart => hgp.2 ?rest⟩)
      case first =>
        refine Settings.prepareAlone_of_derive hf (hkept.derive_eq fun t ht => hapart t ?_ f.text (by simp))
        rcases List.mem_append.1 ht with ht | ht <;> simp_all
      case rest => simpa [passing] using hapart

/-- The refusals of a batch are those of the files that do not pass the check. -/
theorem inputErrors_prepareAll (files : List SourceFile) (hstore : store.MadeUnder s.deriveOptions texts)
    (rest : List ((Prepared × Prepared) × PairOutcome α)) (cancelled : Bool) :
    (report ⟨prepareAll s store files, rest, cancelled⟩).inputErrors =
      files.filterMap fun f => (error? (f.check s.maxBytes)).map fun e =>
        ⟨f.filename, (CompareError.input (α := α) e).message⟩ := by
  induction files generalizing store texts with
  | nil => rfl
  | cons f files ih =>
    cases hf : f.check s.maxBytes with
    | error e =>
      rw [prepareAll_of_check_error hf, List.filterMap_cons, hf, ← ih hstore]
      rfl
    | ok u =>
      obtain ⟨kept, store', hprepare, hmade, -⟩ := exists_prepareAll hf hstore files
      rw [hprepare, List.filterMap_cons, hf, ← ih hmade]
      rfl

omit [Number α] in
theorem length_prepareAll (s : Settings α) (store : Store) (files : List SourceFile) :
    (prepareAll s store files).length = files.length := by
  induction files generalizing store with
  | nil => rfl
  | cons f files ih =>
    cases h : s.prepare f store <;> simp [prepareAll, h, ih]

/-! ### The pairs of a batch -/

/-- No pair is lost in a report. -/
theorem report_balanced (r : BatchRun α) :
    r.report.verdicts.length + r.report.failures.length + r.report.skippedPairs = r.report.pairsTotal := by
  rcases r with ⟨files, ps, cancelled⟩
  simp only [report]
  induction ps with
  | nil => rfl
  | cons p ps ih =>
    rcases p with ⟨⟨l, r⟩, v | e | _⟩ <;> simp at ih ⊢ <;> omega

/-- A batch that is not cancelled gathers what the comparisons of its pairs give. -/
theorem report_compared (s : Settings α) (files : List (String × Except (CompareError α) Prepared))
    (ps : List (Prepared × Prepared)) :
    let r := report ⟨files, ps.map fun p => (p, comparePair s false p), false⟩
    r.verdicts = ps.filterMap (fun p => (s.compare p.1 p.2).toOption) ∧
      r.failures = ps.filterMap (fun p => (error? (s.compare p.1 p.2)).map fun e =>
        ⟨p.1.filename, p.2.filename, e.message⟩) ∧
      r.skippedPairs = 0 ∧ r.cancelled = false := by
  intro r
  have hdone : ∀ {p v}, s.compare p.1 p.2 = .ok v → comparePair s false p = .done v := by
    intro p v h
    simp [comparePair, h]
  have hfailed : ∀ {p e}, s.compare p.1 p.2 = .error e → comparePair s false p = .failed e := by
    intro p e h
    simp [comparePair, h]
  have hskipped : r.skippedPairs = 0 := by
    induction ps with
    | nil => rfl
    | cons p ps ih =>
      cases h : s.compare p.1 p.2 with
      | ok v => simpa [r, report, hdone h] using ih
      | error e => simpa [r, report, hfailed h] using ih
  refine ⟨?verdicts, ?failures, hskipped, ?cancelled⟩
  case verdicts =>
    simp only [r, report, List.filterMap_map]
    apply List.filterMap_congr
    intro p _
    cases h : s.compare p.1 p.2 with
    | ok v => simp [hdone h, Except.toOption]
    | error e => simp [hfailed h, Except.toOption]
  case failures =>
    simp only [r, report, List.filterMap_map]
    apply List.filterMap_congr
    intro p _
    cases h : s.compare p.1 p.2 with
    | ok v => simp [hdone h, error?]
    | error e => simp [hfailed h, error?]
  case cancelled =>
    have hcancelled : r.cancelled = (decide (0 < r.skippedPairs) || false) := rfl
    rw [hcancelled, hskipped]
    rfl

/-- A batch that is cancelled passes over its pairs. -/
theorem report_cancelled (s : Settings α) (files : List (String × Except (CompareError α) Prepared))
    (ps : List (Prepared × Prepared)) :
    let r := report ⟨files, ps.map fun p => (p, comparePair s true p), true⟩
    r.verdicts = [] ∧ r.failures = [] ∧ r.skippedPairs = ps.length ∧ r.cancelled = true := by
  intro r
  have houtcome : ∀ p, comparePair s true p = .skipped := fun _ => rfl
  have hverdicts : r.verdicts = [] := by simp [r, report, houtcome]
  have hfailures : r.failures = [] := by simp [r, report, houtcome]
  have htotal : r.pairsTotal = ps.length := List.length_map _
  have hbalanced : _ = r.pairsTotal := report_balanced _
  rw [hverdicts, hfailures, htotal] at hbalanced
  exact ⟨hverdicts, hfailures, by simpa using hbalanced, Bool.or_true _⟩

end BatchRun

/-! ### Batches -/

namespace Comparator

variable {c fresh : Comparator α}

theorem error?_prepare {texts : List String} (f : SourceFile)
    (hc : c.store.MadeUnder c.settings.deriveOptions texts) :
    error? (c.prepare f).1 = (error? (f.check c.settings.maxBytes)).map .input := by
  cases hf : f.check c.settings.maxBytes with
  | error e => rw [prepare_of_check_error hf]; rfl
  | ok u =>
    obtain ⟨kept, store, hprepare, -⟩ := exists_prepare hf hc
    rw [hprepare]
    rfl

theorem isOk_prepare {texts : List String} (f : SourceFile)
    (hc : c.store.MadeUnder c.settings.deriveOptions texts) :
    (c.prepare f).1.isOk = (f.check c.settings.maxBytes).isOk := by
  cases hf : f.check c.settings.maxBytes with
  | error e => rw [prepare_of_check_error hf]; rfl
  | ok u =>
    obtain ⟨kept, store, hprepare, -⟩ := exists_prepare hf hc
    rw [hprepare]
    rfl

/-- A fresh comparator compares two files as the sources are compared that a batch prepares from them. -/
theorem forall₂_compareFiles {s : Settings α} (files : List SourceFile) (hsettings : fresh.settings = s)
    (hempty : ∀ texts, fresh.store.MadeUnder fresh.settings.deriveOptions texts)
    (hapart : DigestsApart ((BatchRun.passing s files).map (·.text))) :
    List.Forall₂
      (fun f p => (fresh.compareFiles f.1 f.2).1 = s.compare p.1 p.2 ∧
        f.1.filename = p.1.filename ∧ f.2.filename = p.2.filename)
      (pairs (BatchRun.passing s files)) (pairs (BatchRun.preparedOf (BatchRun.prepareAll s {} files))) := by
  have hprepared := BatchRun.forall₂_preparedOf files (Store.madeUnder_empty 0 s.deriveOptions [])
  have hmembers := (List.forall₂_and_left _ _).2 ⟨fun f hf => hf, hprepared⟩
  refine (forall₂_pairs hmembers).imp ?_
  rintro ⟨f, g⟩ ⟨l, r⟩ ⟨⟨hf, rfl, hl⟩, hg, rfl, hr⟩
  have htexts : [l.text, r.text] ⊆ (BatchRun.passing s files).map (·.text) := by
    simpa using ⟨⟨l.file, hf, rfl⟩, r.file, hg, rfl⟩
  have halone := compareFiles_eq_alone (f := l.file) (g := r.file) (hempty []) (hapart.mono htexts)
  rw [hsettings, ← compare_eq_alone (hl hapart) (hr hapart)] at halone
  exact ⟨halone, rfl, rfl⟩

/-- A batch over files compares every two of those that can be prepared, in lexicographic order of their places, as a
fresh comparator compares these two files alone (unless different texts of the batch have one digest, by which the
store knows them). The files that cannot be prepared are reported in order, and no pair is lost. A batch that is
cancelled before it starts reports the same files, and passes over all pairs. -/
theorem batch_compares_all_pairs {number : Nat} (hfresh : ofSettings c.settings number = .ok fresh)
    (files : List SourceFile) :
    let good := files.filter fun f => (fresh.prepare f).1.isOk
    let order := indexPairs good.length
    let alone := fun ij : Fin good.length × Fin good.length =>
      (fresh.compareFiles (good.get ij.1) (good.get ij.2)).1
    let report := c.compareBatch files false
    let stopped := c.compareBatch files true
    (order.Pairwise (Prod.Lex (· < ·) (· < ·)) ∧ ∀ ij, ij ∈ order ↔ ij.1 < ij.2) ∧
    (report.files = files.length ∧
      report.pairsTotal = good.length * (good.length - 1) / 2 ∧
      report.inputErrors = files.filterMap (fun f =>
        (error? (fresh.prepare f).1).map fun e => ⟨f.filename, e.message⟩) ∧
      (DigestsApart (good.map (·.text)) →
        report.verdicts = order.filterMap (fun ij => (alone ij).toOption) ∧
        report.failures = order.filterMap (fun ij => (error? (alone ij)).map fun e =>
          ⟨(good.get ij.1).filename, (good.get ij.2).filename, e.message⟩)) ∧
      report.skippedPairs = 0 ∧ report.cancelled = false ∧
      report.verdicts.length + report.failures.length + report.skippedPairs = report.pairsTotal) ∧
    stopped.files = files.length ∧ stopped.pairsTotal = report.pairsTotal ∧
      stopped.inputErrors = report.inputErrors ∧ stopped.verdicts = [] ∧ stopped.failures = [] ∧
      stopped.skippedPairs = report.pairsTotal ∧ stopped.cancelled = true := by
  intro good order alone report stopped
  obtain ⟨-, hsettings, hempty⟩ := ofSettings_eq_ok hfresh
  have hmade := Store.madeUnder_empty 0 c.settings.deriveOptions []
  have hgood : good = BatchRun.passing c.settings files := by
    apply List.filter_congr
    intro f _
    rw [isOk_prepare f (hempty []), hsettings]
  have hrefused : files.filterMap (fun f => (error? (fresh.prepare f).1).map fun e => ⟨f.filename, e.message⟩) =
      files.filterMap fun f => (error? (f.check c.settings.maxBytes)).map fun e =>
        FileFailure.mk f.filename (CompareError.input (α := α) e).message := by
    apply List.filterMap_congr
    intro f _
    rw [error?_prepare f (hempty []), hsettings, Option.map_map]
    rfl
  have hpairs : ∀ {β : Type} (g : SourceFile × SourceFile → Option β),
      (pairs (BatchRun.passing c.settings files)).filterMap g =
        order.filterMap fun ij => g (good.get ij.1, good.get ij.2) := by
    intro β g
    rw [← hgood, pairs_eq_map_indexPairs, List.filterMap_map]
    rfl
  obtain ⟨hverdicts, hfailures, hskipped, hrunning⟩ := BatchRun.report_compared c.settings
    (BatchRun.prepareAll c.settings {} files) (pairs (BatchRun.preparedOf (BatchRun.prepareAll c.settings {} files)))
  obtain ⟨hnone, hnone', hall, hstopped⟩ := BatchRun.report_cancelled c.settings
    (BatchRun.prepareAll c.settings {} files) (pairs (BatchRun.preparedOf (BatchRun.prepareAll c.settings {} files)))
  refine ⟨⟨sorted_indexPairs _, fun ij => mem_indexPairs⟩,
    ⟨BatchRun.length_prepareAll _ _ _, ?total, ?refused, fun hapart => ?compared, hskipped, hrunning,
      BatchRun.report_balanced _⟩,
    BatchRun.length_prepareAll _ _ _, ?total', ?refused', hnone, hnone', ?skipped, hstopped⟩
  case total =>
    have hlength := (BatchRun.forall₂_preparedOf files hmade).length_eq
    rw [hgood, hlength, ← length_pairs]
    exact List.length_map _
  case refused => exact (BatchRun.inputErrors_prepareAll files hmade _ _).trans hrefused.symm
  case compared =>
    rw [hgood] at hapart
    have halone := forall₂_compareFiles files hsettings hempty hapart
    have hfailed := hpairs fun f => (error? (fresh.compareFiles f.1 f.2).1).map fun e =>
      PairFailure.mk f.1.filename f.2.filename e.message
    refine ⟨hverdicts.trans ?_, hfailures.trans (Eq.trans ?_ hfailed)⟩
    · rw [← filterMap_eq_of_forall₂ (halone.imp fun f p h => congrArg Except.toOption h.1), hpairs]
    · refine (filterMap_eq_of_forall₂ (halone.imp ?_)).symm
      rintro f p ⟨hcompare, hleft, hright⟩
      rw [hcompare, hleft, hright]
  case total' => exact (List.length_map _).trans (List.length_map _).symm
  case refused' =>
    have hreport : report.inputErrors = _ := BatchRun.inputErrors_prepareAll files hmade _ _
    have hstop : stopped.inputErrors = _ := BatchRun.inputErrors_prepareAll files hmade _ _
    rw [hreport, hstop]
  case skipped => exact hall.trans (List.length_map _).symm

/-- A blank file between two others is reported, and they are compared. -/
theorem batch_compares_all_pairs_blank_file :
    let f : SourceFile := { filename := "a.py", text := "x = 1\n" }
    let blank : SourceFile := { filename := "b.py", text := " \n" }
    let g : SourceFile := { filename := "c.py", text := "y = x + 2\n" }
    ∃ c fresh : Comparator Rat,
      ofSettings .default 0 = .ok c ∧ ofSettings c.settings 1 = .ok fresh ∧ DigestsApart [f.text, g.text] ∧
      (c.compareBatch [f, blank, g] false).inputErrors =
        [⟨"b.py", "input rejected: b.py: source is empty or whitespace only"⟩] ∧
      (c.compareBatch [f, blank, g] false).verdicts = (fresh.compareFiles f g).1.toOption.toList ∧
      (c.compareBatch [f, blank, g] true).skippedPairs = 1 := by
  intro f blank g
  obtain ⟨c, hc⟩ := exists_ofSettings Settings.default_check 0
  obtain ⟨-, hsettings, -⟩ := ofSettings_eq_ok hc
  obtain ⟨fresh, hfresh⟩ := exists_ofSettings (s := c.settings) (hsettings ▸ Settings.default_check) 1
  obtain ⟨-, hfresh', hempty⟩ := ofSettings_eq_ok hfresh
  have hchecks : f.check fresh.settings.maxBytes = .ok () ∧ g.check fresh.settings.maxBytes = .ok () ∧
      blank.check fresh.settings.maxBytes = .error (.empty "b.py") := by
    rw [hfresh', hsettings]
    decide +kernel
  obtain ⟨hf, hg, hblank⟩ := hchecks
  have hgood : [f, blank, g].filter (fun h => (fresh.prepare h).1.isOk) = [f, g] := by
    simp only [isOk_prepare _ (hempty []), List.filter_cons, hf, hg, hblank]
    rfl
  have hapart : DigestsApart [f.text, g.text] := by
    have hdigest : contentDigest f.text ≠ contentDigest g.text := by decide +kernel
    simp [DigestsApart, hdigest, hdigest.symm]
  have h := batch_compares_all_pairs hfresh [f, blank, g]
  dsimp only at h
  rw [hgood] at h
  obtain ⟨-, ⟨-, htotal, hrefused, hcompared, -⟩, -, -, -, -, -, hskipped, -⟩ := h
  refine ⟨c, fresh, hc, hfresh, hapart, ?_, ?_, ?_⟩
  · rw [hrefused]
    simp only [error?_prepare _ (hempty []), List.filterMap_cons, hf, hg, hblank]
    rfl
  · rw [(hcompared hapart).1]
    rfl
  · simp [hskipped, htotal]

end Comparator

end Likeness
