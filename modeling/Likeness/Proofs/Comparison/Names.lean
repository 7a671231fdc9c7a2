import Likeness.Comparison.Batch
import Likeness.Proofs.Comparison.Detectors
import Likeness.Proofs.Source.Store

/-!
# Names are labels

The name of a file and the label of its encoding go through to what is answered, and nothing else is made
of them. So files without these are answered with the same, without the names (`prepare_unnamed`,
`compareFiles_unnamed`, `compareBatch_unnamed`). An error of a batch holds the name also within its text,
behind the words that all refusals begin with (`FileFailure.unnamed`).
-/

namespace Likeness

variable {α β : Type}

/-! ### Leaving names out -/

/-- A file without its name and the label of its encoding. -/
def SourceFile.unnamed (f : SourceFile) : SourceFile := { filename := "", text := f.text, encoding := "" }

def InputError.unnamed : InputError → InputError
  | empty _ => .empty ""
  | tooLarge _ bytes limit => .tooLarge "" bytes limit

def CompareError.unnamed : CompareError α → CompareError α
  | input e => .input e.unnamed
  | e => e

def Prepared.unnamed (p : Prepared) : Prepared := { p with filename := "", encoding := "" }

def PairVerdict.unnamed (v : PairVerdict α) : PairVerdict α := { v with left := "", right := "" }

/-- A result without names, where `g` leaves them out of what there is if all went well. -/
def unnamedResult (g : β → β) (r : Except (CompareError α) β) : Except (CompareError α) β :=
  (r.map g).mapError CompareError.unnamed

def PairFailure.unnamed (f : PairFailure) : PairFailure := { f with left := "", right := "" }

/-- A refusal without the name, which its text has behind the first words. -/
def FileFailure.unnamed (f : FileFailure) : FileFailure :=
  let start := "input rejected: ".length
  { filename := ""
    error := String.ofList (f.error.toList.take start ++ f.error.toList.drop (start + f.filename.length)) }

def BatchReport.unnamed (r : BatchReport α) : BatchReport α :=
  { r with
    verdicts := r.verdicts.map PairVerdict.unnamed
    failures := r.failures.map PairFailure.unnamed
    inputErrors := r.inputErrors.map FileFailure.unnamed }

def PairOutcome.unnamed : PairOutcome α → PairOutcome α
  | done v => .done v.unnamed
  | failed e => .failed e.unnamed
  | skipped => .skipped

def BatchRun.unnamed (r : BatchRun α) : BatchRun α :=
  { r with
    files := r.files.map fun f => ("", unnamedResult Prepared.unnamed f.2)
    pairs := r.pairs.map fun p => (Prod.map Prepared.unnamed Prepared.unnamed p.1, p.2.unnamed) }

/-! ### One file -/

theorem SourceFile.check_unnamed (f : SourceFile) (maxBytes : Nat) :
    f.unnamed.check maxBytes = (f.check maxBytes).mapError InputError.unnamed := by
  unfold check unnamed
  by_cases hbytes : maxBytes < f.text.utf8ByteSize
  · simp [hbytes, Except.mapError, InputError.unnamed]
  · cases hblank : isBlankText f.text.toList <;> simp [hbytes, Except.mapError, InputError.unnamed]

theorem SourceFile.filename_of_check {f : SourceFile} {maxBytes : Nat} {e : InputError}
    (h : f.check maxBytes = .error e) : e.filename = f.filename := by
  rcases check_eq_error h with rfl | rfl <;> rfl

/-- The name of the file stands in front of the reason. -/
theorem InputError.exists_reason (e : InputError) :
    ∃ reason, e.message = e.filename ++ reason ∧ e.unnamed.message = reason := by
  cases e with
  | empty f => exact ⟨": source is empty or whitespace only", rfl, rfl⟩
  | tooLarge f bytes limit =>
    refine ⟨s!": source is {bytes} bytes, limit is {limit}", ?_, ?_⟩ <;>
      simp [message, filename, unnamed, String.append_assoc, toString]

theorem FileFailure.unnamed_refusal (name reason : String) :
    unnamed ⟨name, "input rejected: " ++ (name ++ reason)⟩ = ⟨"", "input rejected: " ++ reason⟩ := by
  unfold unnamed
  generalize "input rejected: " = head
  have htake : (head ++ (name ++ reason)).toList.take head.length = head.toList := by
    rw [String.toList_append, ← String.length_toList, List.take_left]
  have hdrop : (head ++ (name ++ reason)).toList.drop (head.length + name.length) = reason.toList := by
    rw [← String.append_assoc, String.toList_append, ← String.length_append, ← String.length_toList, List.drop_left]
  simp only [htake, hdrop, ← String.toList_append, String.ofList_toList]

theorem FileFailure.unnamed_input [Number α] (e : InputError) :
    unnamed ⟨e.filename, (CompareError.input (α := α) e).message⟩ =
      ⟨"", (CompareError.input (α := α) e.unnamed).message⟩ := by
  obtain ⟨reason, hmessage, hbare⟩ := e.exists_reason
  have hnamed : (CompareError.input (α := α) e).message = "input rejected: " ++ e.message := rfl
  have hunnamed : (CompareError.input (α := α) e.unnamed).message = "input rejected: " ++ e.unnamed.message := rfl
  rw [hnamed, hunnamed, hmessage, hbare]
  exact unnamed_refusal e.filename reason

theorem Settings.prepare_unnamed (s : Settings α) (f : SourceFile) (store : Store) :
    s.prepare f.unnamed store = unnamedResult (fun r => (r.1.unnamed, r.2)) (s.prepare f store) := by
  have hcheck := f.check_unnamed s.maxBytes
  cases h : f.check s.maxBytes with
  | error e =>
    rw [h] at hcheck
    rw [prepare_of_check_error h, prepare_of_check_error hcheck]
    rfl
  | ok u =>
    rw [h] at hcheck
    rw [prepare_of_check h, prepare_of_check hcheck]
    have htext : f.unnamed.text = f.text := rfl
    rw [htext]
    cases store.getOrDerive f.text s.deriveOptions <;> rfl

/-! ### All files -/

namespace BatchRun

theorem prepareAll_unnamed (s : Settings α) (store : Store) (files : List SourceFile) :
    prepareAll s store (files.map SourceFile.unnamed) =
      (prepareAll s store files).map fun f => ("", unnamedResult Prepared.unnamed f.2) := by
  induction files generalizing store with
  | nil => rfl
  | cons f files ih =>
    simp only [List.map_cons, prepareAll, Settings.prepare_unnamed]
    cases s.prepare f store with
    | error e => simp only [unnamedResult, Except.map, Except.mapError, ih, List.map_cons]; rfl
    | ok r => simp only [unnamedResult, Except.map, Except.mapError, ih, List.map_cons]; rfl

theorem preparedOf_unnamed (files : List (String × Except (CompareError α) Prepared)) :
    preparedOf (files.map fun f => ("", unnamedResult Prepared.unnamed f.2)) =
      (preparedOf files).map Prepared.unnamed := by
  simp only [preparedOf, List.filterMap_map, List.map_filterMap]
  congr 1
  funext f
  rcases f with ⟨name, e | p⟩ <;> rfl

theorem labelled_prepareAll (s : Settings α) (store : Store) (files : List SourceFile) :
    ∀ f ∈ prepareAll s store files, ∀ e, f.2 = .error e → ∃ e', e = .input e' ∧ e'.filename = f.1 := by
  induction files generalizing store with
  | nil => simp [prepareAll]
  | cons f files ih =>
    cases h : s.prepare f store with
    | ok r =>
      simp only [prepareAll, h, List.forall_mem_cons]
      exact ⟨by simp, ih _⟩
    | error e =>
      simp only [prepareAll, h, List.forall_mem_cons, Except.error.injEq]
      refine ⟨?_, ih _⟩
      rintro _ rfl
      obtain ⟨e', rfl, hcheck⟩ := Settings.exists_of_prepare_eq_error h
      exact ⟨e', rfl, SourceFile.filename_of_check hcheck⟩

end BatchRun

/-! ### Two files -/

variable [Number α]

theorem Comparator.prepare_unnamed (c : Comparator α) (f : SourceFile) :
    c.prepare f.unnamed = (unnamedResult Prepared.unnamed (c.prepare f).1, (c.prepare f).2) := by
  simp only [prepare, Settings.prepare_unnamed]
  cases c.settings.prepare f c.store <;> rfl

theorem Settings.exists_of_compare_eq_error {s : Settings α} {l r : Prepared} {e : CompareError α}
    (h : s.compare l r = .error e) : ∃ e', e = .decision e' := by
  cases hdecide : s.policy.decide (s.outcomes l r) with
  | error e' =>
    rw [compare_eq_error hdecide] at h
    cases h
    exact ⟨e', rfl⟩
  | ok v =>
    rw [compare_eq_ok hdecide] at h
    cases h

theorem Settings.compare_unnamed (s : Settings α) (l r : Prepared) :
    s.compare l.unnamed r.unnamed = unnamedResult PairVerdict.unnamed (s.compare l r) := by
  have houtcomes : s.outcomes l.unnamed r.unnamed = s.outcomes l r := rfl
  simp only [compare, houtcomes]
  cases s.policy.decide (s.outcomes l r) <;> rfl

theorem Comparator.compareFiles_unnamed (c : Comparator α) (f g : SourceFile) :
    c.compareFiles f.unnamed g.unnamed =
      (unnamedResult PairVerdict.unnamed (c.compareFiles f g).1, (c.compareFiles f g).2) := by
  unfold compareFiles
  rw [prepare_unnamed]
  rcases c.prepare f with ⟨l | l, c₁⟩
  · rfl
  · simp only [unnamedResult, Except.map, Except.mapError]
    rw [prepare_unnamed]
    rcases c₁.prepare g with ⟨r | r, c₂⟩
    · rfl
    · exact congrArg (·, c₂) (Settings.compare_unnamed _ l r)

/-! ### Batches -/

theorem pairs_map {β γ : Type} (g : β → γ) (xs : List β) : pairs (xs.map g) = (pairs xs).map (Prod.map g g) := by
  induction xs with
  | nil => rfl
  | cons x xs ih => simp [pairs, ih, Function.comp_def]

namespace BatchRun

theorem comparePair_unnamed (s : Settings α) (cancelled : Bool) (l r : Prepared) :
    comparePair s cancelled (l.unnamed, r.unnamed) = (comparePair s cancelled (l, r)).unnamed := by
  unfold comparePair
  cases cancelled with
  | true => rfl
  | false =>
    simp only [Settings.compare_unnamed]
    cases s.compare l r <;> rfl

/-- Each error of a file is about that file, and each error of a pair about the decision. -/
structure Labelled (r : BatchRun α) : Prop where
  files : ∀ f ∈ r.files, ∀ e, f.2 = .error e → ∃ e', e = .input e' ∧ e'.filename = f.1
  pairs : ∀ p ∈ r.pairs, ∀ e, p.2 = .failed e → ∃ e', e = .decision e'

theorem skippedPairs_unnamed (r : BatchRun α) : r.unnamed.report.skippedPairs = r.report.skippedPairs := by
  unfold report unnamed
  simp only [List.filter_map, List.length_map]
  apply congrArg List.length
  apply List.filter_congr
  rintro ⟨p, v | e | _⟩ hp <;> rfl

theorem report_unnamed {r : BatchRun α} (h : r.Labelled) : r.unnamed.report = r.report.unnamed := by
  have hskipped := r.skippedPairs_unnamed
  unfold report BatchReport.unnamed unnamed at *
  simp only [List.length_map, List.filterMap_map, List.map_filterMap, BatchReport.mk.injEq, true_and]
  refine ⟨?verdicts, ?failures, ?inputErrors, ?skippedPairs, ?cancelled⟩
  case verdicts =>
    apply List.filterMap_congr
    rintro ⟨p, v | e | _⟩ hp <;> rfl
  case failures =>
    apply List.filterMap_congr
    rintro ⟨⟨l, r⟩, v | e | _⟩ hp
    · rfl
    · obtain ⟨e', rfl⟩ := h.pairs _ hp e rfl
      rfl
    · rfl
  case inputErrors =>
    apply List.filterMap_congr
    rintro ⟨name, e | p⟩ hf
    · -- the name within the error is that of the file, so both are left out together
      obtain ⟨e', rfl, rfl⟩ := h.files _ hf e rfl
      exact congrArg some (FileFailure.unnamed_input e').symm
    · rfl
  case skippedPairs => exact hskipped
  case cancelled => exact congrArg (fun n => decide (0 < n) || r.cancelled) hskipped

theorem labelled_runBatch (c : Comparator α) (files : List SourceFile) (cancelled : Bool) :
    (c.runBatch files cancelled).Labelled := by
  refine ⟨labelled_prepareAll c.settings {} files, ?_⟩
  rintro ⟨p, outcome⟩ hp e rfl
  obtain ⟨p', -, hp'⟩ := List.mem_map.1 hp
  obtain ⟨rfl, houtcome⟩ := Prod.mk.inj hp'
  unfold comparePair at houtcome
  split at houtcome
  · cases houtcome
  · split at houtcome
    · cases houtcome
    · rename_i h
      cases houtcome
      exact Settings.exists_of_compare_eq_error h

end BatchRun

namespace Comparator

theorem runBatch_unnamed (c : Comparator α) (files : List SourceFile) (cancelled : Bool) :
    c.runBatch (files.map SourceFile.unnamed) cancelled = (c.runBatch files cancelled).unnamed := by
  unfold runBatch BatchRun.unnamed
  simp only [BatchRun.prepareAll_unnamed, BatchRun.preparedOf_unnamed, pairs_map, List.map_map]
  congr 1
  apply List.map_congr_left
  rintro ⟨l, r⟩ -
  exact congrArg ((l.unnamed, r.unnamed), ·) (BatchRun.comparePair_unnamed c.settings cancelled l r)

theorem compareBatch_unnamed (c : Comparator α) (files : List SourceFile) (cancelled : Bool) :
    c.compareBatch (files.map SourceFile.unnamed) cancelled = (c.compareBatch files cancelled).unnamed := by
  rw [compareBatch, runBatch_unnamed, BatchRun.report_unnamed (BatchRun.labelled_runBatch c files cancelled)]
  rfl

end Comparator
end Likeness
