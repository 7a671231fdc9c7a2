import Likeness.Proofs.Comparison.History
import Likeness.Proofs.Comparison.Names

/-!
# What a comparator did before does not show

A comparator prepares and compares all through its life, runs batches, and is cleared at times. Its store
then has one entry for each text that was prepared since it was cleared (`Store.Holds`), and every source
is prepared to what it would be by itself (`prepare_unstamped`). So each answer is the one of a comparator
that has done nothing yet (`history_unseen`), up to the stamps by which shared artifacts are known.
-/

namespace Likeness

namespace Prepared

/-- The file that a source was prepared from. -/
def file (p : Prepared) : SourceFile := { filename := p.filename, text := p.text, encoding := p.encoding }

/-- A source with what its artifacts say, without the mark of their derivation. -/
def unstamped (p : Prepared) : Prepared := { p with shared := ⟨default, p.artifacts⟩ }

/-- What a store keeps of a source. -/
def entry (p : Prepared) : String × Shared := (contentDigest p.text, p.shared)

end Prepared

/-! ### One entry for each text -/

/-- A store that has the entries of some sources, one for each digest, and no others. -/
structure Store.Holds (s : Store) (units : List Prepared) : Prop where
  nodup : (s.entries.map Prod.fst).Nodup
  mem_iff : ∀ e, e ∈ s.entries ↔ e ∈ units.map Prepared.entry

namespace Store.Holds

variable {s s' : Store} {units : List Prepared} {p q : Prepared} {o : DeriveOptions}

theorem clear (s : Store) : s.clear.Holds [] := ⟨List.nodup_nil, by simp [Store.clear]⟩

theorem of_madeUnder_nil (h : s.MadeUnder o []) : s.Holds [] := by
  have hentries : s.entries = [] := by
    apply List.eq_nil_iff_forall_not_mem.2
    intro e he
    obtain ⟨t, ht, -⟩ := h e.1 e.2 he
    cases ht
  exact ⟨by simp [hentries], by simp [hentries]⟩

/-- What a store hands out for the text of a source, it then has for that source. -/
theorem getOrDerive (h : s.Holds units) (hp : s.getOrDerive p.text o = .ok (p.shared, s')) :
    s'.Holds (units ++ [p]) := by
  have happend : ∀ e, e ∈ (units ++ [p]).map Prepared.entry ↔ e ∈ units.map Prepared.entry ∨ e = p.entry := by
    simp
  rcases getOrDerive_eq_ok hp with ⟨hget, rfl⟩ | ⟨hget, -, -, rfl⟩
  · have hmem : p.entry ∈ s'.entries := mem_entries_of_get? hget
    -- the source has an entry already, so the list of sources grows and the set of entries does not
    refine ⟨h.nodup, fun e => ?_⟩
    rw [happend, h.mem_iff]
    refine ⟨Or.inl, ?_⟩
    rintro (he | rfl)
    · exact he
    · exact (h.mem_iff _).1 hmem
  · constructor
    · rw [List.map_append, List.map_singleton]
      exact List.nodup_append_comm.1 (List.nodup_cons.2 ⟨notMem_digests_of_get? hget, h.nodup⟩)
    · intro e
      rw [happend, ← h.mem_iff, List.mem_append, List.mem_singleton]
      rfl

/-- Sources with one text share their artifacts. -/
theorem shared_eq (h : s.Holds units) (hp : p ∈ units) (hq : q ∈ units) (htext : p.text = q.text) :
    p.shared = q.shared := by
  have hleft := (h.mem_iff _).2 (List.mem_map_of_mem hp)
  have hright := (h.mem_iff _).2 (List.mem_map_of_mem hq)
  have hdigest : p.entry.1 = q.entry.1 := congrArg contentDigest htext
  exact congrArg Prod.snd (List.inj_on_of_nodup_map h.nodup hleft hright hdigest)

/-- The digests that are kept are those of the texts, each once. -/
theorem perm_digests (h : s.Holds units) (hapart : DigestsApart (units.map (·.text))) :
    (s.entries.map Prod.fst).Perm ((units.map (·.text)).dedup.map contentDigest) := by
  apply perm_digests_of_mem h.nodup hapart
  intro digest
  simp [h.mem_iff, Prepared.entry]

end Store.Holds

variable {α : Type} [Number α]

/-! ### Each source by itself -/

namespace Settings

/-- What a source is prepared to by itself. -/
def prepareAlone (s : Settings α) (f : SourceFile) : Except (CompareError α) Prepared :=
  (s.prepare f {}).map fun r => r.1.unstamped

/-- What two sources give that are each prepared by itself. -/
def compareAlone (s : Settings α) (f g : SourceFile) : Except (CompareError α) (PairVerdict α) := do
  let l ← s.prepareAlone f
  let r ← s.prepareAlone g
  s.compare l r

omit [Number α] in
theorem prepareAlone_of_derive {s : Settings α} {f : SourceFile} {kept : Shared}
    (hf : f.check s.maxBytes = .ok ()) (hkept : Artifacts.derive f.text s.deriveOptions = .ok kept.value) :
    s.prepareAlone f = .ok (Prepared.unstamped ⟨f.filename, f.encoding, f.text, kept⟩) := by
  rw [prepareAlone, prepare_of_check hf, Store.getOrDerive_of_none rfl, hkept]
  rfl

end Settings

namespace Comparator

variable {c : Comparator α} {f g : SourceFile} {units : List Prepared} {texts : List String}

/-! ### Sources that calls prepare -/

/-- The sources that a call prepares, whether they are handed out or only compared. -/
def prepared (c : Comparator α) : Call → List Prepared
  | .prepare f => (c.prepare f).1.toOption.toList
  | .compareFiles f g =>
    match (c.prepare f).1 with
    | .error _ => []
    | .ok l => l :: ((c.prepare f).2.prepare g).1.toOption.toList
  | .clear => []

/-- The sources that have been prepared since the store was last cleared, `units` among them if it is not
cleared by the calls. -/
def recent (c : Comparator α) (units : List Prepared) : List Call → List Prepared
  | [] => units
  | .clear :: calls => recent c.clear [] calls
  | call :: calls => recent (c.after call) (units ++ c.prepared call) calls

/-- A source is prepared with what the store hands out for its text. -/
theorem prepare_eq_ok {p : Prepared} (h : (c.prepare f).1 = .ok p) :
    p.file = f ∧ f.check c.settings.maxBytes = .ok () ∧
      c.store.getOrDerive p.text c.settings.deriveOptions = .ok (p.shared, (c.prepare f).2.store) := by
  cases hf : f.check c.settings.maxBytes with
  | error e =>
    rw [prepare_of_check_error hf] at h
    cases h
  | ok u =>
    simp only [prepare, Settings.prepare_of_check hf] at h ⊢
    cases hstore : c.store.getOrDerive f.text c.settings.deriveOptions with
    | error e => rw [hstore] at h; cases h
    | ok r =>
      rw [hstore] at h
      cases h
      exact ⟨rfl, trivial, hstore⟩

theorem prepare_holds (f : SourceFile) (h : c.store.Holds units) :
    (c.prepare f).2.store.Holds (units ++ (c.prepare f).1.toOption.toList) := by
  cases hf : (c.prepare f).1 with
  | error e =>
    rw [(prepare_of_error hf).2]
    simpa [Except.toOption] using h
  | ok p => exact h.getOrDerive (prepare_eq_ok hf).2.2

theorem after_holds {call : Call} (hcall : call ≠ .clear) (h : c.store.Holds units) :
    (c.after call).store.Holds (units ++ c.prepared call) := by
  cases call with
  | clear => exact absurd rfl hcall
  | prepare f => exact prepare_holds f h
  | compareFiles f g =>
    have hleft := prepare_holds f h
    rw [after, snd_compareFiles, prepared]
    cases hf : (c.prepare f).1 with
    | error e => rwa [hf] at hleft
    | ok l =>
      rw [hf] at hleft
      have hright := prepare_holds g hleft
      rwa [List.append_assoc] at hright

/-- After any calls the store has the entries of the sources prepared since it was cleared. -/
theorem run_holds (calls : List Call) (h : c.store.Holds units) : (c.run calls).store.Holds (c.recent units calls) := by
  induction calls generalizing c units with
  | nil => exact h
  | cons call calls ih =>
    cases call with
    | clear => exact ih (Store.Holds.clear c.store)
    | prepare f => exact ih (after_holds (by simp) h)
    | compareFiles f g => exact ih (after_holds (by simp) h)

theorem text_of_prepare {p : Prepared} (h : (c.prepare f).1 = .ok p) : p.text = f.text := by
  rw [← (prepare_eq_ok h).1]
  rfl

theorem text_of_mem_prepared {call : Call} {p : Prepared} (hp : p ∈ c.prepared call) : p.text ∈ call.texts := by
  cases call with
  | prepare f => simp [Call.texts, text_of_prepare (mem_toList_toOption.1 hp)]
  | clear => cases hp
  | compareFiles f g =>
    rw [prepared] at hp
    split at hp
    · cases hp
    · rename_i l hl
      rcases List.mem_cons.1 hp with rfl | hp
      · simp [Call.texts, text_of_prepare hl]
      · simp [Call.texts, text_of_prepare (mem_toList_toOption.1 hp)]

theorem mem_recent {calls : List Call} {p : Prepared} (hp : p ∈ c.recent units calls) :
    p ∈ units ∨ p.text ∈ asked calls := by
  induction calls generalizing c units with
  | nil => exact .inl hp
  | cons call calls ih =>
    have hasked : asked (call :: calls) = call.texts ++ asked calls := rfl
    have hlater : p ∈ (c.after call).recent (units ++ c.prepared call) calls →
        p ∈ units ∨ p.text ∈ asked (call :: calls) := by
      intro hp
      rw [hasked, List.mem_append]
      rcases ih hp with hp | hp
      · rcases List.mem_append.1 hp with hp | hp
        · exact .inl hp
        · exact .inr (.inl (text_of_mem_prepared hp))
      · exact .inr (.inr hp)
    cases call with
    | prepare f => exact hlater hp
    | compareFiles f g => exact hlater hp
    | clear =>
      rcases ih hp with hp | hp
      · cases hp
      · exact .inr hp

/-! ### What calls give -/

/-- Whatever was asked for before, a source is prepared to what it is by itself. -/
theorem prepare_unstamped (hc : c.store.MadeUnder c.settings.deriveOptions texts)
    (hapart : DigestsApart (texts ++ [f.text])) :
    (c.prepare f).1.map Prepared.unstamped = c.settings.prepareAlone f := by
  cases hf : f.check c.settings.maxBytes with
  | error e =>
    rw [prepare_of_check_error hf, Settings.prepareAlone, Settings.prepare_of_check_error hf]
    rfl
  | ok u =>
    obtain ⟨kept, store, hprepare, -, hkept⟩ := exists_prepare hf hc
    have hderive := hkept.derive_eq fun t ht => hapart t ht f.text (by simp)
    rw [hprepare, Settings.prepareAlone_of_derive hf hderive]
    rfl

theorem compareFiles_eq_alone (hc : c.store.MadeUnder c.settings.deriveOptions texts)
    (hapart : DigestsApart (texts ++ [f.text] ++ [g.text])) :
    (c.compareFiles f g).1 = c.settings.compareAlone f g := by
  have hleft := prepare_unstamped hc (hapart.mono (List.subset_append_left _ _))
  obtain ⟨hsettings, hmade⟩ := prepare_madeUnder f hc
  rw [← hsettings] at hmade
  -- the second file meets the store that the first one leaves
  have hright := prepare_unstamped hmade hapart
  have hsettings' := (prepare_madeUnder g hmade).1
  unfold compareFiles
  rw [Settings.compareAlone, ← hleft]
  rcases hf : c.prepare f with ⟨e | l, c₁⟩
  · rfl
  · rw [hf] at hsettings hright hsettings'
    rw [← hsettings, ← hright]
    simp only
    rcases hg : c₁.prepare g with ⟨e | r, c₂⟩
    · rfl
    · rw [hg] at hsettings'
      change c₂.settings.compare l r = c₁.settings.compare l.unstamped r.unstamped
      rw [hsettings']
      rfl

/-- Two sources that were handed out compare as their files do. -/
theorem compare_eq_alone {s : Settings α} {l r : Prepared} (hl : s.prepareAlone l.file = .ok l.unstamped)
    (hr : s.prepareAlone r.file = .ok r.unstamped) : s.compare l r = s.compareAlone l.file r.file := by
  rw [Settings.compareAlone, hl, hr]
  rfl

theorem text_mem_asked {p : Prepared} {calls : List Call} (hp : p ∈ c.units calls) : p.text ∈ asked calls := by
  obtain ⟨before, f, rest, rfl, hok⟩ := exists_of_mem_units hp
  obtain ⟨rfl, -⟩ := prepare_eq_ok hok
  simp [asked, Call.texts, Prepared.file]

theorem prepareAlone_of_mem_units {p : Prepared} {calls : List Call}
    (hc : ∀ texts, c.store.MadeUnder c.settings.deriveOptions texts) (hapart : DigestsApart (asked calls))
    (hp : p ∈ c.units calls) : c.settings.prepareAlone p.file = .ok p.unstamped := by
  obtain ⟨before, f, rest, rfl, hok⟩ := exists_of_mem_units hp
  obtain ⟨hsettings, hmade⟩ := run_madeUnder before (hc [])
  rw [← hsettings] at hmade ⊢
  have halone := prepare_unstamped hmade (f := f) (hapart.mono (by simp [asked, Call.texts]))
  rw [hok] at halone
  rw [(prepare_eq_ok hok).1]
  exact halone.symm

/-! ### Batches -/

/-- The same comparator with another store. -/
def withStore (c : Comparator α) (store : Store) : Comparator α := { c with store }

theorem withStore_of_settings_eq {d : Comparator α} (h : d.settings = c.settings) : d.withStore c.store = c := by
  cases c
  cases d
  cases h
  rfl

/-- Prepares files one after the other, and tells what became of each. -/
def prepareEach (c : Comparator α) : List SourceFile → List (String × Except (CompareError α) Prepared) × Comparator α
  | [] => ([], c)
  | f :: fs =>
    ((f.filename, (c.prepare f).1) :: ((c.prepare f).2.prepareEach fs).1, ((c.prepare f).2.prepareEach fs).2)

theorem settings_prepare (c : Comparator α) (f : SourceFile) : (c.prepare f).2.settings = c.settings := by
  unfold prepare
  split <;> rfl

theorem settings_prepareEach (files : List SourceFile) : (c.prepareEach files).2.settings = c.settings := by
  induction files generalizing c with
  | nil => rfl
  | cons f fs ih => exact (ih (c := (c.prepare f).2)).trans (c.settings_prepare f)

theorem fst_prepareEach (files : List SourceFile) :
    (c.prepareEach files).1 = BatchRun.prepareAll c.settings c.store files := by
  induction files generalizing c with
  | nil => rfl
  | cons f fs ih =>
    rw [prepareEach, BatchRun.prepareAll, ih, settings_prepare]
    rcases hf : c.settings.prepare f c.store with e | ⟨p, store⟩ <;> simp only [prepare, hf]

/-- A batch prepares its files as a comparator does that has the same settings and an empty store. -/
theorem files_runBatch (files : List SourceFile) (cancelled : Bool) :
    (c.runBatch files cancelled).files = ((c.withStore {}).prepareEach files).1 :=
  (fst_prepareEach (c := c.withStore {}) files).symm

/-! ### Operations -/

/-- What a comparator can be asked to do. -/
inductive Operation where
  | call (call : Call)
  | compare (left right : Prepared)
  | batch (files : List SourceFile) (cancelled : Bool)

/-- What is answered to an operation. -/
inductive Answer (α : Type) where
  | prepared (r : Except (CompareError α) Prepared)
  | compared (r : Except (CompareError α) (PairVerdict α))
  | reported (r : BatchReport α)
  | done

namespace Operation

def calls : Operation → List Call
  | .call c => [c]
  | _ => []

/-- The sources that an operation takes from what was handed out before. -/
def uses : Operation → List Prepared
  | compare l r => [l, r]
  | _ => []

/-- The same from files alone: instead of sources that were handed out, their files are compared. -/
def onFiles : Operation → Operation
  | compare l r => .call (.compareFiles l.file r.file)
  | op => op

/-- An operation on files without their names and the labels of their encodings. -/
def unnamed : Operation → Operation
  | call (.prepare f) => .call (.prepare f.unnamed)
  | call (.compareFiles f g) => .call (.compareFiles f.unnamed g.unnamed)
  | call .clear => .call .clear
  | compare l r => .compare l.unnamed r.unnamed
  | batch files cancelled => .batch (files.map SourceFile.unnamed) cancelled

end Operation

namespace Answer

/-- An answer without the marks of derivations. -/
def unstamped : Answer α → Answer α
  | prepared r => .prepared (r.map Prepared.unstamped)
  | answer => answer

/-- An answer without names and labels of encodings. -/
def unnamed : Answer α → Answer α
  | prepared r => .prepared (unnamedResult Prepared.unnamed r)
  | compared r => .compared (unnamedResult PairVerdict.unnamed r)
  | reported r => .reported r.unnamed
  | done => .done

omit [Number α] in
theorem unstamped_unnamed (a : Answer α) : a.unstamped.unnamed = a.unnamed.unstamped := by
  cases a with
  | prepared r => cases r <;> rfl
  | _ => rfl

end Answer

/-- What an operation leaves behind. A batch fills an empty store, and after it there is the old store again. -/
def perform (c : Comparator α) : Operation → Comparator α
  | .call call => c.after call
  | .compare _ _ => c
  | .batch files _ => (((c.withStore {}).prepareEach files).2).withStore c.store

theorem perform_batch (files : List SourceFile) (cancelled : Bool) : c.perform (.batch files cancelled) = c :=
  withStore_of_settings_eq (settings_prepareEach files)

def performAll (c : Comparator α) (ops : List Operation) : Comparator α := ops.foldl perform c

def answer (c : Comparator α) : Operation → Answer α
  | .call (.prepare f) => .prepared (c.prepare f).1
  | .call (.compareFiles f g) => .compared (c.compareFiles f g).1
  | .call .clear => .done
  | .compare l r => .compared (c.compare l r)
  | .batch files cancelled => .reported (c.compareBatch files cancelled)

theorem performAll_eq_run (c : Comparator α) (ops : List Operation) :
    c.performAll ops = c.run (ops.flatMap Operation.calls) := by
  induction ops generalizing c with
  | nil => rfl
  | cons op ops ih =>
    cases op with
    | call call => exact ih _
    | compare l r => exact ih _
    | batch files cancelled =>
      rw [performAll, List.foldl_cons, perform_batch]
      exact ih _

theorem answer_unnamed (c : Comparator α) (op : Operation) : c.answer op.unnamed = (c.answer op).unnamed := by
  cases op with
  | call call =>
    cases call with
    | prepare f => simp only [Operation.unnamed, answer, prepare_unnamed, Answer.unnamed]
    | compareFiles f g => simp only [Operation.unnamed, answer, compareFiles_unnamed, Answer.unnamed]
    | clear => rfl
  | compare l r => exact congrArg Answer.compared (Settings.compare_unnamed c.settings l r)
  | batch files cancelled => exact congrArg Answer.reported (c.compareBatch_unnamed files cancelled)

/-- After any calls an operation is answered as it is at first, from files alone. -/
theorem answer_eq_fresh {fresh : Comparator α} {calls : List Call} {op : Operation}
    (hfresh : fresh.settings = c.settings) (hc : ∀ texts, c.store.MadeUnder c.settings.deriveOptions texts)
    (hempty : ∀ texts, fresh.store.MadeUnder fresh.settings.deriveOptions texts)
    (hapart : DigestsApart (asked (calls ++ op.calls))) (huses : ∀ p ∈ op.uses, p ∈ c.units calls) :
    ((c.run calls).answer op).unstamped = (fresh.answer op.onFiles).unstamped := by
  obtain ⟨hsettings, hmade⟩ := run_madeUnder calls (hc [])
  rw [← hsettings] at hmade hfresh
  cases op with
  | call call =>
    cases call with
    | prepare f =>
      have hf : DigestsApart (asked calls ++ [f.text]) := hapart.mono (by simp [asked, Operation.calls, Call.texts])
      have hold := prepare_unstamped hmade hf
      have hnew := prepare_unstamped (f := f) (hempty []) (hf.mono (by simp))
      rw [hfresh, ← hold] at hnew
      exact congrArg Answer.prepared hnew.symm
    | compareFiles f g =>
      have hfg : DigestsApart (asked calls ++ [f.text] ++ [g.text]) :=
        hapart.mono (by simp [asked, Operation.calls, Call.texts])
      have hold := compareFiles_eq_alone hmade hfg
      have hnew := compareFiles_eq_alone (f := f) (g := g) (hempty []) (hfg.mono (by simp))
      rw [hfresh, ← hold] at hnew
      exact congrArg Answer.compared hnew.symm
    | clear => rfl
  | compare l r =>
    -- the texts of sources that were handed out were asked for, and so are apart
    have hasked : DigestsApart (asked calls) := hapart.mono (by simp [asked])
    have hl := prepareAlone_of_mem_units hc hasked (huses l (by simp [Operation.uses]))
    have hr := prepareAlone_of_mem_units hc hasked (huses r (by simp [Operation.uses]))
    have htexts : [l.text, r.text] ⊆ asked calls := by
      have hl := text_mem_asked (huses l (by simp [Operation.uses]))
      have hr := text_mem_asked (huses r (by simp [Operation.uses]))
      simpa using ⟨hl, hr⟩
    have hnew := compareFiles_eq_alone (hempty []) (f := l.file) (g := r.file) (hasked.mono htexts)
    rw [hfresh, hsettings, ← compare_eq_alone hl hr, ← hsettings] at hnew
    exact congrArg Answer.compared hnew.symm
  | batch files cancelled =>
    have hbatch : (c.run calls).compareBatch files cancelled = fresh.compareBatch files cancelled := by
      rw [compareBatch, compareBatch, runBatch, runBatch, hfresh]
    exact congrArg Answer.reported hbatch

/-- What a comparator did before shows in none of its answers. Each operation of a run, where the sources that it
takes were handed out before, is answered as by a fresh comparator, and but for names and labels of encodings as for
files without these. The store has one entry for each text that was prepared since it was cleared, and sources of one
text share it. A file that is refused changes nothing, and neither does a batch, which prepares its files in a store of
its own. -/
theorem history_unseen {s : Settings α} {number number' : Nat} {c fresh : Comparator α}
    (hc : ofSettings s number = .ok c) (hfresh : ofSettings s number' = .ok fresh) (ops : List Operation)
    (hapart : DigestsApart (asked (ops.flatMap Operation.calls))) :
    let now := c.performAll ops
    let recent := c.recent [] (ops.flatMap Operation.calls)
    (∀ before op rest, ops = before ++ op :: rest →
      (∀ p ∈ op.uses, p ∈ c.units (before.flatMap Operation.calls)) →
        ((c.performAll before).answer op).unstamped = (fresh.answer op.onFiles).unstamped ∧
        ((c.performAll before).answer op).unstamped.unnamed = (fresh.answer op.onFiles.unnamed).unstamped) ∧
    (now.store.entries.map Prod.fst).Perm ((recent.map (·.text)).dedup.map contentDigest) ∧
    now.store.size = (recent.map (·.text)).dedup.length ∧
    (∀ p ∈ recent, ∀ q ∈ recent, p.text = q.text → p.shared = q.shared) ∧
    (∀ f e, (now.prepare f).1 = .error e → now.perform (.call (.prepare f)) = now) ∧
    ∀ files cancelled, (now.runBatch files cancelled).files = ((now.withStore {}).prepareEach files).1 ∧
      now.perform (.batch files cancelled) = now := by
  intro now recent
  obtain ⟨-, rfl, hempty⟩ := ofSettings_eq_ok hc
  obtain ⟨-, hsettings, hempty'⟩ := ofSettings_eq_ok hfresh
  have hholds : now.store.Holds recent := by
    have hrun := run_holds (ops.flatMap Operation.calls) (Store.Holds.of_madeUnder_nil (hempty []))
    rwa [← performAll_eq_run] at hrun
  have htexts : recent.map (·.text) ⊆ asked (ops.flatMap Operation.calls) := by
    intro text htext
    obtain ⟨p, hp, rfl⟩ := List.mem_map.1 htext
    exact (mem_recent hp).resolve_left List.not_mem_nil
  have hperm := hholds.perm_digests (hapart.mono htexts)
  refine ⟨?_, hperm, ?_, ?_, ?_, fun files cancelled => ⟨files_runBatch files cancelled, perform_batch files cancelled⟩⟩
  · rintro before op rest rfl huses
    have hanswer := answer_eq_fresh hsettings hempty hempty'
      (hapart.mono (by simp [asked])) huses
    rw [← performAll_eq_run] at hanswer
    exact ⟨hanswer, by rw [hanswer, Answer.unstamped_unnamed, answer_unnamed]⟩
  · simpa [Store.size] using hperm.length_eq
  · intro p hp q hq htext
    exact hholds.shared_eq hp hq htext
  · intro f e h
    exact (prepare_of_error h).2

/-- A source that was handed out before the store was cleared is compared with one that the store has. -/
theorem history_unseen_two_sources :
    let f : SourceFile := { filename := "a.py", text := "x = 1\n" }
    let g : SourceFile := { filename := "b.py", text := "y = x + 2\n" }
    let before : List Operation := [.call (.prepare f), .call .clear, .batch [f, g] false, .call (.prepare g)]
    ∃ (c fresh : Comparator Rat) (l r : Prepared),
      ofSettings .default 0 = .ok c ∧ ofSettings .default 1 = .ok fresh ∧
      DigestsApart (asked ((before ++ [Operation.compare l r]).flatMap Operation.calls)) ∧
      c.units (before.flatMap Operation.calls) = [l, r] ∧
      (c.performAll before).compare l r = (fresh.compareFiles f g).1 ∧
      (c.performAll (before ++ [Operation.compare l r])).store.size = 1 := by
  intro f g before
  obtain ⟨c, hc⟩ := exists_ofSettings Settings.default_check 0
  obtain ⟨fresh, hfresh⟩ := exists_ofSettings Settings.default_check 1
  obtain ⟨-, hsettings, hempty⟩ := ofSettings_eq_ok hc
  have hf : f.check c.settings.maxBytes = .ok () := by
    rw [hsettings, SourceFile.check_eq_ok_iff]
    decide +kernel
  have hg : g.check c.settings.maxBytes = .ok () := by
    rw [hsettings, SourceFile.check_eq_ok_iff]
    decide +kernel
  obtain ⟨l, store, hl, -, -⟩ := exists_prepare hf (hempty [])
  have hclear : ({ c with store } : Comparator Rat).clear.store.MadeUnder c.settings.deriveOptions [] := by
    intro digest kept hmem
    cases hmem
  obtain ⟨r, store', hr, -, -⟩ := exists_prepare (c := ({ c with store } : Comparator Rat).clear) hg hclear
  have hunits : c.units (before.flatMap Operation.calls) =
      [⟨f.filename, f.encoding, f.text, l⟩, ⟨g.filename, g.encoding, g.text, r⟩] := by
    simp [before, Operation.calls, units, after, hl, hr, Except.toOption]
  have hapart : DigestsApart [f.text, g.text] := by
    have hdigest : contentDigest f.text ≠ contentDigest g.text := by decide +kernel
    simp [DigestsApart, hdigest, hdigest.symm]
  obtain ⟨hanswers, -, hsize, -⟩ := history_unseen hc hfresh
    (before ++ [Operation.compare ⟨f.filename, f.encoding, f.text, l⟩ ⟨g.filename, g.encoding, g.text, r⟩]) hapart
  have hanswer := (hanswers before _ [] rfl (by rw [hunits]; simp [Operation.uses])).1
  refine ⟨c, fresh, _, _, hc, hfresh, hapart, hunits, Answer.compared.inj hanswer, ?_⟩
  rw [hsize]
  simp [before, Operation.calls, recent, prepared, after, hl, hr, Except.toOption]

end Comparator
end Likeness
