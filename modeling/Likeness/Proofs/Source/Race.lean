import Likeness.Proofs.Source.Kept

/-!
# Callers that race for one store

Several callers may ask one store for artifacts at the same time. A caller looks for those of its text; if the
store has none it derives them by itself, and then has the store keep them, unless another caller was faster.
Looking and keeping are one turn each, and the turns of the callers come in any order (`Race.run`).

A turn leaves the store alone or is as good as a whole call of `Store.getOrDerive` (`Caller.does_turn`). So what
such calls keep of a store every turn keeps, and what callers know of the store stays true (`Race.Sound`). In the
end all callers of one text share the artifacts that were kept first (`Race.racing_callers_agree`).
-/

namespace Likeness

/-! ### Callers -/

/-- How far a caller has come. -/
inductive Progress where
  | asking
  /-- The store had nothing for the text. -/
  | missed
  /-- The artifacts are made, and no one else knows of them yet. -/
  | derived (a : Artifacts)
  | answered (r : Except Lex.Problem Shared)

structure Caller where
  text : String
  progress : Progress := .asking

namespace Caller

/-- The next turn of a caller. It makes artifacts without the store. -/
def turn (c : Caller) (o : DeriveOptions) (s : Store) : Caller × Store :=
  match c.progress with
  | .asking => match s.get? (contentDigest c.text) with
    | some kept => ({ c with progress := .answered (.ok kept) }, s)
    | none => ({ c with progress := .missed }, s)
  | .missed => match Artifacts.derive c.text o with
    | .ok a => ({ c with progress := .derived a }, s)
    | .error p => ({ c with progress := .answered (.error p) }, s)
  | .derived a =>
    let (kept, s) := s.insertIfAbsent (contentDigest c.text) a
    ({ c with progress := .answered (.ok kept) }, s)
  | .answered _ => (c, s)

/-- How many turns a caller needs at most to have an answer. -/
def turnsLeft (c : Caller) : Nat :=
  match c.progress with
  | .asking => 3
  | .missed => 2
  | .derived _ => 1
  | .answered _ => 0

/-- What a caller knows is right: the artifacts that it made, and that the store has what it was given. -/
def Sound (c : Caller) (o : DeriveOptions) (s : Store) : Prop :=
  match c.progress with
  | .asking => True
  | .missed => True
  | .derived a => Artifacts.derive c.text o = .ok a
  | .answered (.ok kept) => s.get? (contentDigest c.text) = some kept
  | .answered (.error p) => Artifacts.derive c.text o = .error p

/-- What a turn of a caller can come to. -/
inductive Does (c : Caller) (o : DeriveOptions) (s : Store) : Caller → Store → Prop
  | rests (h : c.turnsLeft = 0) : Does c o s c s
  | misses (h : c.turnsLeft = 3) : Does c o s { c with progress := .missed } s
  | derives {a : Artifacts} (h : c.turnsLeft = 2) (ha : Artifacts.derive c.text o = .ok a) :
      Does c o s { c with progress := .derived a } s
  | fails {p : Lex.Problem} (hp : Artifacts.derive c.text o = .error p) :
      Does c o s { c with progress := .answered (.error p) } s
  | gets {kept : Shared} {s' : Store} (hr : s.getOrDerive c.text o = .ok (kept, s')) :
      Does c o s { c with progress := .answered (.ok kept) } s'

end Caller

/-- Artifacts that are kept only now could as well have been asked for only now. -/
theorem Store.getOrDerive_of_derive {s : Store} {text : String} {o : DeriveOptions} {a : Artifacts}
    (h : Artifacts.derive text o = .ok a) : s.getOrDerive text o = .ok (s.insertIfAbsent (contentDigest text) a) := by
  cases hget : s.get? (contentDigest text) with
  | some kept => rw [getOrDerive_of_kept hget, insertIfAbsent, hget]
  | none => rw [getOrDerive_of_none hget, h, insertIfAbsent, hget]; rfl

namespace Caller

variable {c c' : Caller} {o : DeriveOptions} {s s' : Store}

theorem does_turn (h : c.Sound o s) : c.Does o s (c.turn o s).1 (c.turn o s).2 := by
  obtain ⟨text, progress⟩ := c
  cases progress with
  | asking =>
    simp only [turn]
    cases hget : s.get? (contentDigest text) with
    | some kept => exact .gets (Store.getOrDerive_of_kept hget)
    | none => exact .misses rfl
  | missed =>
    simp only [turn]
    cases hderive : Artifacts.derive text o with
    | ok a => exact .derives rfl hderive
    | error p => exact .fails hderive
  -- the call takes effect only here: what the caller made before can be made again now
  | derived a => exact .gets (Store.getOrDerive_of_derive h)
  | answered r => exact .rests rfl

namespace Does

theorem text_eq (h : c.Does o s c' s') : c'.text = c.text := by
  cases h <;> rfl

theorem grows (h : c.Does o s c' s') : s.Grows s' := by
  cases h with
  | gets hr => exact Store.grows_getOrDerive hr
  | _ => exact Store.Grows.refl s

theorem turnsLeft_le (h : c.Does o s c' s') : c'.turnsLeft ≤ c.turnsLeft - 1 := by
  cases h with
  | rests h => rw [h]
  | misses h => rw [h]; rfl
  | derives h => rw [h]; rfl
  | _ => exact Nat.zero_le _

/-- What every call for the text of a caller keeps of a store, its turns keep as well. -/
theorem keeps {P : Store → Prop} (h : c.Does o s c' s') (hs : P s)
    (hcall : ∀ {kept s'}, s.getOrDerive c.text o = .ok (kept, s') → P s') : P s' := by
  cases h with
  | gets hr => exact hcall hr
  | _ => exact hs

theorem sound (h : c.Does o s c' s') (hc : c.Sound o s) : c'.Sound o s' := by
  cases h with
  | rests => exact hc
  | misses => trivial
  | derives _ ha => exact ha
  | fails hp => exact hp
  | gets hr => exact Store.get?_of_getOrDerive hr

end Does

theorem exists_answer (h : c.turnsLeft = 0) : ∃ answer, c.progress = .answered answer := by
  obtain ⟨text, progress⟩ := c
  cases progress with
  | answered answer => exact ⟨answer, rfl⟩
  | _ => cases h

/-- Options that are accepted leave no caller without artifacts. -/
theorem Sound.exists_kept (h : c.Sound o s) (ho : o.lex.version ≠ 0) {answer : Except Lex.Problem Shared}
    (hanswer : c.progress = .answered answer) : ∃ kept, answer = .ok kept := by
  rw [Sound, hanswer] at h
  cases answer with
  | ok kept => exact ⟨kept, rfl⟩
  | error p =>
    obtain ⟨a, ha⟩ := Artifacts.exists_derive c.text ho
    rw [ha] at h
    cases h

/-- Turns of others do no harm. -/
theorem Sound.mono (h : c.Sound o s) (hs : s.Grows s') : c.Sound o s' := by
  obtain ⟨text, progress⟩ := c
  cases progress with
  | answered r =>
    cases r with
    | ok kept => exact hs _ _ h
    | error p => exact h
  | _ => exact h

end Caller

/-! ### Races -/

/-- A store and all who call it. -/
structure Race where
  store : Store
  callers : List Caller

namespace Race

/-- Callers of an empty store, none of which has had a turn. -/
def start (number : Nat) (texts : List String) : Race := ⟨{ number }, texts.map fun text => { text }⟩

/-- The race after a turn of the caller with number `i`, if there is one. -/
def turn (o : DeriveOptions) (r : Race) (i : Nat) : Race :=
  match r.callers[i]? with
  | some c => ⟨(c.turn o r.store).2, r.callers.set i (c.turn o r.store).1⟩
  | none => r

/-- The race after the turns of the callers with the given numbers. -/
def run (r : Race) (o : DeriveOptions) (schedule : List Nat) : Race := schedule.foldl (turn o) r

/-- A race of callers that ask for the given texts. -/
structure Sound (r : Race) (o : DeriveOptions) (texts : List String) : Prop where
  texts_eq : r.callers.map (·.text) = texts
  callers : ∀ c ∈ r.callers, c.Sound o r.store
  made : r.store.MadeUnder o texts
  orderly : r.store.Orderly

variable {r : Race} {o : DeriveOptions} {texts : List String} {c : Caller} {i : Nat}

theorem sound_start (number : Nat) (o : DeriveOptions) (texts : List String) : (start number texts).Sound o texts where
  texts_eq := by simp [start, Function.comp_def]
  callers := by
    intro c hc
    obtain ⟨text, -, rfl⟩ := List.mem_map.1 hc
    trivial
  made := Store.madeUnder_empty number o texts
  orderly := Store.orderly_empty number

theorem Sound.text_mem (h : r.Sound o texts) (hc : c ∈ r.callers) : c.text ∈ texts :=
  h.texts_eq ▸ List.mem_map_of_mem hc

/-! ### One turn -/

theorem turn_eq (hc : r.callers[i]? = some c) :
    r.turn o i = ⟨(c.turn o r.store).2, r.callers.set i (c.turn o r.store).1⟩ := by
  simp [turn, hc]

theorem turn_of_none (hc : r.callers[i]? = none) : r.turn o i = r := by
  simp [turn, hc]

theorem Sound.does (h : r.Sound o texts) (hc : r.callers[i]? = some c) :
    c.Does o r.store (c.turn o r.store).1 (c.turn o r.store).2 :=
  Caller.does_turn (h.callers c (List.mem_of_getElem? hc))

theorem Sound.turn (h : r.Sound o texts) (i : Nat) : (r.turn o i).Sound o texts := by
  cases hc : r.callers[i]? with
  | none => rwa [turn_of_none hc]
  | some c =>
    have hmem := List.mem_of_getElem? hc
    have hdoes := h.does hc
    rw [turn_eq hc]
    constructor
    · show (r.callers.set i _).map (·.text) = texts
      obtain ⟨hi, rfl⟩ := List.getElem?_eq_some_iff.1 hc
      have hlt : i < (r.callers.map (·.text)).length := by simpa using hi
      rw [List.map_set, hdoes.text_eq, ← h.texts_eq]
      simpa using List.set_getElem_self hlt
    · intro d hd
      rcases List.mem_or_eq_of_mem_set hd with hd | rfl
      · exact (h.callers d hd).mono hdoes.grows
      · exact hdoes.sound (h.callers c hmem)
    · exact hdoes.keeps h.made (h.made.of_getOrDerive (h.text_mem hmem))
    · exact hdoes.keeps h.orderly h.orderly.of_getOrDerive

theorem Sound.grows_turn (h : r.Sound o texts) (i : Nat) : r.store.Grows (r.turn o i).store := by
  cases hc : r.callers[i]? with
  | none =>
    rw [turn_of_none hc]
    exact Store.Grows.refl _
  | some c =>
    rw [turn_eq hc]
    exact (h.does hc).grows

/-- A caller needs one turn less after its own turn, and no more after that of another. -/
theorem Sound.turnsLeft_turn (h : r.Sound o texts) (i : Nat) {j : Nat} (hc : r.callers[j]? = some c) :
    ∃ c', (r.turn o i).callers[j]? = some c' ∧ c'.turnsLeft ≤ c.turnsLeft - [i].count j := by
  by_cases hij : i = j
  · subst hij
    rw [turn_eq hc]
    refine ⟨_, List.getElem?_set_self (List.getElem?_eq_some_iff.1 hc).1, ?_⟩
    simpa using (h.does hc).turnsLeft_le
  · refine ⟨c, ?_, by simp [hij]⟩
    cases hi : r.callers[i]? with
    | none => rwa [turn_of_none hi]
    | some d =>
      rw [turn_eq hi]
      exact (List.getElem?_set_ne hij).trans hc

/-! ### All turns -/

theorem Sound.run (h : r.Sound o texts) (schedule : List Nat) : (r.run o schedule).Sound o texts := by
  induction schedule generalizing r with
  | nil => exact h
  | cons i schedule ih => exact ih (h.turn i)

theorem Sound.grows_run (h : r.Sound o texts) (schedule : List Nat) : r.store.Grows (r.run o schedule).store := by
  induction schedule generalizing r with
  | nil => exact Store.Grows.refl _
  | cons i schedule ih => exact (h.grows_turn i).trans (ih (h.turn i))

/-- A caller comes nearer to its answer with each of its turns, whatever the others do. -/
theorem Sound.turnsLeft_run (h : r.Sound o texts) (schedule : List Nat) {j : Nat}
    (hc : r.callers[j]? = some c) :
    ∃ c', (r.run o schedule).callers[j]? = some c' ∧ c'.turnsLeft ≤ c.turnsLeft - schedule.count j := by
  induction schedule generalizing r c with
  | nil => exact ⟨c, hc, by simp⟩
  | cons i schedule ih =>
    obtain ⟨c₁, hc₁, hle₁⟩ := h.turnsLeft_turn i hc
    obtain ⟨c₂, hc₂, hle₂⟩ := ih (h.turn i) hc₁
    refine ⟨c₂, hc₂, ?_⟩
    rw [List.count_cons]
    rw [List.count_singleton] at hle₁
    omega

/-- A caller that has had all the turns that it needs has an answer, whatever the others did. -/
theorem Sound.exists_answer (h : r.Sound o texts) (schedule : List Nat) {j : Nat} (hc : r.callers[j]? = some c)
    (hcount : c.turnsLeft ≤ schedule.count j) :
    ∃ c' answer, (r.run o schedule).callers[j]? = some c' ∧ c'.progress = .answered answer := by
  obtain ⟨c', hc', hle⟩ := h.turnsLeft_run schedule hc
  obtain ⟨answer, hanswer⟩ := Caller.exists_answer (c := c') (by omega)
  exact ⟨c', answer, hc', hanswer⟩

/-- A caller that nobody disturbs gets what a call of the store gives. -/
theorem run_alone (s : Store) (text : String) (o : DeriveOptions) :
    run ⟨s, [{ text }]⟩ o [0, 0, 0] =
      match s.getOrDerive text o with
      | .ok (kept, s') => ⟨s', [{ text, progress := .answered (.ok kept) }]⟩
      | .error p => ⟨s, [{ text, progress := .answered (.error p) }]⟩ := by
  cases hget : s.get? (contentDigest text) with
  | some kept =>
    rw [Store.getOrDerive_of_kept hget]
    simp [run, turn, Caller.turn, hget]
  | none =>
    cases hderive : Artifacts.derive text o with
    | error p =>
      rw [Store.getOrDerive_of_none hget, hderive]
      simp [run, turn, Caller.turn, hget, hderive, Except.map]
    | ok a =>
      rw [Store.getOrDerive_of_derive hderive]
      simp [run, turn, Caller.turn, hget, hderive]

/-! ### What the callers can rely on -/

/-- An answer is what the text of the caller gives, and the store has the artifacts that were handed out. -/
theorem Sound.answer_eq (h : r.Sound o texts) (hapart : DigestsApart texts) (hc : c ∈ r.callers)
    {answer : Except Lex.Problem Shared} (hanswer : c.progress = .answered answer) :
    answer.map (·.value) = Artifacts.derive c.text o := by
  have hsound := h.callers c hc
  rw [Caller.Sound, hanswer] at hsound
  cases answer with
  | error p => exact hsound.symm
  | ok kept =>
    refine ((h.made.get? hsound).derive_eq fun t ht hdigest => ?_).symm
    exact hapart t ht c.text (h.text_mem hc) hdigest

theorem Sound.get?_of_answered (h : r.Sound o texts) (hc : c ∈ r.callers) {kept : Shared}
    (hkept : c.progress = .answered (.ok kept)) : r.store.get? (contentDigest c.text) = some kept := by
  have hsound := h.callers c hc
  rwa [Caller.Sound, hkept] at hsound

/-- Callers share their artifacts if they ask for one text, and only then. -/
theorem Sound.shares_iff (h : r.Sound o texts) (hapart : DigestsApart texts) {d : Caller} (hc : c ∈ r.callers)
    (hd : d ∈ r.callers) {x y : Shared} (hx : c.progress = .answered (.ok x)) (hy : d.progress = .answered (.ok y)) :
    (c.text = d.text → x = y) ∧ (x.stamp = y.stamp → c.text = d.text) := by
  have hleft := h.get?_of_answered hc hx
  have hright := h.get?_of_answered hd hy
  constructor
  · intro htext
    rw [htext, hright] at hleft
    exact (Option.some.inj hleft).symm
  · intro hstamp
    exact hapart _ (h.text_mem hc) _ (h.text_mem hd) (h.orderly.digest_eq hleft hright hstamp)

/-- When all callers have artifacts, the store has one entry for each text. -/
theorem Sound.size_eq (h : r.Sound o texts) (hapart : DigestsApart texts)
    (hall : ∀ c ∈ r.callers, ∃ kept, c.progress = .answered (.ok kept)) : r.store.size = texts.dedup.length := by
  have hperm := Store.perm_digests_of_mem h.orderly.digests hapart fun digest => ?_
  · simpa [Store.size] using hperm.length_eq
  · constructor
    · intro hmem
      obtain ⟨⟨digest, kept⟩, hentry, rfl⟩ := List.mem_map.1 hmem
      obtain ⟨t, ht, hdigest, -⟩ := h.made digest kept hentry
      exact ⟨t, ht, hdigest⟩
    · rintro ⟨t, ht, rfl⟩
      obtain ⟨c, hc, rfl⟩ := List.mem_map.1 (h.texts_eq ▸ ht)
      obtain ⟨kept, hkept⟩ := hall c hc
      exact List.mem_map_of_mem (Store.mem_entries_of_get? (h.get?_of_answered hc hkept))

/-- In whatever order the turns come: what the store has once it has for good, answers are what the texts of their
callers give, callers share artifacts exactly if they ask for one text, and all that is kept is made of a text that
was asked for. When all have artifacts, the store has one entry for each text; and a caller that had three turns has
an answer, whatever the others did, which is artifacts if the options are accepted. -/
theorem racing_callers_agree (number : Nat) (o : DeriveOptions) {texts : List String} (hapart : DigestsApart texts)
    (schedule : List Nat) :
    let race := (start number texts).run o schedule
    race.callers.map (·.text) = texts ∧
    (∀ more digest kept, race.store.get? digest = some kept →
      (race.run o more).store.get? digest = some kept) ∧
    (∀ c ∈ race.callers, ∀ answer, c.progress = .answered answer →
      answer.map (·.value) = Artifacts.derive c.text o) ∧
    (∀ c ∈ race.callers, ∀ d ∈ race.callers, ∀ x y,
      c.progress = .answered (.ok x) → d.progress = .answered (.ok y) →
      (c.text = d.text → x = y) ∧ (x.stamp = y.stamp → c.text = d.text)) ∧
    (∀ digest kept, (digest, kept) ∈ race.store.entries →
      ∃ t ∈ texts, contentDigest t = digest ∧ Artifacts.derive t o = .ok kept.value) ∧
    ((∀ c ∈ race.callers, ∃ kept, c.progress = .answered (.ok kept)) → race.store.size = texts.dedup.length) ∧
    ∀ i c, race.callers[i]? = some c → 3 ≤ schedule.count i →
      ∃ answer, c.progress = .answered answer ∧ (o.lex.version ≠ 0 → ∃ kept, answer = .ok kept) := by
  intro race
  have hstart := sound_start number o texts
  have h : race.Sound o texts := hstart.run schedule
  refine ⟨h.texts_eq, h.grows_run, fun c hc answer => h.answer_eq hapart hc, ?_, h.made, h.size_eq hapart, ?_⟩
  · intro c hc d hd x y
    exact h.shares_iff hapart hc hd
  · intro i c hc hcount
    have hi : i < texts.length := by
      rw [← h.texts_eq, List.length_map]
      exact (List.getElem?_eq_some_iff.1 hc).1
    have hasking : (start number texts).callers[i]? = some { text := texts[i] } := by simp [start, hi]
    obtain ⟨c', answer, hc', hanswer⟩ := hstart.exists_answer schedule hasking hcount
    obtain rfl := Option.some.inj (hc'.symm.trans hc)
    exact ⟨answer, hanswer, fun ho => (h.callers c' (List.mem_of_getElem? hc)).exists_kept ho hanswer⟩

/-- All three look before one of them keeps anything, and two of them share what the last has kept. -/
theorem racing_callers_agree_three :
    let texts := ["x = 1\n", "y = 2\n", "x = 1\n"]
    let look := [0, 1, 2]
    let schedule := look ++ [0, 1, 2] ++ [2, 1, 0]
    let race := (start 0 texts).run {} schedule
    DigestsApart texts ∧ ((start 0 texts).run {} look).callers.map (·.progress) = [.missed, .missed, .missed] ∧
      race.store.size = 2 ∧
      ∃ x, race.callers[0]? = some ⟨"x = 1\n", .answered (.ok x)⟩ ∧
        race.callers[2]? = some ⟨"x = 1\n", .answered (.ok x)⟩ ∧ Artifacts.derive "x = 1\n" {} = .ok x.value := by
  intro texts look schedule race
  have hapart : DigestsApart texts := by
    have hdigest : contentDigest "x = 1\n" ≠ contentDigest "y = 2\n" := by decide +kernel
    simp [texts, DigestsApart, hdigest, hdigest.symm]
  obtain ⟨htexts, -, hvalue, hshare, -, hsize, hthree⟩ := racing_callers_agree 0 {} hapart schedule
  have hcount : ∀ i < 3, 3 ≤ schedule.count i := by decide
  have hcaller : ∀ (i : Nat) (c : Caller), race.callers[i]? = some c →
      ∃ kept, c = ⟨c.text, .answered (.ok kept)⟩ ∧ Artifacts.derive c.text {} = .ok kept.value := by
    intro i c hc
    have hi : i < texts.length := by
      rw [← htexts, List.length_map]
      exact (List.getElem?_eq_some_iff.1 hc).1
    obtain ⟨answer, hanswer, hok⟩ := hthree i c hc (hcount i hi)
    obtain ⟨kept, rfl⟩ := hok Nat.one_ne_zero
    exact ⟨kept, by rw [← hanswer], (hvalue c (List.mem_of_getElem? hc) _ hanswer).symm⟩
  have hasked : ∀ (i : Nat) (t : String), texts[i]? = some t →
      ∃ kept, race.callers[i]? = some ⟨t, .answered (.ok kept)⟩ ∧ Artifacts.derive t {} = .ok kept.value := by
    intro i t ht
    rw [← htexts, List.getElem?_map] at ht
    obtain ⟨c, hc, rfl⟩ := Option.map_eq_some_iff.1 ht
    obtain ⟨kept, heq, hderive⟩ := hcaller i c hc
    exact ⟨kept, heq ▸ hc, hderive⟩
  obtain ⟨x, hx, hderive⟩ := hasked 0 "x = 1\n" rfl
  obtain ⟨y, hy, -⟩ := hasked 2 "x = 1\n" rfl
  obtain rfl := (hshare _ (List.mem_of_getElem? hx) _ (List.mem_of_getElem? hy) x y rfl rfl).1 rfl
  refine ⟨hapart, rfl, ?_, x, hx, hy, hderive⟩
  refine (hsize fun c hc => ?_).trans (by decide)
  obtain ⟨i, hi⟩ := List.getElem?_of_mem hc
  obtain ⟨kept, heq, -⟩ := hcaller i c hi
  exact ⟨kept, congrArg Caller.progress heq⟩

end Race
end Likeness
