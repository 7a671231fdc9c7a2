import Mathlib.Data.List.Dedup
import Mathlib.Data.List.Nodup
import Mathlib.Data.List.Perm.Basic
import Likeness.Proofs.Source.Store

/-!
# What a store keeps

All that a store keeps was made of a text that it was asked for (`Store.MadeUnder`). It has one entry for a
digest and one for a stamp (`Store.Orderly`), and what it once has for a digest it has for good, until it
is cleared (`Store.Grows`). Texts that have digests of their own then have entries of their own
(`Store.perm_digests_of_mem`).
-/

namespace Likeness

/-- Texts that are told apart by their digests. -/
def DigestsApart (texts : List String) : Prop :=
  ∀ t ∈ texts, ∀ u ∈ texts, contentDigest t = contentDigest u → t = u

theorem DigestsApart.mono {texts texts' : List String} (h : DigestsApart texts') (hsub : texts ⊆ texts') :
    DigestsApart texts :=
  fun t ht u hu => h t (hsub ht) u (hsub hu)

/-! ### Artifacts of a text -/

/-- Artifacts that are made under the options `o` of one of the texts that has the digest of `text`. -/
def Artifacts.MadeFor (a : Artifacts) (o : DeriveOptions) (texts : List String) (text : String) : Prop :=
  ∃ t ∈ texts, contentDigest t = contentDigest text ∧ derive t o = .ok a

theorem Artifacts.MadeFor.mono {a : Artifacts} {o : DeriveOptions} {texts texts' : List String} {text : String}
    (h : a.MadeFor o texts text) (hsub : texts ⊆ texts') : a.MadeFor o texts' text := by
  obtain ⟨t, ht, hdigest, hderive⟩ := h
  exact ⟨t, hsub ht, hdigest, hderive⟩

/-- If no other of the texts has the digest of `text`, artifacts made for it are made of it. -/
theorem Artifacts.MadeFor.derive_eq {a : Artifacts} {o : DeriveOptions} {texts : List String} {text : String}
    (h : a.MadeFor o texts text) (hclash : ∀ t ∈ texts, contentDigest t = contentDigest text → t = text) :
    derive text o = .ok a := by
  obtain ⟨t, ht, hdigest, hderive⟩ := h
  exact hclash t ht hdigest ▸ hderive

namespace Store

/-- All that a store keeps is made under the options `o`, of one of the texts. -/
def MadeUnder (s : Store) (o : DeriveOptions) (texts : List String) : Prop :=
  ∀ digest kept, (digest, kept) ∈ s.entries →
    ∃ t ∈ texts, contentDigest t = digest ∧ Artifacts.derive t o = .ok kept.value

variable {s s' s'' : Store} {o : DeriveOptions} {texts : List String} {text digest : String} {kept : Shared}

theorem mem_entries_of_get? (h : s.get? digest = some kept) : (digest, kept) ∈ s.entries := by
  obtain ⟨before, after, hentries, -⟩ := List.lookup_eq_some_iff.1 h
  rw [hentries]
  simp

theorem notMem_digests_of_get? (h : s.get? digest = none) : digest ∉ s.entries.map Prod.fst := by
  intro hmem
  obtain ⟨e, he, rfl⟩ := List.mem_map.1 hmem
  simpa using List.lookup_eq_none_iff.1 h e he

theorem MadeUnder.mono {texts' : List String} (h : s.MadeUnder o texts) (hsub : texts ⊆ texts') :
    s.MadeUnder o texts' := by
  intro digest kept hmem
  obtain ⟨t, ht, hdigest, hderive⟩ := h digest kept hmem
  exact ⟨t, hsub ht, hdigest, hderive⟩

theorem madeUnder_empty (number : Nat) (o : DeriveOptions) (texts : List String) :
    MadeUnder { number } o texts := by
  intro digest kept hmem
  cases hmem

theorem MadeUnder.get? (h : s.MadeUnder o texts) {text : String} {kept : Shared}
    (hkept : s.get? (contentDigest text) = some kept) : kept.value.MadeFor o texts text :=
  h _ kept (mem_entries_of_get? hkept)

/-- What a store keeps of a text that it is asked for is made of this text. -/
theorem MadeUnder.of_getOrDerive (h : s.MadeUnder o texts) (htext : text ∈ texts)
    (hr : s.getOrDerive text o = .ok (kept, s')) : s'.MadeUnder o texts := by
  rcases getOrDerive_eq_ok hr with ⟨-, rfl⟩ | ⟨-, hderive, -, rfl⟩
  · exact h
  · intro digest old hmem
    rcases List.mem_append.1 hmem with hmem | hmem
    · exact h digest old hmem
    · obtain ⟨rfl, rfl⟩ := Prod.mk.inj (List.mem_singleton.1 hmem)
      exact ⟨text, htext, rfl, hderive⟩

/-! ### Entries stay -/

/-- What the store `s` has for a digest, `s'` has for it as well. -/
def Grows (s s' : Store) : Prop := ∀ digest kept, s.get? digest = some kept → s'.get? digest = some kept

theorem Grows.refl (s : Store) : s.Grows s := fun _ _ h => h

theorem Grows.trans (h : s.Grows s') (h' : s'.Grows s'') : s.Grows s'' :=
  fun digest kept hkept => h' digest kept (h digest kept hkept)

theorem grows_getOrDerive (h : s.getOrDerive text o = .ok (kept, s')) : s.Grows s' := by
  rcases getOrDerive_eq_ok h with ⟨-, rfl⟩ | ⟨-, -, -, rfl⟩
  · exact Grows.refl s'
  · intro digest old hold
    rw [Store.get?] at hold
    simp [Store.get?, List.lookup_append, hold]

/-- A store has what it hands out. -/
theorem get?_of_getOrDerive (h : s.getOrDerive text o = .ok (kept, s')) :
    s'.get? (contentDigest text) = some kept := by
  rcases getOrDerive_eq_ok h with ⟨hget, rfl⟩ | ⟨hget, -, -, rfl⟩
  · exact hget
  · rw [Store.get?] at hget
    simp [Store.get?, List.lookup_append, hget]

/-- A store that is asked for a text hands out what was made for it, and keeps nothing else besides. -/
theorem MadeUnder.getOrDerive (h : s.MadeUnder o texts) (ho : o.lex.version ≠ 0) (text : String) :
    ∃ kept s', s.getOrDerive text o = .ok (kept, s') ∧ s'.MadeUnder o (texts ++ [text]) ∧
      kept.value.MadeFor o (texts ++ [text]) text := by
  obtain ⟨kept, s', hr⟩ := s.exists_getOrDerive text ho
  have hmade := (h.mono (List.subset_append_left texts [text])).of_getOrDerive (by simp) hr
  exact ⟨kept, s', hr, hmade, hmade.get? (get?_of_getOrDerive hr)⟩

/-! ### One entry for each digest -/

/-- A store with one entry for a digest and one for a stamp. The stamps to come are new. -/
structure Orderly (s : Store) : Prop where
  digests : (s.entries.map Prod.fst).Nodup
  stamps : (s.entries.map (·.2.stamp)).Nodup
  number_lt : ∀ e ∈ s.entries, e.2.stamp.number < s.kept

theorem orderly_empty (number : Nat) : Orderly { number } := ⟨List.nodup_nil, List.nodup_nil, by simp⟩

theorem Orderly.of_getOrDerive (h : s.Orderly) (hr : s.getOrDerive text o = .ok (kept, s')) : s'.Orderly := by
  rcases getOrDerive_eq_ok hr with ⟨-, rfl⟩ | ⟨hget, -, hstamp, rfl⟩
  · exact h
  · have hnew : kept.stamp ∉ s.entries.map (·.2.stamp) := by
      intro hmem
      obtain ⟨e, he, heq⟩ := List.mem_map.1 hmem
      have hlt := h.number_lt e he
      rw [heq, hstamp] at hlt
      exact Nat.lt_irrefl _ hlt
    constructor
    · rw [List.map_append]
      exact List.nodup_append_comm.1 (List.nodup_cons.2 ⟨notMem_digests_of_get? hget, h.digests⟩)
    · rw [List.map_append]
      exact List.nodup_append_comm.1 (List.nodup_cons.2 ⟨hnew, h.stamps⟩)
    · intro e he
      rcases List.mem_append.1 he with he | he
      · exact Nat.lt_succ_of_lt (h.number_lt e he)
      · rw [List.mem_singleton.1 he, hstamp]
        exact Nat.lt_succ_self _

/-- A stamp belongs to one digest. -/
theorem Orderly.digest_eq (h : s.Orderly) {digest' : String} {kept' : Shared} (hkept : s.get? digest = some kept)
    (hkept' : s.get? digest' = some kept') (hstamp : kept.stamp = kept'.stamp) : digest = digest' := by
  have hmem := mem_entries_of_get? hkept
  have hmem' := mem_entries_of_get? hkept'
  exact congrArg Prod.fst (List.inj_on_of_nodup_map h.stamps hmem hmem' hstamp)

/-- If a store has entries for the digests of some texts and no others, and these are told apart by their digests, it
has one entry for each text. -/
theorem perm_digests_of_mem (h : (s.entries.map Prod.fst).Nodup) (hapart : DigestsApart texts)
    (hmem : ∀ digest, digest ∈ s.entries.map Prod.fst ↔ ∃ t ∈ texts, contentDigest t = digest) :
    (s.entries.map Prod.fst).Perm (texts.dedup.map contentDigest) := by
  have hdigests : (texts.dedup.map contentDigest).Nodup := by
    apply List.Nodup.map_on _ (List.nodup_dedup _)
    intro t ht u hu
    exact hapart t (List.mem_dedup.1 ht) u (List.mem_dedup.1 hu)
  apply (List.perm_ext_iff_of_nodup h hdigests).2
  intro digest
  simp only [hmem, List.mem_map, List.mem_dedup]

end Store
end Likeness
