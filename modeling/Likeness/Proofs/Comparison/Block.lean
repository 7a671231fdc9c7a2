import Likeness.Proofs.Comparison.Detectors
import Likeness.Proofs.Comparison.History
import Likeness.Proofs.Lex.Block

/-!
# A block that two sources share

Two sources in which the same block of lines stands share all fingerprints of the block, whatever stands
around it. The tokens of the block are hashed alike in both (`hashKeys_block`), so what winnowing selects of
the block it selects of both (`prints_of_part`), and the fingerprints of the block are counted among those
that are shared (`compare_block`). They make the score positive over all numbers whose fractions are, the
rational and the floating-point ones among them.
-/

namespace Likeness

open Fingerprint (PrintSet)
open Overlap (Ratio)

/-! ### Fingerprints of a part of the tokens -/

/-- Artifacts have all fingerprints of a part of their tokens that fills a window. -/
theorem Artifacts.prints_of_part {text : String} {o : DeriveOptions} {a : Artifacts} (h : derive text o = .ok a)
    (ho : o.fingerprint.check = .ok ()) {block : List String} (hblock : block <:+: a.stream.hashKeys)
    (hlong : o.fingerprint.w + o.fingerprint.k - 1 ≤ block.length) {X : PrintSet}
    (hX : ∀ v, v ∈ X.hashes ↔ ∃ m ∈ Fingerprint.winnow
      (Fingerprint.gramHashes block o.fingerprint.k o.fingerprint.seed) o.fingerprint.w, m.hash = v) :
    ∃ A, a.prints = .ok A ∧ A.Increasing ∧ X.hashes ⊆ A.hashes := by
  obtain ⟨-, -, hw⟩ := Fingerprint.Options.check_eq_ok_iff.1 ho
  have hlength := hblock.length_le
  rw [length_hashKeys h] at hlength
  obtain ⟨A, hA, hinc, hmem⟩ := exists_prints h ho (by omega)
  obtain ⟨pre, post, hkeys⟩ := hblock
  rw [← hkeys] at hmem
  exact ⟨A, hA, hinc, PrintSet.hashes_subset_of_part ho hlong pre post hX hmem⟩

variable {α : Type} [Number α] [Number.PositiveFractions α]

namespace Settings

variable {s : Settings α} {l r : Prepared}

/-- Sources with tokens enough, among which the same block is found, share all fingerprints of the block. What they share
of all their fingerprints is the score. -/
theorem compare_block (hs : s.check = .ok ()) {block : List String} (hlong : s.w + s.k - 1 ≤ block.length)
    (hl : l.MadeUnder s) (hr : r.MadeUnder s) (hleft : block <:+: l.artifacts.stream.hashKeys)
    (hright : block <:+: r.artifacts.stream.hashKeys) (hleftMin : s.minHashTokens ≤ l.tokenCount)
    (hrightMin : s.minHashTokens ≤ r.tokenCount) {v : PairVerdict α} (hv : s.compare l r = .ok v) :
    ∃ X shared whole, PrintSet.ofTokens block s.fingerprintOptions = .ok X ∧
      v.verdict.scores.hash = some (Ratio.value ⟨shared, whole⟩) ∧ (0 : α) < Ratio.value ⟨shared, whole⟩ ∧
      v.sharedFingerprints = some shared ∧ X.size ≤ shared ∧ 1 ≤ X.size ∧ shared ≤ whole := by
  have ho := fingerprintOptions_check hs
  have hk : s.fingerprintOptions.k ≤ block.length := by
    obtain ⟨-, -, hw⟩ := Fingerprint.Options.check_eq_ok_iff.1 ho
    simp only [fingerprintOptions] at hw ⊢
    omega
  obtain ⟨X, hX, hXinc, hXmem⟩ := PrintSet.exists_ofTokens ho block hk
  obtain ⟨A, B, hA, hB, hAinc, hBinc, hscore, hcount⟩ := hash_of_compare hs hl hr hv ⟨hleftMin, hrightMin⟩
  obtain ⟨text, htext⟩ := hl
  obtain ⟨text', htext'⟩ := hr
  obtain ⟨A', hA', -, hXA⟩ := Artifacts.prints_of_part htext ho hleft hlong hXmem
  obtain ⟨B', hB', -, hXB⟩ := Artifacts.prints_of_part htext' ho hright hlong hXmem
  obtain rfl := Except.ok.inj (hA.symm.trans hA')
  obtain rfl := Except.ok.inj (hB.symm.trans hB')
  have hsome : 1 ≤ X.size := PrintSet.size_pos ho hk hXmem
  have hshared := PrintSet.size_le_sharedCount hXinc hAinc hBinc hXA hXB
  have hpos : (0 : α) < (A.jaccard B).value := PrintSet.jaccard_pos hAinc hBinc (by omega)
  have hpart := PrintSet.jaccard_part_le_whole hAinc hBinc
  exact ⟨X, A.sharedCount B, (A.jaccard B).whole, hX, hscore, hpos, hcount, hshared, hsome, hpart⟩

end Settings

namespace Comparator

/-- Two sources in which the same block of lines stands are found to share all fingerprints of the block, of which
there is one at least, whenever they are compared with success, after any calls. The block fills a window, both
sources have tokens enough, and neither the block nor the text before it leaves a string or a joined line open. No
other text that was asked for has the digest of one of the sources. -/
theorem block_detected {s : Settings α} {number : Nat} {c : Comparator α} (hc : ofSettings s number = .ok c)
    (calls : List Call) {f g : SourceFile} {block p₁ s₁ p₂ s₂ : String}
    (hfText : f.text = p₁ ++ "\n" ++ block ++ "\n" ++ s₁) (hgText : g.text = p₂ ++ "\n" ++ block ++ "\n" ++ s₂)
    (hplain : s.normalizeUnicode = false ∨ ∀ t ∈ [block, p₁, s₁, p₂, s₂], Lex.isAscii t = true)
    (hclosed : ∀ t ∈ [block, p₁, p₂], Lex.Closed t s.lexOptions) (hf : f.check s.maxBytes = .ok ())
    (hg : g.check s.maxBytes = .ok ()) {part left right : Lex.Stream}
    (hpart : Lex.lex block s.lexOptions = .ok part) (hleft : Lex.lex f.text s.lexOptions = .ok left)
    (hright : Lex.lex g.text s.lexOptions = .ok right) (hlong : s.w + s.k - 1 ≤ part.tokens.length)
    (hleftMin : s.minHashTokens ≤ left.tokens.length) (hrightMin : s.minHashTokens ≤ right.tokens.length)
    (hclash : ∀ t ∈ asked calls, contentDigest t = contentDigest f.text ∨ contentDigest t = contentDigest g.text →
      t = f.text ∨ t = g.text)
    {v : PairVerdict α} (hv : ((c.run calls).compareFiles f g).1 = .ok v) :
    ∃ X shared whole, PrintSet.ofTokens part.hashKeys s.fingerprintOptions = .ok X ∧
      v.verdict.scores.hash = some (Ratio.value ⟨shared, whole⟩) ∧ (0 : α) < Ratio.value ⟨shared, whole⟩ ∧
      v.sharedFingerprints = some shared ∧ X.size ≤ shared ∧ 1 ≤ X.size ∧ shared ≤ whole := by
  have hcheck := (ofSettings_eq_ok hc).1
  have hsubset : [p₁, block, s₁] ⊆ [block, p₁, s₁, p₂, s₂] := by simp
  have hsubset' : [p₂, block, s₂] ⊆ [block, p₁, s₁, p₂, s₂] := by simp
  have hleftBlock : part.hashKeys <:+: left.hashKeys :=
    Lex.hashKeys_block (hclosed p₁ (by simp)) (hclosed block (by simp))
      (hplain.imp_right fun h t ht => h t (hsubset ht)) hpart (hfText ▸ hleft)
  have hrightBlock : part.hashKeys <:+: right.hashKeys :=
    Lex.hashKeys_block (hclosed p₂ (by simp)) (hclosed block (by simp))
      (hplain.imp_right fun h t ht => h t (hsubset' ht)) hpart (hgText ▸ hright)
  obtain ⟨l, r, hcompare, hl, hr⟩ := exists_compareFiles_run hc calls hf hg
  rw [hcompare] at hv
  -- what is kept for a source may have been made of the other, but the block stands in both
  have hfound : ∀ {t : String} {a : Artifacts}, t = f.text ∨ t = g.text → Artifacts.derive t s.deriveOptions = .ok a →
      part.hashKeys <:+: a.stream.hashKeys ∧ s.minHashTokens ≤ a.tokenCount := by
    rintro t a (rfl | rfl) ha
    · obtain rfl := Except.ok.inj (hleft.symm.trans (Artifacts.stream_of_derive ha).1)
      exact ⟨hleftBlock, hleftMin⟩
    · obtain rfl := Except.ok.inj (hright.symm.trans (Artifacts.stream_of_derive ha).1)
      exact ⟨hrightBlock, hrightMin⟩
  obtain ⟨t, ht, hdigest, hderive⟩ := hl
  obtain ⟨t', ht', hdigest', hderive'⟩ := hr
  have hmade : t = f.text ∨ t = g.text := by
    rcases List.mem_append.1 ht with ht | ht
    · exact hclash t ht (.inl hdigest)
    · exact .inl (List.mem_singleton.1 ht)
  have hmade' : t' = f.text ∨ t' = g.text := by
    rcases List.mem_append.1 ht' with ht' | ht'
    · rcases List.mem_append.1 ht' with ht' | ht'
      · exact hclash t' ht' (.inr hdigest')
      · exact .inl (List.mem_singleton.1 ht')
    · exact .inr (List.mem_singleton.1 ht')
  obtain ⟨hblock, hmin⟩ := hfound hmade hderive
  obtain ⟨hblock', hmin'⟩ := hfound hmade' hderive'
  rw [← Lex.length_hashKeys_of_lex hpart] at hlong
  have hl : (⟨f.filename, f.encoding, f.text, l⟩ : Prepared).MadeUnder s := ⟨t, hderive⟩
  have hr : (⟨g.filename, g.encoding, g.text, r⟩ : Prepared).MadeUnder s := ⟨t', hderive'⟩
  exact Settings.compare_block hcheck hlong hl hr hblock hblock' hmin hmin' hv

theorem block_detected_one_line :
    let s : Settings Rat := { (.default : Settings Rat) with k := 2, w := 2, minTokens := 5 }
    let block := "x = f('\\'', y)  # isn't"
    let before := "'''\n\"'''"
    let f : SourceFile := { filename := "a.py", text := "# don't" ++ "\n" ++ block ++ "\n" ++ "'" }
    let g : SourceFile := { filename := "b.py", text := before ++ "\n" ++ block ++ "\n" ++ "return x\n" }
    let calls : List Call := [.prepare g, .prepare { filename := "c.py", text := "y = 2\n" }]
    ∃ (c : Comparator Rat) (part left right : Lex.Stream) (v : PairVerdict Rat), ofSettings s 0 = .ok c ∧
      (s.normalizeUnicode = false ∨ ∀ t ∈ [block, "# don't", "'", before, "return x\n"], Lex.isAscii t = true) ∧
      (∀ t ∈ [block, "# don't", before], Lex.Closed t s.lexOptions) ∧ f.check s.maxBytes = .ok () ∧
      g.check s.maxBytes = .ok () ∧ Lex.lex block s.lexOptions = .ok part ∧ Lex.lex f.text s.lexOptions = .ok left ∧
      Lex.lex g.text s.lexOptions = .ok right ∧ s.w + s.k - 1 ≤ part.tokens.length ∧
      s.minHashTokens ≤ left.tokens.length ∧ s.minHashTokens ≤ right.tokens.length ∧
      (∀ t ∈ asked calls, contentDigest t = contentDigest f.text ∨ contentDigest t = contentDigest g.text →
        t = f.text ∨ t = g.text) ∧
      ((c.run calls).compareFiles f g).1 = .ok v ∧
      ∃ X shared whole, PrintSet.ofTokens part.hashKeys s.fingerprintOptions = .ok X ∧
        v.verdict.scores.hash = some (Ratio.value ⟨shared, whole⟩) ∧ (0 : ℚ) < Ratio.value ⟨shared, whole⟩ ∧
        v.sharedFingerprints = some shared ∧ X.size ≤ shared ∧ 1 ≤ X.size ∧ shared ≤ whole := by
  intro s block before f g calls
  have hcheck : s.check = .ok () := by
    rw [Settings.check_eq_ok_iff]
    refine ⟨?_, ?_⟩ <;> decide +kernel
  obtain ⟨c, hc⟩ := exists_ofSettings hcheck 0
  have hplain : s.normalizeUnicode = false ∨
      ∀ t ∈ [block, "# don't", "'", before, "return x\n"], Lex.isAscii t = true := by decide +kernel
  have hf : f.check s.maxBytes = .ok () := by
    rw [SourceFile.check_eq_ok_iff]
    decide +kernel
  have hg : g.check s.maxBytes = .ok () := by
    rw [SourceFile.check_eq_ok_iff]
    decide +kernel
  have hclosed : ∀ t ∈ [block, "# don't", before], Lex.Closed t s.lexOptions := by
    have hclean : ∀ t ∈ [block, "# don't", before],
        (Lex.lex t s.lexOptions).toOption.map (·.problems) = some [] ∧ ¬ ['\\'] <:+ t.toList ∧
          ¬ ['\\', '\r'] <:+ t.toList := by decide +kernel
    intro t ht
    obtain ⟨hproblems, hjoin, hreturn⟩ := hclean t ht
    refine ⟨?_, hjoin, hreturn⟩
    cases hlex : Lex.lex t s.lexOptions with
    | error e => simp [hlex, Except.toOption] at hproblems
    | ok stream =>
      have hnil : stream.problems = [] := by simpa [hlex, Except.toOption] using hproblems
      exact ⟨stream, rfl, by simp [hnil]⟩
  obtain ⟨part, hpart, hlong⟩ : ∃ part, Lex.lex block s.lexOptions = .ok part ∧
      s.w + s.k - 1 ≤ part.tokens.length := ⟨_, rfl, by decide +kernel⟩
  obtain ⟨left, hleft, hleftMin⟩ : ∃ left, Lex.lex f.text s.lexOptions = .ok left ∧
      s.minHashTokens ≤ left.tokens.length := ⟨_, rfl, by decide +kernel⟩
  obtain ⟨right, hright, hrightMin⟩ : ∃ right, Lex.lex g.text s.lexOptions = .ok right ∧
      s.minHashTokens ≤ right.tokens.length := ⟨_, rfl, by decide +kernel⟩
  have hclash : ∀ t ∈ asked calls, contentDigest t = contentDigest f.text ∨ contentDigest t = contentDigest g.text →
      t = f.text ∨ t = g.text := by
    have hdigest : contentDigest "y = 2\n" ≠ contentDigest f.text ∧
        contentDigest "y = 2\n" ≠ contentDigest g.text := by decide +kernel
    intro t ht heq
    have ht : t = g.text ∨ t = "y = 2\n" := by simpa [asked, calls, Call.texts] using ht
    rcases ht with rfl | rfl
    · exact .inr rfl
    · exact absurd heq (not_or.2 hdigest)
  obtain ⟨v, hv⟩ : ∃ v, ((c.run calls).compareFiles f g).1 = .ok v := by
    obtain ⟨l, r, hcompare, ⟨t, -, -, hl⟩, ⟨t', -, -, hr⟩⟩ := exists_compareFiles_run hc calls hf hg
    rw [hcompare]
    exact Settings.exists_compare hcheck ⟨t, hl⟩ ⟨t', hr⟩ (by decide +kernel)
  exact ⟨c, part, left, right, v, hc, hplain, hclosed, hf, hg, hpart, hleft, hright, hlong, hleftMin, hrightMin,
    hclash, hv, block_detected hc calls rfl rfl hplain hclosed hf hg hpart hleft hright hlong hleftMin hrightMin
      hclash hv⟩

end Comparator
end Likeness
