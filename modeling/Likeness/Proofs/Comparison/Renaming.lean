import Likeness.Proofs.Comparison.Detectors
import Likeness.Proofs.Lex.Block
import Likeness.Proofs.Lex.Renaming

/-!
# Identifiers that are renamed

A source in which an identifier has another name has the same values, hash keys and fingerprints, and the
detectors of tokens and of fingerprints find the same between it and any third source
(`renaming_invariant`).
-/

namespace Likeness

open Text (byteSize)

/-! ### Detectors that see only tokens -/

/-- Artifacts that the detectors of tokens and of fingerprints cannot tell apart. -/
structure Artifacts.SameTokens (a b : Artifacts) : Prop where
  values : a.stream.values = b.stream.values
  prints : a.prints = b.prints

theorem Artifacts.SameTokens.tokenCount {a b : Artifacts} (h : SameTokens a b) : a.tokenCount = b.tokenCount := by
  have hlength := congrArg List.length h.values
  rwa [Lex.Stream.values, Lex.Stream.values, List.length_map, List.length_map] at hlength

namespace Settings

variable {α : Type} [Number α] (s : Settings α) {p q : Prepared} (h : p.artifacts.SameTokens q.artifacts)
  (third : Prepared)

include h

theorem tokenOutcome_of_sameTokens :
    s.tokenOutcome p third = s.tokenOutcome q third ∧ s.tokenOutcome third p = s.tokenOutcome third q := by
  have hvalues : p.values = q.values := h.values
  simp only [tokenOutcome, hvalues, and_self]

theorem hashOutcome_of_sameTokens :
    s.hashOutcome p third = s.hashOutcome q third ∧ s.hashOutcome third p = s.hashOutcome third q := by
  have hcount : p.tokenCount = q.tokenCount := h.tokenCount
  simp only [hashOutcome, hcount, h.prints, and_self]

end Settings

/-! ### Renaming -/

namespace Lex

theorem values_of_mapPlaces {f : Nat → Nat} {s s' : Stream} (h : s'.tokens = s.tokens.map (Token.mapPlaces f)) :
    s'.values = s.values := by
  rw [Stream.values, Stream.values, h, List.map_map]
  rfl

/-- An identifier that is given another name leaves the number, the kinds, the texts and the hash keys of all tokens as
they are, moves the places behind it and nothing else, and leaves what the detectors of tokens and of fingerprints find,
if no number ends just before it and no quote follows it. -/
theorem renaming_invariant {α : Type} [Number α] {source : String} {t : Token} (ht : t ∈ tokenize source)
    (hkind : t.kind = .identifier) (hnumber : ∀ n ∈ tokenize source, n.kind = .numberLiteral → n.stop ≠ t.start)
    (hquote : ∀ x ∈ (t.behind source).head?, isQuote x = false) {name : String} (hname : IsName name) :
    scan (t.renamed source name) =
        ((scan source).1.map (Token.mapPlaces (t.shift (byteSize name.toList))),
          (scan source).2.map (Problem.mapPlaces (t.shift (byteSize name.toList)))) ∧
      (tokenize (t.renamed source name)).map (·.hashKey (t.renamed source name)) =
        (tokenize source).map (·.hashKey source) ∧
      ∀ (original edited : String) (o : DeriveOptions) (a a' : Artifacts),
        Artifacts.derive original o = .ok a → Artifacts.derive edited o = .ok a' →
          a.stream.text = source → a'.stream.text = t.renamed source name →
            a'.stream.values = a.stream.values ∧ a'.stream.hashKeys = a.stream.hashKeys ∧ a'.prints = a.prints ∧
              ∀ (s : Settings α) (p p' third : Prepared), p.artifacts = a → p'.artifacts = a' →
                s.tokenOutcome p' third = s.tokenOutcome p third ∧ s.tokenOutcome third p' = s.tokenOutcome third p ∧
                  s.hashOutcome p' third = s.hashOutcome p third ∧ s.hashOutcome third p' = s.hashOutcome third p := by
  obtain ⟨hscan, hkeys⟩ := scan_renamed ht hkind hnumber hquote hname
  refine ⟨hscan, ?_, ?_⟩
  · rw [tokenize, tokenize, map_hashKey_scan, map_hashKey_scan, hkeys]
  · intro original edited o a a' ha ha' htext htext'
    have hlex := (Artifacts.stream_of_derive ha).1
    have hlex' := (Artifacts.stream_of_derive ha').1
    have hvalues : a'.stream.values = a.stream.values := by
      refine values_of_mapPlaces (f := t.shift (byteSize name.toList)) ?_
      rw [(lex_eq_ok hlex').2.1, (lex_eq_ok hlex).2.1, htext, htext', hscan]
    have hstreamKeys : a'.stream.hashKeys = a.stream.hashKeys := by
      rw [hashKeys_of_lex hlex', hashKeys_of_lex hlex, htext, htext', hkeys]
    have hsame : a'.SameTokens a :=
      ⟨hvalues, by rw [Artifacts.prints_of_derive ha', Artifacts.prints_of_derive ha, hstreamKeys]⟩
    refine ⟨hvalues, hstreamKeys, hsame.prints, ?_⟩
    rintro s p p' third rfl rfl
    obtain ⟨htoken, htoken'⟩ := s.tokenOutcome_of_sameTokens hsame third
    obtain ⟨hhash, hhash'⟩ := s.hashOutcome_of_sameTokens hsame third
    exact ⟨htoken, htoken', hhash, hhash'⟩

/-- In `f(7,ab)?'s` the name `ab` becomes `name2`: the misfit and the unclosed string behind it move by three bytes. -/
theorem renaming_invariant_argument :
    scan "f(7,name2)?'s" =
        ([⟨.identifier, "ID", 0, 1⟩, ⟨.punctuation, "(", 1, 2⟩, ⟨.numberLiteral, "NUM", 2, 3⟩,
            ⟨.punctuation, ",", 3, 4⟩, ⟨.identifier, "ID", 4, 9⟩, ⟨.punctuation, ")", 9, 10⟩, ⟨.error, "ERR", 10, 11⟩,
            ⟨.stringLiteral, "STR", 11, 13⟩],
          [.unlexable 10 1, .unterminatedString 11]) ∧
      ∃ a a', Artifacts.derive "f(7,ab)?'s" {} = .ok a ∧ Artifacts.derive "f(7,name2)?'s" {} = .ok a' ∧
        a'.stream.values = a.stream.values ∧ a'.stream.hashKeys = a.stream.hashKeys ∧ a'.prints = a.prints := by
  have htokens : tokenize "f(7,ab)?'s" =
      [⟨.identifier, "ID", 0, 1⟩, ⟨.punctuation, "(", 1, 2⟩, ⟨.numberLiteral, "NUM", 2, 3⟩,
        ⟨.punctuation, ",", 3, 4⟩, ⟨.identifier, "ID", 4, 6⟩, ⟨.punctuation, ")", 6, 7⟩, ⟨.error, "ERR", 7, 8⟩,
        ⟨.stringLiteral, "STR", 8, 10⟩] := by decide +kernel
  have ht : (⟨.identifier, "ID", 4, 6⟩ : Token) ∈ tokenize "f(7,ab)?'s" := by simp [htokens]
  have hname : IsName "name2" :=
    ⟨⟨'n', ['a', 'm', 'e', '2'], rfl, by decide, List.all_eq_true.1 (by decide)⟩, by decide⟩
  have hbehind : (Token.behind ⟨.identifier, "ID", 4, 6⟩ "f(7,ab)?'s").head? = some ')' := by decide +kernel
  have hquote : ∀ x ∈ (Token.behind ⟨.identifier, "ID", 4, 6⟩ "f(7,ab)?'s").head?, isQuote x = false := by
    rw [hbehind]
    rintro x ⟨⟩
    rfl
  obtain ⟨hscan, -, hderived⟩ := renaming_invariant (α := Rat) ht rfl (by simp [htokens]) hquote hname
  have hrenamed : Token.renamed ⟨.identifier, "ID", 4, 6⟩ "f(7,ab)?'s" "name2" = "f(7,name2)?'s" := by decide +kernel
  rw [hrenamed] at hscan hderived
  refine ⟨by rw [hscan]; decide +kernel, ?_⟩
  obtain ⟨a, ha⟩ : ∃ a, Artifacts.derive "f(7,ab)?'s" {} = .ok a := ⟨_, rfl⟩
  obtain ⟨a', ha'⟩ : ∃ a, Artifacts.derive "f(7,name2)?'s" {} = .ok a := ⟨_, rfl⟩
  have htext : a.stream.text = "f(7,ab)?'s" := (lex_eq_ok (Artifacts.stream_of_derive ha).1).1
  have htext' : a'.stream.text = "f(7,name2)?'s" := (lex_eq_ok (Artifacts.stream_of_derive ha').1).1
  obtain ⟨hvalues, hkeys, hprints, -⟩ := hderived _ _ _ _ _ ha ha' htext htext'
  exact ⟨a, a', ha, ha', hvalues, hkeys, hprints⟩

end Lex
end Likeness
