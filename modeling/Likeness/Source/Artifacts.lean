import Likeness.Fingerprint.Set
import Likeness.Lex.Stream
import Likeness.Parse.Source
import Likeness.Source.File

/-!
# Artifacts

What the detectors need of a source text: its tokens, its normalized tree and the symbols of that,
and its fingerprints. A text without a tree or without fingerprints keeps the reason instead.
-/

namespace Likeness

open Likeness.Tree (NormalTree Symbol)
open Fingerprint (PrintSet)

/-- The options of the stages that make artifacts. -/
structure DeriveOptions where
  lex : Lex.Options := {}
  parse : Parse.Options := {}
  fingerprint : Fingerprint.Options := {}
deriving BEq, DecidableEq, Inhabited, Repr

structure Artifacts where
  digest : String
  stream : Lex.Stream
  tree : Except Parse.Error NormalTree
  /-- The symbols of the tree, none where there is no tree. -/
  symbols : List Symbol
  prints : Except Fingerprint.Error PrintSet
deriving Inhabited

namespace Artifacts

/-- Makes the artifacts of a text. Only the options of the first stage can be at fault. -/
def derive (text : String) (o : DeriveOptions) : Except Lex.Problem Artifacts := do
  let stream ← Lex.lex text o.lex
  let tree := Parse.normalTree stream.text o.parse
  return {
    digest := contentDigest text
    stream
    tree
    symbols := match tree with
      | .ok t => t.symbols
      | .error _ => []
    prints := PrintSet.ofTokens stream.hashKeys o.fingerprint }

def tokenCount (a : Artifacts) : Nat := a.stream.tokens.length

def hasTree (a : Artifacts) : Bool := a.tree.isOk

def parseError? (a : Artifacts) : Option Parse.Error :=
  match a.tree with
  | .ok _ => none
  | .error e => some e

end Artifacts
end Likeness
