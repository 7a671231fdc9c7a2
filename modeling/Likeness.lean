import Likeness.Main
import Likeness.Comparison.Session
import Likeness.Json.Reader
import Likeness.Proofs.Fingerprint.Guarantee
import Likeness.Proofs.Lex.Tiling
import Likeness.Proofs.Tree.Symbols
import Likeness.Proofs.Source.Store
import Likeness.Proofs.Source.Kept
import Likeness.Proofs.Source.Race
import Likeness.Proofs.Comparison.Symmetry
import Likeness.Proofs.Comparison.Copy
import Likeness.Proofs.Comparison.Block
import Likeness.Proofs.Lex.Kinds
import Likeness.Proofs.Lex.Written
import Likeness.Proofs.Lex.Lookahead
import Likeness.Proofs.Lex.Renaming
import Likeness.Proofs.Comparison.Renaming
import Likeness.Proofs.Parse.Source
import Likeness.Proofs.Comparison.Names
import Likeness.Proofs.Comparison.Safety
import Likeness.Proofs.Comparison.Operations
import Likeness.Proofs.Comparison.Batch
import Likeness.Proofs.Lex.Alike
import Likeness.Proofs.Lex.LineEnds
import Likeness.Proofs.Text.Compat
import Likeness.Proofs.Lex.Marks
import Likeness.Proofs.Lex.NormalForm
import Likeness.Proofs.Text.CharSet
import Likeness.Proofs.Grammar.Pattern
import Likeness.Proofs.Lex.Legible
import Likeness.Proofs.Lex.Identifier
import Likeness.Proofs.Overlap.Share
import Likeness.Proofs.Comparison.Report
import Likeness.Proofs.Decimal.Rounding
import Likeness.Proofs.Decimal.Binary64
import Likeness.Proofs.Decimal.Float
import Likeness.Proofs.Decimal.Fraction
import Likeness.Proofs.Fingerprint.Share
import Likeness.Proofs.Decision.Sums
import Likeness.Proofs.Decision.Outcome
import Likeness.Proofs.Decision.Finite
import Likeness.Proofs.Decision.Monotone
import Likeness.Proofs.Decision.Heavier
import Likeness.Proofs.Decision.Absent
import Likeness.Proofs.Decision.Mean
import Likeness.Proofs.Lex.Lines
import Likeness.Proofs.Lex.Misfits
import Likeness.Proofs.Lex.StringLiteral
import Likeness.Proofs.Lex.Numeral
import Likeness.Proofs.Lex.HashKeys
import Likeness.Proofs.Tree.Places
import Likeness.Proofs.Tree.Survivors
import Likeness.Proofs.Tree.Parentheses
import Likeness.Proofs.Parse.Cursor
import Likeness.Proofs.Parse.Depth
import Likeness.Proofs.Parse.FirstError
import Likeness.Proofs.Hash.Xxh3
import Likeness.Proofs.Fingerprint.Threshold
