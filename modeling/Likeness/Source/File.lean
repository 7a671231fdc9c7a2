import Likeness.Hash.Sha256
import Likeness.Text.Letters

/-!
# Source files

A source file has a name, a text, and a label of the encoding that the text was decoded from. Files
that are too large or blank are refused. Texts are told apart by a digest.
-/

namespace Likeness

def defaultEncoding : String := "utf-8"

structure SourceFile where
  filename : String
  text : String
  encoding : String := defaultEncoding
deriving BEq, DecidableEq, Inhabited, Repr

/-- Why a source file is refused. -/
inductive InputError where
  | empty (filename : String)
  | tooLarge (filename : String) (bytes limit : Nat)
deriving BEq, DecidableEq, Inhabited, Repr

namespace InputError

def message : InputError → String
  | empty f => s!"{f}: source is empty or whitespace only"
  | tooLarge f bytes limit => s!"{f}: source is {bytes} bytes, limit is {limit}"

def filename : InputError → String
  | empty f => f
  | tooLarge f _ _ => f

end InputError

/-- Whether a text has nothing but blanks behind a byte order mark. -/
def isBlankText (cs : List Char) : Bool :=
  match cs with
  | '\uFEFF' :: cs => cs.all Text.isBlank
  | cs => cs.all Text.isBlank

/-- Refuses files of more than `maxBytes` bytes, and blank ones. -/
def SourceFile.check (f : SourceFile) (maxBytes : Nat) : Except InputError Unit :=
  let bytes := f.text.utf8ByteSize
  if maxBytes < bytes then .error (.tooLarge f.filename bytes maxBytes)
  else if isBlankText f.text.toList then .error (.empty f.filename)
  else .ok ()

/-- The number of the rules by which artifacts are made, in four bytes, and a zero. -/
def digestHead : List UInt8 := [0, 0, 0, 1, 0]

/-- The digest of a text. -/
def contentDigest (text : String) : String :=
  Hash.Sha256.toHex (Hash.Sha256.hash (⟨digestHead.toArray⟩ ++ text.toUTF8))

end Likeness
