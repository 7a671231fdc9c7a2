import Likeness.Yaml.Scalar

/-!
# Finding the tokens of YAML

`Scanner.fetch` finds the next tokens of a text. A key is known only by the colon behind it; the
places where a key may have begun are remembered, and its token is put in before those found since.
-/

namespace Likeness.Yaml

namespace Scanner

/-- What is wrong here, with nothing to say about what was being read. -/
def faultHere (s : Scanner) (problem : String) : Fault := { problem, spot := s.spot }

/-! ### Keys and indentation -/

/-- A key that had to be followed by a colon was not. -/
def keyFault (s : Scanner) (k : KeySpot) : Fault :=
  s.fault "while scanning a simple key" k.spot "could not find expected ':'"

/-- Gives up the places of keys that are too far back: a key is in one line and shorter than 1024
characters. -/
def dropStale (s : Scanner) : Except Fault Scanner := do
  let keys ← s.keys.reverse.mapM fun k =>
    if k.possible && (k.spot.line < s.spot.line || k.spot.index + 1024 < s.spot.index) then
      if k.required then throw (s.keyFault k) else return { k with possible := false }
    else return k
  return { s with keys := keys.reverse }

/-- Gives up the place of a key at the innermost level. -/
def dropKey (s : Scanner) : Except Fault Scanner :=
  match s.keys with
  | k :: ks =>
    if k.possible && k.required then .error (s.keyFault k)
    else .ok { s with keys := { k with possible := false } :: ks }
  | [] => .ok s

/-- Remembers that a key may begin here. -/
def saveKey (s : Scanner) : Except Fault Scanner :=
  if s.keyAllowed then do
    let t ← s.dropKey
    let k : KeySpot := { possible := true, required := s.flow == 0 && s.indent == s.spot.column
                         number := s.taken + s.queue.length, spot := s.spot }
    return { t with keys := k :: t.keys.tail }
  else .ok s

/-- Puts a token into the queue before the token of the given number. -/
def insert (s : Scanner) (number : Nat) (t : Token) : Scanner :=
  let n := number - s.taken
  { s with queue := s.queue.take n ++ t :: s.queue.drop n }

/-- Begins a block at a column if that is further in; its token comes before the token of the given
number, or last. -/
def rollIndent (s : Scanner) (column : Nat) (number : Option Nat) (kind : TokenKind) (spot : Spot) :
    Scanner :=
  if s.flow == 0 && s.indent < column then
    let s := { s with indents := s.indent :: s.indents, indent := column }
    match number with
    | some n => s.insert n ⟨kind, spot, spot⟩
    | none => s.push ⟨kind, spot, spot⟩
  else s

/-- Ends the blocks that are further in than a column. -/
def unrollTo (column : Int) : List Int → Scanner → Scanner
  | [], s => s
  | outer :: indents, s =>
    if s.indent > column then
      unrollTo column indents
        { s.push ⟨.blockEnd, s.spot, s.spot⟩ with indent := outer, indents }
    else s

def unrollIndent (s : Scanner) (column : Int) : Scanner :=
  if s.flow == 0 then unrollTo column s.indents s else s

/-! ### Tokens of one kind -/

/-- Takes an indicator of `n` characters. -/
def indicator (s : Scanner) (n : Nat) (kind : TokenKind) : Scanner :=
  let t := s.skips n
  t.push ⟨kind, s.spot, t.spot⟩

def fetchStart (s : Scanner) : Scanner :=
  { s.push ⟨.streamStart, s.spot, s.spot⟩ with
    started := true, keyAllowed := true, keys := [{}] }

def fetchEnd (s : Scanner) : Except Fault Scanner := do
  let s := if s.spot.column != 0 then
      { s with spot := { s.spot with column := 0, line := s.spot.line + 1 } }
    else s
  let s ← (s.unrollIndent (-1)).dropKey
  return { s with keyAllowed := false }.push ⟨.streamEnd, s.spot, s.spot⟩

def fetchDocumentMark (s : Scanner) (kind : TokenKind) : Except Fault Scanner := do
  let s ← (s.unrollIndent (-1)).dropKey
  return { s with keyAllowed := false }.indicator 3 kind

def fetchFlowStart (s : Scanner) (kind : TokenKind) : Except Fault Scanner := do
  let s ← s.saveKey
  return { s with keys := {} :: s.keys, flow := s.flow + 1, keyAllowed := true }.indicator 1 kind

def fetchFlowEnd (s : Scanner) (kind : TokenKind) : Except Fault Scanner := do
  let s ← s.dropKey
  let s := if s.flow > 0 then { s with flow := s.flow - 1, keys := s.keys.tail } else s
  return { s with keyAllowed := false }.indicator 1 kind

def fetchFlowEntry (s : Scanner) : Except Fault Scanner := do
  let s ← s.dropKey
  return { s with keyAllowed := true }.indicator 1 .flowEntry

def fetchBlockEntry (s : Scanner) : Except Fault Scanner := do
  if s.flow == 0 && !s.keyAllowed then
    throw (s.faultHere "block sequence entries are not allowed in this context")
  let s ← (s.rollIndent s.spot.column none .blockSequenceStart s.spot).dropKey
  return { s with keyAllowed := true }.indicator 1 .blockEntry

def fetchKey (s : Scanner) : Except Fault Scanner := do
  if s.flow == 0 && !s.keyAllowed then
    throw (s.faultHere "mapping keys are not allowed in this context")
  let s ← (s.rollIndent s.spot.column none .blockMappingStart s.spot).dropKey
  return { s with keyAllowed := s.flow == 0 }.indicator 1 .key

def fetchValue (s : Scanner) : Except Fault Scanner := do
  match s.keys with
  | k :: ks =>
    if k.possible then
      let s := s.insert k.number ⟨.key, k.spot, k.spot⟩
      let s := s.rollIndent k.spot.column (some k.number) .blockMappingStart k.spot
      return { s with keys := { k with possible := false } :: ks, keyAllowed := false }.indicator 1
        .value
  | [] => pure ()
  if s.flow == 0 && !s.keyAllowed then
    throw (s.faultHere "mapping values are not allowed in this context")
  let s := s.rollIndent s.spot.column none .blockMappingStart s.spot
  return { s with keyAllowed := s.flow == 0 }.indicator 1 .value

/-! ### Anchors and tags -/

def fetchAnchor (s : Scanner) (isAlias : Bool) : Except Fault Scanner := do
  let s := { ← s.saveKey with keyAllowed := false }
  let (name, t) := s.skip.span isWord
  if name.isEmpty ||
      !(isBlankOrEnd t.look || ['?', ':', ',', ']', '\x7d', '%', '@', '\x60'].contains t.look) then
    let task := if isAlias then "while scanning an alias" else "while scanning an anchor"
    throw (t.fault task s.spot "did not find expected alphabetic or numeric character")
  let name := String.ofList name
  return t.push ⟨if isAlias then .alias name else .anchor name, s.spot, t.spot⟩

/-- Reads the handle of a tag. -/
def tagHandle (directive : Bool) (start : Spot) (s : Scanner) :
    Except Fault (List Char × Scanner) := do
  if s.look != '!' then
    throw (s.fault (if directive then "while scanning a tag directive" else "while scanning a tag")
      start "did not find expected '!'")
  let (name, s) := s.skip.span isWord
  if s.look == '!' then return ('!' :: name ++ ['!'], s.skip)
  if directive && !name.isEmpty then
    throw (s.fault "while parsing a tag directive" start "did not find expected '!'")
  return ('!' :: name, s)

/-- The characters of tags, besides those of names; inside pointed brackets there are some more. -/
def isUriChar (bracketed : Bool) (c : Char) : Bool :=
  isWord c || [';', '/', '?', ':', '@', '&', '=', '+', '$', '.', '%', '!', '~', '*', '\'', '(',
    ')'].contains c || (bracketed && [',', '[', ']'].contains c)

def uriContext (directive : Bool) : String :=
  if directive then "while parsing a %TAG directive" else "while parsing a tag"

/-- How many bytes a character has whose first byte is given; 0 if no character begins with it. -/
def sequenceLength (n : Nat) : Nat :=
  if n < 0x80 then 1
  else if 0xC0 ≤ n && n < 0xE0 then 2
  else if 0xE0 ≤ n && n < 0xF0 then 3
  else if 0xF0 ≤ n && n < 0xF8 then 4
  else 0

/-- Reads bytes written in hexadecimal digits; `more` tells how many must follow `bytes`. -/
def uriBytes (directive : Bool) (start : Spot) : (more : Nat) → List UInt8 → Scanner →
    Except Fault (List UInt8 × Scanner)
  | 0, bytes, s => .ok (bytes, s)
  | more + 1, bytes, s =>
    let fault (problem : String) := s.fault (uriContext directive) start problem
    match s.look == '%', hexNumber? [s.lookAt 1, s.lookAt 2] with
    | true, some n =>
      if bytes.isEmpty then
        match sequenceLength n with
        | 0 => .error (fault "found an incorrect leading UTF-8 octet")
        | k + 1 => uriBytes directive start (min k more) [n.toUInt8] (s.skips 3)
      else if n / 64 != 2 then .error (fault "found an incorrect trailing UTF-8 octet")
      else uriBytes directive start more (bytes ++ [n.toUInt8]) (s.skips 3)
    | _, _ => .error (fault "did not find URI escaped octet")

/-- Reads the characters of a tag. -/
def uriText (bracketed directive : Bool) (start : Spot) : (fuel : Nat) → List Char → Scanner →
    Except Fault (List Char × Scanner)
  | 0, text, s => .ok (text, s)
  | fuel + 1, text, s =>
    if s.look == '%' then do
      let (bytes, s) ← uriBytes directive start 4 [] s
      let cs := ((String.fromUTF8? ⟨bytes.toArray⟩).getD "\uFFFD").toList
      uriText bracketed directive start fuel (text ++ cs) s
    else if isUriChar bracketed s.look then
      uriText bracketed directive start fuel (text ++ [s.look]) s.skip
    else .ok (text, s)

/-- Reads a tag after the given characters, of which the first does not count. -/
def tagUri (bracketed directive : Bool) (head : List Char) (start : Spot) (s : Scanner) :
    Except Fault (List Char × Scanner) := do
  let (text, t) ← uriText bracketed directive start (s.rest.length + 1) [] s
  if text.isEmpty && head.isEmpty then
    throw (t.fault (uriContext directive) start "did not find expected tag URI")
  return (head.tail ++ text, t)

/-- Reads the handle and the rest of a tag. -/
def tagParts (start : Spot) (s : Scanner) : Except Fault (List Char × List Char × Scanner) := do
  if s.lookAt 1 == '<' then
    let (suffix, s) ← tagUri true false [] start (s.skips 2)
    if s.look != '>' then
      throw (s.fault "while scanning a tag" start "did not find the expected '>'")
    return ([], suffix, s.skip)
  let (handle, s) ← tagHandle false start s
  if handle.length > 1 && handle.getLast? == some '!' then
    let (suffix, s) ← tagUri false false [] start s
    return (handle, suffix, s)
  let (suffix, s) ← tagUri false false handle start s
  return if suffix.isEmpty then ([], ['!'], s) else (['!'], suffix, s)

def fetchTag (s : Scanner) : Except Fault Scanner := do
  let s := { ← s.saveKey with keyAllowed := false }
  let (handle, suffix, t) ← tagParts s.spot s
  if !((t.flow > 0 && t.look == ',') || isBlankOrEnd t.look) then
    throw (t.fault "while scanning a tag" s.spot "did not find expected whitespace or line break")
  return t.push ⟨.tag (.ofList handle) (.ofList suffix), s.spot, t.spot⟩

/-! ### Directives -/

def versionContext : String := "while scanning a %YAML directive"

def versionNumber (start : Spot) (s : Scanner) : Except Fault (Nat × Scanner) := do
  let (digits, t) := s.span Char.isDigit
  if digits.length > 9 then
    throw ((s.skips 9).fault versionContext start "found extremely long version number")
  if digits.isEmpty then
    throw (t.fault versionContext start "did not find expected version number")
  return (digits.foldl (fun n c => 10 * n + (c.toNat - '0'.toNat)) 0, t)

def versionValue (start : Spot) (s : Scanner) : Except Fault (TokenKind × Scanner) := do
  let (major, s) ← versionNumber start (s.skipWhile isBlank)
  if s.look != '.' then
    throw (s.fault versionContext start "did not find expected digit or '.' character")
  let (minor, s) ← versionNumber start s.skip
  return (.versionDirective major minor, s)

def tagValue (start : Spot) (s : Scanner) : Except Fault (TokenKind × Scanner) := do
  let what := "while scanning a %TAG directive"
  let (handle, s) ← tagHandle true start (s.skipWhile isBlank)
  if !isBlank s.look then throw (s.fault what start "did not find expected whitespace")
  let (uri, s) ← tagUri true true [] start (s.skipWhile isBlank)
  if !isBlankOrEnd s.look then
    throw (s.fault what start "did not find expected whitespace or line break")
  return (.tagDirective (.ofList handle) (.ofList uri), s)

def fetchDirective (s : Scanner) : Except Fault Scanner := do
  let s ← (s.unrollIndent (-1)).dropKey
  let start := s.spot
  let what := "while scanning a directive"
  let (name, t) := { s with keyAllowed := false }.skip.span isWord
  if name.isEmpty then throw (t.fault what start "could not find expected directive name")
  if !isBlankOrEnd t.look then
    throw (t.fault what start "found unexpected non-alphabetical character")
  let (kind, t) ← match String.ofList name with
    | "YAML" => versionValue start t
    | "TAG" => tagValue start t
    | _ => throw (t.fault what start "found unknown directive name")
  let stop := t.spot
  let t := t.skipComment
  if !isBreakOrEnd t.look then
    throw (t.fault what start "did not find expected comment or line break")
  return t.skipBreak.push ⟨kind, start, stop⟩

/-! ### The next token -/

/-- Passes over blanks, comments and line ends. Tabs count as blanks where no key may begin. -/
def skipLayout : (fuel : Nat) → Scanner → Scanner
  | 0, s => s
  | fuel + 1, s =>
    let s := if s.spot.column == 0 && s.look == '\uFEFF' then s.skip else s
    let s := s.skipWhile fun c => c == ' ' || (c == '\t' && (s.flow > 0 || !s.keyAllowed))
    let s := if s.look == '#' then s.skipWhile (!isBreakOrEnd ·) else s
    if isBreak s.look then
      let t := s.skipBreak
      skipLayout fuel (if t.flow == 0 then { t with keyAllowed := true } else t)
    else s

/-- Whether a plain scalar begins here. -/
def startsPlain (s : Scanner) : Bool :=
  let c := s.look
  !(isBlankOrEnd c || ['-', '?', ':', ',', '[', ']', '\x7b', '\x7d', '#', '&', '*', '!', '|', '>',
      '\'', '"', '%', '@', '\x60'].contains c) ||
    (c == '-' && !isBlank (s.lookAt 1)) ||
    (s.flow == 0 && (c == '?' || c == ':') && !isBlankOrEnd (s.lookAt 1))

/-- Finds the next token. -/
def fetch (s : Scanner) : Except Fault Scanner := do
  if !s.started then return s.fetchStart
  let s ← (skipLayout (s.rest.length + 1) s).dropStale
  let s := s.unrollIndent s.spot.column
  let c := s.look
  let spaced := isBlankOrEnd (s.lookAt 1)
  if isEnd c then s.fetchEnd
  else if s.spot.column == 0 && c == '%' then s.fetchDirective
  else if s.atDocumentMark then
    s.fetchDocumentMark (if c == '-' then .documentStart else .documentEnd)
  else if c == '[' then s.fetchFlowStart .flowSequenceStart
  else if c == '\x7b' then s.fetchFlowStart .flowMappingStart
  else if c == ']' then s.fetchFlowEnd .flowSequenceEnd
  else if c == '\x7d' then s.fetchFlowEnd .flowMappingEnd
  else if c == ',' then s.fetchFlowEntry
  else if c == '-' && spaced then s.fetchBlockEntry
  else if c == '?' && (s.flow > 0 || spaced) then s.fetchKey
  else if c == ':' && (s.flow > 0 || spaced) then s.fetchValue
  else if c == '*' then s.fetchAnchor true
  else if c == '&' then s.fetchAnchor false
  else if c == '!' then s.fetchTag
  else if (c == '|' || c == '>') && s.flow == 0 then do
    let s ← s.dropKey
    blockScalar (c == '|') { s with keyAllowed := true }
  else if c == '\'' || c == '"' then do
    let s ← s.saveKey
    quotedScalar (c == '\'') { s with keyAllowed := false }
  else if s.startsPlain then do
    let s ← s.saveKey
    plainScalar { s with keyAllowed := false }
  else throw (s.fault "while scanning for the next token" s.spot
    "found character that cannot start any token")

/-- Whether more must be read before the first token of the queue is known to be the next one. -/
def needsMore (s : Scanner) : Bool :=
  s.queue.isEmpty || s.keys.any fun k => k.possible && k.number == s.taken

/-- Finds tokens until the next one is known. -/
def ready : (fuel : Nat) → Scanner → Except Fault Scanner
  | 0, s => .ok s
  | fuel + 1, s => do
    let s ← if s.queue.isEmpty then pure s else s.dropStale
    if s.needsMore then ready fuel (← s.fetch) else return s

/-- The next token, which stays where it is. -/
def peek (s : Scanner) : Except Fault (Token × Scanner) := do
  let s ← ready (2 * s.rest.length + 10) s
  match s.queue with
  | t :: _ => return (t, s)
  | [] => return (⟨.streamEnd, s.spot, s.spot⟩, s)

/-- Takes the next token away. -/
def drop (s : Scanner) : Scanner := { s with queue := s.queue.tail, taken := s.taken + 1 }

/-- How many bytes stand before the first character that must not occur. -/
def findForbidden (offset : Nat) : List Char → Option Nat
  | [] => none
  | c :: cs => if isAllowed c then findForbidden (offset + c.utf8Size) cs else some offset

/-- The scanner of a text, unless that holds a character that must not occur. -/
def ofText (text : List Char) : Except Fault Scanner :=
  match findForbidden 0 text with
  | none => .ok { rest := text }
  | some offset =>
    .error { layer := .characters, problem := "control characters are not allowed", offset }

end Scanner
end Likeness.Yaml
