import AlertPolicy.Yaml.Block
import AlertPolicy.Yaml.Plain
import AlertPolicy.Yaml.Quoted

/-!
Tokens of a YAML stream. A mapping key is known to be one only at the colon after it, so a token
that may begin a key is remembered until then and marked afterwards; the marks become tokens once
all of the stream is read.
-/

namespace AlertPolicy.Yaml

inductive Token where
  | version (major minor : Nat)
  | handle (name expansion : String)
  | documentStart
  | documentEnd
  | blockSequenceStart
  | blockMappingStart
  | blockEnd
  | flowSequenceStart
  | flowSequenceEnd
  | flowMappingStart
  | flowMappingEnd
  | blockEntry
  | flowEntry
  | key
  | value
  | alias (name : String)
  | anchor (name : String)
  | tag (handle suffix : String)
  | scalar (text : String) (plain : Bool)
  deriving DecidableEq, Repr

/-! ### Tags, anchors and directives -/

def isTagChar (verbatim : Bool) (c : Char) : Bool :=
  isWord c || [';', '/', '?', ':', '@', '&', '=', '+', '$', '.', '!', '~', '*', '\'', '(', ')',
    '%'].contains c || (verbatim && [',', '[', ']'].contains c)

/-- The number of octets of a character in UTF-8 by its first octet. -/
def octetCount? (octet : Nat) : Option Nat :=
  if octet < 0x80 then some 1
  else if octet < 0xC0 then none
  else if octet < 0xE0 then some 2
  else if octet < 0xF0 then some 3
  else if octet < 0xF8 then some 4
  else none

/-- Octets written by a percent sign and two digits each; `owed` further ones belong to the
character that has begun. Each is kept as the character of that code. -/
def readOctets? : Nat → Option Nat → List Char → Option (List Char)
  | _, some 0, _ => some []
  | 0, _, _ => none
  | fuel + 1, owed, '%' :: a :: b :: cs => do
      let octet ← readHex? 2 0 [a, b]
      let left ← match owed with
        | none => (octetCount? octet).map (· - 1)
        | some n => if 0x80 ≤ octet && octet < 0xC0 then some (n - 1) else none
      let more ← readOctets? fuel (some left) cs
      return Char.ofNat octet :: more
  | _, _, _ => none

/-- The characters of a tag or of the expansion of a handle, escapes resolved. -/
def readTagText? (verbatim : Bool) : Nat → Cursor → Option (List Char × Cursor)
  | 0, _ => none
  | fuel + 1, c =>
      match c.rest with
      | [] => some ([], c)
      | ch :: _ =>
          if !isTagChar verbatim ch then some ([], c)
          else if ch == '%' then do
            let octets ← readOctets? 5 none c.rest
            let (more, c) ← readTagText? verbatim fuel (c.advance (3 * octets.length))
            return (octets ++ more, c)
          else do
            let (more, c) ← readTagText? verbatim fuel (c.advance 1)
            return (ch :: more, c)

/-- The part of a tag or an expansion that counts: it ends at an escaped octet of value zero. -/
def cutAtZero (cs : List Char) : List Char := cs.takeWhile (· != '\x00')

/-- An exclamation mark, a word and a second mark if there is one. -/
def readHandle? (c : Cursor) : Option (List Char × Cursor) :=
  if c.head? == some '!' then
    let (word, c) := (c.advance 1).span isWord
    if c.head? == some '!' then some ('!' :: word ++ ['!'], c.advance 1)
    else some ('!' :: word, c)
  else none

/-- The handle and the suffix of a tag. A tag between angle brackets has no handle; neither has
the lone mark, the suffix of which is the mark itself. -/
def readTag? (inFlow : Bool) (c : Cursor) : Option (Token × Cursor) := do
  let (handle, suffix, c) ←
    if c.rest.drop 1 |>.head? |>.any (· == '<') then do
      let (text, c) ← readTagText? true (c.rest.length + 1) (c.advance 2)
      if text.isEmpty || c.head? != some '>' then none
      else some ([], cutAtZero text, c.advance 1)
    else do
      let (handle, c) ← readHandle? c
      let (text, c) ← readTagText? false (c.rest.length + 1) c
      if 1 < handle.length && handle.getLast? == some '!' then
        if text.isEmpty then none else some (handle, cutAtZero text, c)
      else
        match cutAtZero (handle.drop 1 ++ text) with
        | [] => some ([], ['!'], c)
        | suffix => some (['!'], suffix, c)
  if endsPiece c.rest || (inFlow && c.head? == some ',') then
    some (.tag (String.ofList handle) (String.ofList suffix), c)
  else none

/-- The name of an anchor or an alias, after its mark. -/
def readAnchorName? (c : Cursor) : Option (String × Cursor) :=
  let (name, c) := (c.advance 1).span isWord
  let ended := endsPiece c.rest ||
    c.head?.any fun ch => ['?', ':', ',', ']', '}', '%', '@', '`'].contains ch
  if name.isEmpty || !ended then none else some (String.ofList name, c)

def readVersionPart? (c : Cursor) : Option (Nat × Cursor) :=
  let (digits, c) := c.span Char.isDigit
  if digits.isEmpty || 9 < digits.length then none
  else some (digits.foldl (fun n d => 10 * n + (d.toNat - '0'.toNat)) 0, c)

/-- A line that begins with a percent sign: the version of the format or a handle for tags. -/
def readDirective? (c : Cursor) : Option (Token × Cursor) := do
  let (name, c) := (c.advance 1).span isWord
  if !endsPiece c.rest then none
  else
    let c := c.skip isGap
    match String.ofList name with
    | "YAML" =>
        let (major, c) ← readVersionPart? c
        if c.head? != some '.' then none
        else
          let (minor, c) ← readVersionPart? (c.advance 1)
          return (.version major minor, ← c.finishLine?)
    | "TAG" =>
        let (handle, c) ← readHandle? c
        if handle.length != 1 && handle.getLast? != some '!' then none
        else if !c.head?.any isGap then none
        else
          let c := c.skip isGap
          let (text, c) ← readTagText? true (c.rest.length + 1) c
          if text.isEmpty || !endsPiece c.rest then none
          else
            let expansion := String.ofList (cutAtZero text)
            return (.handle (String.ofList handle) expansion, ← c.finishLine?)
    | _ => none

/-! ### The scanner -/

/-- A token that may begin a mapping key. It must do so if it is `required`, because it stands
where the block it is in expects keys. -/
structure KeyCandidate where
  token : Nat
  required : Bool
  index : Nat
  line : Nat
  column : Nat
  deriving Repr

/-- A token with the mark that it begins a key, and whether the first one of a block mapping. -/
structure Entry where
  token : Token
  key : Option Bool
  deriving Repr

/-- The state between two tokens: what has been read, the indentation of the block this place is
in and of those around it, and for each bracket that is open, innermost first, and for the block
around them the last token that may begin a key. -/
structure Scanner where
  cursor : Cursor
  entries : Array Entry
  indent : Int
  outer : List Int
  candidate : Option KeyCandidate
  brackets : List (Option KeyCandidate)
  keyAllowed : Bool
  deriving Repr

namespace Scanner

def start (cs : List Char) : Scanner :=
  ⟨Cursor.start cs, #[], -1, [], none, [], true⟩

def inFlow (s : Scanner) : Bool := !s.brackets.isEmpty

def push (s : Scanner) (t : Token) : Scanner := { s with entries := s.entries.push ⟨t, none⟩ }

/-- Gives up the candidate of this level; a required one may not be given up. -/
def dropCandidate? (s : Scanner) : Option Scanner :=
  if s.candidate.any (·.required) then none else some { s with candidate := none }

/-- Makes the next token a candidate, if a key may begin here. -/
def noteCandidate? (s : Scanner) : Option Scanner :=
  if s.keyAllowed then do
    let s ← s.dropCandidate?
    let c := s.cursor
    let required := !s.inFlow && s.indent == (c.column : Int)
    return { s with candidate := some ⟨s.entries.size, required, c.index, c.line, c.column⟩ }
  else some s

/-- A candidate that has come too far: a key must end on its line and within 1024 bytes. -/
def isStale (c : Cursor) (k : KeyCandidate) : Bool := k.line < c.line || k.index + 1024 < c.index

/-- Gives up the candidates of all levels that have come too far. -/
def dropStale? (s : Scanner) : Option Scanner :=
  let stale := isStale s.cursor
  let fresh := fun k : Option KeyCandidate => if k.any stale then none else k
  let broken := fun k : Option KeyCandidate => k.any fun k => stale k && k.required
  if broken s.candidate || s.brackets.any broken then none
  else some { s with candidate := fresh s.candidate, brackets := s.brackets.map fresh }

/-- Ends the blocks that are indented beyond `column`. -/
def unroll (column : Int) : List Int → Scanner → Scanner
  | [], s => s
  | i :: rest, s =>
      if column < s.indent then
        unroll column rest { s.push .blockEnd with indent := i, outer := rest }
      else s

def closeBlocks (s : Scanner) (column : Int) : Scanner :=
  if s.inFlow then s else unroll column s.outer s

/-- Whether a block that begins at the column is a new one, and the state inside it. -/
def enterBlock (s : Scanner) (column : Nat) : Bool × Scanner :=
  if !s.inFlow && s.indent < column then
    (true, { s with indent := column, outer := s.indent :: s.outer })
  else (false, s)

/-- Begins a block with the token at this place, unless it goes on. -/
def openBlock (s : Scanner) (t : Token) : Scanner :=
  let (isNew, s) := s.enterBlock s.cursor.column
  if isNew then s.push t else s

def advance (s : Scanner) (n : Nat) : Scanner := { s with cursor := s.cursor.advance n }

/-- Past white space and comments. Where a key may begin in a block, a tab is no white space. A byte
order mark may begin any line; it still takes up the first column. -/
def skipSpace : Nat → Scanner → Scanner
  | 0, s => s
  | fuel + 1, s =>
      let c := if s.cursor.column == 0 && s.cursor.head? == some '\ufeff' then s.cursor.advance 1
        else s.cursor
      let tabs := s.inFlow || !s.keyAllowed
      let c := c.skip fun ch => ch == ' ' || (tabs && ch == '\t')
      let c := if c.head? == some '#' then c.skip (!isBreak ·) else c
      if c.head?.any isBreak then
        skipSpace fuel
          { s with cursor := c.nextLine.2, keyAllowed := s.keyAllowed || !s.inFlow }
      else { s with cursor := c }

def readFlowStart? (s : Scanner) (t : Token) : Option Scanner := do
  let s ← s.noteCandidate?
  let s := (s.push t).advance 1
  return { s with brackets := s.candidate :: s.brackets, candidate := none, keyAllowed := true }

def readFlowEnd? (s : Scanner) (t : Token) : Option Scanner := do
  let s ← s.dropCandidate?
  let s := { (s.push t).advance 1 with keyAllowed := false }
  return match s.brackets with
    | [] => s
    | k :: rest => { s with candidate := k, brackets := rest }

def readFlowEntry? (s : Scanner) : Option Scanner := do
  let s ← s.dropCandidate?
  return { (s.push .flowEntry).advance 1 with keyAllowed := true }

def readBlockEntry? (s : Scanner) : Option Scanner := do
  if !s.inFlow && !s.keyAllowed then none
  else
    let s ← (s.openBlock .blockSequenceStart).dropCandidate?
    return { (s.push .blockEntry).advance 1 with keyAllowed := true }

def readExplicitKey? (s : Scanner) : Option Scanner := do
  if !s.inFlow && !s.keyAllowed then none
  else
    let s ← (s.openBlock .blockMappingStart).dropCandidate?
    return { (s.push .key).advance 1 with keyAllowed := !s.inFlow }

/-- A colon: the candidate of this level becomes a key, or a value begins without one. -/
def readValue? (s : Scanner) : Option Scanner :=
  match s.candidate with
  | some k =>
      let (opens, s) := s.enterBlock k.column
      let entries := s.entries.modify k.token fun e => { e with key := some opens }
      let s := { s with entries := entries, candidate := none, keyAllowed := false }
      some ((s.push .value).advance 1)
  | none =>
      if !s.inFlow && !s.keyAllowed then none
      else
        let s := s.openBlock .blockMappingStart
        some { (s.push .value).advance 1 with keyAllowed := !s.inFlow }

def readDocumentMark? (s : Scanner) (t : Token) : Option Scanner := do
  let s ← (s.closeBlocks (-1)).dropCandidate?
  return { (s.push t).advance 3 with keyAllowed := false }

def readDirectiveLine? (s : Scanner) : Option Scanner := do
  let s ← (s.closeBlocks (-1)).dropCandidate?
  let (t, c) ← readDirective? s.cursor
  return { s.push t with cursor := c, keyAllowed := false }

/-- A token that may begin a key but does not end a line. -/
def readInline? (s : Scanner) (read : Cursor → Option (Token × Cursor)) : Option Scanner := do
  let s ← s.noteCandidate?
  let (t, c) ← read s.cursor
  return { s.push t with cursor := c, keyAllowed := false }

def readPlainScalar? (s : Scanner) : Option Scanner := do
  let s ← s.noteCandidate?
  let (cs, c, broken) ← readPlain? s.inFlow (s.indent + 1).toNat s.cursor
  return { s.push (.scalar (String.ofList cs) true) with cursor := c, keyAllowed := broken }

def readBlockScalar? (s : Scanner) (folded : Bool) : Option Scanner := do
  let s ← s.dropCandidate?
  let (cs, c) ← readBlock? folded s.indent s.cursor
  return { s.push (.scalar (String.ofList cs) false) with cursor := c, keyAllowed := true }

/-- Whether a plain scalar can begin with the characters. -/
def beginsPlain (inFlow : Bool) : List Char → Bool
  | [] => false
  | c :: r =>
      !(isGapOrBreak c || ['-', '?', ':', ',', '[', ']', '{', '}', '#', '&', '*', '!', '|', '>',
          '\'', '"', '%', '@', '`'].contains c) ||
        (c == '-' && !r.head?.any isGap) ||
        (!inFlow && (c == '?' || c == ':') && !endsPiece r)

/-- The token at this place, or all tokens that end with the stream. -/
def readToken? (s : Scanner) : Option Scanner :=
  let c := s.cursor
  let inFlow := s.inFlow
  match c.rest with
  | [] => none
  | ch :: r =>
      let alone := endsPiece r
      if c.column == 0 && ch == '%' then s.readDirectiveLine?
      else if c.atDocumentMark then
        s.readDocumentMark? (if ch == '-' then .documentStart else .documentEnd)
      else if ch == '[' then s.readFlowStart? .flowSequenceStart
      else if ch == '{' then s.readFlowStart? .flowMappingStart
      else if ch == ']' then s.readFlowEnd? .flowSequenceEnd
      else if ch == '}' then s.readFlowEnd? .flowMappingEnd
      else if ch == ',' then s.readFlowEntry?
      else if ch == '-' && alone then s.readBlockEntry?
      else if ch == '?' && (inFlow || alone) then s.readExplicitKey?
      else if ch == ':' && (inFlow || alone) then s.readValue?
      else if ch == '*' then
        s.readInline? fun c => (readAnchorName? c).map fun (n, c) => (.alias n, c)
      else if ch == '&' then
        s.readInline? fun c => (readAnchorName? c).map fun (n, c) => (.anchor n, c)
      else if ch == '!' then s.readInline? (readTag? inFlow)
      else if ch == '|' && !inFlow then s.readBlockScalar? false
      else if ch == '>' && !inFlow then s.readBlockScalar? true
      else if ch == '\'' || ch == '"' then
        s.readInline? fun c =>
          (readQuoted? (ch == '\'') c).map fun (cs, c) => (.scalar (String.ofList cs) false, c)
      else if beginsPlain inFlow c.rest then s.readPlainScalar?
      else none

/-- Ends all blocks at the end of the stream, which counts as the start of a line. -/
def finish? (s : Scanner) : Option Scanner := (s.closeBlocks (-1)).dropCandidate?

def run? : Nat → Scanner → Option Scanner
  | 0, _ => none
  | fuel + 1, s => do
      let s ← (skipSpace (s.cursor.rest.length + 1) s).dropStale?
      let s := s.closeBlocks s.cursor.column
      if s.cursor.rest.isEmpty then s.finish?
      else
        let s ← s.readToken?
        run? fuel s

end Scanner

/-- The token of an entry, after those that its mark stands for. -/
def Entry.tokens (e : Entry) : List Token :=
  match e.key with
  | none => [e.token]
  | some opens => (if opens then [.blockMappingStart] else []) ++ [.key, e.token]

/-- All tokens of a stream, if every part of it can be read. -/
def tokens? (cs : List Char) : Option (List Token) :=
  if cs.all isAllowed then
    (Scanner.run? (cs.length + 1) (.start cs)).map fun s => s.entries.toList.flatMap Entry.tokens
  else none

end AlertPolicy.Yaml
