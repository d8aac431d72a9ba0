import AlertPolicy.Text.Bytes

/-!
The text of a YAML stream from one place on, with the place counted in bytes of UTF-8 and in lines
and columns. Keys are found by comparing such places, so every reader moves through this type.
-/

namespace AlertPolicy.Yaml

/-- The characters a stream may hold at all. -/
def isAllowed (c : Char) : Bool :=
  let n := c.toNat
  n == 0x9 || n == 0xA || n == 0xD || (0x20 ≤ n && n ≤ 0x7E) || n == 0x85 ||
    (0xA0 ≤ n && n ≤ 0xD7FF) || (0xE000 ≤ n && n ≤ 0xFFFD) || 0x10000 ≤ n

def isGap (c : Char) : Bool := c == ' ' || c == '\t'

/-- Line feed, carriage return, next line, line separator and paragraph separator. -/
def isBreak (c : Char) : Bool :=
  c == '\n' || c == '\r' || c.toNat == 0x85 || c.toNat == 0x2028 || c.toNat == 0x2029

def isGapOrBreak (c : Char) : Bool := isGap c || isBreak c

/-- The characters of anchors, handles and directive names. -/
def isWord (c : Char) : Bool := c.isAlphanum || c == '_' || c == '-'

/-- Whether a piece of a line ends here: at a gap, a break or the end of the stream. -/
def endsPiece : List Char → Bool
  | [] => true
  | c :: _ => isGapOrBreak c

def endsLine : List Char → Bool
  | [] => true
  | c :: _ => isBreak c

/-- What is left of a stream and where that begins: `index` bytes after the start of the stream, in
a line and at a column counted from zero, a column being a character wide. -/
structure Cursor where
  rest : List Char
  index : Nat
  line : Nat
  column : Nat
  deriving Repr

namespace Cursor

def start (cs : List Char) : Cursor := ⟨cs, 0, 0, 0⟩

def head? (c : Cursor) : Option Char := c.rest.head?

/-- Past `n` characters of the line. -/
def advance (c : Cursor) (n : Nat) : Cursor :=
  ⟨c.rest.drop n, c.index + Text.byteLength (c.rest.take n), c.line, c.column + n⟩

/-- The characters at the front that satisfy `p`, none of which is a break, and the place after
them. -/
def span (c : Cursor) (p : Char → Bool) : List Char × Cursor :=
  let taken := c.rest.takeWhile p
  (taken, c.advance taken.length)

def skip (c : Cursor) (p : Char → Bool) : Cursor := (c.span p).2

/-- A break, as it counts in a scalar, and the start of the next line. All breaks count as a line
feed but the two separators, which stand for themselves. -/
def nextLine (c : Cursor) : List Char × Cursor :=
  match c.rest with
  | '\r' :: '\n' :: r => (['\n'], ⟨r, c.index + 2, c.line + 1, 0⟩)
  | b :: r =>
      let counted := if b.toNat == 0x2028 || b.toNat == 0x2029 then b else '\n'
      if isBreak b then ([counted], ⟨r, c.index + b.utf8Size, c.line + 1, 0⟩) else ([], c)
  | [] => ([], c)

/-- Whether a line begins here that is a mark between documents. -/
def atDocumentMark (c : Cursor) : Bool :=
  c.column == 0 &&
    match c.rest with
    | '-' :: '-' :: '-' :: r => endsPiece r
    | '.' :: '.' :: '.' :: r => endsPiece r
    | _ => false

/-- Past gaps and a comment, if what follows is the end of the line; the break is taken too. -/
def finishLine? (c : Cursor) : Option Cursor :=
  let c := c.skip isGap
  let c := if c.head? == some '#' then c.skip (!isBreak ·) else c
  if endsLine c.rest then some c.nextLine.2 else none

end Cursor

end AlertPolicy.Yaml
