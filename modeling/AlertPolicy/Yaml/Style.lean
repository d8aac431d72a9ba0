import AlertPolicy.Yaml.Cursor
import AlertPolicy.Yaml.Implicit

/-!
The style in which a text is written as a scalar: as a literal block if it has line feeds, plainly
if it has none and nothing in it could be misread, and else between quotes. A text that the style
would not keep is written between double quotes, where every character can be escaped.
-/

namespace AlertPolicy.Yaml

inductive Style where
  | plain
  | single
  | double
  | literal
  deriving DecidableEq, Repr

/-! ### What a text contains -/

/-- The characters that can be written as they are. -/
def isPrintable (c : Char) : Bool :=
  let n := c.toNat
  n == 0xA || (0x20 ≤ n && n ≤ 0x7E) || (0xA0 ≤ n && n ≤ 0xD7FF) ||
    (0xE000 ≤ n && n ≤ 0xFFFD && n != 0xFEFF) || 0x10000 ≤ n

/-- Whether a character that satisfies `p` stands right before one that satisfies `q`. -/
def hasPair (p q : Char → Bool) : List Char → Bool
  | a :: b :: cs => (p a && q b) || hasPair p q (b :: cs)
  | _ => false

/-- Whether the first character would begin something else than a plain scalar. -/
def beginsIndicator : List Char → Bool
  | [] => false
  | '-' :: '-' :: '-' :: _ | '.' :: '.' :: '.' :: _ => true
  | c :: cs =>
      ['#', ',', '[', ']', '{', '}', '&', '*', '!', '|', '>', '\'', '"', '%', '@',
          '`'].contains c ||
        (['?', ':', '-'].contains c && endsPiece cs)

/-- Whether a character after the first would end a plain scalar or begin a comment. -/
def hasIndicator : List Char → Bool
  | a :: b :: cs =>
      (b == ':' && endsPiece cs) || (isGapOrBreak a && b == '#') || hasIndicator (b :: cs)
  | _ => false

def isSpaceOrBreak (c : Char) : Bool := c == ' ' || isBreak c

/-! ### What a style keeps -/

/-- Spaces before a break are lost in every style but the double-quoted one, which is also the only
one for characters that cannot be printed. -/
def needsEscapes (cs : List Char) : Bool :=
  !cs.all isPrintable || hasPair (· == ' ') isBreak cs

def allowsPlain (cs : List Char) : Bool :=
  !needsEscapes cs && !cs.any isBreak && !cs.head?.any isSpaceOrBreak &&
    !cs.getLast?.any isSpaceOrBreak && !beginsIndicator cs && !hasIndicator cs

/-- Spaces after a break would be lost between single quotes. -/
def allowsSingle (cs : List Char) : Bool := !needsEscapes cs && !hasPair isBreak (· == ' ') cs

def allowsLiteral (cs : List Char) : Bool := !needsEscapes cs && cs.getLast? != some ' '

def quotedStyle (cs : List Char) : Style := if allowsSingle cs then .single else .double

def Style.of (s : String) : Style :=
  let cs := s.toList
  if cs.contains '\n' then if allowsLiteral cs then .literal else .double
  else if isAmbiguous s || !allowsPlain cs then quotedStyle cs
  else .plain

/-! ### Written scalars -/

def spaces (n : Nat) : String := String.ofList (List.replicate n ' ')

/-- Indentation before the first character of each line that is not empty, where `fresh` says
whether a line begins here. -/
def indented (indent : Nat) (fresh : Bool) : List Char → List Char
  | [] => []
  | c :: cs =>
      if isBreak c then c :: indented indent true cs
      else if fresh then List.replicate indent ' ' ++ c :: indented indent false cs
      else c :: indented indent false cs

/-- The mark for the breaks at the end of a literal block: none are kept, one is, or all are. -/
def chompingMark (cs : List Char) : String :=
  match cs.reverse with
  | [b] => if isBreak b then "+" else "-"
  | b :: a :: _ => if !isBreak b then "-" else if isBreak a then "+" else ""
  | [] => "-"

/-- A literal block. The indentation is written out if the text begins with a space or a break. -/
def literalText (indent : Nat) (cs : List Char) : String :=
  let width := if cs.head?.any isSpaceOrBreak then "2" else ""
  "|" ++ width ++ chompingMark cs ++ "\n" ++ String.ofList (indented indent true cs)

/-- Quotes are doubled; each line after the first is indented, the last one even if it is empty. No
text with a line feed is written between single quotes, which would need a second one. -/
def singleText (indent : Nat) (cs : List Char) : String :=
  let doubled := cs.flatMap fun c => if c == '\'' then ['\'', '\''] else [c]
  let last := if cs.getLast?.any isBreak then spaces indent else ""
  "'" ++ String.ofList (indented indent false doubled) ++ last ++ "'"

/-- The letter that stands for a character after a backslash. -/
def escapeLetter? (c : Char) : Option Char :=
  match c.toNat with
  | 0x00 => some '0'
  | 0x07 => some 'a'
  | 0x08 => some 'b'
  | 0x09 => some 't'
  | 0x0A => some 'n'
  | 0x0B => some 'v'
  | 0x0C => some 'f'
  | 0x0D => some 'r'
  | 0x1B => some 'e'
  | 0x22 => some '"'
  | 0x5C => some '\\'
  | 0x85 => some 'N'
  | 0x2028 => some 'L'
  | 0x2029 => some 'P'
  | _ => none

def hexDigits (width n : Nat) : List Char :=
  let digits := (Nat.toDigits 16 n).map Char.toUpper
  List.replicate (width - digits.length) '0' ++ digits

def escaped (c : Char) : List Char :=
  match escapeLetter? c with
  | some letter => ['\\', letter]
  | none =>
      let n := c.toNat
      if isPrintable c then [c]
      else if n ≤ 0xFF then '\\' :: 'x' :: hexDigits 2 n
      else if n ≤ 0xFFFF then '\\' :: 'u' :: hexDigits 4 n
      else '\\' :: 'U' :: hexDigits 8 n

def doubleText (cs : List Char) : String := "\"" ++ String.ofList (cs.flatMap escaped) ++ "\""

/-- A scalar that ends its line: the text in its style and a line feed, unless it ends in a break
as it is. -/
def scalarLine (indent : Nat) (s : String) : String :=
  let cs := s.toList
  match Style.of s with
  | .plain => s ++ "\n"
  | .single => singleText indent cs ++ "\n"
  | .double => doubleText cs ++ "\n"
  | .literal => literalText indent cs ++ (if cs.getLast?.any isBreak then "" else "\n")

end AlertPolicy.Yaml
