import AlertPolicy.Yaml.Folding

/-!
Quoted scalars. Between single quotes a quote is written twice; between double quotes a backslash
begins an escape, and an escaped break vanishes together with the white space after it.
-/

namespace AlertPolicy.Yaml

def hexValue? (c : Char) : Option Nat :=
  if c.isDigit then some (c.toNat - '0'.toNat)
  else if 'a' ≤ c && c ≤ 'f' then some (c.toNat - 'a'.toNat + 10)
  else if 'A' ≤ c && c ≤ 'F' then some (c.toNat - 'A'.toNat + 10)
  else none

/-- The number that exactly `n` hexadecimal digits at the front denote. -/
def readHex? : Nat → Nat → List Char → Option Nat
  | 0, value, _ => some value
  | _ + 1, _, [] => none
  | n + 1, value, c :: cs => (hexValue? c).bind fun d => readHex? n (16 * value + d) cs

/-- The escapes of one letter. -/
def letterEscape? : Char → Option Char
  | '0' => some '\x00'
  | 'a' => some '\x07'
  | 'b' => some '\x08'
  | 't' => some '\t'
  | '\t' => some '\t'
  | 'n' => some '\n'
  | 'v' => some '\x0b'
  | 'f' => some '\x0c'
  | 'r' => some '\r'
  | 'e' => some '\x1b'
  | ' ' => some ' '
  | '"' => some '"'
  | '/' => some '/'
  | '\\' => some '\\'
  | 'N' => some '\u0085'
  | '_' => some '\u00a0'
  | 'L' => some '\u2028'
  | 'P' => some '\u2029'
  | _ => none

/-- The number of digits after the letter of an escape by code point. -/
def codeEscapeLength? : Char → Option Nat
  | 'x' => some 2
  | 'u' => some 4
  | 'U' => some 8
  | _ => none

/-- The character an escape denotes and the length of the escape after its backslash. -/
def readEscape? : List Char → Option (Char × Nat)
  | [] => none
  | letter :: cs =>
      match codeEscapeLength? letter with
      | some n =>
          (readHex? n 0 cs).bind fun code =>
            if h : code.isValidChar then some (Char.ofNatAux code h, n + 1) else none
      | none => (letterEscape? letter).map (·, 1)

/-- The characters up to the next white space or the closing quote, written before `done` in
reverse, and whether the piece ends with an escaped break. -/
def quotedPiece (single : Bool) : Nat → List Char → Cursor → Option (List Char × Cursor × Bool)
  | 0, _, _ => none
  | fuel + 1, done, c =>
      match c.rest with
      | [] => some (done, c, false)
      | ch :: r =>
          if isGapOrBreak ch then some (done, c, false)
          else if single then
            if ch == '\'' then
              if r.head? == some '\'' then quotedPiece single fuel ('\'' :: done) (c.advance 2)
              else some (done, c, false)
            else quotedPiece single fuel (ch :: done) (c.advance 1)
          else if ch == '"' then some (done, c, false)
          else if ch == '\\' then
            if r.head?.any isBreak then some (done, (c.advance 1).nextLine.2, true)
            else
              match readEscape? r with
              | some (escaped, n) => quotedPiece single fuel (escaped :: done) (c.advance (n + 1))
              | none => none
          else quotedPiece single fuel (ch :: done) (c.advance 1)

/-- The rest of a quoted scalar and the place after its closing quote. -/
def quotedRest (single : Bool) : Nat → List Char → Cursor → Option (List Char × Cursor)
  | 0, _, _ => none
  | fuel + 1, done, c =>
      if c.atDocumentMark || c.rest.isEmpty then none
      else
        match quotedPiece single (c.rest.length + 1) done c with
        | none => none
        | some (done, c, escaped) =>
            if c.head? == some (if single then '\'' else '"') then
              some (done.reverse, c.advance 1)
            else
              let before := if escaped then Spacing.escaped else Spacing.none
              match Spacing.read 0 (c.rest.length + 1) before c with
              | none => none
              | some (s, c) => quotedRest single fuel (s.folded.reverse ++ done) c

/-- The quoted scalar that begins here, the opening quote included. -/
def readQuoted? (single : Bool) (c : Cursor) : Option (List Char × Cursor) :=
  quotedRest single (c.rest.length + 1) [] (c.advance 1)

end AlertPolicy.Yaml
