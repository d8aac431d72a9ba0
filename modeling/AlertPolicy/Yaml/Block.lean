import AlertPolicy.Yaml.Cursor

/-!
Block scalars, whose lines are taken as they are, less their indentation. A folded scalar joins
lines that begin without a gap; the header says what becomes of the breaks at the end.
-/

namespace AlertPolicy.Yaml

inductive Chomping where
  | strip
  | clip
  | keep
  deriving DecidableEq, Repr

def chompingOf? : Char → Option Chomping
  | '+' => some .keep
  | '-' => some .strip
  | _ => none

/-- A digit from one to nine, or no digit; a zero is refused. -/
def readIncrement (c : Cursor) : Option (Nat × Cursor) :=
  match c.rest with
  | d :: _ =>
      if d == '0' then none
      else if d.isDigit then some (d.toNat - '0'.toNat, c.advance 1)
      else some (0, c)
  | [] => some (0, c)

/-- The two indicators after the mark of a block scalar, in either order, both optional. -/
def readBlockHeader (c : Cursor) : Option (Chomping × Nat × Cursor) :=
  match c.head?.bind chompingOf? with
  | some chomping => (readIncrement (c.advance 1)).map fun (n, c) => (chomping, n, c)
  | none =>
      match readIncrement c with
      | none => none
      | some (0, c) => some (.clip, 0, c)
      | some (n, c) =>
          match c.head?.bind chompingOf? with
          | some chomping => some (chomping, n, c.advance 1)
          | none => some (.clip, n, c)

/-- Indentation and empty lines up to the next line with content: the breaks, the greatest column
reached, and the place. While the indentation is not known, `indent` is zero and all spaces are
skipped. A tab in place of indentation is refused. -/
def emptyLines (indent : Nat) :
    Nat → List Char → Nat → Cursor → Option (List Char × Nat × Cursor)
  | 0, _, _, _ => none
  | fuel + 1, breaks, widest, c =>
      let spaces := (c.rest.takeWhile (· == ' ')).length
      let c := c.advance (if indent = 0 then spaces else min spaces (indent - c.column))
      let widest := max widest c.column
      if (indent = 0 || c.column < indent) && c.head? == some '\t' then none
      else if c.head?.any isBreak then
        let (b, next) := c.nextLine
        emptyLines indent fuel (breaks ++ b) widest next
      else some (breaks, widest, c)

/-- The content lines: `done` is the text so far in reverse, `last` the break after the last line
and `breaks` those of the empty lines after it. `gapBefore` tells whether that line began with a
gap. -/
def blockLines (folded : Bool) (indent : Nat) :
    Nat → List Char → List Char → List Char → Bool → Cursor →
      Option (List Char × List Char × List Char × Cursor)
  | 0, _, _, _, _, _ => none
  | fuel + 1, done, last, breaks, gapBefore, c =>
      if c.column == indent && !c.rest.isEmpty then
        let gapHere := c.head?.any isGap
        let joined :=
          if folded && last.head? == some '\n' && !gapBefore && !gapHere then
            if breaks.isEmpty then [' '] else breaks
          else last ++ breaks
        let (content, c) := c.span (!isBreak ·)
        let (last, c) := c.nextLine
        match emptyLines indent (c.rest.length + 1) [] 0 c with
        | none => none
        | some (breaks, _, c) =>
            blockLines folded indent fuel (content.reverse ++ (joined.reverse ++ done)) last breaks
              gapHere c
      else some (done, last, breaks, c)

/-- The block scalar whose mark stands here, in a block indented to `parent`, which is `-1` at the
top. -/
def readBlock? (folded : Bool) (parent : Int) (c : Cursor) : Option (List Char × Cursor) := do
  let (chomping, increment, c) ← readBlockHeader (c.advance 1)
  let c ← c.finishLine?
  let known := if increment = 0 then 0 else (max parent 0).toNat + increment
  let (breaks, widest, c) ← emptyLines known (c.rest.length + 1) [] 0 c
  let indent := if known = 0 then max widest (max (parent + 1) 1).toNat else known
  let (done, last, breaks, c) ← blockLines folded indent (c.rest.length + 1) [] [] breaks false c
  let tail := match chomping with
    | .strip => []
    | .clip => last
    | .keep => last ++ breaks
  return (done.reverse ++ tail, c)

end AlertPolicy.Yaml
