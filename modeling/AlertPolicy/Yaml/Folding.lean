import AlertPolicy.Yaml.Cursor

/-!
White space inside plain and quoted scalars. A gap within a line is kept; a gap with breaks is
folded: one line feed becomes a space, and further breaks stand for themselves.
-/

namespace AlertPolicy.Yaml

/-- White space between two pieces of a scalar: the gap before the first break, that break, and the
breaks after it. -/
structure Spacing where
  gap : List Char
  first : List Char
  more : List Char
  broken : Bool
  deriving Repr

namespace Spacing

def none : Spacing := ⟨[], [], [], false⟩

/-- After a break that was escaped and so leaves no trace. -/
def escaped : Spacing := ⟨[], [], [], true⟩

/-- What the white space counts as between two pieces. -/
def folded (s : Spacing) : List Char :=
  if s.broken then
    match s.first with
    | ['\n'] => if s.more.isEmpty then [' '] else s.more
    | first => first ++ s.more
  else s.gap

/-- The white space from here on. It is refused if a tab stands left of column `indent` on a later
line. -/
def read (indent : Nat) : Nat → Spacing → Cursor → Option (Spacing × Cursor)
  | 0, _, _ => .none
  | fuel + 1, s, c =>
      match c.rest with
      | [] => some (s, c)
      | ch :: _ =>
          if isGap ch then
            if s.broken then
              if ch == '\t' && c.column < indent then .none else read indent fuel s (c.advance 1)
            else read indent fuel { s with gap := s.gap ++ [ch] } (c.advance 1)
          else if isBreak ch then
            let (b, next) := c.nextLine
            if s.broken then read indent fuel { s with more := s.more ++ b } next
            else read indent fuel ⟨[], b, [], true⟩ next
          else some (s, c)

end Spacing

end AlertPolicy.Yaml
