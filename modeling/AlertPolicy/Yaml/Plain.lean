import AlertPolicy.Yaml.Folding

/-!
Plain scalars, the ones without quotes. They end before a colon that a gap follows, before a
comment, at a line that is indented too little, and inside brackets also at the marks of the
brackets.
-/

namespace AlertPolicy.Yaml

def isFlowMark (c : Char) : Bool :=
  c == ',' || c == '[' || c == ']' || c == '{' || c == '}'

/-- The characters of one piece. Inside brackets a colon may not stand right before a mark of the
brackets or a question mark. -/
def plainPiece? (inFlow : Bool) : List Char → Option (List Char)
  | [] => some []
  | c :: r =>
      if isGapOrBreak c then some []
      else if inFlow && c == ':' && r.head?.any fun n => isFlowMark n || n == '?' then none
      else if (c == ':' && endsPiece r) || (inFlow && isFlowMark c) then some []
      else (plainPiece? inFlow r).map (c :: ·)

/-- The rest of a plain scalar in reverse, the place after it and the white space that follows it,
and whether that white space has a break in it. -/
def plainRest (inFlow : Bool) (indent : Nat) :
    Nat → List Char → Spacing → Cursor → Option (List Char × Cursor × Bool)
  | 0, _, _, _ => none
  | fuel + 1, done, before, c =>
      if c.atDocumentMark || c.head? == some '#' then some (done, c, before.broken)
      else
        match plainPiece? inFlow c.rest with
        | none => none
        | some [] => some (done, c, before.broken)
        | some piece =>
            let done := piece.reverse ++ (before.folded.reverse ++ done)
            let c := c.advance piece.length
            if c.head?.any isGapOrBreak then
              match Spacing.read indent (c.rest.length + 1) .none c with
              | none => none
              | some (s, c) =>
                  if !inFlow && c.column < indent then some (done, c, s.broken)
                  else plainRest inFlow indent fuel done s c
            else some (done, c, false)

/-- The plain scalar that begins here, for which later lines must reach column `indent`. -/
def readPlain? (inFlow : Bool) (indent : Nat) (c : Cursor) :
    Option (List Char × Cursor × Bool) :=
  (plainRest inFlow indent (c.rest.length + 1) [] .none c).map fun (done, rest) =>
    (done.reverse, rest)

end AlertPolicy.Yaml
