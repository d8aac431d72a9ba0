/-!
JSON values and their text, on one line or with one field or item on a line.
-/

namespace AlertPolicy.Text

/-- Numbers are natural, and fields keep the order in which they are given. -/
inductive Json where
  | null
  | number (n : Nat)
  | text (s : String)
  | list (items : List Json)
  | record (fields : List (String × Json))
  deriving Repr

namespace Json

/-- The letter that stands for a character after a backslash. -/
def escapeLetter? (c : Char) : Option Char :=
  match c.toNat with
  | 0x08 => some 'b'
  | 0x09 => some 't'
  | 0x0A => some 'n'
  | 0x0C => some 'f'
  | 0x0D => some 'r'
  | 0x22 => some '"'
  | 0x5C => some '\\'
  | _ => none

/-- A character inside a text: quotes, backslashes and controls are escaped. -/
def escaped (c : Char) : List Char :=
  match escapeLetter? c with
  | some letter => ['\\', letter]
  | none =>
      if c.toNat < 0x20 then
        ['\\', 'u', '0', '0', Nat.digitChar (c.toNat / 16), Nat.digitChar (c.toNat % 16)]
      else [c]

def quoted (s : String) : String := "\"" ++ String.ofList (s.toList.flatMap escaped) ++ "\""

mutual

/-- The value without any space between its parts. -/
def compact : Json → String
  | null => "null"
  | number n => toString n
  | text s => quoted s
  | list [] => "[]"
  | list (v :: vs) => "[" ++ v.compact ++ compactItems vs ++ "]"
  | record [] => "\x7b\x7d"
  | record ((k, v) :: fs) =>
      "\x7b" ++ quoted k ++ ":" ++ v.compact ++ compactFields fs ++ "\x7d"

def compactItems : List Json → String
  | [] => ""
  | v :: vs => "," ++ v.compact ++ compactItems vs

def compactFields : List (String × Json) → String
  | [] => ""
  | (k, v) :: fs => "," ++ quoted k ++ ":" ++ v.compact ++ compactFields fs

end

def newLine (depth : Nat) : String := "\n" ++ String.ofList (List.replicate (2 * depth) ' ')

mutual

/-- The value over several lines, each indented by two spaces for each value it is inside of. -/
def pretty (depth : Nat) : Json → String
  | null => "null"
  | number n => toString n
  | text s => quoted s
  | list [] => "[]"
  | list (v :: vs) =>
      "[" ++ newLine (depth + 1) ++ v.pretty (depth + 1) ++ prettyItems (depth + 1) vs ++
        newLine depth ++ "]"
  | record [] => "\x7b\x7d"
  | record ((k, v) :: fs) =>
      "\x7b" ++ newLine (depth + 1) ++ quoted k ++ ": " ++ v.pretty (depth + 1) ++
        prettyFields (depth + 1) fs ++ newLine depth ++ "\x7d"

def prettyItems (depth : Nat) : List Json → String
  | [] => ""
  | v :: vs => "," ++ newLine depth ++ v.pretty depth ++ prettyItems depth vs

def prettyFields (depth : Nat) : List (String × Json) → String
  | [] => ""
  | (k, v) :: fs =>
      "," ++ newLine depth ++ quoted k ++ ": " ++ v.pretty depth ++ prettyFields depth fs

end

end Json

end AlertPolicy.Text
