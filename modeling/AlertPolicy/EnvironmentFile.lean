import AlertPolicy.Environment
import AlertPolicy.Text.Letter

/-!
Environment files: lines `NAME=value` with comments, quotes, escapes and references to other
variables. A file adds variables and never changes one that is set. It is read up to the first line
that is not well formed; the lines before that one still count.
-/

namespace AlertPolicy.EnvironmentFile

open Text

/-! ### Lines -/

/-- Where a place in a file is with respect to quotes, which may go on over several lines. -/
inductive Quoting where
  | none
  /-- Right after a blank, where a comment may begin. -/
  | blank
  | escape
  | single
  | singleEscape
  | double
  | doubleEscape
  deriving DecidableEq, Repr

def Quoting.next (q : Quoting) (c : Char) : Quoting :=
  match q with
  | .none =>
      if isBlank c && c != '\n' && c != '\r' then .blank
      else if c == '\\' then .escape
      else if c == '"' then .double
      else if c == '\'' then .single
      else .none
  | .blank =>
      if c == '\\' then .escape
      else if c == '"' then .double
      else if c == '\'' then .single
      else .none
  | .escape => .none
  | .single => if c == '\\' then .singleEscape else if c == '\'' then .none else .single
  | .singleEscape => .single
  | .double => if c == '\\' then .doubleEscape else if c == '"' then .none else .double
  | .doubleEscape => .double

/-- The line up to a comment, and the quoting at its end unless a comment ends it. -/
def beforeComment (q : Quoting) : List Char → List Char × Option Quoting
  | [] => ([], some q)
  | c :: cs =>
      if q = .blank && c == '#' then ([], none)
      else
        let (kept, last) := beforeComment (q.next c) cs
        (c :: kept, last)

def withoutNewline (cs : List Char) : List Char :=
  match cs.reverse with
  | '\n' :: '\r' :: r => r.reverse
  | '\n' :: r => r.reverse
  | _ => cs

/-- Lines joined where quotes go on, comments taken off. None is a line that cannot be read, after
which nothing is. `begun` is what has been read of a line that goes on. -/
def joinLines (begun : List Char) (q : Quoting) :
    List (Option (List Char)) → List (Option (List Char))
  | [] => if q = .none then [] else [none]
  | none :: _ => [none]
  | some line :: lines =>
      let all := begun ++ line
      if (all.dropWhile isBlank).head? == some '#' then some [] :: joinLines [] .none lines
      else
        match beforeComment q line with
        | (kept, none) => some (begun ++ kept) :: joinLines [] .none lines
        | (_, some .none) => some (withoutNewline all) :: joinLines [] .none lines
        | (_, some q) => joinLines all q lines

/-- The lines of a file, each with its line feed; the ones that are not UTF-8 are none. -/
def splitLines (line : List UInt8) : List UInt8 → List (Option (List Char))
  | [] => if line.isEmpty then [] else [decode line.reverse]
  | b :: bs =>
      if b == 10 then decode (b :: line).reverse :: splitLines [] bs else splitLines (b :: line) bs
where
  decode (octets : List UInt8) : Option (List Char) :=
    (String.fromUTF8? ⟨octets.toArray⟩).map String.toList

/-- A byte order mark at the beginning of a file is passed over. -/
def withoutMark : List UInt8 → List UInt8
  | 0xEF :: 0xBB :: 0xBF :: bs => bs
  | bs => bs

/-! ### Values -/

/-- Where a place in a value is, apart from double quotes. -/
inductive Place where
  | text
  | escape
  | single
  /-- In the name of a variable after a dollar sign; the name so far, last character first. -/
  | name (cs : List Char)
  /-- The same between braces. -/
  | braced (cs : List Char)
  /-- After the blank that ends the value. -/
  | after
  deriving DecidableEq, Repr

/-- The rest of a value. Within a name every character is taken for the value that does not belong
to the name, so a quote after a name neither begins nor ends anything. -/
def readValue (lookup : String → String) (double : Bool) :
    Place → List Char → Option (List Char)
  | .single, [] | .braced _, [] => none
  | .name n, [] => if double then none else some (named n)
  | _, [] => if double then none else some []
  | .after, c :: cs =>
      if c == ' ' || c == '\t' then readValue lookup double .after cs
      else if c == '#' then (if double then none else some [])
      else none
  | .escape, c :: cs =>
      if ['\\', '\'', '"', '$', ' '].contains c then
        (readValue lookup double .text cs).map (c :: ·)
      else if c == 'n' then (readValue lookup double .text cs).map ('\n' :: ·)
      else none
  | .single, c :: cs =>
      if c == '\'' then readValue lookup double .text cs
      else (readValue lookup double .single cs).map (c :: ·)
  | .name n, c :: cs =>
      if isLetterOrNumber c then readValue lookup double (.name (c :: n)) cs
      else if c == '{' && n.isEmpty then readValue lookup double (.braced []) cs
      else if c == '$' then (readValue lookup double (.name []) cs).map (named n ++ ·)
      else (readValue lookup double .text cs).map (named n ++ c :: ·)
  | .braced n, c :: cs =>
      if c == '}' then (readValue lookup double .text cs).map (named n ++ ·)
      else readValue lookup double (.braced (c :: n)) cs
  | .text, c :: cs =>
      if c == '$' then readValue lookup double (.name []) cs
      else if c == '\\' then readValue lookup double .escape cs
      else if c == '"' then readValue lookup (!double) .text cs
      else if double then (readValue lookup double .text cs).map (c :: ·)
      else if c == '\'' then readValue lookup double .single cs
      else if c == ' ' || c == '\t' then readValue lookup double .after cs
      else (readValue lookup double .text cs).map (c :: ·)
where
  named (n : List Char) : List Char := (lookup (String.ofList n.reverse)).toList

/-! ### Entries -/

def readName? (cs : List Char) : Option (String × List Char) :=
  let belongs (c : Char) := c.isAlphanum || c == '_' || c == '.'
  if cs.head?.any fun c => c.isAlpha || c == '_' then
    some (String.ofList (cs.takeWhile belongs), (cs.dropWhile belongs).dropWhile isBlank)
  else none

def afterEquals? : List Char → Option (List Char)
  | '=' :: cs => some (cs.dropWhile isBlank)
  | _ => none

/-- What a line holds: nothing, or a name and the text of its value. The word `export` may stand
before the name. -/
def readEntry? (line : List Char) : Option (Option (String × List Char)) :=
  let cs := ((line.reverse.dropWhile isBlank).reverse).dropWhile isBlank
  if cs.isEmpty || cs.head? == some '#' then some none
  else do
    let (name, rest) ← readName? cs
    match name, afterEquals? rest with
    | "export", none =>
        let (name, rest) ← readName? rest
        return some (name, ← afterEquals? rest)
    | name, some value => return some (name, value)
    | _, none => none

/-- The environment and what the file has set so far, the last value of a name first. -/
structure Loading where
  env : Environment
  stored : List (String × String)

namespace Loading

/-- The value a reference stands for: that of the variable, else the one in the file. -/
def reference (l : Loading) (name : String) : String :=
  (l.env.text? name).getD ((l.stored.lookup name).getD "")

def add (l : Loading) (name value : String) : Loading where
  env := if (l.env.text? name).isSome then l.env else l.env.set name value
  stored := (name, value) :: l.stored

def addLines (l : Loading) : List (Option (List Char)) → Loading
  | [] | none :: _ => l
  | some line :: lines =>
      match readEntry? line with
      | none => l
      | some none => l.addLines lines
      | some (some (name, text)) =>
          let value := if text.head? == some '#' then some []
            else readValue l.reference false .text text
          match value with
          | none => l
          | some value => (l.add name (String.ofList value)).addLines lines

end Loading

/-- The environment with the variables of a file, if there is one. -/
def load (env : Environment) (file : Option ByteArray) : Environment :=
  match file with
  | none => env
  | some octets =>
      let lines := splitLines [] (withoutMark octets.toList)
      (Loading.addLines ⟨env, []⟩ (joinLines [] .none lines)).env

end AlertPolicy.EnvironmentFile
