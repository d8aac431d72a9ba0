import AlertPolicy.Text.Printable

/-!
How a message names one character: between single quotes, by a short escape where there is one, by
its code point where it has no shape of its own, and as itself otherwise.
-/

namespace AlertPolicy.Text

def hexDigits (n : Nat) : String := String.ofList (Nat.toDigits 16 n)

def escapeChar (c : Char) : String :=
  match c with
  | '\x00' => "\\0"
  | '\t' => "\\t"
  | '\n' => "\\n"
  | '\r' => "\\r"
  | '\'' => "\\'"
  | '\\' => "\\\\"
  | c => if isShown c then c.toString else "\\u\x7b" ++ hexDigits c.toNat ++ "\x7d"

def charName (c : Char) : String := "'" ++ escapeChar c ++ "'"

end AlertPolicy.Text
