import AlertPolicy.Number.Natural
import AlertPolicy.Store.Key

/-!
Where samples are kept: the address of a sample server as settings and as a connection string, and
how such a string is read. The password is written as it is, so a string need not be read as the
settings it was written from.
-/

namespace AlertPolicy.Store

open AlertPolicy.Number

structure ServerSettings where
  host : String
  tcpPort : UInt16
  password : Option String
  database : UInt16
  /-- How many seconds back samples are read. -/
  window : UInt64
  layout : KeyLayout
  deriving DecidableEq, Repr

namespace ServerSettings

def default : ServerSettings where
  host := "localhost"
  tcpPort := 6379
  password := none
  database := 0
  window := 60
  layout := ⟨"collectd", "virt", "if_octets"⟩

def connectionString (s : ServerSettings) : String :=
  let user := match s.password with
    | some p => ":" ++ p ++ "@"
    | none => ""
  "redis://" ++ user ++ s.host ++ ":" ++ toString s.tcpPort ++ "/" ++ toString s.database

end ServerSettings

/-! ### Reading a connection string -/

/-- What a connection string leads to. -/
structure Target where
  host : String
  tcpPort : Nat
  password : Option String
  database : Nat
  deriving DecidableEq, Repr

def hexValue? (c : Char) : Option Nat :=
  if c.isDigit then some (c.toNat - '0'.toNat)
  else if 'a' ≤ c.toLower && c.toLower ≤ 'f' then some (c.toLower.toNat - 'a'.toNat + 10)
  else none

/-- The octets of a text in which a percent sign and two hexadecimal digits stand for an octet. -/
def percentDecoded : List Char → List UInt8
  | [] => []
  | '%' :: a :: b :: cs =>
      match hexValue? a, hexValue? b with
      | some x, some y => UInt8.ofNat (16 * x + y) :: percentDecoded cs
      | _, _ => '%'.toUInt8 :: percentDecoded (a :: b :: cs)
  | c :: cs => (String.singleton c).toUTF8.toList ++ percentDecoded cs

/-- The parts before and after the last at sign, the first part only if there is such a sign. -/
def splitUser (authority : List Char) : Option (List Char) × List Char :=
  let place := authority.reverse.takeWhile (· != '@')
  if place.length = authority.length then (none, authority)
  else (some (authority.take (authority.length - place.length - 1)), place.reverse)

/-- The password of a user part, after its first colon; an empty one is none. The outer option is
for a password that is not UTF-8. -/
def passwordOf? (user : List Char) : Option (Option String) :=
  match (user.dropWhile (· != ':')).drop 1 with
  | [] => some none
  | cs => (String.fromUTF8? ⟨(percentDecoded cs).toArray⟩).map some

/-- A number up to a limit in digits, or the given one where nothing is written. -/
def numberOr? (limit absent : Nat) (cs : List Char) : Option Nat :=
  if cs.isEmpty then some absent else readNatural limit (String.ofList cs)

/-- Reads a connection string. The authority ends at the first slash, question or number sign, and
the user part of it at the last at sign; the host listens at the number after it, and the path is
the database. -/
def Target.read? (s : String) : Option Target := do
  let cs ← "redis://".toList.isPrefixOf? s.toList
  let authority := cs.takeWhile fun c => c != '/' && c != '?' && c != '#'
  let path := (cs.drop authority.length).takeWhile fun c => c != '?' && c != '#'
  let (user, place) := splitUser authority
  let password ← passwordOf? (user.getD [])
  let host := place.takeWhile (· != ':')
  if host.isEmpty then none
  else
    let listening ← numberOr? 65535 6379 ((place.drop host.length).drop 1)
    let database ← numberOr? (UInt64.size / 2 - 1) 0 (path.drop 1)
    return ⟨String.ofList host, listening, password, database⟩

end AlertPolicy.Store
