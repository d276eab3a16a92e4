import BrokerFleet.Text.Cut
import BrokerFleet.Text.Sorted

/-! # Targets of requests

A target is a path with a query. The first question mark of its text ends the path, and a number
sign ends the text. Most characters stand for themselves; those that would have to be escaped make
no target. -/

namespace BrokerFleet.Http

open Text

/-- Where a request goes: a path and the terms of a query in order. -/
structure Target where
  path : String
  query : List String
  deriving DecidableEq, Repr

namespace Target

def isPathChar (c : Char) : Bool :=
  c == '!' || c == '"' || ('$' ≤ c && c ≤ ';') || c == '=' || ('@' ≤ c && c ≤ '_') ||
    ('a' ≤ c && c ≤ '~') || c.toNat ≥ 0x80

def isQueryChar (c : Char) : Bool :=
  c == '!' || ('$' ≤ c && c ≤ ';') || c == '=' || ('?' ≤ c && c ≤ '~') || c.toNat ≥ 0x80

/-- The most bytes of a target. -/
def sizeLimit : Nat := 65534

def split (text : List Char) : List Char × List Char :=
  let visible := text.takeWhile (· ≠ '#')
  (splitFirst? '?' visible).getD (visible, [])

def ofText? (text : String) : Option Target :=
  let (path, query) := split text.toList
  if text.utf8ByteSize ≤ sizeLimit ∧ path.all isPathChar ∧ query.all isQueryChar then
    some ⟨String.ofList path,
      sorted (((splitOn '&' query).filter (· ≠ [])).map String.ofList)⟩
  else none

end Target

end BrokerFleet.Http
