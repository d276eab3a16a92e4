/-! # Lengths of time in words

A length of time is written in years, months, days, hours, minutes, seconds and parts of a second,
largest first and without the parts that are zero. A year is 365.25 days and a month a twelfth
of 365.28 days. -/

namespace BrokerFleet.Text

/-- A length of time in whole seconds and nanoseconds. -/
structure Span where
  seconds : Nat
  nanos : Nat
  deriving DecidableEq, Repr

def Span.ofMillis (ms : Nat) : Span := ⟨ms / 1000, ms % 1000 * 1000000⟩

/-- A count with a unit whose name takes a plural ending. -/
def pluralPart (unit : String) (n : Nat) : Option String :=
  if n = 0 then none else some (toString n ++ unit ++ if n = 1 then "" else "s")

/-- A count with a unit symbol. -/
def symbolPart (unit : String) (n : Nat) : Option String :=
  if n = 0 then none else some (toString n ++ unit)

/-- The span in words, or `0s` when it is empty. -/
def Span.render (t : Span) : String :=
  let s := t.seconds + t.nanos / 1000000000
  let ns := t.nanos % 1000000000
  let inYear := s % 31557600
  let inMonth := inYear % 2630016
  let inDay := inMonth % 86400
  let parts := [
    pluralPart "year" (s / 31557600), pluralPart "month" (inYear / 2630016),
    pluralPart "day" (inMonth / 86400), symbolPart "h" (inDay / 3600),
    symbolPart "m" (inDay % 3600 / 60), symbolPart "s" (inDay % 60),
    symbolPart "ms" (ns / 1000000), symbolPart "us" (ns / 1000 % 1000), symbolPart "ns" (ns % 1000)]
  match parts.filterMap id with
  | [] => "0s"
  | words => " ".intercalate words

end BrokerFleet.Text
