import Kmip.Nanos

/-!
# Spans of time

A length of time in seconds and nanoseconds. The wire carries whole seconds only; a span with a
fraction can be held and shown, but not written.
-/

namespace Kmip

/-- A length of time. -/
structure Span where
  seconds : Nat
  /-- What the span takes beyond its whole seconds. -/
  nanos : Nanos
deriving DecidableEq, Repr

namespace Span

/-- A span of whole seconds. -/
def ofSeconds (seconds : Nat) : Span where
  seconds
  nanos := .zero

instance : Inhabited Span := ⟨ofSeconds 0⟩

/-- A point and the digits behind it, unless there are none but zeros. -/
def fraction (digits : List Char) : List Char :=
  let shown := Decimal.fraction digits
  if shown.isEmpty then [] else '.' :: shown

/-- The span in the largest unit of which it takes at least one, and in nanoseconds when it takes
nothing. -/
def text (span : Span) : String :=
  let (whole, places, part, unit) :=
    if 0 < span.seconds then (span.seconds, 9, span.nanos.val, "s")
    else if 1000000 ≤ span.nanos.val then
      (span.nanos.val / 1000000, 6, span.nanos.val % 1000000, "ms")
    else if 1000 ≤ span.nanos.val then (span.nanos.val / 1000, 3, span.nanos.val % 1000, "µs")
    else (span.nanos.val, 1, 0, "ns")
  String.ofList (Decimal.ofNat whole ++ fraction (Decimal.padded places part)) ++ unit

end Span

end Kmip
