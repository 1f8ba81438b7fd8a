/-!
# Span — sets and shifts of code points, written as runs

A `Span` holds every `step`-th code point from `first` to `last`; a `Shift` moves the code points of such a run
by one distance.  A list of spans is the set of all their members.
-/
namespace QueryRows
namespace Text

/-- Every `step`-th code point from `first` to `last`. -/
structure Span where
  first : Nat
  last : Nat
  step : Nat

/-- **A span holds its first code point and every `step`-th one after it, up to its last.** -/
def Span.holds (s : Span) (n : Nat) : Bool :=
  s.first ≤ n && n ≤ s.last && (n - s.first) % s.step == 0

/-- The set of all members of the spans. -/
def covers (spans : List Span) (n : Nat) : Bool := spans.any (·.holds n)

/-- Every `step`-th code point from `first` to `last` moves by `distance`. -/
structure Shift where
  first : Nat
  last : Nat
  step : Nat
  distance : Int

/-- The code point that the first matching shift sends `n` to. -/
def shifted? (shifts : List Shift) (n : Nat) : Option Nat :=
  (shifts.find? fun s => (Span.mk s.first s.last s.step).holds n).map fun s => ((n : Int) + s.distance).toNat

end Text
end QueryRows
