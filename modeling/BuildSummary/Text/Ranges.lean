import BuildSummary.Text.Basic

/-!
# Character ranges

A Unicode property is given by the ranges of code points that have it, in ascending order.
-/

namespace BuildSummary.Text

/-- Ranges of code points in ascending order, each by its first and its last. -/
abbrev Ranges := List (Nat × Nat)

/-- Whether the character lies in one of the ranges; those after a range that begins behind it are
not looked at. -/
def Ranges.contains : Ranges → Char → Bool
  | [], _ => false
  | (first, last) :: rest, c => first ≤ c.toNat && (c.toNat ≤ last || Ranges.contains rest c)

end BuildSummary.Text
