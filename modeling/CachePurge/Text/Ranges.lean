/-!
# Sets of code points as boundary lists

A property of characters that has no short description is kept as the increasing list of code
points at which it switches on and off: `[a, b, c, d]` stands for `a ≤ n < b` or `c ≤ n < d`. One
list is half as long as the list of its ranges, and membership is a single pass.
-/

namespace CachePurge.Text

/-- Whether `n` lies in one of the half-open ranges that the boundary list describes. A last
boundary without a partner closes no range. -/
def inside : List Nat → Nat → Bool
  | first :: last :: rest, n => (first ≤ n && n < last) || inside rest n
  | _, _ => false

end CachePurge.Text
