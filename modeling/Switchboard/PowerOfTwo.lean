/-!
# Powers of two

The capacity of a queue has to be a power of two.
-/

namespace Switchboard

/-- Whether a number is a power of two. -/
def isPowerOfTwo (n : Nat) : Bool := n ≠ 0 && 1 <<< n.log2 == n

end Switchboard
