/-!
# Depths

The host runs bodies at depth one, and what a body runs is one level deeper than
the body. A depth is a number of 32 bits, and below the deepest level the count
starts again at zero. While a limit under the deepest level is kept, that does
not happen: one level below a depth is then always one more.
-/

namespace ClassLowering

/-- How deep a body runs, and how deep it may run. -/
abbrev Depth := UInt32

namespace Depth

/-- One level below a depth that is under some limit is one more. -/
theorem toNat_add_one {depth limit : Depth} (below : depth < limit) :
    (depth + 1).toNat = depth.toNat + 1 := by
  have bound : depth.toNat < limit.toNat := UInt32.lt_iff_toNat_lt.1 below
  have size : limit.toNat < 2 ^ 32 := limit.toNat_lt
  rw [UInt32.toNat_add, UInt32.toNat_one]
  omega

/-- One level below a depth that is under a limit is within the limit. -/
theorem add_one_le
    {depth limit : Depth}
    (below : depth < limit) :
    depth + 1 ≤ limit := by
  rw [UInt32.le_iff_toNat_le, toNat_add_one below]
  exact UInt32.lt_iff_toNat_lt.1 below

end Depth
end ClassLowering
