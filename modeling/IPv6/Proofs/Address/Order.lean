import IPv6.Address.Basic
/-!
The order of addresses is a total order of their octets.
-/

namespace IPv6

theorem compare_toNat (left right : UInt8) :
    compare left.toNat right.toNat = compare left right := by
  simp only [compare, compareOfLessAndEq, UInt8.lt_iff_toNat_lt, UInt8.toNat_inj]

namespace Address

instance transCmp_compare : Std.TransCmp compare :=
  inferInstanceAs (Std.TransCmp (compareOn octets))

theorem compare_eq_iff {left right : Address} : left.compare right = .eq ↔ left = right := by
  constructor
  · intro level
    exact ext_octets (Std.LawfulEqOrd.eq_of_compare level)
  · intro same
    subst same
    exact Std.ReflCmp.compare_self

end Address

end IPv6
