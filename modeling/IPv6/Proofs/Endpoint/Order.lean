import IPv6.Endpoint.Basic
import IPv6.Proofs.Address.Order
/-!
Endpoints are ordered by address and then by port, and are equal in that order if both are equal.
-/

namespace IPv6

theorem compare_toNat_port (left right : UInt16) :
    compare left.toNat right.toNat = compare left right := by
  simp only [compare, compareOfLessAndEq, UInt16.lt_iff_toNat_lt, UInt16.toNat_inj]

namespace Endpoint

theorem compare_eq_compareLex :
    compare = compareLex (fun left right => left.address.compare right.address) (compareOn port) := rfl

instance transCmp_compare : Std.TransCmp compare := by
  have addresses : Std.TransCmp fun left right : Endpoint => left.address.compare right.address :=
    inferInstanceAs (Std.TransCmp (compareOn fun endpoint : Endpoint => endpoint.address.octets))
  rw [compare_eq_compareLex]
  infer_instance

theorem same_eq_true_iff {left right : Endpoint} :
    left.same right = true ↔ left.address = right.address ∧ left.port = right.port := by
  simp only [same, Bool.and_eq_true, beq_iff_eq]

theorem compare_eq_iff {left right : Endpoint} :
    left.compare right = .eq ↔ left.same right = true := by
  rw [same_eq_true_iff, compare, Ordering.then_eq_eq, Address.compare_eq_iff,
    Std.LawfulEqOrd.compare_eq_iff_eq]

end Endpoint

end IPv6
