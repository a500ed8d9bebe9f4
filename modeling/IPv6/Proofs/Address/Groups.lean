import IPv6.Address.Basic
/-!
Eight groups and sixteen octets are two views of the same address.
-/

namespace IPv6.Address

theorem bigEndian_two (number : Nat) :
    Octets.bigEndian 2 number = [UInt8.ofNat (number / 256), UInt8.ofNat number] := rfl

theorem groupsOf_octetsOfGroups (groups : List UInt16) :
    groupsOf (octetsOfGroups groups) = groups := by
  induction groups with
  | nil => rfl
  | cons group rest ih =>
    have bound := group.toNat_lt
    have high : (UInt8.ofNat (group.toNat / 256)).toNat = group.toNat / 256 := by
      rw [UInt8.toNat_ofNat']
      omega
    have low : (UInt8.ofNat group.toNat).toNat = group.toNat % 256 := UInt8.toNat_ofNat'
    have whole : 256 * (group.toNat / 256) + group.toNat % 256 = group.toNat :=
      Nat.div_add_mod group.toNat 256
    have unfolded : octetsOfGroups (group :: rest) =
        UInt8.ofNat (group.toNat / 256) :: UInt8.ofNat group.toNat :: octetsOfGroups rest := by
      rw [octetsOfGroups, List.flatMap_cons, bigEndian_two]
      rfl
    rw [unfolded, groupsOf, high, low, whole, UInt16.ofNat_toNat, ih]

theorem octetsOfGroups_groupsOf (octets : Octets) (even : octets.length % 2 = 0) :
    octetsOfGroups (groupsOf octets) = octets := by
  fun_induction groupsOf octets with
  | case1 high low rest ih =>
    have others : rest.length % 2 = 0 := by
      simp only [List.length_cons] at even
      omega
    have first := high.toNat_lt
    have second := low.toNat_lt
    have whole : (UInt16.ofNat (256 * high.toNat + low.toNat)).toNat =
        256 * high.toNat + low.toNat := by
      rw [UInt16.toNat_ofNat']
      omega
    have quotient : (256 * high.toNat + low.toNat) / 256 = high.toNat := by omega
    have remainder : UInt8.ofNat (256 * high.toNat + low.toNat) = low := by
      apply UInt8.toNat_inj.mp
      rw [UInt8.toNat_ofNat']
      omega
    have unfolded := ih others
    rw [octetsOfGroups] at unfolded
    rw [octetsOfGroups, List.flatMap_cons, whole, bigEndian_two, quotient, remainder,
      UInt8.ofNat_toNat, unfolded]
    rfl
  | case2 octets short =>
    cases octets with
    | nil => rfl
    | cons first rest =>
      cases rest with
      | nil => cases even
      | cons second more => exact absurd rfl (short first second more)

theorem length_groupsOf (octets : Octets) : (groupsOf octets).length = octets.length / 2 := by
  fun_induction groupsOf octets with
  | case1 high low rest ih =>
    simp only [List.length_cons, ih]
    omega
  | case2 octets short =>
    cases octets with
    | nil => rfl
    | cons first rest =>
      cases rest with
      | nil => simp
      | cons second more => exact absurd rfl (short first second more)

theorem groupsOf_take (count : Nat) (octets : Octets) :
    groupsOf (octets.take (2 * count)) = (groupsOf octets).take count := by
  induction count generalizing octets with
  | zero => rfl
  | succ count ih =>
    match octets with
    | [] => simp [groupsOf]
    | [_] => simp [groupsOf, Nat.mul_succ]
    | high :: low :: rest => simpa [groupsOf, Nat.mul_succ] using ih rest

theorem groupsOf_drop (count : Nat) (octets : Octets) :
    groupsOf (octets.drop (2 * count)) = (groupsOf octets).drop count := by
  induction count generalizing octets with
  | zero => rfl
  | succ count ih =>
    match octets with
    | [] => simp [groupsOf]
    | [_] => simp [groupsOf, Nat.mul_succ]
    | high :: low :: rest => simpa [groupsOf, Nat.mul_succ] using ih rest

@[simp] theorem length_groups (address : Address) : address.groups.length = 8 := by
  rw [groups, length_groupsOf, address.length_octets]

theorem octetsOfGroups_groups (address : Address) :
    octetsOfGroups address.groups = address.octets :=
  octetsOfGroups_groupsOf address.octets (by rw [address.length_octets])

theorem ofGroups?_eq_some_iff (groups : List UInt16) (address : Address) :
    ofGroups? groups = some address ↔ groups = address.groups := by
  constructor
  · intro made
    unfold ofGroups? at made
    split at made
    case isTrue => rw [← Option.some.inj made, Address.groups, groupsOf_octetsOfGroups]
    case isFalse => cases made
  · intro same
    subst same
    rw [ofGroups?, dif_pos (length_groups address)]
    exact congrArg some (ext_octets (octetsOfGroups_groups address))

end IPv6.Address
