import IPv6.Proofs.Address.NormalForm
import IPv6.Proofs.Address.Prefixes
/-!
IPv4 addresses inside of addresses. Three rules say where one stands: the classes by the leading octets,
the printer by the longest run of zero groups, the reader by the points in the text. They agree on every
address; only the compatible addresses below `::1:0` are printed without points.
-/

namespace IPv6.Address

/-! ## Leading groups -/

section Prefix

variable (groups : List UInt16)

theorem replicate_prefix_iff (count : Nat) :
    List.replicate count 0 <+: groups ↔ ∀ index < count, groups[index]? = some 0 := by
  rw [List.prefix_iff_getElem?]
  simp

theorem concat_prefix_iff (lead : List UInt16) (last : UInt16) :
    lead ++ [last] <+: groups ↔ lead <+: groups ∧ groups[lead.length]? = some last := by
  constructor
  · rintro ⟨rest, rfl⟩
    simp
  · rintro ⟨⟨rest, rfl⟩, place⟩
    cases rest with
    | nil => simp at place
    | cons group rest =>
      have same : group = last := by simpa using place
      exact ⟨rest, by rw [same, List.append_assoc]; rfl⟩

end Prefix

variable (address : Address)

/-- Leading groups are leading octets. -/
theorem prefix_groups_iff (lead : List UInt16) :
    address.octets.take (2 * lead.length) = octetsOfGroups lead ↔ lead <+: address.groups := by
  have even : (address.octets.take (2 * lead.length)).length % 2 = 0 := by
    rw [List.length_take, address.length_octets]
    omega
  rw [List.prefix_iff_eq_take, groups, ← groupsOf_take]
  constructor
  · intro same
    rw [same, groupsOf_octetsOfGroups]
  · intro same
    rw [← octetsOfGroups_groupsOf _ even, ← same]

theorem isIPv4Mapped_iff_groups :
    address.isIPv4Mapped = true ↔
      (∀ index < 5, address.groups[index]? = some 0) ∧ address.groups[5]? = some 0xffff := by
  rw [isIPv4Mapped, beq_iff_eq, ← replicate_prefix_iff]
  exact (prefix_groups_iff address (List.replicate 5 0 ++ [0xffff])).trans (concat_prefix_iff _ _ _)

theorem take_zeros_iff_groups :
    address.octets.take 12 = Octets.zeros 12 ↔ ∀ index < 6, address.groups[index]? = some 0 := by
  rw [← replicate_prefix_iff]
  exact prefix_groups_iff address (List.replicate 6 0)

theorem getElem?_groups_six :
    address.groups[6]? = some (UInt16.ofNat (address.toNat % 2 ^ 32 / 2 ^ 16)) := by
  have four := length_ipv4Octets address
  rw [← readBigEndian_ipv4Octets, ← Nat.add_zero 6, ← List.getElem?_drop, drop_groups_six]
  match address.ipv4Octets, four with
  | [first, second, third, fourth], _ =>
    have bound := third.toNat_lt
    have bound' := fourth.toNat_lt
    have high : Octets.readBigEndian [first, second, third, fourth] / 2 ^ 16 =
        256 * first.toNat + second.toNat := by
      simp only [Octets.readBigEndian, List.reverse_cons, List.reverse_nil, List.nil_append,
        List.cons_append, Octets.readLittleEndian]
      omega
    rw [high]
    rfl

/-- The seventh group holds the upper half of the low thirty-two bits. -/
theorem getElem?_groups_six_ne_zero_iff :
    address.groups[6]? ≠ some 0 ↔ 2 ^ 16 ≤ address.toNat % 2 ^ 32 := by
  have bound := Nat.mod_lt address.toNat (Nat.two_pow_pos 32)
  rw [getElem?_groups_six, ne_eq, Option.some.injEq, ← UInt16.toNat_inj, UInt16.toNat_ofNat']
  simp only [UInt16.toNat_zero]
  omega

theorem takesDots_iff_class :
    TakesDots address.groups ↔ address.isIPv4Mapped = true ∨
      address.isIPv4Compatible = true ∧ 2 ^ 16 ≤ address.toNat % 2 ^ 32 := by
  have part := Nat.mod_le address.toNat (2 ^ 32)
  rw [isIPv4Mapped_iff_groups, TakesDots, ← take_zeros_iff_groups, take_zeros_iff,
    isIPv4Compatible_iff, getElem?_groups_six_ne_zero_iff, or_comm]
  -- a seventh group that is not zero makes the number more than one
  apply or_congr_right
  omega

/-! ## Dotted texts -/

theorem dottedOctets_ipv4 : DottedOctets (dottedText address.ipv4Octets) address.ipv4Octets :=
  dottedOctets_dottedText _ (length_ipv4Octets address)

theorem groups_eq_append {lead : List UInt16} (six : lead.length = 6)
    (stands : lead <+: address.groups) : address.groups = lead ++ groupsOf address.ipv4Octets := by
  rw [List.prefix_iff_eq_take, six] at stands
  calc
    address.groups = address.groups.take 6 ++ address.groups.drop 6 :=
      (List.take_append_drop 6 address.groups).symm
    _ = lead ++ groupsOf address.ipv4Octets := by rw [← stands, drop_groups_six]

/-- Zero groups, then some groups, then an IPv4 address: the zeros may be written as a gap and the IPv4
address with points, whichever way the printer chooses. -/
theorem spells_embedded (right : List UInt16) (few : right.length ≤ 5)
    (stands : List.replicate (6 - right.length) 0 ++ right <+: address.groups) :
    Spells ([':', ':'] ++ Text.join [':'] (right.map groupText ++ [dottedText address.ipv4Octets]))
      address.groups := by
  have hex : List.Forall₂ HexGroup (right.map groupText) right := by
    rw [List.forall₂_map_left_iff, List.forall₂_same]
    exact fun group _ => hexGroup_groupText group
  have two : (groupsOf address.ipv4Octets).length = 2 := by
    rw [length_groupsOf, length_ipv4Octets]
  have whole : address.groups =
      List.replicate (6 - right.length) 0 ++ right ++ groupsOf address.ipv4Octets := by
    apply groups_eq_append address _ stands
    rw [List.length_append, List.length_replicate]
    omega
  refine ⟨⟨[], some (right.map groupText), some (dottedText address.ipv4Octets)⟩, rfl, ?_⟩
  have count : ([] : List UInt16).length + (right ++ groupsOf address.ipv4Octets).length ≤ 7 := by
    rw [List.length_append, two, List.length_nil]
    omega
  have denotes := Writing.Denotes.gapped .nil hex (.dotted (dottedOctets_ipv4 address)) count
  have zeros : 8 - (([] : List UInt16).length + (right ++ groupsOf address.ipv4Octets).length) =
      6 - right.length := by
    rw [List.length_append, two, List.length_nil]
    omega
  rw [zeros, List.nil_append, ← List.append_assoc, ← whole] at denotes
  exact denotes

theorem chars_of_mapped (mapped : address.isIPv4Mapped = true) :
    address.chars = "::ffff:".toList ++ dottedText address.ipv4Octets := by
  rcases (isIPv4Mapped_iff_groups address).mp mapped with ⟨zeros, ones⟩
  have first := Run.longestRun_isFirstLongest address.groups
  have next : address.groups[5]? ≠ some 0 := by
    rw [ones]
    decide
  have zero : Run.IsZero ⟨0, 5⟩ address.groups := by
    simpa only [Run.IsZero, Nat.zero_add] using zeros
  have run := eq_of_lead first (length_groups address) 5 (by decide) zero next
  apply chars_of_dottedLead
  · rw [run]
    decide
  · rw [run, dottedLead?, if_neg (by decide), if_pos ⟨rfl, ones⟩]

theorem chars_of_compatible (compatible : address.isIPv4Compatible = true)
    (large : 2 ^ 16 ≤ address.toNat % 2 ^ 32) :
    address.chars = "::".toList ++ dottedText address.ipv4Octets := by
  have low := ((isIPv4Compatible_iff address).mp compatible).2
  have zeros := (take_zeros_iff_groups address).mp ((take_zeros_iff address).mpr low)
  have first := Run.longestRun_isFirstLongest address.groups
  have zero : Run.IsZero ⟨0, 6⟩ address.groups := by
    simpa only [Run.IsZero, Nat.zero_add] using zeros
  have run := eq_of_lead first (length_groups address) 6 (by decide) zero
    ((getElem?_groups_six_ne_zero_iff address).mpr large)
  apply chars_of_dottedLead
  · rw [run]
    decide
  · rw [run, dottedLead?, if_pos rfl]
    rfl

theorem point_not_mem_join {fields : List (List Char)} {groups : List UInt16}
    (each : List.Forall₂ HexGroup fields groups) : '.' ∉ Text.join [':'] fields := by
  apply not_mem_join '.' ':' fields (by decide)
  intro field member
  rcases exists_of_mem each member with ⟨group, hex⟩
  exact hex.numeral.not_mem (fun _ _ digit => digit.lt) '.' (by decide)

theorem Writing.Denotes.point_not_mem {writing : Writing} {groups : List UInt16}
    (denotes : writing.Denotes groups) (plain : writing.dotted? = none) : '.' ∉ writing.text := by
  cases denotes with
  | full hex tail count =>
    subst plain
    simpa [Writing.text] using point_not_mem_join hex
  | gapped hexBefore hexAfter tail count =>
    subst plain
    simp [Writing.text, point_not_mem_join hexBefore, point_not_mem_join hexAfter]

theorem point_mem_dottedText : '.' ∈ dottedText address.ipv4Octets := by
  apply mem_join
  rw [List.length_map, length_ipv4Octets]
  decide

theorem point_mem_chars_iff :
    '.' ∈ address.chars ↔ address.isIPv4Mapped = true ∨
      address.isIPv4Compatible = true ∧ 2 ^ 16 ≤ address.toNat % 2 ^ 32 := by
  constructor
  · intro point
    rw [← takesDots_iff_class]
    rcases canonicalFor_chars address with ⟨writing, same, canonical⟩
    rw [← canonical.dotted_iff]
    by_contra plain
    rw [Option.not_isSome_iff_eq_none] at plain
    rw [← same] at point
    exact canonical.denotes.point_not_mem plain point
  · rintro (mapped | ⟨compatible, large⟩)
    · rw [chars_of_mapped address mapped]
      exact List.mem_append_right _ (point_mem_dottedText address)
    · rw [chars_of_compatible address compatible large]
      exact List.mem_append_right _ (point_mem_dottedText address)

/-! ## Embedded addresses -/

def dotted : String := String.ofList (dottedText address.ipv4Octets)

theorem toList_lead_dotted (lead : String) :
    (lead ++ dotted address).toList = lead.toList ++ dottedText address.ipv4Octets := by
  rw [String.toList_append, dotted, String.toList_ofList]

theorem textOfOctets_of_chars {lead : String}
    (printed : address.chars = lead.toList ++ dottedText address.ipv4Octets) :
    textOfOctets address.octets = .ok (lead ++ dotted address) := by
  rw [textOfOctets_octets, Except.ok.injEq, ← String.toList_inj, toList_text, toList_lead_dotted,
    printed]

theorem ipv4Text_of_embeds (embeds : address.embedsIPv4 = true) :
    ipv4Text address = .ok (dotted address) := by
  rw [ipv4Text, ipv4Text?, if_pos embeds]
  rfl

theorem ipv4Text_of_not_embeds (plain : address.embedsIPv4 = false) :
    ipv4Text address = refuse (.noIPv4 address) := by
  rw [ipv4Text, ipv4Text?, plain]
  rfl

theorem ipv4Text_eq_refused_iff :
    (∃ refusal, ipv4Text address = .error (.refused refusal) ∧ refusal.kind = .invalidArgument) ↔
      address.isIPv4Mapped = false ∧ address.isIPv4Compatible = false := by
  rw [← Bool.or_eq_false_iff]
  change _ ↔ address.embedsIPv4 = false
  constructor
  · rintro ⟨refusal, refused, _⟩
    by_contra embeds
    rw [Bool.not_eq_false] at embeds
    rw [ipv4Text_of_embeds address embeds] at refused
    cases refused
  · intro plain
    exact ⟨.noIPv4 address, ipv4Text_of_not_embeds address plain, rfl⟩

theorem readText_mapped (mapped : address.isIPv4Mapped = true) :
    readText ("::ffff:" ++ dotted address) = .ok address := by
  have stands : List.replicate 5 0 ++ [0xffff] <+: address.groups := by
    rw [concat_prefix_iff, replicate_prefix_iff]
    exact (isIPv4Mapped_iff_groups address).mp mapped
  have spelled := spells_embedded address [0xffff] (by decide) stands
  rw [readText_eq_ok_iff, toList_lead_dotted]
  rw [List.map_singleton, groupText_ones] at spelled
  exact spelled

theorem readText_compatible (compatible : address.isIPv4Compatible = true) :
    readText ("::" ++ dotted address) = .ok address := by
  have low := ((isIPv4Compatible_iff address).mp compatible).2
  have stands : List.replicate 6 0 ++ [] <+: address.groups := by
    rw [List.append_nil, replicate_prefix_iff]
    exact (take_zeros_iff_groups address).mp ((take_zeros_iff address).mpr low)
  have spelled := spells_embedded address [] (by decide) stands
  rw [readText_eq_ok_iff, toList_lead_dotted]
  exact spelled

/-- The classes, the printer and the reader agree on where an IPv4 address stands: its text is there for
the mapped and the compatible addresses, it reads back behind the lead of the class, and it is what is
printed unless the compatible address has a short hexadecimal text. -/
theorem embedded_ipv4_agrees :
    ((∃ refusal, ipv4Text address = .error (.refused refusal) ∧ refusal.kind = .invalidArgument) ↔
      address.isIPv4Mapped = false ∧ address.isIPv4Compatible = false) ∧
    (address.isIPv4Mapped = true → ∃ dotted, ipv4Text address = .ok dotted ∧
      DottedOctets dotted.toList address.ipv4Octets ∧
      ofTextValue (.text ("::ffff:" ++ dotted)) = .ok address ∧
      textOfOctets address.octets = .ok ("::ffff:" ++ dotted)) ∧
    (address.isIPv4Compatible = true → ∃ dotted, ipv4Text address = .ok dotted ∧
      DottedOctets dotted.toList address.ipv4Octets ∧
      ofTextValue (.text ("::" ++ dotted)) = .ok address ∧
      (2 ^ 16 ≤ address.toNat % 2 ^ 32 → textOfOctets address.octets = .ok ("::" ++ dotted))) ∧
    ∃ text, textOfOctets address.octets = .ok text ∧
      ('.' ∈ text.toList ↔ address.isIPv4Mapped = true ∨
        address.isIPv4Compatible = true ∧ 2 ^ 16 ≤ address.toNat % 2 ^ 32) := by
  have spelled : DottedOctets (dotted address).toList address.ipv4Octets := by
    rw [dotted, String.toList_ofList]
    exact dottedOctets_ipv4 address
  refine ⟨ipv4Text_eq_refused_iff address, ?_, ?_, address.text, textOfOctets_octets address, ?_⟩
  · intro mapped
    have embeds : address.embedsIPv4 = true := by rw [embedsIPv4, mapped, Bool.true_or]
    exact ⟨dotted address, ipv4Text_of_embeds address embeds, spelled,
      readText_mapped address mapped, textOfOctets_of_chars address (chars_of_mapped address mapped)⟩
  · intro compatible
    have embeds : address.embedsIPv4 = true := by rw [embedsIPv4, compatible, Bool.or_true]
    refine ⟨dotted address, ipv4Text_of_embeds address embeds, spelled,
      readText_compatible address compatible, ?_⟩
    intro large
    exact textOfOctets_of_chars address (chars_of_compatible address compatible large)
  · rw [toList_text]
    exact point_mem_chars_iff address

theorem embedded_ipv4_agrees_short :
    (∃ dotted, ipv4Text (ofNat 0xffffc0000201) = .ok dotted ∧
      textOfOctets (ofNat 0xffffc0000201).octets = .ok ("::ffff:" ++ dotted)) ∧
    (∃ dotted, ipv4Text (ofNat 0x10000) = .ok dotted ∧
      textOfOctets (ofNat 0x10000).octets = .ok ("::" ++ dotted)) ∧
    (∃ dotted, ipv4Text (ofNat 2) = .ok dotted ∧
      ofTextValue (.text ("::" ++ dotted)) = .ok (ofNat 2)) ∧
    ∃ text, textOfOctets (ofNat 2).octets = .ok text ∧ '.' ∉ text.toList := by
  rcases embedded_ipv4_agrees (ofNat 0xffffc0000201) with ⟨_, mapped, _, _⟩
  rcases embedded_ipv4_agrees (ofNat 0x10000) with ⟨_, _, large, _⟩
  rcases embedded_ipv4_agrees (ofNat 2) with ⟨_, _, small, text, printed, point⟩
  rcases mapped (by decide) with ⟨dotted, written, _, _, shown⟩
  rcases large (by decide) with ⟨dotted', written', _, _, shown'⟩
  rcases small (by decide) with ⟨dotted'', written'', _, read'', _⟩
  refine ⟨⟨dotted, written, shown⟩, ⟨dotted', written', shown' (by decide)⟩,
    ⟨dotted'', written'', read''⟩, text, printed, ?_⟩
  rw [point]
  decide

end IPv6.Address
