import IPv6.Proofs.Address.Canonical
/-!
The printed text of an address is canonical, short enough and read back; it is the only canonical text
of the address.
-/

namespace IPv6.Address

/-! ## The printed writing -/

/-- A run that covers more than half of the groups from the first on, and no further, is the longest:
a longer one would cover the group after it. -/
theorem eq_of_lead {groups : List UInt16} {run : Run} (first : run.IsFirstLongest groups)
    (eight : groups.length = 8) (length : Nat) (most : 4 < length)
    (zero : Run.IsZero ⟨0, length⟩ groups) (next : groups[length]? ≠ some 0) :
    run = ⟨0, length⟩ := by
  have long : length ≤ run.length := first.longest ⟨0, length⟩ zero
  have bound := first.zero.bound (by omega)
  have same : length = run.length := by
    by_contra longer
    have inside := first.zero (length - run.start) (by omega)
    have place : run.start + (length - run.start) = length := by omega
    rw [place] at inside
    exact next inside
  have start : run.start ≤ 0 := first.first ⟨0, length⟩ zero same
  obtain ⟨_, _⟩ := run
  rw [Run.mk.injEq]
  exact ⟨Nat.le_zero.mp start, same.symm⟩

theorem takesDots_iff {groups : List UInt16} {run : Run} (first : run.IsFirstLongest groups)
    (eight : groups.length = 8) :
    TakesDots groups ↔ run = ⟨0, 6⟩ ∨ run = ⟨0, 5⟩ ∧ groups[5]? = some 0xffff := by
  have lead : ∀ length, (∀ index < length, groups[index]? = some 0) ↔
      Run.IsZero ⟨0, length⟩ groups := by
    intro length
    simp only [Run.IsZero, Nat.zero_add]
  rw [TakesDots, lead, lead]
  constructor
  · intro dots
    rcases dots with ⟨zero, next⟩ | ⟨zero, ones⟩
    · exact .inl (eq_of_lead first eight 6 (by decide) zero next)
    · have next : groups[5]? ≠ some 0 := by
        rw [ones]
        decide
      exact .inr ⟨eq_of_lead first eight 5 (by decide) zero next, ones⟩
  · intro runs
    rcases runs with rfl | ⟨rfl, ones⟩
    · refine .inl ⟨first.zero, ?_⟩
      intro next
      have longer : Run.IsZero ⟨0, 7⟩ groups := by
        intro index within
        have below : index < 7 := within
        by_cases last : index = 6
        · rw [last]
          exact next
        · have inner : index < 6 := by omega
          exact first.zero index inner
      exact absurd (first.longest ⟨0, 7⟩ longer) (by decide)
    · exact .inr ⟨first.zero, ones⟩

theorem isCanonical_gapped {groups : List UInt16} {run : Run} {dotted? : Option (List Char)}
    (left right : List UInt16) {low : List UInt16}
    (split : groups = left ++ List.replicate run.length 0 ++ (right ++ low))
    (start : left.length = run.start) (eight : groups.length = 8)
    (first : run.IsFirstLongest groups) (long : 2 ≤ run.length) (tail : DottedTail dotted? low)
    (dots : dotted?.isSome ↔ TakesDots groups) :
    Writing.IsCanonical ⟨left.map groupText, some (right.map groupText), dotted?⟩ groups := by
  have spelled : ∀ part : List UInt16, List.Forall₂ HexGroup (part.map groupText) part := by
    intro part
    rw [List.forall₂_map_left_iff, List.forall₂_same]
    exact fun group _ => hexGroup_groupText group
  have total : left.length + run.length + (right.length + low.length) = 8 := by
    rw [← eight, split]
    simp only [List.length_append, List.length_replicate]
  have count : left.length + (right ++ low).length ≤ 7 := by
    rw [List.length_append]
    omega
  have denotes : Writing.Denotes ⟨left.map groupText, some (right.map groupText), dotted?⟩
      groups := by
    have zeros : run.length = 8 - (left.length + (right ++ low).length) := by
      rw [List.length_append]
      omega
    rw [split, zeros]
    exact .gapped (spelled left) (spelled right) tail count
  have stands : Writing.run ⟨left.map groupText, some (right.map groupText), dotted?⟩ = run := by
    obtain ⟨_, _⟩ := run
    have lows := tail.length_eq
    simp only [Writing.run, Writing.hexFields, Option.getD_some, List.length_append,
      List.length_map, Run.mk.injEq] at total start ⊢
    omega
  refine ⟨denotes, ?_, denotes.gap_once, ?_, fun _ => stands ▸ first, dots⟩
  · intro field member
    rw [Writing.hexFields, Option.getD_some, ← List.map_append] at member
    obtain ⟨group, _, rfl⟩ := List.mem_map.mp member
    exact plainHex_groupText group
  · rw [denotes.hasGap_iff]
    exact ⟨fun _ => ⟨run, long, first.zero⟩, fun _ => rfl⟩

theorem isCanonical_full {groups : List UInt16} {run : Run} (eight : groups.length = 8)
    (first : run.IsFirstLongest groups) (short : run.length < 2) :
    Writing.IsCanonical ⟨groups.map groupText, none, none⟩ groups := by
  have denotes : Writing.Denotes ⟨groups.map groupText, none, none⟩ groups := by
    have hex : List.Forall₂ HexGroup (groups.map groupText) groups := by
      rw [List.forall₂_map_left_iff, List.forall₂_same]
      exact fun group _ => hexGroup_groupText group
    simpa using Writing.Denotes.full hex .absent eight
  refine ⟨denotes, ?_, denotes.gap_once, ?_, ?_, ?_⟩
  · intro field member
    obtain ⟨group, _, rfl⟩ := List.mem_map.mp (by simpa [Writing.hexFields] using member)
    exact plainHex_groupText group
  · rw [denotes.hasGap_iff]
    constructor
    · intro gap
      cases gap
    · intro zeros
      rcases zeros with ⟨other, long, zero⟩
      have bound := first.longest other zero
      omega
  · intro gap
    cases gap
  · rw [takesDots_iff first eight]
    constructor
    · intro dots
      cases dots
    · intro runs
      rcases runs with rfl | ⟨rfl, -⟩
      · exact absurd short (by decide)
      · exact absurd short (by decide)

theorem groupText_ones : groupText 0xffff = "ffff".toList := by
  have hex : HexGroup "ffff".toList 0xffff := by
    refine ⟨by decide, by decide, [15, 15, 15, 15], ?_, rfl⟩
    repeat' first | exact .nil | refine .cons (by decide) ?_
  have plain : PlainHex "ffff".toList := by
    refine ⟨?_, by decide⟩
    intro char member
    have same : char = 'f' := by simpa using member
    rw [same]
    decide
  exact (hex.eq_groupText plain).symm

theorem canonicalFor_short (address : Address) (short : (longestRun address.groups).length < 2) :
    CanonicalFor address.chars address.groups := by
  have first := Run.longestRun_isFirstLongest address.groups
  refine ⟨⟨address.groups.map groupText, none, none⟩, ?_,
    isCanonical_full (length_groups address) first short⟩
  simp only [chars, short, if_true, Writing.text, Option.toList_none, List.append_nil, groupsText]

theorem canonicalFor_gap (address : Address) (long : 2 ≤ (longestRun address.groups).length)
    (plain : dottedLead? address.groups (longestRun address.groups) = none) :
    CanonicalFor address.chars address.groups := by
  have first := Run.longestRun_isFirstLongest address.groups
  have bound := first.zero.bound (Nat.le_trans (by decide) long)
  have split := first.zero.split
  have printed : address.chars = gapText address.groups (longestRun address.groups) := by
    have longer : ¬ (longestRun address.groups).length < 2 := Nat.not_lt_of_le long
    simp only [chars, longer, if_false, plain]
  rw [printed]
  generalize longestRun address.groups = run at *
  refine ⟨⟨(address.groups.take run.start).map groupText,
    some ((address.groups.drop (run.start + run.length)).map groupText), none⟩, ?_, ?_⟩
  · simp only [Writing.text, gapText, groupsText, Option.toList_none, List.append_nil]
  · refine isCanonical_gapped _ _ ?_ ?_ (length_groups address) first long .absent ?_
    · rwa [List.append_nil]
    · rw [List.length_take]
      omega
    · rw [takesDots_iff first (length_groups address)]
      constructor
      · intro dots
        cases dots
      · unfold dottedLead? at plain
        intro runs
        rcases runs with six | five
        · rw [if_pos six] at plain
          cases plain
        · have apart : run ≠ ⟨0, 6⟩ := by
            rw [five.1]
            decide
          rw [if_neg apart, if_pos five] at plain
          cases plain

/-- The last two groups are the octets of an IPv4 address. -/
theorem drop_groups_six (address : Address) :
    address.groups.drop 6 = groupsOf address.ipv4Octets :=
  (groupsOf_drop 6 address.octets).symm

theorem chars_of_dottedLead (address : Address) {lead : List Char}
    (long : 2 ≤ (longestRun address.groups).length)
    (found : dottedLead? address.groups (longestRun address.groups) = some lead) :
    address.chars = lead ++ dottedText address.ipv4Octets := by
  have longer : ¬ (longestRun address.groups).length < 2 := Nat.not_lt_of_le long
  simp only [chars, longer, if_false, found]

theorem canonicalFor_dotted (address : Address) (lead : List Char)
    (found : dottedLead? address.groups (longestRun address.groups) = some lead) :
    CanonicalFor address.chars address.groups := by
  have first := Run.longestRun_isFirstLongest address.groups
  have dots := takesDots_iff first (length_groups address)
  have split := first.zero.split
  have low := drop_groups_six address
  have tail : DottedTail (some (dottedText address.ipv4Octets)) (groupsOf address.ipv4Octets) := by
    apply DottedTail.dotted
    exact dottedOctets_dottedText _ (length_ipv4Octets address)
  have printed : 2 ≤ (longestRun address.groups).length →
      address.chars = lead ++ dottedText address.ipv4Octets :=
    fun long => chars_of_dottedLead address long found
  generalize longestRun address.groups = run at *
  unfold dottedLead? at found
  split at found
  case isTrue six =>
    subst six
    cases found
    rw [printed (by decide)]
    refine ⟨⟨[], some [], some (dottedText address.ipv4Octets)⟩, rfl, ?_⟩
    refine isCanonical_gapped [] [] ?_ rfl (length_groups address) first
      (by decide) tail ?_
    · rwa [List.nil_append, ← low]
    · rw [dots]
      exact ⟨fun _ => .inl rfl, fun _ => rfl⟩
  case isFalse =>
    split at found
    case isFalse => cases found
    case isTrue five =>
      obtain ⟨rfl, ones⟩ := five
      cases found
      rw [printed (by decide)]
      have rest : address.groups.drop 5 = 0xffff :: address.groups.drop 6 := by
        obtain ⟨within, same⟩ := List.getElem?_eq_some_iff.mp ones
        rw [List.drop_eq_getElem_cons within, same]
      refine ⟨⟨[], some ["ffff".toList], some (dottedText address.ipv4Octets)⟩, ?_, ?_⟩
      · simp [Writing.text, Text.join]
      · rw [← groupText_ones]
        refine isCanonical_gapped [] [0xffff] ?_ rfl (length_groups address)
          first (by decide) tail ?_
        · rw [List.singleton_append, ← low, ← rest]
          exact split
        · rw [dots]
          exact ⟨fun _ => .inr ⟨rfl, ones⟩, fun _ => rfl⟩

theorem canonicalFor_chars (address : Address) : CanonicalFor address.chars address.groups := by
  by_cases short : (longestRun address.groups).length < 2
  · exact canonicalFor_short address short
  · cases found : dottedLead? address.groups (longestRun address.groups) with
    | none => exact canonicalFor_gap address (Nat.le_of_not_lt short) found
    | some lead => exact canonicalFor_dotted address lead found

/-! ## Lengths -/

theorem length_groupsText_le (groups : List UInt16) :
    (groupsText groups).length ≤ groups.length * 4 + (groups.length - 1) := by
  have fields : ∀ field ∈ groups.map groupText, field.length ≤ 4 := by
    intro field member
    obtain ⟨group, _, rfl⟩ := List.mem_map.mp member
    exact length_groupText group
  simpa [groupsText] using Text.length_join_le ':' 4 (groups.map groupText) fields

theorem length_dottedText_le (octets : Octets) :
    (dottedText octets).length ≤ octets.length * 3 + (octets.length - 1) := by
  have parts : ∀ part ∈ octets.map fun octet => Text.Decimal.ofNat octet.toNat,
      part.length ≤ 3 := by
    intro part member
    obtain ⟨octet, _, rfl⟩ := List.mem_map.mp member
    exact length_decimal octet
  simpa [dottedText] using Text.length_join_le '.' 3 _ parts

theorem length_dottedLead?_le {groups : List UInt16} {run : Run} {lead : List Char}
    (found : dottedLead? groups run = some lead) : lead.length ≤ 7 := by
  unfold dottedLead? at found
  split at found
  case isTrue =>
    cases found
    decide
  case isFalse =>
    split at found
    case isTrue =>
      cases found
      decide
    case isFalse => cases found

theorem length_chars_le (address : Address) : address.chars.length ≤ 39 := by
  have eight := length_groups address
  unfold chars
  simp only
  split
  case isTrue =>
    have whole := length_groupsText_le address.groups
    omega
  case isFalse long =>
    have first := Run.longestRun_isFirstLongest address.groups
    have bound := first.zero.bound (by omega)
    split
    case h_1 lead found =>
      have front := length_dottedLead?_le found
      have back := length_dottedText_le address.ipv4Octets
      have four := length_ipv4Octets address
      rw [List.length_append]
      omega
    case h_2 =>
      have front := length_groupsText_le (address.groups.take (longestRun address.groups).start)
      have back := length_groupsText_le (address.groups.drop
        ((longestRun address.groups).start + (longestRun address.groups).length))
      simp only [List.length_take, List.length_drop] at front back
      simp only [gapText, List.length_append, List.length_cons, List.length_nil]
      omega

/-! ## Texts of addresses -/

theorem textOfOctets_octets (address : Address) :
    textOfOctets address.octets = .ok address.text := by
  have room : address.chars.length < textRoom :=
    Nat.lt_of_le_of_lt (length_chars_le address) (by decide)
  rw [textOfOctets, ofOctets?, dif_pos address.length_octets]
  exact if_pos room

theorem toList_text (address : Address) : address.text.toList = address.chars :=
  String.toList_ofList

theorem CanonicalFor.spells {text : List Char} {groups : List UInt16}
    (canonical : CanonicalFor text groups) : Spells text groups := by
  obtain ⟨writing, same, all⟩ := canonical
  exact ⟨writing, same, all.denotes⟩

theorem read?_chars (address : Address) : read? address.chars = some address :=
  (read?_eq_some_iff _ address).mpr (canonicalFor_chars address).spells

theorem readText_text (address : Address) : readText address.text = .ok address := by
  rw [readText, ofText?, toList_text, read?_chars]

theorem ofValue_octets (kind : OctetsKind) (octets : Octets) (sixteen : octets.length = 16) :
    ofValue (.octets kind octets) = .ok ⟨octets, sixteen⟩ := by
  show ofPayload (.literal octets) = _
  rw [ofPayload, Payload.size, if_pos sixteen, Payload.octets, ofOctets?, dif_pos sixteen]

theorem text_injective {left right : Address} (same : left.text = right.text) : left = right := by
  have read := readText_text left
  rw [same, readText_text right] at read
  exact (Except.ok.inj read).symm

theorem sixteen_octets_written_and_read :
    (∀ (kind : OctetsKind) (octets : Octets), octets.length = 16 →
      ∃ address text, ofValue (.octets kind octets) = .ok address ∧
        textOfOctets address.octets = .ok text ∧ ofTextValue (.text text) = .ok address ∧
        address.octets = octets) ∧
    (∀ left right : Address, textOfOctets left.octets = textOfOctets right.octets →
      left = right) ∧
    (∀ text address, ofTextValue (.text text) = .ok address →
      ∃ written, textOfOctets address.octets = .ok written ∧
        ofTextValue (.text written) = .ok address) := by
  refine ⟨?_, ?_, ?_⟩
  · intro kind octets sixteen
    exact ⟨⟨octets, sixteen⟩, _, ofValue_octets kind octets sixteen, textOfOctets_octets _,
      readText_text _, rfl⟩
  · intro left right same
    rw [textOfOctets_octets, textOfOctets_octets, Except.ok.injEq] at same
    exact text_injective same
  · intro text address _
    exact ⟨address.text, textOfOctets_octets address, readText_text address⟩

theorem sixteen_octets_written_and_read_mapped :
    (∃ address text,
      ofValue (.octets .constant (Octets.zeros 10 ++ [0xff, 0xff, 192, 0, 2, 1])) = .ok address ∧
        textOfOctets address.octets = .ok text ∧ ofTextValue (.text text) = .ok address ∧
        address.octets = Octets.zeros 10 ++ [0xff, 0xff, 192, 0, 2, 1]) ∧
    (∃ written, textOfOctets loopback.octets = .ok written ∧
      ofTextValue (.text written) = .ok loopback) :=
  ⟨sixteen_octets_written_and_read.1 .constant _ rfl,
    sixteen_octets_written_and_read.2.2 "0:0::0:1" loopback rfl⟩

theorem canonicalFor_text (address : Address) :
    CanonicalFor address.text.toList address.groups :=
  toList_text address ▸ canonicalFor_chars address

theorem Canonical.eq_text {text : String} {address : Address} (canonical : Canonical text.toList)
    (read : ofTextValue (.text text) = .ok address) : text = address.text := by
  obtain ⟨groups, written⟩ := canonical
  have spelled : Spells text.toList address.groups := (readText_eq_ok_iff text address).mp read
  have same : groups = address.groups := written.spells.unique spelled
  subst same
  exact String.toList_inj.mp (written.unique (canonicalFor_text address))

theorem canonical_text_printed :
    (∀ address : Address, ∃ text, textOfOctets address.octets = .ok text ∧ text.length ≤ 39 ∧
      CanonicalFor text.toList address.groups) ∧
    (∀ text address, ofTextValue (.text text) = .ok address →
      (textOfOctets address.octets = .ok text ↔ Canonical text.toList)) ∧
    (∀ address, ∃! text : String, ofTextValue (.text text) = .ok address ∧
      Canonical text.toList) := by
  refine ⟨?_, ?_, ?_⟩
  · intro address
    refine ⟨address.text, textOfOctets_octets address, ?_, canonicalFor_text address⟩
    rw [text, String.length_ofList]
    exact length_chars_le address
  · intro text address read
    rw [textOfOctets_octets, Except.ok.injEq]
    constructor
    · intro same
      subst same
      exact ⟨address.groups, canonicalFor_text address⟩
    · intro canonical
      exact (canonical.eq_text read).symm
  · intro address
    refine ⟨address.text, ⟨readText_text address, address.groups, canonicalFor_text address⟩, ?_⟩
    intro text another
    rcases another with ⟨read, canonical⟩
    exact canonical.eq_text read

theorem canonical_text_printed_mixed :
    textOfOctets (ofNat 0x20010db8000000000001000000000001).octets = .ok "2001:db8::1:0:0:1" ↔
      Canonical "2001:db8::1:0:0:1".toList :=
  canonical_text_printed.2.1 "2001:db8::1:0:0:1" (ofNat 0x20010db8000000000001000000000001) rfl

end IPv6.Address
