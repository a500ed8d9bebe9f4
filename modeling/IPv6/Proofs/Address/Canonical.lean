import IPv6.Proofs.Address.Reading
import IPv6.Proofs.Address.ZeroRun
/-!
Canonical texts, said of a writing and the groups it denotes. All of their parts are forced by the
groups, so that no address has two.
-/

namespace IPv6.Address

/-- Lowercase and without leading zero. -/
structure PlainHex (field : List Char) : Prop where
  lowercase : ∀ char ∈ field, char ∈ "0123456789abcdef".toList
  leading : field.head? = some '0' → field = ['0']

/-- Groups whose last two are written dotted: only the last four octets hold more than zeros, or six
zeros less one and then ones stand before them. -/
def TakesDots (groups : List UInt16) : Prop :=
  (∀ index < 6, groups[index]? = some 0) ∧ groups[6]? ≠ some 0 ∨
    (∀ index < 5, groups[index]? = some 0) ∧ groups[5]? = some 0xffff

namespace Writing

def hexFields (writing : Writing) : List (List Char) :=
  writing.before ++ writing.after?.getD []

/-- The groups for which `::` stands. -/
def run (writing : Writing) : Run :=
  ⟨writing.before.length,
    8 - (writing.hexFields.length + 2 * writing.dotted?.toList.length)⟩

structure IsCanonical (writing : Writing) (groups : List UInt16) : Prop where
  denotes : writing.Denotes groups
  plain : ∀ field ∈ writing.hexFields, PlainHex field
  gap_once : ∀ before after before' after', writing.text = before ++ [':', ':'] ++ after →
    writing.text = before' ++ [':', ':'] ++ after' → before = before'
  gap_iff : [':', ':'] <:+: writing.text ↔ ∃ run : Run, 2 ≤ run.length ∧ run.IsZero groups
  gap_run : writing.after?.isSome → writing.run.IsFirstLongest groups
  dotted_iff : writing.dotted?.isSome ↔ TakesDots groups

end Writing

/-- A text that some canonical writing of the groups gives. -/
def CanonicalFor (text : List Char) (groups : List UInt16) : Prop :=
  ∃ writing : Writing, writing.text = text ∧ writing.IsCanonical groups

def Canonical (text : List Char) : Prop := ∃ groups, CanonicalFor text groups

/-! ## Numerals without leading zero -/

theorem eq_map_of_determined {Digit : Char → Nat → Prop} {digit : Nat → Char} {text : List Char}
    {digits : List Nat} (each : List.Forall₂ Digit text digits)
    (determined : ∀ char ∈ text, ∀ value, Digit char value → char = digit value) :
    text = digits.map digit := by
  induction each with
  | nil => rfl
  | @cons char value rest values first others ih =>
    have lead := determined char List.mem_cons_self value first
    have tail := ih fun next member => determined next (List.mem_cons_of_mem char member)
    rw [List.map_cons, ← lead, ← tail]

/-- A numeral without leading zero is the one that the printers write. -/
theorem Numeral.eq_map {Digit : Char → Nat → Prop} {base : Nat} {digit : Nat → Char}
    {text : List Char} {number : Nat} (numeral : Numeral Digit base text number) (wide : 1 < base)
    (small : ∀ char value, Digit char value → value < base) (present : text ≠ [])
    (leading : text.head? = some (digit 0) → text = [digit 0])
    (determined : ∀ char ∈ text, ∀ value, Digit char value → char = digit value) :
    text = (Text.numeral base number).map digit := by
  obtain ⟨digits, each, rfl⟩ := numeral
  have spelled := eq_map_of_determined each determined
  have filled : digits ≠ [] := by
    intro empty
    rw [empty] at spelled
    exact present spelled
  have bounded : ∀ value ∈ digits, value < base := by
    intro value member
    obtain ⟨char, related⟩ := exists_of_mem each.flip member
    exact small char value related
  have lead : digits.head? = some 0 → digits = [0] := by
    intro zero
    have first : text.head? = some (digit 0) := by
      rw [spelled, List.head?_map, zero]
      rfl
    have single : digits.length = 1 := by
      rw [← each.length_eq, leading first]
      rfl
    obtain ⟨value, rfl⟩ := List.length_eq_one_iff.mp single
    rw [Option.some.inj zero]
  rw [Text.numeral_ofDigits base digits wide filled bounded lead, spelled]

theorem numeral_map {Digit : Char → Nat → Prop} {base : Nat} {digit : Nat → Char} (number : Nat)
    (wide : 1 < base) (written : ∀ value < base, Digit (digit value) value) :
    Numeral Digit base ((Text.numeral base number).map digit) number := by
  refine ⟨Text.numeral base number, ?_, Text.ofDigits_numeral base number⟩
  rw [List.forall₂_map_left_iff, List.forall₂_same]
  intro value member
  exact written value (Text.lt_of_mem_numeral base number value wide member)

theorem leading_map {base : Nat} {digit : Nat → Char} (number : Nat) (wide : 1 < base)
    (injective : ∀ value < base, digit value = digit 0 → value = 0)
    (zero : ((Text.numeral base number).map digit).head? = some (digit 0)) :
    (Text.numeral base number).map digit = [digit 0] := by
  obtain ⟨value, first, same⟩ := Option.map_eq_some_iff.mp (List.head?_map ▸ zero)
  have small := Text.lt_of_mem_numeral base number value wide (List.mem_of_head? first)
  rw [injective value small same] at first
  rw [Text.numeral_leading base number first]
  rfl

theorem groupText_eq (group : UInt16) :
    groupText group = (Text.numeral 16 group.toNat).map Text.Hex.digit :=
  Text.plain_eq_map group.toNat

theorem length_groupText (group : UInt16) : (groupText group).length ≤ 4 := by
  rw [groupText_eq, List.length_map]
  exact Text.length_numeral_le 16 group.toNat 4 (by decide) (by decide) group.toNat_lt

theorem hexGroup_groupText (group : UInt16) : HexGroup (groupText group) group := by
  refine ⟨?_, length_groupText group, ?_⟩
  · rw [groupText_eq]
    simpa using Text.numeral_ne_nil 16 group.toNat
  · rw [groupText_eq]
    exact numeral_map group.toNat (by decide) (by decide)

theorem plainHex_groupText (group : UInt16) : PlainHex (groupText group) := by
  rw [groupText_eq]
  constructor
  · intro char member
    obtain ⟨value, inside, rfl⟩ := List.mem_map.mp member
    have small := Text.lt_of_mem_numeral 16 group.toNat value (by decide) inside
    have table : ∀ value < 16, Text.Hex.digit value ∈ "0123456789abcdef".toList := by decide
    exact table value small
  · exact leading_map group.toNat (by decide) (by decide)

theorem HexGroup.eq_groupText {field : List Char} {group : UInt16} (hex : HexGroup field group)
    (plain : PlainHex field) : field = groupText group := by
  rw [groupText_eq]
  refine hex.numeral.eq_map (by decide) (fun _ _ digit => digit.lt) hex.present plain.leading ?_
  intro char member value digit
  have table : ∀ index, (within : index < "0123456789abcdef".toList.length) → ∀ value < 16,
      HexDigit "0123456789abcdef".toList[index] value →
        "0123456789abcdef".toList[index] = Text.Hex.digit value := by decide
  obtain ⟨index, within, rfl⟩ := List.getElem_of_mem (plain.lowercase char member)
  exact table index within value digit.lt digit

theorem decimalOctet_ofNat (octet : UInt8) :
    DecimalOctet (Text.Decimal.ofNat octet.toNat) octet := by
  rw [Text.ofNat_eq_map]
  refine ⟨?_, ?_, numeral_map octet.toNat (by decide) (by decide)⟩
  · simpa using Text.numeral_ne_nil 10 octet.toNat
  · exact leading_map octet.toNat (by decide) (by decide)

theorem DecimalOctet.eq_ofNat {text : List Char} {octet : UInt8}
    (decimal : DecimalOctet text octet) : text = Text.Decimal.ofNat octet.toNat := by
  rw [Text.ofNat_eq_map]
  refine decimal.numeral.eq_map (by decide) (fun _ _ digit => digit.lt) decimal.present
    decimal.leading ?_
  intro char _ value digit
  have table : ∀ value < 10, "0123456789".toList[value]? = some (Text.Decimal.digit value) := by
    decide
  exact Option.some.inj (digit.symm.trans (table value digit.lt))

theorem length_decimal (octet : UInt8) : (Text.Decimal.ofNat octet.toNat).length ≤ 3 := by
  rw [Text.ofNat_eq_map, List.length_map]
  have bound : octet.toNat < 10 ^ 3 := Nat.lt_trans octet.toNat_lt (by decide)
  exact Text.length_numeral_le 10 octet.toNat 3 (by decide) (by decide) bound

theorem dottedOctets_dottedText (octets : Octets) (four : octets.length = 4) :
    DottedOctets (dottedText octets) octets := by
  refine ⟨_, rfl, ?_, four⟩
  rw [List.forall₂_map_left_iff, List.forall₂_same]
  exact fun octet _ => decimalOctet_ofNat octet

theorem DottedOctets.eq_dottedText {text : List Char} {octets : Octets}
    (dotted : DottedOctets text octets) : text = dottedText octets := by
  obtain ⟨parts, rfl, each, -⟩ := dotted
  have spelled : parts = octets.map fun octet => Text.Decimal.ofNat octet.toNat := by
    induction each with
    | nil => rfl
    | cons first _ ih => rw [List.map_cons, ← first.eq_ofNat, ← ih]
  rw [dottedText, spelled]

theorem eq_map_groupText {fields : List (List Char)} {groups : List UInt16}
    (each : List.Forall₂ HexGroup fields groups) (plain : ∀ field ∈ fields, PlainHex field) :
    fields = groups.map groupText := by
  induction each with
  | nil => rfl
  | @cons field group rest groups first others ih =>
    have lead := first.eq_groupText (plain field List.mem_cons_self)
    have tail := ih fun next member => plain next (List.mem_cons_of_mem field member)
    rw [List.map_cons, ← lead, ← tail]

/-! ## The gap in a text -/

/-- The first gap is found, wherever another one stands. -/
theorem cutAtGap_append_gap (before after : List Char) :
    ∃ lead more rest, cutAtGap (before ++ ':' :: ':' :: after) = some (lead, rest) ∧
      before = lead ++ more := by
  induction before with
  | nil => exact ⟨[], [], after, rfl, rfl⟩
  | cons char before ih =>
    by_cases here : char = ':' ∧ (before ++ ':' :: ':' :: after).head? = some ':'
    · obtain ⟨rfl, next⟩ := here
      obtain ⟨rest, shape⟩ := List.head?_eq_some_iff.mp next
      refine ⟨[], ':' :: before, rest, ?_, rfl⟩
      rw [List.cons_append, shape, cutAtGap]
    · obtain ⟨lead, more, rest, found, rfl⟩ := ih
      have apart : char ≠ ':' ∨
          ((lead ++ more) ++ ':' :: ':' :: after).head? ≠ some ':' := not_and_or.mp here
      refine ⟨char :: lead, more, rest, ?_, rfl⟩
      rw [List.cons_append, cutAtGap_cons char _ apart, found, Option.map_some]

theorem cutAtGap_eq_none_iff (text : List Char) :
    cutAtGap text = none ↔ ¬ [':', ':'] <:+: text := by
  constructor
  · intro uncut gap
    rcases gap with ⟨before, after, rfl⟩
    obtain ⟨lead, more, rest, found, -⟩ := cutAtGap_append_gap before after
    rw [List.append_assoc] at uncut
    exact absurd (found.symm.trans uncut) (Option.some_ne_none _)
  · intro gapless
    cases found : cutAtGap text with
    | none => rfl
    | some parts =>
      obtain ⟨before, after⟩ := parts
      refine absurd ⟨before, after, ?_⟩ gapless
      rw [eq_of_cutAtGap found, List.append_assoc]
      rfl

/-- Where what follows the first gap neither starts with a colon nor has a gap, there is no other. -/
theorem gap_unique {text lead rest before after : List Char}
    (found : cutAtGap text = some (lead, rest)) (single : rest.head? ≠ some ':')
    (gapless : cutAtGap rest = none) (other : text = before ++ [':', ':'] ++ after) :
    before = lead := by
  have same : text = before ++ ':' :: ':' :: after := by
    rw [other, List.append_assoc]
    rfl
  obtain ⟨lead', more, rest', found', rfl⟩ := cutAtGap_append_gap before after
  rw [← same, found] at found'
  obtain ⟨rfl, rfl⟩ := Prod.mk.inj (Option.some.inj found')
  have tail : ':' :: ':' :: rest = more ++ ':' :: ':' :: after := by
    rw [eq_of_cutAtGap found, List.append_assoc] at same
    exact List.append_cancel_left same
  match more, tail with
  | [], _ => exact List.append_nil lead
  | [_], tail =>
    obtain ⟨-, rfl⟩ : _ ∧ rest = ':' :: after := by simpa using tail
    exact absurd rfl single
  | _ :: _ :: more, tail =>
    obtain ⟨-, -, shape⟩ : _ ∧ _ ∧ rest = more ++ ':' :: ':' :: after := by simpa using tail
    rw [cutAtGap_eq_none_iff] at gapless
    exact absurd ⟨more, after, by simp [shape]⟩ gapless

namespace Writing.Denotes

theorem hasGap_iff {writing : Writing} {groups : List UInt16} (denotes : writing.Denotes groups) :
    [':', ':'] <:+: writing.text ↔ writing.after?.isSome := by
  cases denotes with
  | @full fields dotted? _ _ hex tail _ =>
    have uncut : cutAtGap (Writing.text ⟨fields, none, dotted?⟩) = none :=
      cutAtGap_join _ (tail.pieces hex)
    simpa using (cutAtGap_eq_none_iff _).mp uncut
  | gapped => exact ⟨fun _ => rfl, fun _ => ⟨_, _, rfl⟩⟩

theorem gap_once {writing : Writing} {groups : List UInt16} (denotes : writing.Denotes groups)
    (before after before' after' : List Char)
    (one : writing.text = before ++ [':', ':'] ++ after)
    (other : writing.text = before' ++ [':', ':'] ++ after') : before = before' := by
  cases denotes with
  | @full fields dotted? _ _ hex tail _ =>
    have uncut : cutAtGap (Writing.text ⟨fields, none, dotted?⟩) = none :=
      cutAtGap_join _ (tail.pieces hex)
    exact absurd ⟨before, after, one.symm⟩ ((cutAtGap_eq_none_iff _).mp uncut)
  | @gapped fields hex dotted? _ _ _ hexBefore hexAfter tail _ =>
    have pieces := tail.pieces hexAfter
    have found : cutAtGap (Writing.text ⟨fields, some hex, dotted?⟩) =
        some (Text.join [':'] fields, Text.join [':'] (hex ++ dotted?.toList)) := by
      simpa [Writing.text] using cutAtGap_join_gap fields
        (Text.join [':'] (hex ++ dotted?.toList)) (HexGroup.pieces hexBefore)
    have single : (Text.join [':'] (hex ++ dotted?.toList)).head? ≠ some ':' := by
      by_cases empty : hex ++ dotted?.toList = []
      · simp [empty, Text.join]
      · simpa using head?_join_ne _ pieces [] empty
    have gapless := cutAtGap_join _ pieces
    exact (gap_unique found single gapless one).trans (gap_unique found single gapless other).symm

end Writing.Denotes

/-! ## One canonical writing -/

namespace DottedTail

theorem length_eq {dotted? : Option (List Char)} {low : List UInt16}
    (tail : DottedTail dotted? low) : low.length = 2 * dotted?.toList.length := by
  cases tail with
  | absent => rfl
  | @dotted _ octets spelled =>
    obtain ⟨_, _, _, four⟩ := spelled
    rw [length_groupsOf, four]
    rfl

theorem unique {one other : Option (List Char)} {low low' : List UInt16}
    (first : DottedTail one low) (second : DottedTail other low') (same : low = low') :
    one = other := by
  have sizes := first.length_eq.symm.trans ((congrArg List.length same).trans second.length_eq)
  cases first with
  | absent =>
    cases second with
    | absent => rfl
    | dotted => cases sizes
  | @dotted text octets spelled =>
    cases second with
    | absent => cases sizes
    | @dotted text' octets' spelled' =>
      have even : octets.length % 2 = 0 := by rw [spelled.choose_spec.2.2]
      have even' : octets'.length % 2 = 0 := by rw [spelled'.choose_spec.2.2]
      have equal : octets = octets' := by
        rw [← octetsOfGroups_groupsOf octets even, same, octetsOfGroups_groupsOf octets' even']
      rw [spelled.eq_dottedText, spelled'.eq_dottedText, equal]

end DottedTail

namespace Writing

theorem Denotes.length_full {writing : Writing} {groups : List UInt16}
    (denotes : writing.Denotes groups) (gapless : writing.after? = none) :
    writing.before.length = writing.hexFields.length ∧
      writing.hexFields.length + 2 * writing.dotted?.toList.length = 8 := by
  cases denotes with
  | full hex tail count =>
    rw [tail.length_eq, ← hex.length_eq] at count
    simpa [hexFields] using count
  | gapped => cases gapless

theorem Denotes.length_gapped {writing : Writing} {groups : List UInt16}
    (denotes : writing.Denotes groups) (gap : writing.after?.isSome) :
    writing.hexFields.length + 2 * writing.dotted?.toList.length ≤ 7 := by
  cases denotes with
  | full => cases gap
  | gapped hexBefore hexAfter tail count =>
    rw [List.length_append, tail.length_eq, ← hexBefore.length_eq, ← hexAfter.length_eq] at count
    simpa [hexFields, Nat.add_assoc] using count

/-- Writings of the same groups with as many fields on each side are the same. -/
theorem Denotes.unique {one other : Writing} {groups groups' : List UInt16}
    (first : one.Denotes groups) (second : other.Denotes groups') (same : groups = groups')
    (plain : ∀ field ∈ one.hexFields, PlainHex field)
    (plain' : ∀ field ∈ other.hexFields, PlainHex field)
    (gap : one.after?.isSome = other.after?.isSome)
    (before : one.before.length = other.before.length)
    (hex : one.hexFields.length = other.hexFields.length)
    (dotted : one.dotted?.toList.length = other.dotted?.toList.length) : one = other := by
  cases first with
  | full hexOne tailOne countOne =>
    cases second with
    | gapped => cases gap
    | full hexOther tailOther countOther =>
      have sizes := hexOne.length_eq.symm.trans (before.trans hexOther.length_eq)
      obtain ⟨rfl, low⟩ := List.append_inj same sizes
      have fields := eq_map_groupText hexOne fun field member => plain field (by simpa [hexFields])
      have fields' := eq_map_groupText hexOther
        fun field member => plain' field (by simpa [hexFields])
      rw [fields, fields', tailOne.unique tailOther low]
  | @gapped fields after dotted? left right low hexBefore hexAfter tail count =>
    cases second with
    | full => cases gap
    | @gapped fields' after' dotted?' left' right' low' hexBefore' hexAfter' tail' count' =>
      have afters : after.length = after'.length := by
        have total : fields.length + after.length = fields'.length + after'.length := by
          simpa [hexFields] using hex
        have lead : fields.length = fields'.length := before
        omega
      have sizes := hexBefore.length_eq.symm.trans (before.trans hexBefore'.length_eq)
      have sizesAfter := hexAfter.length_eq.symm.trans (afters.trans hexAfter'.length_eq)
      rw [List.append_assoc, List.append_assoc] at same
      obtain ⟨rfl, rest⟩ := List.append_inj same sizes
      have sizesLow : low.length = low'.length := by rw [tail.length_eq, tail'.length_eq, dotted]
      have written : (right ++ low).length = (right' ++ low').length := by
        rw [List.length_append, List.length_append, sizesAfter, sizesLow]
      rw [written] at rest
      obtain ⟨rfl, lows⟩ := List.append_inj (List.append_cancel_left rest) sizesAfter
      have befores := eq_map_groupText hexBefore
        fun field member => plain field (List.mem_append_left after member)
      have befores' := eq_map_groupText hexBefore'
        fun field member => plain' field (List.mem_append_left after' member)
      have texts := eq_map_groupText hexAfter
        fun field member => plain field (List.mem_append_right fields member)
      have texts' := eq_map_groupText hexAfter'
        fun field member => plain' field (List.mem_append_right fields' member)
      rw [befores, befores', texts, texts', tail.unique tail' lows]

theorem length_toList_of_isSome {one other : Option (List Char)}
    (same : one.isSome = other.isSome) : one.toList.length = other.toList.length := by
  cases one <;> cases other <;> simp_all

theorem IsCanonical.unique {one other : Writing} {groups : List UInt16}
    (first : one.IsCanonical groups) (second : other.IsCanonical groups) : one = other := by
  have gap : one.after?.isSome = other.after?.isSome := by
    rw [Bool.eq_iff_iff, ← first.denotes.hasGap_iff, first.gap_iff, ← second.gap_iff,
      second.denotes.hasGap_iff]
  have dotted : one.dotted?.toList.length = other.dotted?.toList.length := by
    apply length_toList_of_isSome
    rw [Bool.eq_iff_iff, first.dotted_iff, second.dotted_iff]
  suffices before : one.before.length = other.before.length ∧
      one.hexFields.length = other.hexFields.length from
    first.denotes.unique second.denotes rfl first.plain second.plain gap before.1 before.2 dotted
  by_cases present : one.after?.isSome
  · have present' : other.after?.isSome := gap ▸ present
    have same := (first.gap_run present).unique (second.gap_run present')
    obtain ⟨before, length⟩ := Run.mk.inj same
    have count := first.denotes.length_gapped present
    have count' := second.denotes.length_gapped present'
    exact ⟨before, by omega⟩
  · have absent : one.after? = none := by simpa using present
    have absent' : other.after? = none := by simpa [gap] using present
    have sizes := first.denotes.length_full absent
    have sizes' := second.denotes.length_full absent'
    omega

end Writing

theorem CanonicalFor.unique {one other : List Char} {groups : List UInt16}
    (first : CanonicalFor one groups) (second : CanonicalFor other groups) : one = other := by
  obtain ⟨writing, rfl, canonical⟩ := first
  obtain ⟨writing', rfl, canonical'⟩ := second
  rw [canonical.unique canonical']

end IPv6.Address
