import IPv6.Proofs.Address.Forms
import IPv6.Proofs.Address.LetterCase
import IPv6.Proofs.Address.Printing
import IPv6.Proofs.Text.Trim
/-!
The hexadecimal form of a text in any form. No text has two forms, so the order in which the forms are
tried does not matter; blanks around the text and the case of its letters do not matter either.
-/

namespace IPv6.Address

/-! ## Characters of the forms -/

/-- A character of no digit and no separator. -/
def Foreign (char : Char) : Prop :=
  (∀ value < 16, ¬ HexDigit char value) ∧ char ≠ ':' ∧ char ≠ '.'

instance (char : Char) : Decidable (Foreign char) := inferInstanceAs (Decidable (_ ∧ _))

theorem foreign_of_blank {char : Char} (blank : Text.isBlank char = true) : Foreign char := by
  refine ⟨?_, ?_, ?_⟩
  · intro value _ digit
    have plain : Text.isBlank char = false := by
      rcases digit with lower | upper
      · exact Text.forall_place (by decide) lower
      · exact Text.forall_place (by decide) upper
    exact Bool.false_ne_true (plain.symm.trans blank)
  · rintro rfl
    exact absurd blank (by decide)
  · rintro rfl
    exact absurd blank (by decide)

theorem DecimalDigit.hexDigit {char : Char} {value : Nat} (digit : DecimalDigit char value) :
    HexDigit char value :=
  Text.forall_place (by decide) digit

section Foreign

variable {char : Char} {text : List Char}

theorem HexGroup.not_mem {group : UInt16} (hex : HexGroup text group) (foreign : Foreign char) :
    char ∉ text :=
  hex.numeral.not_mem (fun _ _ digit => digit.lt) char foreign.1

theorem DottedOctets.not_mem {octets : Octets} (dotted : DottedOctets text octets)
    (foreign : Foreign char) : char ∉ text := by
  obtain ⟨parts, rfl, each, four⟩ := dotted
  refine not_mem_join char '.' parts foreign.2.2 ?_
  intro part member
  obtain ⟨octet, decimal⟩ := exists_of_mem each member
  refine decimal.not_mem char fun value small digit => ?_
  exact foreign.1 value (Nat.lt_trans small (by decide)) digit.hexDigit

theorem not_mem_fields {hex : List (List Char)} {dotted? : Option (List Char)}
    {groups low : List UInt16} (each : List.Forall₂ HexGroup hex groups)
    (tail : DottedTail dotted? low) (foreign : Foreign char) :
    char ∉ Text.join [':'] (hex ++ dotted?.toList) := by
  refine not_mem_join char ':' _ foreign.2.1 ?_
  intro field member
  rcases List.mem_append.mp member with inside | last
  · obtain ⟨group, spelled⟩ := exists_of_mem each inside
    exact spelled.not_mem foreign
  · cases tail with
    | absent => cases last
    | dotted spelled =>
      rw [Option.toList_some, List.mem_singleton] at last
      exact last ▸ spelled.not_mem foreign

theorem Spells.not_mem {groups : List UInt16} (spelled : Spells text groups)
    (foreign : Foreign char) : char ∉ text := by
  obtain ⟨writing, rfl, denotes⟩ := spelled
  cases denotes with
  | full hex tail count => exact not_mem_fields hex tail foreign
  | gapped hexBefore hexAfter tail count =>
    have before := not_mem_fields hexBefore .absent foreign
    have after := not_mem_fields hexAfter tail foreign
    rw [Option.toList_none, List.append_nil] at before
    simp only [Writing.text, List.mem_append, List.mem_cons, List.not_mem_nil, or_false]
    simp [before, after, foreign.2.1]

theorem not_mem_chars (address : Address) (foreign : Foreign char) : char ∉ address.chars :=
  (canonicalFor_chars address).spells.not_mem foreign

end Foreign

/-- What is true of the digits and the separators is true of every character of an address. -/
theorem forall_mem_chars {check : Char → Bool}
    (table : "0123456789abcdefABCDEF:.".toList.all check = true) (address : Address) :
    ∀ char ∈ address.chars, check char = true := by
  intro char member
  apply List.all_eq_true.mp table
  by_contra other
  have digits (value : Nat) (digit : HexDigit char value) :
      char ∈ "0123456789abcdefABCDEF:.".toList := by
    rcases digit with lower | upper
    · exact Text.forall_place (by decide) lower
    · exact Text.forall_place (by decide) upper
  refine not_mem_chars address ⟨fun value _ digit => other (digits value digit), ?_, ?_⟩ member
  · exact fun colon => other (colon ▸ by decide)
  · exact fun point => other (point ▸ by decide)

/-- Two pieces or more have a separator between them. -/
theorem mem_join {separator : Char} {pieces : List (List Char)} (several : 2 ≤ pieces.length) :
    separator ∈ Text.join [separator] pieces := by
  match pieces, several with
  | first :: second :: more, _ => simp [Text.join]

theorem Spells.colon_mem {text : List Char} {groups : List UInt16} (spelled : Spells text groups) :
    ':' ∈ text := by
  obtain ⟨writing, rfl, denotes⟩ := spelled
  cases denotes with
  | gapped => simp [Writing.text]
  | @full fields dotted? groups low hex tail count =>
    have short : low.length ≤ 2 := by
      cases tail with
      | absent => exact Nat.zero_le 2
      | dotted dots =>
        obtain ⟨_, _, _, four⟩ := dots
        rw [length_groupsOf, four]
    refine mem_join ?_
    rw [List.length_append, hex.length_eq]
    omega

/-! ## The form of a text -/

/-- The address of a text in whichever form it has. -/
def readAny? (text : List Char) : Option Address :=
  (read? text).or ((ofHex? text).or (ofBinary? text))

theorem normalize?_eq {text core : List Char} (split : Text.HasCore Text.isBlank text core) :
    normalize? text = (readAny? core).map hex := by
  rw [normalize?, Text.trim_eq_iff.mpr split, readAny?]
  cases read? core with
  | some address => rfl
  | none => cases ofHex? core <;> rfl

theorem readAny?_lowered (text : List Char) : readAny? (lowered text) = readAny? text := by
  rw [readAny?, readAny?, read?_lowered, ofHex?_lowered, ofBinary?_lowered]

section Exclusive

variable {text : List Char} {address : Address}

theorem read?_eq_none_of_not_mem (absent : ':' ∉ text) : read? text = none :=
  (read?_eq_none_iff text).mpr fun ⟨_, spelled⟩ => absent spelled.colon_mem

theorem read?_eq_none_of_ofHex? (read : ofHex? text = some address) : read? text = none := by
  refine read?_eq_none_of_not_mem fun colon => ?_
  obtain ⟨value, digit⟩ := exists_of_mem ((ofHex?_eq_some_iff text address).mp read) colon
  have other : ∀ value < 16, ¬ HexDigit ':' value := by decide
  exact other value digit.lt digit

theorem read?_eq_none_of_ofBinary? (read : ofBinary? text = some address) : read? text = none := by
  refine read?_eq_none_of_not_mem fun colon => ?_
  rw [(ofBinary?_eq_some_iff text address).mp read] at colon
  exact (mem_bits colon).elim (by decide) (by decide)

/-- Thirty-two characters are not a hundred and twenty-eight. -/
theorem ofHex?_eq_none_of_ofBinary? (read : ofBinary? text = some address) :
    ofHex? text = none := by
  refine Option.eq_none_iff_forall_ne_some.mpr fun other digits => ?_
  have size := ((ofHex?_eq_some_iff text other).mp digits).length_eq
  rw [(ofBinary?_eq_some_iff text address).mp read, length_binary, length_nibbles] at size
  exact absurd size (by decide)

theorem readAny?_eq_some_iff :
    readAny? text = some address ↔
      read? text = some address ∨ ofHex? text = some address ∨ ofBinary? text = some address := by
  rw [readAny?]
  constructor
  · intro read
    simp only [Option.or_eq_some_iff] at read
    rcases read with spelled | ⟨-, digits | ⟨-, bits⟩⟩
    · exact .inl spelled
    · exact .inr (.inl digits)
    · exact .inr (.inr bits)
  · intro read
    rcases read with spelled | digits | bits
    · rw [spelled, Option.some_or]
    · rw [read?_eq_none_of_ofHex? digits, digits, Option.none_or, Option.some_or]
    · rw [read?_eq_none_of_ofBinary? bits, ofHex?_eq_none_of_ofBinary? bits, bits, Option.none_or,
        Option.none_or]

theorem plain_of_readAny? (read : readAny? text = some address) :
    ∀ char ∈ text, Text.isBlank char = false := by
  intro char member
  refine Bool.eq_false_iff.mpr fun blank => ?_
  have foreign := foreign_of_blank blank
  rcases readAny?_eq_some_iff.mp read with spelled | digits | bits
  · exact ((read?_eq_some_iff text address).mp spelled).not_mem foreign member
  · obtain ⟨value, digit⟩ := exists_of_mem ((ofHex?_eq_some_iff text address).mp digits) member
    exact foreign.1 value digit.lt digit
  · rw [(ofBinary?_eq_some_iff text address).mp bits] at member
    rcases mem_bits member with rfl | rfl
    · exact absurd foreign (by decide)
    · exact absurd foreign (by decide)

end Exclusive

/-! ## Texts with blanks around them -/

/-- Blanks around a text that neither begins nor ends with one. -/
def Stripped (text core : String) : Prop := Text.HasCore Text.isBlank text.toList core.toList

/-- The hexadecimal form of a text in one of the three forms that are read, and none of any other. -/
inductive Normal (core : String) : Option String → Prop
  | spelled {address : Address} (read : ofTextValue (.text core) = .ok address) :
      Normal core (some (.ofList address.hex))
  | hex (digits : HexText core) : Normal core (some core.toLower)
  | binary {address : Address} (read : ofBinaryForm (.text core) = .ok address) :
      Normal core (some (.ofList address.hex))
  | other (unspelled : ¬ ∃ address, ofTextValue (.text core) = .ok address)
      (digits : ¬ HexText core) (bits : ¬ BinaryText core) : Normal core none

theorem normalForm?_text {text core : String} (split : Stripped text core) :
    normalForm? (.text text) =
      .ok ((readAny? core.toList).map fun address => .ofList address.hex) := by
  rw [normalForm?, normalize?_eq split, Option.map_map]
  rfl

theorem exists_stripped (text : String) : ∃! core, Stripped text core := by
  refine ⟨.ofList (Text.trim Text.isBlank text.toList), ?_, ?_⟩
  · show Text.HasCore _ _ _
    rw [String.toList_ofList]
    exact Text.hasCore_trim text.toList
  · intro core split
    rw [Text.trim_eq_iff.mpr split, String.ofList_toList]

theorem ofTextValue_eq_ok_iff {core : String} {address : Address} :
    ofTextValue (.text core) = .ok address ↔ read? core.toList = some address := by
  rw [ofTextValue, readText_eq_ok_iff, read?_eq_some_iff]

theorem ofBinaryForm_eq_ok_iff {core : String} {address : Address} :
    ofBinaryForm (.text core) = .ok address ↔ ofBinary? core.toList = some address := by
  rw [ofBinaryForm_text, orRefuse_eq_ok_iff]

theorem ofHexForm_eq_ok_iff {core : String} {address : Address} :
    ofHexForm (.text core) = .ok address ↔ ofHex? core.toList = some address := by
  rw [ofHexForm_text, orRefuse_eq_ok_iff]

theorem hexText_iff (core : String) : HexText core ↔ ∃ address, ofHex? core.toList = some address := by
  simp only [← hexForm_readsExactly.accepts core, ofHexForm_eq_ok_iff]

theorem binaryText_iff (core : String) :
    BinaryText core ↔ ∃ address, ofBinary? core.toList = some address := by
  simp only [← binaryForm_readsExactly.accepts core, ofBinaryForm_eq_ok_iff]

theorem hex_of_ofHex? {core : String} {address : Address} (read : ofHex? core.toList = some address) :
    core.toLower = .ofList address.hex :=
  (hexForm_readsExactly.keeps core address (ofHexForm_eq_ok_iff.mpr read)).symm

theorem normal_iff (core : String) (result : Option String) :
    Normal core result ↔
      (readAny? core.toList).map (fun address => .ofList address.hex) = result := by
  constructor
  · intro normal
    cases normal with
    | spelled read =>
      rw [readAny?_eq_some_iff.mpr (.inl (ofTextValue_eq_ok_iff.mp read)), Option.map_some]
    | hex digits =>
      obtain ⟨address, read⟩ := (hexText_iff core).mp digits
      rw [readAny?_eq_some_iff.mpr (.inr (.inl read)), Option.map_some, hex_of_ofHex? read]
    | binary read =>
      rw [readAny?_eq_some_iff.mpr (.inr (.inr (ofBinaryForm_eq_ok_iff.mp read))), Option.map_some]
    | other unspelled digits bits =>
      rw [Option.map_eq_none_iff, Option.eq_none_iff_forall_ne_some]
      intro address read
      rcases readAny?_eq_some_iff.mp read with spelled | hex | binary
      · exact unspelled ⟨address, ofTextValue_eq_ok_iff.mpr spelled⟩
      · exact digits ((hexText_iff core).mpr ⟨address, hex⟩)
      · exact bits ((binaryText_iff core).mpr ⟨address, binary⟩)
  · rintro rfl
    cases read : readAny? core.toList with
    | none =>
      have unread (address : Address) : readAny? core.toList ≠ some address := by
        rw [read]
        exact nofun
      refine .other ?_ ?_ ?_
      · rintro ⟨address, spelled⟩
        exact unread address (readAny?_eq_some_iff.mpr (.inl (ofTextValue_eq_ok_iff.mp spelled)))
      · rw [hexText_iff]
        rintro ⟨address, hex⟩
        exact unread address (readAny?_eq_some_iff.mpr (.inr (.inl hex)))
      · rw [binaryText_iff]
        rintro ⟨address, binary⟩
        exact unread address (readAny?_eq_some_iff.mpr (.inr (.inr binary)))
    | some address =>
      rcases readAny?_eq_some_iff.mp read with spelled | hex | binary
      · exact .spelled (ofTextValue_eq_ok_iff.mpr spelled)
      · rw [Option.map_some, ← hex_of_ofHex? hex]
        exact .hex ((hexText_iff core).mpr ⟨address, hex⟩)
      · exact .binary (ofBinaryForm_eq_ok_iff.mpr binary)

/-- No text has two of the forms. -/
theorem forms_exclusive (core : String) :
    ¬ ((∃ address, ofTextValue (.text core) = .ok address) ∧ HexText core) ∧
    ¬ ((∃ address, ofTextValue (.text core) = .ok address) ∧ BinaryText core) ∧
    ¬ (HexText core ∧ BinaryText core) := by
  simp only [ofTextValue_eq_ok_iff, hexText_iff, binaryText_iff]
  refine ⟨?_, ?_, ?_⟩
  · rintro ⟨⟨address, spelled⟩, other, digits⟩
    rw [read?_eq_none_of_ofHex? digits] at spelled
    cases spelled
  · rintro ⟨⟨address, spelled⟩, other, bits⟩
    rw [read?_eq_none_of_ofBinary? bits] at spelled
    cases spelled
  · rintro ⟨⟨address, digits⟩, other, bits⟩
    rw [ofHex?_eq_none_of_ofBinary? bits] at digits
    cases digits

/-! ## The texts of an address -/

/-- The texts of an address. -/
def texts (address : Address) : List String :=
  [address.text, .ofList address.exploded, .ofList address.hex, .ofList address.binary]

theorem readAny?_text {address : Address} {text : String} (member : text ∈ address.texts) :
    readAny? text.toList = some address := by
  rw [readAny?_eq_some_iff]
  simp only [texts, List.mem_cons, List.not_mem_nil, or_false] at member
  rcases member with same | same | same | same
  · rw [same, toList_text]
    exact .inl (read?_chars address)
  · rw [same, String.toList_ofList]
    exact .inl ((read?_eq_some_iff _ address).mpr (spells_exploded address))
  · rw [same, String.toList_ofList]
    exact .inr (.inl ((ofHex?_eq_some_iff _ address).mpr (hex_hexDigits address)))
  · rw [same, String.toList_ofList]
    exact .inr (.inr ((ofBinary?_eq_some_iff _ address).mpr rfl))

theorem toList_toLower (text : String) : text.toLower.toList = lowered text.toList :=
  String.toList_map

/-- Blanks around a text of an address and the case of its letters are all one. -/
theorem normalForm?_padded {address : Address} {text written : String} (left right : String)
    (member : text ∈ address.texts) (letters : written.toLower = text.toLower)
    (blank : ∀ char ∈ left.toList ++ right.toList, Text.isBlank char = true) :
    normalForm? (.text (left ++ written ++ right)) = .ok (some (.ofList address.hex)) := by
  have read : readAny? written.toList = some address := by
    rw [← readAny?_lowered, ← toList_toLower, letters, toList_toLower, readAny?_lowered,
      readAny?_text member]
  have split : Stripped (left ++ written ++ right) written := by
    rw [Stripped, String.toList_append, String.toList_append]
    exact Text.hasCore_of_plain left.toList right.toList blank (plain_of_readAny? read)
  rw [normalForm?_text split, read, Option.map_some]

theorem exists_of_normalForm? {text form : String}
    (normalised : normalForm? (.text text) = .ok (some form)) :
    ∃ address : Address, form = .ofList address.hex := by
  obtain ⟨core, split, _⟩ := exists_stripped text
  rw [normalForm?_text split, Except.ok.injEq, Option.map_eq_some_iff] at normalised
  obtain ⟨address, _, same⟩ := normalised
  exact ⟨address, same.symm⟩

theorem normalForm?_hex (address : Address) :
    normalForm? (.text (.ofList address.hex)) = .ok (some (.ofList address.hex)) := by
  have member : String.ofList address.hex ∈ address.texts := by simp [texts]
  have same := normalForm?_padded "" "" member rfl nofun
  rwa [String.append_empty, String.empty_append] at same

theorem mem_hex {address : Address} {char : Char} (member : char ∈ address.hex) :
    char ∈ "0123456789abcdef".toList := by
  obtain ⟨value, digit⟩ := exists_of_mem (hex_lowerDigits address) member
  exact List.mem_of_getElem? digit

theorem texts_normalised :
    (∀ text, ∃ result, normalForm? (.text text) = .ok result) ∧
    (∀ text, ∃! core, Stripped text core) ∧
    (∀ text core result, Stripped text core →
      (normalForm? (.text text) = .ok result ↔ Normal core result)) ∧
    (∀ core, ¬ ((∃ address, ofTextValue (.text core) = .ok address) ∧ HexText core) ∧
      ¬ ((∃ address, ofTextValue (.text core) = .ok address) ∧ BinaryText core) ∧
      ¬ (HexText core ∧ BinaryText core)) ∧
    (∀ text form, normalForm? (.text text) = .ok (some form) →
      form.length = 32 ∧ (∀ char ∈ form.toList, char ∈ "0123456789abcdef".toList) ∧
        normalForm? (.text form) = .ok (some form)) ∧
    (∀ address : Address, ∀ text ∈ address.texts, ∀ written left right : String,
      written.toLower = text.toLower →
      (∀ char ∈ left.toList ++ right.toList, Text.isBlank char = true) →
      normalForm? (.text (left ++ written ++ right)) = .ok (some (.ofList address.hex))) := by
  refine ⟨?_, exists_stripped, ?_, forms_exclusive, ?_, ?_⟩
  · exact fun text => ⟨_, rfl⟩
  · intro text core result split
    rw [normalForm?_text split, Except.ok.injEq, normal_iff]
  · intro text form normalised
    obtain ⟨address, rfl⟩ := exists_of_normalForm? normalised
    refine ⟨?_, ?_, normalForm?_hex address⟩
    · rw [String.length_ofList, length_hex]
    · intro char member
      rw [String.toList_ofList] at member
      exact mem_hex member
  · exact fun address text member written left right => normalForm?_padded left right member

theorem texts_normalised_capitals :
    normalForm? (.text "\t20010DB8000000000000000000000001\n ") =
      .ok (some "20010db8000000000000000000000001") ∧
    normalForm? (.text "20010db8000000000000000000000001") =
      .ok (some "20010db8000000000000000000000001") ∧
    (normalForm? (.text " ::g") = .ok none ↔ Normal "::g" none) := by
  obtain ⟨_, _, normal, _, fixed, padded⟩ := texts_normalised
  have member : "20010db8000000000000000000000001" ∈
      (ofNat 0x20010db8000000000000000000000001).texts :=
    .tail _ (.tail _ (.head _))
  have letters : "20010DB8000000000000000000000001".toLower =
      "20010db8000000000000000000000001".toLower := by
    apply String.toList_inj.mp
    rw [toList_toLower, toList_toLower]
    decide
  have capitals : normalForm? (.text ("\t" ++ "20010DB8000000000000000000000001" ++ "\n ")) =
      .ok (some "20010db8000000000000000000000001") :=
    padded _ _ member _ _ _ letters (List.all_eq_true.mp (by decide))
  refine ⟨capitals, (fixed _ _ capitals).2.2, normal " ::g" "::g" none ?_⟩
  exact ⟨[' '], [], rfl, List.all_eq_true.mp (by decide), by decide, by decide⟩

end IPv6.Address
