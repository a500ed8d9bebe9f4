import IPv6.Address.Forms
import IPv6.Proofs.Address.Digits
/-!
Letters stand for the same digits in either case, so every reader of address texts gives the same answer
for a text and for the text in lowercase.
-/

namespace IPv6.Address

/-! ## Characters -/

theorem toLower_of_not_ascii {char : Char} (large : 128 ≤ char.toNat) : char.toLower = char := by
  have other : ¬ (char.val ≥ 'A'.val ∧ char.val ≤ 'Z'.val) := by
    intro letter
    have small : char.toNat ≤ 'Z'.toNat := letter.2
    exact absurd (Nat.le_trans large small) (by decide)
  exact dif_neg other

/-- What holds of the characters below 128 and of every one that has no lowercase of its own holds of all. -/
theorem forall_char {Holds : Char → Prop} (table : ∀ code < 128, Holds (Char.ofNat code))
    (fixed : ∀ char, char.toLower = char → Holds char) (char : Char) : Holds char := by
  by_cases ascii : char.toNat < 128
  · have named := table char.toNat ascii
    rwa [Char.ofNat_toNat] at named
  · exact fixed char (toLower_of_not_ascii (Nat.le_of_not_lt ascii))

theorem hexValue_toLower : ∀ char : Char, Text.Hex.value? char.toLower = Text.Hex.value? char :=
  forall_char (by decide) fun _ same => congrArg Text.Hex.value? same

theorem decimalValue_toLower :
    ∀ char : Char, Text.Decimal.value? char.toLower = Text.Decimal.value? char :=
  forall_char (by decide) fun _ same => congrArg Text.Decimal.value? same

/-- The characters that are read as themselves. -/
theorem toLower_eq_iff {mark : Char} (plain : mark ∈ [':', '.', '0', '1']) :
    ∀ char : Char, char.toLower = mark ↔ char = mark := by
  refine forall_char ?_ fun char same => by rw [same]
  intro code small
  have table : ∀ code < 128, [':', '.', '0', '1'].all fun mark =>
      decide ((Char.ofNat code).toLower = mark ↔ Char.ofNat code = mark) := by decide
  exact of_decide_eq_true (List.all_eq_true.mp (table code small) mark plain)

/-! ## Fields -/

/-- A text in lowercase. -/
def lowered (text : List Char) : List Char := text.map Char.toLower

theorem hexRead_lowered (text : List Char) :
    Text.Hex.read? (lowered text) = Text.Hex.read? text := by
  simp only [Text.Hex.read?, lowered, List.foldlM_map, hexValue_toLower]

theorem decimalRead_lowered (text : List Char) :
    Text.Decimal.read? (lowered text) = Text.Decimal.read? text := by
  simp only [Text.Decimal.read?, lowered, List.foldlM_map, decimalValue_toLower]

theorem readGroup?_lowered (text : List Char) : readGroup? (lowered text) = readGroup? text := by
  rw [readGroup?, readGroup?, hexRead_lowered, lowered, List.length_map]

theorem strict?_cons (first : Char) (rest : List Char) :
    Text.Decimal.strict? (first :: rest) =
      if first = '0' ∧ rest ≠ [] then none else Text.Decimal.read? (first :: rest) := by
  unfold Text.Decimal.strict?
  split
  case h_1 empty => cases empty
  case h_2 next others shape =>
    cases shape
    rw [if_pos ⟨rfl, List.cons_ne_nil next others⟩]
  case h_3 _ other =>
    rw [if_neg]
    intro padded
    obtain ⟨next, others, rfl⟩ := List.exists_cons_of_ne_nil padded.2
    exact other next others (by rw [padded.1])

theorem strict?_lowered (text : List Char) :
    Text.Decimal.strict? (lowered text) = Text.Decimal.strict? text := by
  cases text with
  | nil => rfl
  | cons first rest =>
    have zero : first.toLower = '0' ↔ first = '0' := toLower_eq_iff (by decide) first
    have read := decimalRead_lowered (first :: rest)
    rw [lowered, List.map_cons] at read ⊢
    rw [strict?_cons, strict?_cons, read]
    simp only [Ne, zero, List.map_eq_nil_iff]

theorem readDottedOctet?_lowered (text : List Char) :
    readDottedOctet? (lowered text) = readDottedOctet? text := by
  rw [readDottedOctet?, readDottedOctet?, strict?_lowered]

theorem fields_lowered {separator : Char}
    (kept : ∀ char : Char, char.toLower = separator ↔ char = separator) (text : List Char) :
    Text.fields separator (lowered text) = (Text.fields separator text).map lowered := by
  induction text with
  | nil => rfl
  | cons char rest ih =>
    obtain ⟨field, more, split⟩ := List.exists_cons_of_ne_nil (Text.fields_ne_nil separator rest)
    rw [split, lowered, List.map_cons] at ih
    rw [lowered, List.map_cons, Text.fields, Text.fields]
    by_cases same : char = separator
    · rw [if_pos ((kept char).mpr same), if_pos same, ih, split]
      rfl
    · rw [if_neg (same ∘ (kept char).mp), if_neg same, ih, split]
      rfl

theorem mapM_lowered {Result : Type} {readField? : List Char → Option Result}
    (blind : ∀ field, readField? (lowered field) = readField? field) (fields : List (List Char)) :
    (fields.map lowered).mapM readField? = fields.mapM readField? := by
  rw [List.mapM_map]
  exact congrArg (fields.mapM ·) (funext blind)

theorem fields_colon_lowered (text : List Char) :
    Text.fields ':' (lowered text) = (Text.fields ':' text).map lowered :=
  fields_lowered (toLower_eq_iff (by decide)) text

theorem readDotted?_lowered (text : List Char) : readDotted? (lowered text) = readDotted? text := by
  rw [readDotted?, readDotted?, fields_lowered (toLower_eq_iff (by decide)),
    mapM_lowered readDottedOctet?_lowered]

theorem readTail?_lowered (fields : List (List Char)) :
    readTail? (fields.map lowered) = readTail? fields := by
  induction fields with
  | nil => rfl
  | cons field rest ih =>
    by_cases more : rest = []
    · rw [more, List.map_singleton, readTail?, readTail?, readGroup?_lowered, readDotted?_lowered]
    · have more' : rest.map lowered ≠ [] := more ∘ List.map_eq_nil_iff.mp
      rw [List.map_cons, readTail?_cons _ _ more', readTail?_cons _ _ more, readGroup?_lowered, ih]

/-! ## Addresses -/

theorem head?_lowered_ne {rest : List Char} (other : rest.head? ≠ some ':') :
    (lowered rest).head? ≠ some ':' := by
  cases rest with
  | nil => exact other
  | cons char rest =>
    intro same
    exact other (congrArg some ((toLower_eq_iff (by decide) char).mp (Option.some.inj same)))

theorem cutAtGap_lowered (text : List Char) :
    cutAtGap (lowered text) =
      (cutAtGap text).map fun (before, after) => (lowered before, lowered after) := by
  induction text with
  | nil => rfl
  | cons char rest ih =>
    by_cases apart : char ≠ ':' ∨ rest.head? ≠ some ':'
    · have apart' : char.toLower ≠ ':' ∨ (lowered rest).head? ≠ some ':' :=
        apart.imp (mt (toLower_eq_iff (by decide) char).mp) head?_lowered_ne
      have step := cutAtGap_cons char.toLower (lowered rest) apart'
      rw [ih] at step
      rw [cutAtGap_cons char rest apart]
      refine step.trans ?_
      rw [Option.map_map, Option.map_map]
      rfl
    · obtain ⟨rfl, colon⟩ := not_or.mp apart |>.imp not_not.mp not_not.mp
      cases rest with
      | nil => cases colon
      | cons next rest =>
        cases colon
        rfl

theorem readBeforeGap?_lowered (text : List Char) :
    readBeforeGap? (lowered text) = readBeforeGap? text := by
  have empty : lowered text = [] ↔ text = [] := List.map_eq_nil_iff
  rw [readBeforeGap?, readBeforeGap?, fields_colon_lowered, mapM_lowered readGroup?_lowered]
  simp only [empty]

theorem readAfterGap?_lowered (text : List Char) :
    readAfterGap? (lowered text) = readAfterGap? text := by
  have empty : lowered text = [] ↔ text = [] := List.map_eq_nil_iff
  rw [readAfterGap?, readAfterGap?, fields_colon_lowered, readTail?_lowered]
  simp only [empty]

theorem read?_lowered (text : List Char) : read? (lowered text) = read? text := by
  rw [read?, read?, readGroups?, readGroups?, cutAtGap_lowered]
  cases cutAtGap text with
  | none =>
    show (readTail? (Text.fields ':' (lowered text))).bind ofGroups? = _
    rw [fields_colon_lowered, readTail?_lowered]
  | some parts =>
    obtain ⟨before, after⟩ := parts
    simp only [Option.map_some, readBeforeGap?_lowered, readAfterGap?_lowered]

theorem ofHex?_lowered (text : List Char) : ofHex? (lowered text) = ofHex? text := by
  have digit (char : Char) (value : Nat) : HexDigit char.toLower value ↔ HexDigit char value := by
    rw [← hexValue_eq_some_iff, hexValue_toLower, hexValue_eq_some_iff]
  ext address
  simp only [ofHex?_eq_some_iff, lowered, List.forall₂_map_left_iff, digit]

theorem ofBinary?_lowered (text : List Char) : ofBinary? (lowered text) = ofBinary? text := by
  have zero (char : Char) : (char.toLower == '0') = (char == '0') :=
    Bool.eq_iff_iff.mpr (by simpa using toLower_eq_iff (by decide) char)
  have one (char : Char) : (char.toLower == '1') = (char == '1') :=
    Bool.eq_iff_iff.mpr (by simpa using toLower_eq_iff (by decide) char)
  have form : isBinaryForm (lowered text) = isBinaryForm text := by
    simp only [isBinaryForm, lowered, List.length_map, List.all_map, Function.comp_def, zero, one]
  have number : readBits (lowered text) = readBits text := by
    simp only [readBits, lowered, List.foldl_map, one]
  rw [ofBinary?, ofBinary?, form, number]

end IPv6.Address
