import IPv6.Address.Input
import IPv6.Proofs.Address.Grammar
import IPv6.Proofs.Address.Groups
/-!
The reader and the grammar of address texts accept the same texts with the same groups.
-/

namespace IPv6.Address

theorem exists_of_mem {Left Right : Type} {Related : Left → Right → Prop} {lefts : List Left}
    {rights : List Right} (each : List.Forall₂ Related lefts rights) {left : Left}
    (member : left ∈ lefts) : ∃ right, Related left right := by
  induction each with
  | nil => cases member
  | @cons first right _ _ related _ ih =>
    rcases List.mem_cons.mp member with rfl | later
    · exact ⟨right, related⟩
    · exact ih later

theorem mapM_eq_some_iff {Item Result : Type} (read? : Item → Option Result) (items : List Item)
    (results : List Result) :
    items.mapM read? = some results ↔
      List.Forall₂ (fun item result => read? item = some result) items results := by
  induction items generalizing results with
  | nil => simp [eq_comm]
  | cons item rest ih =>
    simp only [List.mapM_cons, Option.bind_eq_bind, Option.bind_eq_some_iff, Option.pure_def,
      Option.some.injEq, List.forall₂_cons_left_iff, ih]
    constructor
    · intro parts
      rcases parts with ⟨result, first, others, each, rfl⟩
      exact ⟨result, others, first, each, rfl⟩
    · intro parts
      rcases parts with ⟨result, others, first, each, rfl⟩
      exact ⟨result, first, others, each, rfl⟩

/-! ## Fields -/

theorem readHex_eq_some_iff (text : List Char) (number : Nat) :
    Text.Hex.read? text = some number ↔ Numeral HexDigit 16 text number := by
  simp only [Text.Hex.read?, Text.foldlM_eq_some_iff, hexValue_eq_some_iff, Nat.mul_zero,
    Nat.add_zero, Numeral]

theorem readDecimal_eq_some_iff (text : List Char) (number : Nat) :
    Text.Decimal.read? text = some number ↔ Numeral DecimalDigit 10 text number := by
  simp only [Text.Decimal.read?, Text.foldlM_eq_some_iff, decimalValue_eq_some_iff, Nat.mul_zero,
    Nat.add_zero, Numeral]

theorem Numeral.lt {Digit : Char → Nat → Prop} {base : Nat} {text : List Char} {number : Nat}
    (wide : 1 < base) (small : ∀ char value, Digit char value → value < base)
    (numeral : Numeral Digit base text number) : number < base ^ text.length := by
  obtain ⟨digits, each, rfl⟩ := numeral
  have bounded : ∀ digit ∈ digits.reverse, digit < base := by
    intro digit member
    obtain ⟨char, related⟩ := exists_of_mem each.flip (List.mem_reverse.mp member)
    exact small char digit related
  have total := Nat.ofDigits_lt_base_pow_length wide bounded
  rwa [List.length_reverse, ← each.length_eq] at total

theorem readGroup?_eq_some_iff (text : List Char) (group : UInt16) :
    readGroup? text = some group ↔ HexGroup text group := by
  constructor
  · intro read
    unfold readGroup? at read
    split at read
    case isFalse => cases read
    case isTrue size =>
      obtain ⟨number, digits, rfl⟩ := Option.map_eq_some_iff.mp read
      have numeral := (readHex_eq_some_iff text number).mp digits
      have bound : number < 16 ^ 4 :=
        Nat.lt_of_lt_of_le (numeral.lt (by decide) fun _ _ digit => digit.lt)
          (Nat.pow_le_pow_right (by decide) size.2)
      refine ⟨List.ne_nil_of_length_pos size.1, size.2, ?_⟩
      rwa [UInt16.toNat_ofNat_of_lt' bound]
  · intro hex
    rcases hex with ⟨present, short, numeral⟩
    have size : 1 ≤ text.length ∧ text.length ≤ 4 := ⟨List.length_pos_of_ne_nil present, short⟩
    rw [readGroup?, if_pos size, (readHex_eq_some_iff text _).mpr numeral, Option.map_some,
      UInt16.ofNat_toNat]

theorem strict_eq_some_iff (text : List Char) (number : Nat) :
    Text.Decimal.strict? text = some number ↔
      text ≠ [] ∧ (text.head? = some '0' → text = ['0']) ∧
        Numeral DecimalDigit 10 text number := by
  rw [← readDecimal_eq_some_iff]
  cases text with
  | nil => simp [Text.Decimal.strict?]
  | cons first rest =>
    by_cases padded : first = '0' ∧ rest ≠ []
    · obtain ⟨rfl, more⟩ := padded
      obtain ⟨next, others, rfl⟩ := List.exists_cons_of_ne_nil more
      simp [Text.Decimal.strict?]
    · have leading : (first :: rest).head? = some '0' → first :: rest = ['0'] := by
        intro zero
        have same : first = '0' := Option.some.inj zero
        have alone : rest = [] := by
          by_contra more
          exact padded ⟨same, more⟩
        rw [same, alone]
      have strict : Text.Decimal.strict? (first :: rest) = Text.Decimal.read? (first :: rest) := by
        unfold Text.Decimal.strict?
        split
        case h_1 empty => cases empty
        case h_2 shape => simp_all
        case h_3 => rfl
      rw [strict]
      exact ⟨fun read => ⟨List.cons_ne_nil first rest, leading, read⟩, fun whole => whole.2.2⟩

theorem readDottedOctet?_eq_some_iff (text : List Char) (octet : UInt8) :
    readDottedOctet? text = some octet ↔ DecimalOctet text octet := by
  unfold readDottedOctet?
  constructor
  · intro read
    cases strict : Text.Decimal.strict? text with
    | none => simp [strict] at read
    | some number =>
      obtain ⟨bound, rfl⟩ : number < 256 ∧ UInt8.ofNat number = octet := by
        simpa [strict] using read
      obtain ⟨present, leading, numeral⟩ := (strict_eq_some_iff text number).mp strict
      refine ⟨present, leading, ?_⟩
      rwa [UInt8.toNat_ofNat_of_lt' bound]
  · intro decimal
    rcases decimal with ⟨present, leading, numeral⟩
    have strict := (strict_eq_some_iff text octet.toNat).mpr ⟨present, leading, numeral⟩
    have bound : octet.toNat < 256 := octet.toNat_lt
    simp [strict, bound]

/-! ## Characters and lengths of fields -/

theorem Numeral.not_mem {Digit : Char → Nat → Prop} {base : Nat} {text : List Char} {number : Nat}
    (numeral : Numeral Digit base text number)
    (small : ∀ char value, Digit char value → value < base) (char : Char)
    (other : ∀ value < base, ¬ Digit char value) : char ∉ text := by
  obtain ⟨digits, each, -⟩ := numeral
  intro member
  obtain ⟨value, digit⟩ := exists_of_mem each member
  exact other value (small char value digit) digit

theorem DecimalOctet.not_mem {text : List Char} {octet : UInt8} (decimal : DecimalOctet text octet)
    (char : Char) (other : ∀ value < 10, ¬ DecimalDigit char value) : char ∉ text :=
  decimal.numeral.not_mem (fun _ _ digit => digit.lt) char other

/-- A field that stands between colons. -/
def Piece (field : List Char) : Prop := field ≠ [] ∧ ':' ∉ field

theorem HexGroup.piece {text : List Char} {group : UInt16} (hex : HexGroup text group) :
    Piece text :=
  ⟨hex.present, hex.numeral.not_mem (fun _ _ digit => digit.lt) ':' (by decide)⟩

theorem not_mem_join (char : Char) (separator : Char) (pieces : List (List Char))
    (other : char ≠ separator) (absent : ∀ piece ∈ pieces, char ∉ piece) :
    char ∉ Text.join [separator] pieces := by
  induction pieces with
  | nil => exact List.not_mem_nil
  | cons piece more ih =>
    have first := absent piece List.mem_cons_self
    have others := ih fun next member => absent next (List.mem_cons_of_mem piece member)
    cases more with
    | nil => simpa [Text.join] using first
    | cons next rest => simp_all [Text.join]

theorem DottedOctets.length_ge {text : List Char} {octets : Octets}
    (dotted : DottedOctets text octets) : 7 ≤ text.length := by
  obtain ⟨parts, rfl, each, four⟩ := dotted
  have count : parts.length = 4 := each.length_eq.trans four
  have longer : ∀ length ∈ parts.map List.length, 1 ≤ length := by
    intro length member
    obtain ⟨part, inside, rfl⟩ := List.mem_map.mp member
    obtain ⟨octet, decimal⟩ := exists_of_mem each inside
    exact List.length_pos_of_ne_nil decimal.present
  have total := List.card_nsmul_le_sum (parts.map List.length) 1 longer
  rw [List.length_map, count, Nat.nsmul_eq_mul] at total
  rw [Text.length_join, count]
  omega

theorem DottedOctets.piece {text : List Char} {octets : Octets}
    (dotted : DottedOctets text octets) : Piece text := by
  have size := dotted.length_ge
  obtain ⟨parts, rfl, each, four⟩ := dotted
  refine ⟨List.ne_nil_of_length_pos (by omega), not_mem_join ':' '.' parts (by decide) ?_⟩
  intro part member
  obtain ⟨octet, decimal⟩ := exists_of_mem each member
  exact decimal.not_mem ':' (by decide)

/-! ## Groups with dotted octets at the end -/

theorem readDotted?_eq_some_iff (text : List Char) (groups : List UInt16) :
    readDotted? text = some groups ↔
      ∃ octets, DottedOctets text octets ∧ groups = groupsOf octets := by
  have octetsRead : ∀ octets, (Text.fields '.' text).mapM readDottedOctet? = some octets ↔
      List.Forall₂ DecimalOctet (Text.fields '.' text) octets := by
    intro octets
    simp only [mapM_eq_some_iff, readDottedOctet?_eq_some_iff]
  constructor
  · intro read
    obtain ⟨octets, each, rest⟩ := Option.bind_eq_some_iff.mp read
    by_cases four : octets.length = 4
    · refine ⟨octets, ⟨Text.fields '.' text, (Text.join_fields '.' text).symm, ?_, four⟩, ?_⟩
      · exact (octetsRead octets).mp each
      · simpa [four, eq_comm] using rest
    · simp [four] at rest
  · intro dotted
    rcases dotted with ⟨octets, ⟨parts, rfl, each, four⟩, rfl⟩
    have present : parts ≠ [] := by
      intro empty
      rw [empty, List.forall₂_nil_left_iff] at each
      simp [each] at four
    have free : ∀ part ∈ parts, '.' ∉ part := by
      intro part member
      obtain ⟨octet, decimal⟩ := exists_of_mem each member
      exact decimal.not_mem '.' (by decide)
    have cut := Text.fields_join '.' parts present free
    have read := (octetsRead octets).mpr (by rwa [cut])
    simp [readDotted?, read, four]

/-- Dotted octets are too long for a group. -/
theorem DottedOctets.readGroup?_eq_none {text : List Char} {octets : Octets}
    (dotted : DottedOctets text octets) : readGroup? text = none := by
  have size := dotted.length_ge
  have long : ¬ (1 ≤ text.length ∧ text.length ≤ 4) := by omega
  rw [readGroup?, if_neg long]

theorem readTail?_cons (field : List Char) (rest : List (List Char)) (more : rest ≠ []) :
    readTail? (field :: rest) =
      (readGroup? field).bind fun group => (readTail? rest).map (group :: ·) := by
  obtain ⟨next, others, rfl⟩ := List.exists_cons_of_ne_nil more
  cases first : readGroup? field with
  | none => simp [readTail?, first]
  | some group =>
    cases tail : readTail? (next :: others) with
    | none => simp [readTail?, first, tail]
    | some groups => simp [readTail?, first, tail]

theorem readTail?_append {hex : List (List Char)} {dotted? : Option (List Char)}
    {left low : List UInt16} (each : List.Forall₂ HexGroup hex left)
    (tail : DottedTail dotted? low) : readTail? (hex ++ dotted?.toList) = some (left ++ low) := by
  induction each with
  | nil =>
    cases tail with
    | absent => rfl
    | @dotted text octets spelled =>
      have read := (readDotted?_eq_some_iff text _).mpr ⟨octets, spelled, rfl⟩
      simp [readTail?, spelled.readGroup?_eq_none, read]
  | @cons field group hex left first others ih =>
    have read := (readGroup?_eq_some_iff field group).mpr first
    by_cases more : hex ++ dotted?.toList = []
    · obtain ⟨rfl, absent⟩ := List.append_eq_nil_iff.mp more
      rw [more] at ih
      have last : left ++ low = [] := (Option.some.inj ih).symm
      simp [readTail?, read, absent, last]
    · rw [List.cons_append, readTail?_cons field _ more, read, ih]
      rfl

theorem exists_of_readTail? {fields : List (List Char)} {groups : List UInt16}
    (read : readTail? fields = some groups) :
    ∃ hex dotted? left low, fields = hex ++ dotted?.toList ∧ List.Forall₂ HexGroup hex left ∧
      DottedTail dotted? low ∧ groups = left ++ low := by
  induction fields generalizing groups with
  | nil =>
    cases read
    exact ⟨[], none, [], [], rfl, .nil, .absent, rfl⟩
  | cons field rest ih =>
    by_cases more : rest = []
    · subst more
      cases first : readGroup? field with
      | some group =>
        have whole : groups = [group] := by simpa [readTail?, first, eq_comm] using read
        have hex := (readGroup?_eq_some_iff field group).mp first
        exact ⟨[field], none, [group], [], rfl, .cons hex .nil, .absent, whole⟩
      | none =>
        have dotted : readDotted? field = some groups := by simpa [readTail?, first] using read
        obtain ⟨octets, spelled, rfl⟩ := (readDotted?_eq_some_iff field groups).mp dotted
        exact ⟨[], some field, [], groupsOf octets, rfl, .nil, .dotted spelled, rfl⟩
    · rw [readTail?_cons field rest more] at read
      obtain ⟨group, first, later⟩ := Option.bind_eq_some_iff.mp read
      obtain ⟨others, tail, rfl⟩ := Option.map_eq_some_iff.mp later
      obtain ⟨hex, dotted?, left, low, rfl, each, spelled, rfl⟩ := ih tail
      have lead := (readGroup?_eq_some_iff field group).mp first
      exact ⟨field :: hex, dotted?, group :: left, low, rfl, .cons lead each, spelled, rfl⟩

/-! ## The gap -/

theorem cutAtGap_cons (char : Char) (rest : List Char)
    (apart : char ≠ ':' ∨ rest.head? ≠ some ':') :
    cutAtGap (char :: rest) =
      (cutAtGap rest).map fun (before, after) => (char :: before, after) := by
  rw [cutAtGap]
  intro later colon shape
  rcases apart with other | other
  · exact other colon
  · exact other (by rw [shape, List.head?_cons])

theorem cutAtGap_piece (field rest : List Char) (absent : ':' ∉ field)
    (single : rest.head? ≠ some ':') :
    cutAtGap (field ++ ':' :: rest) =
      (cutAtGap rest).map fun (before, after) => (field ++ ':' :: before, after) := by
  induction field with
  | nil => exact cutAtGap_cons ':' rest (.inr single)
  | cons char field ih =>
    rw [List.mem_cons, not_or] at absent
    rw [List.cons_append, cutAtGap_cons char _ (.inl (Ne.symm absent.1)), ih absent.2,
      Option.map_map]
    rfl

theorem cutAtGap_of_not_mem (text : List Char) (absent : ':' ∉ text) : cutAtGap text = none := by
  induction text with
  | nil => rfl
  | cons char rest ih =>
    rw [List.mem_cons, not_or] at absent
    rw [cutAtGap_cons char rest (.inl (Ne.symm absent.1)), ih absent.2, Option.map_none]

theorem cutAtGap_piece_gap (field after : List Char) (absent : ':' ∉ field) :
    cutAtGap (field ++ ':' :: ':' :: after) = some (field, after) := by
  induction field with
  | nil => rfl
  | cons char field ih =>
    rw [List.mem_cons, not_or] at absent
    rw [List.cons_append, cutAtGap_cons char _ (.inl (Ne.symm absent.1)), ih absent.2,
      Option.map_some]

theorem head?_join_ne (fields : List (List Char)) (pieces : ∀ field ∈ fields, Piece field)
    (rest : List Char) (present : fields ≠ []) :
    (Text.join [':'] fields ++ rest).head? ≠ some ':' := by
  obtain ⟨field, more, rfl⟩ := List.exists_cons_of_ne_nil present
  obtain ⟨filled, absent⟩ := pieces field List.mem_cons_self
  obtain ⟨char, others, rfl⟩ := List.exists_cons_of_ne_nil filled
  rw [Text.join_cons_cons, List.cons_append, List.head?_cons]
  intro same
  exact absent (by simp [Option.some.inj same])

theorem cutAtGap_join (fields : List (List Char)) (pieces : ∀ field ∈ fields, Piece field) :
    cutAtGap (Text.join [':'] fields) = none := by
  induction fields with
  | nil => rfl
  | cons field more ih =>
    have first := pieces field List.mem_cons_self
    have later := fun next member => pieces next (List.mem_cons_of_mem field member)
    cases more with
    | nil => exact cutAtGap_of_not_mem field first.2
    | cons next rest =>
      have single : (Text.join [':'] (next :: rest)).head? ≠ some ':' := by
        simpa using head?_join_ne (next :: rest) later [] (List.cons_ne_nil next rest)
      have cut : Text.join [':'] (field :: next :: rest) =
          field ++ ':' :: Text.join [':'] (next :: rest) := by simp [Text.join]
      rw [cut, cutAtGap_piece field _ first.2 single, ih later, Option.map_none]

theorem cutAtGap_join_gap (fields : List (List Char)) (after : List Char)
    (pieces : ∀ field ∈ fields, Piece field) :
    cutAtGap (Text.join [':'] fields ++ ':' :: ':' :: after) =
      some (Text.join [':'] fields, after) := by
  induction fields with
  | nil => rfl
  | cons field more ih =>
    have first := pieces field List.mem_cons_self
    have later := fun next member => pieces next (List.mem_cons_of_mem field member)
    cases more with
    | nil => exact cutAtGap_piece_gap field after first.2
    | cons next rest =>
      have single := head?_join_ne (next :: rest) later (':' :: ':' :: after)
        (List.cons_ne_nil next rest)
      have cut : Text.join [':'] (field :: next :: rest) =
          field ++ ':' :: Text.join [':'] (next :: rest) := by simp [Text.join]
      rw [cut, List.append_assoc, List.cons_append, cutAtGap_piece field _ first.2 single,
        ih later, Option.map_some]

theorem eq_of_cutAtGap {text before after : List Char}
    (found : cutAtGap text = some (before, after)) : text = before ++ ':' :: ':' :: after := by
  fun_induction cutAtGap text generalizing before with
  | case1 => cases found
  | case2 rest =>
    cases found
    rfl
  | case3 char rest _ ih =>
    obtain ⟨⟨lead, tail⟩, inner, same⟩ := Option.map_eq_some_iff.mp found
    cases same
    rw [ih inner, List.cons_append]

/-! ## The whole text -/

theorem HexGroup.pieces {fields : List (List Char)} {groups : List UInt16}
    (each : List.Forall₂ HexGroup fields groups) : ∀ field ∈ fields, Piece field := by
  intro field member
  obtain ⟨group, hex⟩ := exists_of_mem each member
  exact hex.piece

theorem DottedTail.pieces {fields : List (List Char)} {dotted? : Option (List Char)}
    {groups low : List UInt16} (tail : DottedTail dotted? low)
    (each : List.Forall₂ HexGroup fields groups) :
    ∀ field ∈ fields ++ dotted?.toList, Piece field := by
  intro field member
  rcases List.mem_append.mp member with inside | last
  · exact HexGroup.pieces each field inside
  · cases tail with
    | absent => cases last
    | dotted spelled =>
      rw [Option.toList_some, List.mem_singleton] at last
      exact last ▸ spelled.piece

theorem join_ne_nil (fields : List (List Char)) (pieces : ∀ field ∈ fields, Piece field)
    (present : fields ≠ []) : Text.join [':'] fields ≠ [] := by
  obtain ⟨field, more, rfl⟩ := List.exists_cons_of_ne_nil present
  obtain ⟨char, others, rfl⟩ := List.exists_cons_of_ne_nil (pieces field List.mem_cons_self).1
  rw [Text.join_cons_cons]
  exact List.cons_ne_nil char _

theorem fields_join_pieces (fields : List (List Char)) (pieces : ∀ field ∈ fields, Piece field)
    (present : fields ≠ []) : Text.fields ':' (Text.join [':'] fields) = fields :=
  Text.fields_join ':' fields present fun field member => (pieces field member).2

theorem readBeforeGap?_eq_some_iff (text : List Char) (groups : List UInt16) :
    readBeforeGap? text = some groups ↔
      ∃ fields, text = Text.join [':'] fields ∧ List.Forall₂ HexGroup fields groups := by
  have groupsRead : ∀ fields, fields.mapM readGroup? = some groups ↔
      List.Forall₂ HexGroup fields groups := by
    intro fields
    simp only [mapM_eq_some_iff, readGroup?_eq_some_iff]
  constructor
  · intro read
    by_cases empty : text = []
    · subst empty
      cases read
      exact ⟨[], rfl, .nil⟩
    · rw [readBeforeGap?, if_neg empty] at read
      exact ⟨_, (Text.join_fields ':' text).symm, (groupsRead _).mp read⟩
  · intro spelled
    rcases spelled with ⟨fields, rfl, each⟩
    by_cases empty : fields = []
    · subst empty
      cases each
      rfl
    · have pieces := HexGroup.pieces each
      rw [readBeforeGap?, if_neg (join_ne_nil fields pieces empty),
        fields_join_pieces fields pieces empty]
      exact (groupsRead fields).mpr each

theorem readAfterGap?_join {hex : List (List Char)} {dotted? : Option (List Char)}
    {left low : List UInt16} (each : List.Forall₂ HexGroup hex left)
    (tail : DottedTail dotted? low) :
    readAfterGap? (Text.join [':'] (hex ++ dotted?.toList)) = some (left ++ low) := by
  have read := readTail?_append each tail
  by_cases empty : hex ++ dotted?.toList = []
  · rw [empty] at read ⊢
    exact read
  · have pieces := tail.pieces each
    rw [readAfterGap?, if_neg (join_ne_nil _ pieces empty), fields_join_pieces _ pieces empty,
      read]

theorem exists_of_readAfterGap? {text : List Char} {groups : List UInt16}
    (read : readAfterGap? text = some groups) :
    ∃ hex dotted? left low, text = Text.join [':'] (hex ++ dotted?.toList) ∧
      List.Forall₂ HexGroup hex left ∧ DottedTail dotted? low ∧ groups = left ++ low := by
  by_cases empty : text = []
  · subst empty
    cases read
    exact ⟨[], none, [], [], rfl, .nil, .absent, rfl⟩
  · rw [readAfterGap?, if_neg empty] at read
    obtain ⟨hex, dotted?, left, low, cut, each, tail, rfl⟩ := exists_of_readTail? read
    refine ⟨hex, dotted?, left, low, ?_, each, tail, rfl⟩
    rw [← cut, Text.join_fields]

theorem readGroups?_text {writing : Writing} {groups : List UInt16}
    (denotes : writing.Denotes groups) : readGroups? writing.text = some groups := by
  cases denotes with
  | @full fields dotted? groups low hex tail count =>
    have pieces := tail.pieces hex
    have present : fields ++ dotted?.toList ≠ [] := by
      intro empty
      have read := readTail?_append hex tail
      rw [empty] at read
      have nothing : groups ++ low = [] := (Option.some.inj read).symm
      rw [← List.length_append, nothing, List.length_nil] at count
      omega
    simp only [Writing.text, readGroups?, cutAtGap_join _ pieces,
      fields_join_pieces _ pieces present, readTail?_append hex tail]
  | @gapped before after dotted? left right low hexBefore hexAfter tail count =>
    have cut : Writing.text ⟨before, some after, dotted?⟩ = Text.join [':'] before ++
        ':' :: ':' :: Text.join [':'] (after ++ dotted?.toList) := by simp [Writing.text]
    have lead := (readBeforeGap?_eq_some_iff _ left).mpr ⟨before, rfl, hexBefore⟩
    have rest := readAfterGap?_join hexAfter tail
    rw [cut, readGroups?, cutAtGap_join_gap before _ (HexGroup.pieces hexBefore)]
    rw [List.length_append] at count
    simp [lead, rest, count]

theorem spells_of_readGroups? {text : List Char} {groups : List UInt16}
    (read : readGroups? text = some groups) (eight : groups.length = 8) : Spells text groups := by
  unfold readGroups? at read
  split at read
  case h_1 =>
    obtain ⟨hex, dotted?, left, low, cut, each, tail, rfl⟩ := exists_of_readTail? read
    refine ⟨⟨hex, none, dotted?⟩, ?_, .full each tail (by rwa [← List.length_append])⟩
    rw [Writing.text, ← cut, Text.join_fields]
  case h_2 before after found =>
    obtain ⟨left, lead, later⟩ := Option.bind_eq_some_iff.mp read
    obtain ⟨whole, rest, result⟩ := Option.bind_eq_some_iff.mp later
    obtain ⟨fields, rfl, hexBefore⟩ := (readBeforeGap?_eq_some_iff before left).mp lead
    obtain ⟨hex, dotted?, right, low, rfl, hexAfter, tail, rfl⟩ := exists_of_readAfterGap? rest
    by_cases count : left.length + (right ++ low).length ≤ 7
    · rw [if_pos count] at result
      cases result
      refine ⟨⟨fields, some hex, dotted?⟩, ?_, .gapped hexBefore hexAfter tail count⟩
      rw [eq_of_cutAtGap found]
      simp [Writing.text]
    · rw [if_neg count] at result
      cases result

theorem Writing.Denotes.length_eq {writing : Writing} {groups : List UInt16}
    (denotes : writing.Denotes groups) : groups.length = 8 := by
  cases denotes with
  | full hex tail count => rwa [List.length_append]
  | gapped hexBefore hexAfter tail count =>
    simp only [List.length_append, List.length_replicate] at count ⊢
    omega

theorem Spells.length_eq {text : List Char} {groups : List UInt16} (spelled : Spells text groups) :
    groups.length = 8 := by
  obtain ⟨writing, _, denotes⟩ := spelled
  exact denotes.length_eq

theorem read?_eq_some_iff (text : List Char) (address : Address) :
    read? text = some address ↔ Spells text address.groups := by
  constructor
  · intro read
    obtain ⟨groups, found, made⟩ := Option.bind_eq_some_iff.mp read
    rw [ofGroups?_eq_some_iff] at made
    subst made
    exact spells_of_readGroups? found (length_groups address)
  · intro spelled
    rcases spelled with ⟨writing, rfl, denotes⟩
    rw [read?, readGroups?_text denotes]
    exact (ofGroups?_eq_some_iff _ address).mpr rfl

theorem exists_groups_eq {groups : List UInt16} (eight : groups.length = 8) :
    ∃ address : Address, groups = address.groups := by
  have made : ofGroups? groups = some _ := dif_pos eight
  exact ⟨_, (ofGroups?_eq_some_iff groups _).mp made⟩

theorem read?_eq_none_iff (text : List Char) :
    read? text = none ↔ ¬ ∃ groups, Spells text groups := by
  constructor
  · intro unread spelling
    rcases spelling with ⟨groups, spelled⟩
    obtain ⟨address, rfl⟩ := exists_groups_eq spelled.length_eq
    have read := (read?_eq_some_iff text address).mpr spelled
    rw [unread] at read
    cases read
  · intro unspelled
    cases read : read? text with
    | none => rfl
    | some address =>
      exact absurd ⟨address.groups, (read?_eq_some_iff text address).mp read⟩ unspelled

theorem Spells.unique {text : List Char} {groups groups' : List UInt16}
    (first : Spells text groups) (second : Spells text groups') : groups = groups' := by
  obtain ⟨address, rfl⟩ := exists_groups_eq first.length_eq
  obtain ⟨address', rfl⟩ := exists_groups_eq second.length_eq
  have read := (read?_eq_some_iff text address).mpr first
  have read' := (read?_eq_some_iff text address').mpr second
  rw [Option.some.inj (read.symm.trans read')]

/-! ## Texts that callers hand over -/

theorem readText_eq_ok_iff (text : String) (address : Address) :
    readText text = .ok address ↔ Spells text.toList address.groups := by
  rw [← read?_eq_some_iff, readText, ofText?]
  cases read? text.toList with
  | none => exact ⟨nofun, nofun⟩
  | some other => rw [Except.ok.injEq, Option.some.injEq]

theorem readText_eq_refuse_iff (text : String) :
    readText text = refuse (.notAnAddress text) ↔ ¬ ∃ groups, Spells text.toList groups := by
  rw [← read?_eq_none_iff, readText, ofText?]
  cases read? text.toList with
  | none => exact ⟨fun _ => rfl, fun _ => rfl⟩
  | some other => exact ⟨nofun, nofun⟩

theorem spelled_texts_accepted (text : String) :
    ((∃ address, ofTextValue (.text text) = .ok address) ↔ ∃ groups, Spells text.toList groups) ∧
    (∀ address, ofTextValue (.text text) = .ok address ↔
      ∃ groups, Spells text.toList groups ∧ address.octets = octetsOfGroups groups) ∧
    (ofTextValue (.text text) = refuse (.notAnAddress text) ↔
      ¬ ∃ groups, Spells text.toList groups) ∧
    (Refusal.notAnAddress text).kind = .invalidAddressFormat ∧
    (Refusal.notAnAddress text).code = 22 ∧
    ofValue (.text text) = ofTextValue (.text text) ∧
    (parse? (.text text) = none ↔ ¬ ∃ groups, Spells text.toList groups) ∧
    (∀ address, parse? (.text text) = some address ↔
      ofTextValue (.text text) = .ok address) := by
  have spelled := readText_eq_ok_iff text
  refine ⟨?_, ?_, readText_eq_refuse_iff text, rfl, rfl, rfl, read?_eq_none_iff text.toList, ?_⟩
  · constructor
    · intro accepted
      rcases accepted with ⟨address, read⟩
      exact ⟨address.groups, (spelled address).mp read⟩
    · intro spelling
      rcases spelling with ⟨groups, spells⟩
      obtain ⟨address, rfl⟩ := exists_groups_eq spells.length_eq
      exact ⟨address, (spelled address).mpr spells⟩
  · intro address
    constructor
    · intro read
      exact ⟨address.groups, (spelled address).mp read, (octetsOfGroups_groups address).symm⟩
    · intro spelling
      rcases spelling with ⟨groups, spells, same⟩
      have equal : groups = address.groups := by
        rw [Address.groups, same, groupsOf_octetsOfGroups]
      exact (spelled address).mpr (equal ▸ spells)
  · intro address
    exact (read?_eq_some_iff text.toList address).trans (spelled address).symm

end IPv6.Address
