import IPv6.Proofs.Address.Embedded
import IPv6.Proofs.Address.Prefixes
import IPv6.Proofs.CommandLine.Lines
/-!
The block of an address. Under a rule stand its texts, its octets in two digits each, the class that it
has and the IPv4 address in it, and every one of these entries is true of the address.
-/

namespace IPv6

open Text (Unbroken unbroken_append unbroken_replicate words)
open Address (LowerDigit)

/-! ## Octets in two digits -/

/-- A word of two lowercase digits for an octet. -/
def OctetDigits (word : List Char) (octet : UInt8) : Prop :=
  List.Forall₂ LowerDigit word (Address.nibblesOf [octet])

theorem octetDigits_ofOctet (octet : UInt8) : OctetDigits (Text.Hex.ofOctet octet) octet := by
  have written := Address.ofOctets_eq_map [octet]
  rw [Text.Hex.ofOctets, List.flatMap_singleton] at written
  rw [OctetDigits, written, List.forall₂_map_left_iff, List.forall₂_same]
  exact fun nibble member =>
    Address.lowerDigit_digit nibble ((Address.positional_nibblesOf [octet]).small nibble member)

theorem octetDigits_map (octets : Octets) :
    List.Forall₂ OctetDigits (octets.map Text.Hex.ofOctet) octets := by
  rw [List.forall₂_map_left_iff, List.forall₂_same]
  exact fun octet _ => octetDigits_ofOctet octet

theorem OctetDigits.unbroken {word : List Char} {octet : UInt8} (digits : OctetDigits word octet) :
    Unbroken word :=
  Text.Quoted.unbroken_lowerDigits digits

theorem OctetDigits.plain {word : List Char} {octet : UInt8} (digits : OctetDigits word octet) :
    word ≠ [] ∧ ' ' ∉ word := by
  constructor
  · intro empty
    rw [empty] at digits
    cases digits
  · intro member
    obtain ⟨value, digit⟩ := Address.exists_of_mem digits member
    have inked : ∀ place ∈ "0123456789abcdef".toList.zipIdx, place.1 ≠ ' ' := by decide
    exact inked _ (List.mk_mem_zipIdx_iff_getElem?.mpr digit) rfl

theorem words_spaced (octets : Octets) :
    words (Text.Hex.spaced octets) = octets.map Text.Hex.ofOctet := by
  apply Text.words_join
  intro word member
  obtain ⟨octet, _, rfl⟩ := List.mem_map.mp member
  exact (octetDigits_ofOctet octet).plain

theorem unbroken_spaced (octets : Octets) : Unbroken (Text.Hex.spaced octets) := by
  apply Text.unbroken_join (by decide)
  intro word member
  obtain ⟨octet, _, rfl⟩ := List.mem_map.mp member
  exact (octetDigits_ofOctet octet).unbroken

namespace CommandLine

/-! ## Blocks -/

/-- The label of a line, and what stands behind its colon. -/
def entryOf? (line : String) : Option (String × List Char) :=
  match words (line.toList.takeWhile (· != ':')) with
  | [label] => some (String.ofList label, (line.toList.dropWhile (· != ':')).drop 2)
  | _ => none

theorem entryOf?_labelled {label : String} (present : label ≠ "") (blank : ' ' ∉ label.toList)
    (colon : ':' ∉ label.toList) (text : List Char) :
    entryOf? (labelled label text) = some (label, text) := by
  let front := "  ".toList ++ label.toList ++ List.replicate (14 - label.length) ' '
  have whole : (labelled label text).toList = front ++ ':' :: ' ' :: text := by
    simp only [labelled, String.toList_append, String.toList_ofList, List.append_assoc, front]
    rfl
  have absent : ':' ∉ front := by
    simp only [front, List.mem_append, List.mem_replicate, not_or]
    exact ⟨⟨by decide, colon⟩, fun filling => absurd filling.2 (by decide)⟩
  have single : words front = [label.toList] := by
    have word : label.toList ≠ [] := fun empty => present (String.toList_eq_nil_iff.mp empty)
    have margin : words ("  ".toList ++ label.toList) = words label.toList :=
      (Text.words_append_cons [] _).trans (Text.words_append_cons [] _)
    rw [Text.words_append_replicate, margin, Text.words_of_not_mem word blank]
  rw [entryOf?, whole, Text.takeWhile_append_cons absent, Text.dropWhile_append_cons absent, single]
  show some (String.ofList label.toList, text) = _
  rw [String.ofList_toList]

theorem unbroken_labelled {label : String} (plain : Unbroken label.toList) {text : List Char}
    (unbroken : Unbroken text) : Unbroken (labelled label text).toList := by
  have blanks := unbroken_replicate (14 - label.length) (by decide : ¬ Text.IsControl ' ')
  simp only [labelled, String.toList_append, String.toList_ofList, unbroken_append]
  exact ⟨⟨⟨⟨by decide, plain⟩, blanks⟩, by decide⟩, unbroken⟩

/-- The text is read as the address. -/
def Reads (text : String) (address : Address) : Prop := Address.readText text = .ok address

/-- The classes and their names. -/
inductive ClassName : Address.Class → List Char → Prop
  | unspecified : ClassName .unspecified "unspecified".toList
  | loopback : ClassName .loopback "loopback".toList
  | linkLocal : ClassName .linkLocal "link_local".toList
  | siteLocal : ClassName .siteLocal "site_local".toList
  | ipv4Mapped : ClassName .ipv4Mapped "ipv4_mapped".toList
  | ipv4Compatible : ClassName .ipv4Compatible "ipv4_compatible".toList
  | multicast : ClassName .multicast "multicast".toList

theorem className_name (kind : Address.Class) : ClassName kind kind.name.toList := by
  cases kind <;> constructor

/-- The classes of an address as they are shown: the name of the one that it has, or a dash. -/
inductive ShowsClass (address : Address) : List Char → Prop
  | none (plain : ∀ kind, address.belongs kind = false)
      (outside : ∀ kind : Address.Class, ¬ kind.Covers address.toNat) : ShowsClass address ['-']
  | one {kind : Address.Class} {name : List Char} (named : ClassName kind name)
      (only : ∀ other, address.belongs other = true ↔ other = kind)
      (covered : kind.Covers address.toNat) : ShowsClass address name

theorem showsClass_classText (address : Address) : ShowsClass address (classText address) := by
  by_cases found : ∃ kind : Address.Class, kind.Covers address.toNat
  · obtain ⟨kind, covered⟩ := found
    have only (other : Address.Class) : address.belongs other = true ↔ other = kind := by
      rw [address.belongs_iff]
      constructor
      · exact fun covered' => covered'.unique covered
      · intro same
        rwa [same]
    have classes : address.classes = [kind] := by
      have same : address.classes = Address.Class.all.filter fun other => other = kind := by
        apply List.filter_congr
        intro other _
        rw [Bool.eq_iff_iff, only, decide_eq_true_eq]
      rw [same]
      cases kind <;> rfl
    have shown : classText address = kind.name.toList := by
      rw [classText, classes]
      rfl
    exact shown ▸ .one (className_name kind) only covered
  · rw [not_exists] at found
    have plain (kind : Address.Class) : address.belongs kind = false :=
      Bool.eq_false_iff.mpr fun belongs => found kind ((address.belongs_iff kind).mp belongs)
    have classes : address.classes = [] := List.filter_eq_nil_iff.mpr fun kind _ => by simp [plain]
    have shown : classText address = ['-'] := by rw [classText, classes]
    exact shown ▸ .none plain found

theorem ShowsClass.unbroken {address : Address} {text : List Char}
    (shows : ShowsClass address text) : Unbroken text := by
  cases shows with
  | none => decide
  | one named => cases named <;> decide

/-- What a block says, label by label. -/
structure Entries where
  text : List Char
  exploded : List Char
  bytes : List Char
  classes : List Char
  ipv4? : Option (List Char)

/-- The entries with their labels, in order. -/
def Entries.all (entries : Entries) : List (String × List Char) :=
  [("Address", entries.text), ("Exploded", entries.exploded), ("Bytes", entries.bytes),
    ("Classes", entries.classes)] ++ (entries.ipv4?.map fun dotted => ("IPv4", dotted)).toList

/-- Every entry is true of the address. -/
structure Entries.Describe (entries : Entries) (address : Address) : Prop where
  text : Reads (String.ofList entries.text) address
  exploded : Reads (String.ofList entries.exploded) address
  bytes : List.Forall₂ OctetDigits (words entries.bytes) address.octets
  classes : ShowsClass address entries.classes
  ipv4 : ∀ dotted, entries.ipv4? = some dotted ↔ address.ipv4Text = .ok (String.ofList dotted)
  dotted : ∀ dotted ∈ entries.ipv4?, Address.DottedOctets dotted address.ipv4Octets
  embeds : entries.ipv4? ≠ none ↔ address.isIPv4Mapped = true ∨ address.isIPv4Compatible = true

/-- A line across. -/
def IsRule (line : String) : Prop := line.toList = List.replicate 50 '─'

/-- A rule, and below it the entries with one line for each. -/
inductive Describes (address : Address) : List String → Prop
  | block {rule : String} {lines : List String} {entries : Entries} (above : IsRule rule)
      (read : lines.map entryOf? = entries.all.map some) (describe : entries.Describe address) :
      Describes address (rule :: lines)

theorem isRule_ruleLine : IsRule ruleLine := String.toList_ofList

section Blocks

variable (address : Address)

/-- The entries of the block of an address. -/
def entriesOf : Entries :=
  ⟨address.chars, address.exploded, Text.Hex.spaced address.octets, classText address,
    address.ipv4Text?.map String.toList⟩

theorem block_eq : block address =
    ruleLine :: (entriesOf address).all.map fun (label, text) => labelled label text := by
  rw [block, entriesOf, Entries.all]
  cases address.ipv4Text? <;> rfl

theorem label_of_mem {entries : Entries} {label : String} {text : List Char}
    (member : (label, text) ∈ entries.all) :
    (label ≠ "" ∧ ' ' ∉ label.toList ∧ ':' ∉ label.toList) ∧ Unbroken label.toList := by
  have labels : label ∈ ["Address", "Exploded", "Bytes", "Classes", "IPv4"] := by
    have inside : label ∈ entries.all.map Prod.fst := List.mem_map_of_mem member
    rcases entries with ⟨_, _, _, _, _ | dotted⟩
    · exact List.mem_append_left ["IPv4"] inside
    · exact inside
  have plain : ∀ label ∈ ["Address", "Exploded", "Bytes", "Classes", "IPv4"],
      (label ≠ "" ∧ ' ' ∉ label.toList ∧ ':' ∉ label.toList) ∧ Unbroken label.toList := by
    decide
  exact plain label labels

theorem reads_of_spells {text : List Char} (spelled : Address.Spells text address.groups) :
    Reads (String.ofList text) address := by
  rwa [Reads, Address.readText_eq_ok_iff, String.toList_ofList]

theorem entriesOf_describe : (entriesOf address).Describe address where
  text := reads_of_spells address (Address.canonicalFor_chars address).spells
  exploded := reads_of_spells address (Address.spells_exploded address)
  bytes := by
    rw [entriesOf, words_spaced]
    exact octetDigits_map address.octets
  classes := showsClass_classText address
  ipv4 dotted := by
    rw [entriesOf, Address.ipv4Text]
    cases address.ipv4Text? with
    | none =>
      constructor
      · intro shown
        cases shown
      · intro answered
        cases answered
    | some text =>
      rw [Option.map_some, Option.some.injEq, Except.ok.injEq, ← String.toList_inj,
        String.toList_ofList]
  dotted dotted shown := by
    obtain ⟨text, found, rfl⟩ := Option.map_eq_some_iff.mp shown
    rw [Address.ipv4Text?] at found
    split at found
    · cases found
      rw [String.toList_ofList]
      exact Address.dottedOctets_ipv4 address
    · cases found
  embeds := by
    rw [entriesOf, Address.ipv4Text?, ← Bool.or_eq_true, ← Address.embedsIPv4]
    split
    case isTrue embeds => exact iff_of_true (Option.some_ne_none _) embeds
    case isFalse plain => exact iff_of_false (fun present => present rfl) plain

theorem describes_block : Describes address (block address) := by
  rw [block_eq]
  refine .block isRule_ruleLine ?_ (entriesOf_describe address)
  rw [List.map_map]
  apply List.map_congr_left
  intro entry member
  obtain ⟨⟨present, blank, colon⟩, _⟩ := label_of_mem member
  exact entryOf?_labelled present blank colon entry.2

theorem unbroken_entries : ∀ entry ∈ (entriesOf address).all, Unbroken entry.2 := by
  intro entry member
  rcases List.mem_append.mp member with first | last
  · simp only [List.mem_cons, List.not_mem_nil, or_false] at first
    rcases first with rfl | rfl | rfl | rfl
    · exact address.unbroken_chars
    · exact (Address.spells_exploded address).unbroken
    · exact unbroken_spaced address.octets
    · exact (showsClass_classText address).unbroken
  · obtain ⟨dotted, shown, rfl⟩ := Option.map_eq_some_iff.mp (Option.mem_toList.mp last)
    exact ((entriesOf_describe address).dotted dotted shown).unbroken

theorem IsRule.unbroken {line : String} (rule : IsRule line) : Unbroken line.toList := by
  rw [rule]
  exact unbroken_replicate 50 (by decide)

theorem unbroken_block : ∀ line ∈ block address, Unbroken line.toList := by
  rw [block_eq, List.forall_mem_cons]
  refine ⟨isRule_ruleLine.unbroken, ?_⟩
  intro line member
  obtain ⟨entry, inside, rfl⟩ := List.mem_map.mp member
  exact unbroken_labelled (label_of_mem inside).2 (unbroken_entries address entry inside)

end Blocks

theorem describes_blocks (addresses : List Address) :
    List.Forall₂ Describes addresses (addresses.map block) := by
  rw [List.forall₂_map_right_iff, List.forall₂_same]
  exact fun address _ => describes_block address

theorem unbroken_blocks (addresses : List Address) :
    ∀ line ∈ (addresses.map block).flatten, Unbroken line.toList := by
  intro line member
  obtain ⟨lines, inside, within⟩ := List.mem_flatten.mp member
  obtain ⟨address, _, rfl⟩ := List.mem_map.mp inside
  exact unbroken_block address line within

theorem oneLine_blocks (addresses : List Address) :
    ∀ line ∈ (addresses.map block).flatten, OneLine line.toList :=
  fun line member => (unbroken_blocks addresses line member).oneLine

end CommandLine

end IPv6
