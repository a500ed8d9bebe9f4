import IPv6.Proofs.CommandLine.Reports
import IPv6.Proofs.SocketAddress.Integers
/-!
What `inspect` and `endpoint` show. The blocks describe the addresses that were read, and the octets of an
endpoint stand in its lines one behind the other, none left out.
-/

namespace IPv6

open Text (Unbroken unbroken_append unbroken_cons unbroken_replicate words)

namespace CommandLine

/-! ## Columns -/

/-- The words behind the offset in a line of an endpoint. -/
def columns (line : String) : List (List Char) := (words (line.toList.dropWhile (· != '@'))).drop 1

section Columns

variable (layout : Layout) (endpoint : Endpoint)

theorem columns_of_not_mem {line : String} (absent : '@' ∉ line.toList) : columns line = [] := by
  rw [columns, Text.dropWhile_of_not_mem absent]
  rfl

theorem columns_fieldLine (field : Field) (slot : Slot) :
    columns (fieldLine endpoint field slot) =
      (endpoint.record.segment slot.offset slot.size).map Text.Hex.ofOctet := by
  have offset : ' ' ∉ '@' :: Text.Decimal.ofNat slot.offset := by
    rw [List.mem_cons, not_or]
    exact ⟨by decide, fun member => (Text.Numeral.isDecimal_of_mem member).ne ' ' (by decide) rfl⟩
  have front : '@' ∉ "    ".toList ++ padded 9 field.name.toList ++ [' '] := by
    cases field <;> decide
  have whole : (fieldLine endpoint field slot).toList =
      ("    ".toList ++ padded 9 field.name.toList ++ [' ']) ++ '@' ::
        (padded 2 (Text.Decimal.ofNat slot.offset) ++ ' ' ::
          Text.Hex.spaced (endpoint.record.segment slot.offset slot.size)) := by
    have mark : " @".toList = [' ', '@'] := rfl
    unfold fieldLine
    rw [String.toList_ofList, mark]
    simp only [List.append_assoc, List.cons_append, List.nil_append]
  have first : words ('@' :: padded 2 (Text.Decimal.ofNat slot.offset)) =
      ['@' :: Text.Decimal.ofNat slot.offset] := by
    rw [padded, ← List.cons_append, Text.words_append_replicate,
      Text.words_of_not_mem (List.cons_ne_nil _ _) offset]
  rw [columns, whole, Text.dropWhile_append_cons front, ← List.cons_append, Text.words_append_cons,
    first, words_spaced]
  rfl

theorem not_mem_text {char : Char} (foreign : Address.Foreign char)
    (digits : ∀ digit < 10, Text.Decimal.digit digit ≠ char) (marks : char ∉ ['[', ']', ':']) :
    char ∉ endpoint.text.toList := by
  have address := Address.not_mem_chars endpoint.address foreign
  have port : char ∉ endpoint.portText :=
    fun member => (Text.Numeral.isDecimal_of_mem member).ne char digits rfl
  simp only [List.mem_cons, List.not_mem_nil, or_false, not_or] at marks
  simp [Endpoint.text, Endpoint.chars, address, port, marks]

/-- The octets of the fields stand in their columns without a gap. -/
theorem columns_endpointLines :
    (endpointLines layout endpoint).flatMap columns = endpoint.octets.map Text.Hex.ofOctet := by
  have title : columns ("[*] Endpoint:    " ++ endpoint.text) = [] := by
    apply columns_of_not_mem
    rw [String.toList_append, List.mem_append, not_or]
    exact ⟨by decide, not_mem_text endpoint (by decide) (by decide) (by decide)⟩
  have size : columns ("[*] Native size: " ++ String.ofList (Text.Decimal.ofNat Record.size)) =
      [] := by
    apply columns_of_not_mem
    simp only [String.toList_append, String.toList_ofList, List.mem_append, not_or]
    exact ⟨by decide, fun member => (Text.Numeral.isDecimal_of_mem member).ne '@' (by decide) rfl⟩
  calc
    (endpointLines layout endpoint).flatMap columns =
        layout.slots.flatMap fun entry => columns (fieldLine endpoint entry.1 entry.2) := by
      rw [endpointLines, List.flatMap_append, List.flatMap_cons, List.flatMap_cons, title, size,
        List.flatMap_map]
      rfl
    _ = layout.slots.flatMap fun entry =>
        (endpoint.record.segment entry.2.offset entry.2.size).map Text.Hex.ofOctet :=
      List.flatMap_congr fun entry _ => columns_fieldLine endpoint entry.1 entry.2
    _ = endpoint.octets.map Text.Hex.ofOctet := by
      -- The slots tile the record in the order of the lines.
      rw [Endpoint.octets, Record.octets_eq_segments layout, List.map_flatMap]

theorem unbroken_padded (width : Nat) {text : List Char} (unbroken : Unbroken text) :
    Unbroken (padded width text) :=
  unbroken_append.mpr ⟨unbroken, unbroken_replicate _ (by decide)⟩

theorem unbroken_fieldLine (field : Field) (slot : Slot) :
    Unbroken (fieldLine endpoint field slot).toList := by
  have name : Unbroken field.name.toList := by cases field <;> decide
  unfold fieldLine
  simp only [String.toList_ofList, unbroken_append, unbroken_cons]
  exact ⟨⟨⟨⟨by decide, unbroken_padded 9 name⟩, by decide⟩, unbroken_padded 2 (unbroken_ofNat _)⟩,
    by decide, unbroken_spaced _⟩

theorem unbroken_endpointLines :
    ∀ line ∈ endpointLines layout endpoint, Unbroken line.toList := by
  have text : Unbroken endpoint.text.toList := by
    rw [Endpoint.text, String.toList_ofList, Endpoint.chars]
    simp only [unbroken_append, unbroken_cons]
    exact ⟨⟨by decide, endpoint.address.unbroken_chars⟩, by decide, by decide, unbroken_ofNat _⟩
  intro line member
  rcases List.mem_append.mp member with titles | fields
  · rcases List.mem_pair.mp titles with rfl | rfl
    · rw [String.toList_append, unbroken_append]
      exact ⟨by decide, text⟩
    · simp only [String.toList_append, String.toList_ofList, unbroken_append]
      exact ⟨by decide, unbroken_ofNat _⟩
  · obtain ⟨entry, _, rfl⟩ := List.mem_map.mp fields
    exact unbroken_fieldLine endpoint entry.1 entry.2

end Columns

/-! ## Commands -/

theorem isText_of_reads {text : String} {address : Address} (reads : Reads text address) :
    IsText text := by
  have spelled := (Address.readText_eq_ok_iff text address).mp reads
  exact fun hyphen => spelled.not_mem (by decide) (List.mem_of_mem_head? hyphen)

section Commands

variable {layout : Layout} {program : String} {leading : List String} {level : Level}
  {report : Report}

theorem linesOf_output {lines : List String} (succeeds : Succeeds level report lines)
    (unbroken : ∀ line ∈ lines, Unbroken line.toList) : linesOf report.output = lines := by
  rw [succeeds.output]
  exact linesOf_unlines fun line member => (unbroken line member).oneLine

theorem inspect_describes (leads : Leads leading level) {texts : List String}
    {addresses : List Address} (present : texts ≠ []) (each : List.Forall₂ Reads texts addresses) :
    ∃ report blocks rule, run layout program (leading ++ "inspect" :: texts) = .ok report ∧
      report.code = 0 ∧ linesOf report.output = blocks.flatten ++ [rule] ∧ IsRule rule ∧
      List.Forall₂ Describes addresses blocks := by
  have plain : ∀ text ∈ texts, IsText text := by
    intro text member
    obtain ⟨address, reads⟩ := Address.exists_of_mem each member
    exact isText_of_reads reads
  have unbroken : ∀ line ∈ (addresses.map block).flatten ++ [ruleLine], Unbroken line.toList :=
    List.forall_mem_append.mpr ⟨unbroken_blocks addresses,
      List.forall_mem_singleton.mpr isRule_ruleLine.unbroken⟩
  have done : run layout program (leading ++ "inspect" :: texts) = .ok
      (reportOf ⟨level, .inspect texts⟩ ⟨(addresses.map block).flatten ++ [ruleLine], [], none⟩) := by
    rw [run_eq (readRequest_inspect program leads present plain), execute, inspect_of_reads each]
  have succeeds := succeeds_reportOf ⟨level, .inspect texts⟩
    ((addresses.map block).flatten ++ [ruleLine])
  exact ⟨_, addresses.map block, ruleLine, done, succeeds.code, linesOf_output succeeds unbroken,
    isRule_ruleLine, describes_blocks addresses⟩

theorem endpoint_describes (leads : Leads leading level) {port : Int} {address? : Option String}
    {address : Address} {arguments : List String} (asks : Asks port address? arguments)
    (inRange : InRange port) (starts : Starts address? address) :
    ∃ report endpoint, run layout program (leading ++ "endpoint" :: arguments) = .ok report ∧
      report.code = 0 ∧
      Endpoint.ofValues layout (.integer port) (.address address) = .ok endpoint ∧
      List.Forall₂ OctetDigits ((linesOf report.output).flatMap columns) endpoint.octets ∧
      ∃ number : UInt16, (number.toNat : Int) = port ∧ ∀ kind,
        decodeValue layout (.octets kind endpoint.octets) = .ok ⟨address, number, 0, 0⟩ := by
  let number := UInt16.ofNat port.toNat
  let endpoint := Endpoint.make layout number address
  have whole : (number.toNat : Int) = port := by
    rw [InRange] at inRange
    rw [UInt16.toNat_ofNat_of_lt' (by simp only [UInt16.size]; omega)]
    omega
  have done : run layout program (leading ++ "endpoint" :: arguments) =
      .ok (reportOf ⟨level, .endpoint port address?⟩ ⟨endpointLines layout endpoint, [], none⟩) := by
    rw [run_eq (readRequest_endpoint program leads asks), execute,
      showEndpoint_of_starts inRange starts]
  have made : Endpoint.ofValues layout (.integer port) (.address address) = .ok endpoint :=
    Endpoint.ofValues_eq_ok_iff.mpr ⟨_, _, portOf_integer inRange, rfl, rfl⟩
  have succeeds := succeeds_reportOf ⟨level, .endpoint port address?⟩ (endpointLines layout endpoint)
  refine ⟨_, endpoint, done, succeeds.code, made, ?_, number, whole, fun kind => ?_⟩
  · rw [linesOf_output succeeds (unbroken_endpointLines layout endpoint),
      columns_endpointLines layout endpoint]
    exact octetDigits_map endpoint.octets
  · apply SocketAddress.decodeValue_eq_ok_iff.mpr
    exact congrArg Endpoint.record (Endpoint.make_eq layout number address)

end Commands

theorem dumps_are_faithful (layout : Layout) (program : String) {leading : List String}
    {level : Level} (leads : Leads leading level) :
    (∀ texts addresses, texts ≠ [] → List.Forall₂ Reads texts addresses →
      ∃ report blocks rule, run layout program (leading ++ "inspect" :: texts) = .ok report ∧
        report.code = 0 ∧ linesOf report.output = blocks.flatten ++ [rule] ∧ IsRule rule ∧
        List.Forall₂ Describes addresses blocks) ∧
    (∀ port address? address arguments, Asks port address? arguments → InRange port →
      Starts address? address →
      ∃ report endpoint, run layout program (leading ++ "endpoint" :: arguments) = .ok report ∧
        report.code = 0 ∧
        Endpoint.ofValues layout (.integer port) (.address address) = .ok endpoint ∧
        List.Forall₂ OctetDigits ((linesOf report.output).flatMap columns) endpoint.octets ∧
        ∃ number : UInt16, (number.toNat : Int) = port ∧ ∀ kind,
          decodeValue layout (.octets kind endpoint.octets) = .ok ⟨address, number, 0, 0⟩) := by
  constructor
  · intro texts addresses present each
    exact inspect_describes leads present each
  · intro port address? address arguments asks inRange starts
    exact endpoint_describes leads asks inRange starts

theorem dumps_are_faithful_mapped :
    (∃ report block rule, run .systemV "ipv6" ["inspect", "::ffff:1.2.3.4"] = .ok report ∧
      report.code = 0 ∧ linesOf report.output = block ++ [rule] ∧ IsRule rule ∧
      Describes (.ofNat 0xffff01020304) block) ∧
    ∃ report endpoint, run .bsd "ipv6" ["endpoint", "--port", "80"] = .ok report ∧
      report.code = 0 ∧
      Endpoint.ofValues .bsd (.integer 80) (.address .loopback) = .ok endpoint ∧
      List.Forall₂ OctetDigits ((linesOf report.output).flatMap columns) endpoint.octets := by
  have asks : Asks 80 none ["--port", "80"] := .port rfl (.next (.inl (by decide)))
  obtain ⟨inspects, _⟩ := dumps_are_faithful .systemV "ipv6" .default
  obtain ⟨_, endpoints⟩ := dumps_are_faithful .bsd "ipv6" .default
  constructor
  · obtain ⟨report, blocks, rule, done, code, lines, below, each⟩ := inspects ["::ffff:1.2.3.4"]
      [.ofNat 0xffff01020304] nofun (.cons rfl .nil)
    rcases each with _ | ⟨described, _ | _⟩
    rw [List.flatten_singleton] at lines
    exact ⟨report, _, rule, done, code, lines, below, described⟩
  · obtain ⟨report, endpoint, done, code, made, columns, _⟩ := endpoints 80 none .loopback
      ["--port", "80"] asks ⟨by decide, by decide⟩ .default
    exact ⟨report, endpoint, done, code, made, columns⟩

end CommandLine

end IPv6
