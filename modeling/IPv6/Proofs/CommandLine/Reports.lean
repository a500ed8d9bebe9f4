import IPv6.Proofs.CommandLine.Arguments
import IPv6.Proofs.CommandLine.Blocks
import IPv6.Proofs.Endpoint.Making
import IPv6.Proofs.Table.Addresses
/-!
What the commands report. A command either does all that it is asked or names the first argument that it
cannot take; only `inspect` has by then written something, which is what came before that argument.
-/

namespace IPv6.CommandLine

/-! ## Ends of a command -/

/-- The command was carried out: code zero and, unless more is logged than warnings, no errors. -/
structure Succeeds (level : Level) (report : Report) (lines : List String) : Prop where
  code : report.code = 0
  output : report.output = Report.unlines lines
  quiet : Level.warning.rank ≤ level.rank → ∀ stamp, report.errorText stamp = ""

/-- The command was refused: code two and, unless more is logged than warnings, one line of errors. -/
structure Fails (level : Level) (report : Report) (lines : List String) (refusal : Refusal) :
    Prop where
  code : report.code = 2
  output : report.output = Report.unlines lines
  errors : Level.warning.rank ≤ level.rank →
    ∀ stamp, report.errorText stamp = "[!] " ++ refusal.report ++ "\n"
  oneLine : OneLine refusal.report.toList

/-- Announcements and rejections are logged below warnings. -/
theorem errorText_reportOf {request : Request} {outcome : Outcome}
    (quiet : Level.warning.rank ≤ request.level.rank)
    (low : ∀ entry ∈ outcome.log, entry.level.rank < Level.warning.rank) (stamp : String) :
    (reportOf request outcome).errorText stamp =
      Report.unlines ((outcome.fault?.map refusalLine).getD []) := by
  have unlogged : (announcement request.command :: outcome.log).filter
      (fun entry => request.level.rank ≤ entry.level.rank) = [] := by
    rw [List.filter_eq_nil_iff, List.forall_mem_cons]
    have announced : ¬ request.level.rank ≤ (announcement request.command).level.rank :=
      Nat.not_le.mpr (Nat.lt_of_lt_of_le (Nat.lt_of_sub_eq_succ rfl) quiet)
    refine ⟨by simpa using announced, fun entry member => ?_⟩
    have below := Nat.lt_of_lt_of_le (low entry member) quiet
    simpa using below
  rw [Report.errorText, reportOf, unlogged]
  rfl

theorem succeeds_reportOf (request : Request) (lines : List String) :
    Succeeds request.level (reportOf request ⟨lines, [], none⟩) lines :=
  ⟨rfl, rfl, fun quiet stamp => errorText_reportOf quiet (List.forall_mem_nil _) stamp⟩

theorem rank_lt_of_mem_logOf {fault : Fault} {entry : LogRecord} (member : entry ∈ logOf fault) :
    entry.level.rank < Level.warning.rank := by
  have low (text : String) : (rejection text).level.rank < Level.warning.rank := Nat.lt_of_sub_eq_succ rfl
  unfold logOf at member
  split at member
  · exact List.mem_singleton.mp member ▸ low _
  · cases member

theorem fails_reportOf (request : Request) (lines : List String) {refusal : Refusal}
    (oneLine : OneLine refusal.report.toList) :
    Fails request.level (reportOf request (failed lines (.refused refusal))) lines refusal := by
  refine ⟨rfl, rfl, fun quiet stamp => ?_, oneLine⟩
  rw [errorText_reportOf quiet fun _ => rank_lt_of_mem_logOf]
  simp [failed, refusalLine, Report.unlines, String.join]

/-! ## Outcomes -/

section Outcomes

variable {texts before : List String} {addresses : List Address} {text : String}

theorem readText_of_not_reads (unread : ¬ ∃ address, Reads text address) :
    Address.readText text = .error (.refused (.notAnAddress text)) := by
  rw [Address.readText]
  cases read : Address.ofText? text with
  | none => rfl
  | some address => exact absurd ⟨address, by rw [Reads, Address.readText, read]⟩ unread

theorem sort_of_reads (each : List.Forall₂ Reads texts addresses) :
    sort texts = ⟨(Value.sortedAddresses addresses).map Address.text, [], none⟩ := by
  rw [sort, (Table.mapM_eq_ok_iff texts addresses).mpr each]
  simp only [Table.sortAddresses_eq]

theorem sort_of_first (accepted : ∀ earlier ∈ before, ∃ address, Reads earlier address)
    (unread : ¬ ∃ address, Reads text address) (after : List String) :
    sort (before ++ text :: after) = failed [] (.refused (.notAnAddress text)) := by
  rw [sort, Table.mapM_of_first_error accepted (readText_of_not_reads unread) after]

/-- The blocks of texts that are read stand before whatever the rest writes. -/
theorem inspect_append (each : List.Forall₂ Reads texts addresses) (rest : List String) :
    inspect (texts ++ rest) =
      { inspect rest with lines := (addresses.map block).flatten ++ (inspect rest).lines } := by
  induction each with
  | nil => rfl
  | @cons text address texts addresses read others ih =>
    rw [Reads] at read
    rw [List.cons_append, inspect, read]
    simp only [ih, List.map_cons, List.flatten_cons, List.append_assoc]

theorem inspect_of_reads (each : List.Forall₂ Reads texts addresses) :
    inspect texts = ⟨(addresses.map block).flatten ++ [ruleLine], [], none⟩ := by
  have whole := inspect_append each []
  rwa [List.append_nil] at whole

theorem inspect_of_first (each : List.Forall₂ Reads before addresses)
    (unread : ¬ ∃ address, Reads text address) (after : List String) :
    inspect (before ++ text :: after) =
      failed (addresses.map block).flatten (.refused (.notAnAddress text)) := by
  have first : inspect (text :: after) = failed [] (.refused (.notAnAddress text)) := by
    rw [inspect, readText_of_not_reads unread]
  rw [inspect_append each, first]
  simp only [failed, List.append_nil]

end Outcomes

/-- The address of an endpoint: loopback where no text is given. -/
inductive Starts : Option String → Address → Prop
  | default : Starts none Address.loopback
  | read {text : String} {address : Address} (read : Reads text address) :
      Starts (some text) address

def InRange (port : Int) : Prop := 0 ≤ port ∧ port ≤ 65535

section Endpoint

variable {layout : Layout} {port : Int} {address? : Option String}

theorem portOf_integer (inRange : InRange port) :
    Endpoint.portOf (.integer port) = .ok (UInt16.ofNat port.toNat) := if_pos inRange

theorem portOf_integer_of_not (outside : ¬ InRange port) :
    Endpoint.portOf (.integer port) = refuse (.portOutOfRange (.integer port)) := if_neg outside

theorem showEndpoint_of_starts (inRange : InRange port) {address : Address}
    (starts : Starts address? address) :
    showEndpoint layout port address? =
      ⟨endpointLines layout (.make layout (UInt16.ofNat port.toNat) address), [], none⟩ := by
  have made (given : Value) (read : Address.ofValue (Endpoint.startAddress given) = .ok address) :
      Endpoint.ofValues layout (.integer port) given =
        .ok (.make layout (UInt16.ofNat port.toNat) address) :=
    Endpoint.ofValues_eq_ok_iff.mpr ⟨_, _, portOf_integer inRange, read, rfl⟩
  cases starts with
  | default =>
    rw [showEndpoint]
    simp only [made .absent rfl]
  | @read text address read =>
    rw [showEndpoint]
    simp only [made (.text text) read]

theorem showEndpoint_of_port (outside : ¬ InRange port) :
    showEndpoint layout port address? = failed [] (.refused (.portOutOfRange (.integer port))) := by
  have refused (given : Value) : Endpoint.ofValues layout (.integer port) given =
      .error (.refused (.portOutOfRange (.integer port))) := by
    rw [Endpoint.ofValues, Endpoint.setPort, portOf_integer_of_not outside]
    rfl
  cases address? with
  | none => rw [showEndpoint, refused]
  | some text => rw [showEndpoint, refused]

theorem showEndpoint_of_address (inRange : InRange port) {text : String}
    (unread : ¬ ∃ address, Reads text address) :
    showEndpoint layout port (some text) = failed [] (.refused (.notAnAddress text)) := by
  have refused : Endpoint.ofValues layout (.integer port) (.text text) =
      .error (.refused (.notAnAddress text)) := by
    have read : Address.ofValue (Endpoint.startAddress (.text text)) =
        .error (.refused (.notAnAddress text)) := readText_of_not_reads unread
    rw [Endpoint.ofValues, Endpoint.setPort, portOf_integer inRange]
    show Except.map _ (Address.ofValue (Endpoint.startAddress (.text text))) = _
    rw [read]
    rfl
  rw [showEndpoint]
  simp only [refused]

end Endpoint

/-! ## Commands -/

section Commands

variable {layout : Layout} {program : String} {leading : List String} {level : Level}
  {texts : List String} {report : Report}

theorem run_eq {request : Request} {arguments : List String}
    (read : readRequest program arguments = .ok request) :
    run layout program arguments = .ok (reportOf request (execute layout request.command)) := by
  rw [run, read]
  rfl

/-- All texts are read and their addresses written in order, as often as the lines are sorted again; or
nothing is written. -/
inductive SortEnds (again : List String → Except Failure Report) (level : Level)
    (texts : List String) (report : Report) : Prop
  | sorted {addresses sorted : List Address} (each : List.Forall₂ Reads texts addresses)
      (same : sorted.Perm addresses)
      (ordered : sorted.Pairwise fun left right => left.compare right ≠ .gt)
      (lines : ∀ address ∈ sorted, OneLine address.text.toList)
      (succeeds : Succeeds level report (sorted.map Address.text))
      (stable : again (sorted.map Address.text) = .ok report)
  | refused {before after : List String} {text : String} (split : texts = before ++ text :: after)
      (accepted : ∀ earlier ∈ before, ∃ address, Reads earlier address)
      (unread : ¬ ∃ address, Reads text address)
      (fails : Fails level report [] (.notAnAddress text))

/-- All texts are read and a block is written that describes each, with a rule below; or the blocks before
the first text that is not read. -/
inductive InspectEnds (level : Level) (texts : List String) (report : Report) : Prop
  | inspected {addresses : List Address} {blocks : List (List String)} {rule : String}
      (each : List.Forall₂ Reads texts addresses)
      (described : List.Forall₂ Describes addresses blocks) (below : IsRule rule)
      (lines : ∀ line ∈ blocks.flatten, OneLine line.toList)
      (succeeds : Succeeds level report (blocks.flatten ++ [rule]))
  | refused {before after : List String} {text : String} {addresses : List Address}
      {blocks : List (List String)} (split : texts = before ++ text :: after)
      (each : List.Forall₂ Reads before addresses)
      (described : List.Forall₂ Describes addresses blocks)
      (lines : ∀ line ∈ blocks.flatten, OneLine line.toList)
      (unread : ¬ ∃ address, Reads text address)
      (fails : Fails level report blocks.flatten (.notAnAddress text))

/-- The endpoint is shown, or nothing is written; the port is looked at before the address. -/
inductive EndpointEnds (layout : Layout) (level : Level) (port : Int) (address? : Option String)
    (report : Report) : Prop
  | shown {address : Address} (inRange : InRange port) (starts : Starts address? address)
      (succeeds : Succeeds level report
        (endpointLines layout (.make layout (UInt16.ofNat port.toNat) address)))
  | portRefused (outside : ¬ InRange port)
      (fails : Fails level report [] (.portOutOfRange (.integer port)))
  | addressRefused {text : String} (inRange : InRange port) (given : address? = some text)
      (unread : ¬ ∃ address, Reads text address)
      (fails : Fails level report [] (.notAnAddress text))

theorem isText_text (address : Address) : IsText address.text := by
  have absent : '-' ∉ address.text.toList := by
    rw [Address.toList_text]
    exact (Address.canonicalFor_chars address).spells.not_mem (by decide)
  exact fun first => absent (List.mem_of_mem_head? first)

theorem reads_texts (addresses : List Address) :
    List.Forall₂ Reads (addresses.map Address.text) addresses := by
  rw [List.forall₂_map_left_iff, List.forall₂_same]
  exact fun address _ => Address.readText_text address

theorem sort_ends (leads : Leads leading level) (present : texts ≠ [])
    (plain : ∀ text ∈ texts, IsText text) :
    ∃ report, run layout program (leading ++ "sort" :: texts) = .ok report ∧
      SortEnds (fun texts => run layout program (leading ++ "sort" :: texts)) level texts report := by
  refine ⟨_, run_eq (readRequest_sort program leads present plain), ?_⟩
  rcases Table.forall_or_first (fun text => ∃ address, Reads text address) texts with
    every | ⟨before, text, after, rfl, accepted, unread⟩
  · obtain ⟨addresses, each⟩ := Address.exists_forall₂ every
    have perm := Table.sortedAddresses_perm addresses
    have outcome := sort_of_reads each
    refine .sorted each perm ?_ (fun address _ => address.oneLine_text) ?_ ?_
    · apply (Table.sortedAddresses_isStableSort addresses).ordered.imp
      intro left right ordered greater
      rw [greater] at ordered
      cases ordered
    · rw [execute, outcome]
      exact succeeds_reportOf ⟨level, .sort texts⟩ _
    · have present' : (Value.sortedAddresses addresses).map Address.text ≠ [] := by
        intro empty
        have length := perm.length_eq.trans each.length_eq.symm
        rw [List.map_eq_nil_iff.mp empty] at length
        exact present (List.length_eq_zero_iff.mp length.symm)
      have plain' : ∀ text ∈ (Value.sortedAddresses addresses).map Address.text, IsText text := by
        intro text member
        obtain ⟨address, _, rfl⟩ := List.mem_map.mp member
        exact isText_text address
      refine (run_eq (readRequest_sort program leads present' plain')).trans ?_
      rw [execute, execute, outcome, sort_of_reads (reads_texts _),
        Table.sortedAddresses_eq_of_perm perm]
      rfl
  · refine .refused rfl accepted unread ?_
    rw [execute, sort_of_first accepted unread after]
    exact fails_reportOf ⟨level, .sort _⟩ [] (Refusal.oneLine_notAnAddress text)

theorem inspect_ends (leads : Leads leading level) (present : texts ≠ [])
    (plain : ∀ text ∈ texts, IsText text) :
    ∃ report, run layout program (leading ++ "inspect" :: texts) = .ok report ∧
      InspectEnds level texts report := by
  refine ⟨_, run_eq (readRequest_inspect program leads present plain), ?_⟩
  rcases Table.forall_or_first (fun text => ∃ address, Reads text address) texts with
    every | ⟨before, text, after, rfl, accepted, unread⟩
  · obtain ⟨addresses, each⟩ := Address.exists_forall₂ every
    refine .inspected each (describes_blocks addresses) isRule_ruleLine (oneLine_blocks addresses) ?_
    rw [execute, inspect_of_reads each]
    exact succeeds_reportOf ⟨level, .inspect texts⟩ _
  · obtain ⟨addresses, each⟩ := Address.exists_forall₂ accepted
    refine .refused rfl each (describes_blocks addresses) (oneLine_blocks addresses) unread ?_
    rw [execute, inspect_of_first each unread after]
    exact fails_reportOf ⟨level, .inspect _⟩ _ (Refusal.oneLine_notAnAddress text)

theorem endpoint_ends {port : Int} {address? : Option String} {arguments : List String}
    (read : readRequest program arguments = .ok ⟨level, .endpoint port address?⟩) :
    ∃ report, run layout program arguments = .ok report ∧
      EndpointEnds layout level port address? report := by
  refine ⟨_, run_eq read, ?_⟩
  rw [execute]
  by_cases inRange : InRange port
  · cases address? with
    | none =>
      refine .shown inRange .default ?_
      rw [showEndpoint_of_starts inRange .default]
      exact succeeds_reportOf ⟨level, .endpoint port none⟩ _
    | some text =>
      by_cases found : ∃ address, Reads text address
      · obtain ⟨address, reads⟩ := found
        refine .shown inRange (.read reads) ?_
        rw [showEndpoint_of_starts inRange (.read reads)]
        exact succeeds_reportOf ⟨level, .endpoint port (some text)⟩ _
      · refine .addressRefused inRange rfl found ?_
        rw [showEndpoint_of_address inRange found]
        exact fails_reportOf ⟨level, .endpoint port (some text)⟩ [] (Refusal.oneLine_notAnAddress text)
  · refine .portRefused inRange ?_
    rw [showEndpoint_of_port inRange]
    exact fails_reportOf ⟨level, .endpoint port address?⟩ [] (Refusal.oneLine_portOutOfRange port)

/-! ## Codes -/

theorem SortEnds.code_eq_zero_iff {again : List String → Except Failure Report}
    (ends : SortEnds again level texts report) :
    report.code = 0 ↔ ∀ text ∈ texts, ∃ address, Reads text address := by
  cases ends with
  | sorted each _ _ _ succeeds =>
    exact ⟨fun _ _ member => Address.exists_of_mem each member, fun _ => succeeds.code⟩
  | refused split _ unread fails =>
    rw [fails.code, split]
    exact ⟨nofun, fun every => absurd (every _ (by simp)) unread⟩

theorem InspectEnds.code_eq_zero_iff (ends : InspectEnds level texts report) :
    report.code = 0 ↔ ∀ text ∈ texts, ∃ address, Reads text address := by
  cases ends with
  | inspected each _ _ _ succeeds =>
    exact ⟨fun _ _ member => Address.exists_of_mem each member, fun _ => succeeds.code⟩
  | refused split _ _ _ unread fails =>
    rw [fails.code, split]
    exact ⟨nofun, fun every => absurd (every _ (by simp)) unread⟩

theorem EndpointEnds.code_eq_zero_iff {port : Int} {address? : Option String}
    (ends : EndpointEnds layout level port address? report) :
    report.code = 0 ↔ InRange port ∧ ∃ address, Starts address? address := by
  cases ends with
  | shown inRange starts succeeds => exact ⟨fun _ => ⟨inRange, _, starts⟩, fun _ => succeeds.code⟩
  | portRefused outside fails =>
    rw [fails.code]
    exact ⟨nofun, fun good => absurd good.1 outside⟩
  | addressRefused _ given unread fails =>
    rw [fails.code, given]
    refine ⟨nofun, fun good => ?_⟩
    rcases good with ⟨_, address, _ | reads⟩
    exact absurd ⟨address, reads⟩ unread

end Commands

theorem InRange.short {port : Int} (inRange : InRange port) :
    port.natAbs < 10 ^ Text.Numeral.digitLimit := by
  apply Text.Numeral.lt_limit
  rw [InRange] at inRange
  omega

end IPv6.CommandLine
