import IPv6.Proofs.CommandLine.Reports
/-!
What the command line says when it stops. A text that is no address is quoted in the message, so that it
cannot end the line or pass for another text; the errors are one line, and one more for the text where
everything is logged.
-/

namespace IPv6.CommandLine

open Text (Unbroken unbroken_append)
open Text.Quoted (Quotes unquote?)

/-! ## Messages about texts -/

/-- The text that is quoted in a message, or in a report or line of errors that begins with the message. -/
def textNamed? (message : List Char) : Option (List Char) :=
  unquote? (message.drop "not an IPv6 address: ".length)

/-- What a refusal says about a text that is no address. -/
structure Names (refusal : Refusal) (text : String) : Prop where
  kind : refusal.kind = .invalidAddressFormat
  message : ∃ quoted, Quotes text.toList quoted ∧
    refusal.message = "not an IPv6 address: ".toList ++ quoted
  report : refusal.report.toList =
    refusal.message ++ " [invalid_address_format, errno 22]".toList
  unbroken : Unbroken refusal.report.toList
  found : textNamed? refusal.message = some text.toList ∧
    textNamed? refusal.report.toList = some text.toList

section Messages

variable {text text' : String} {refusal refusal' : Refusal}

theorem textNamed?_append {quoted : List Char} (quotes : Quotes text.toList quoted)
    (rest : List Char) :
    textNamed? ("not an IPv6 address: ".toList ++ quoted ++ rest) = some text.toList := by
  have behind : ("not an IPv6 address: ".toList ++ (quoted ++ rest)).drop
      "not an IPv6 address: ".length = quoted ++ rest := List.drop_left
  rw [textNamed?, List.append_assoc, behind]
  exact quotes.unquote?_append rest

theorem notAnAddress_names (text : String) : Names (.notAnAddress text) text := by
  have quotes := Text.Quoted.encode_quotes text.toList
  have ending : " [".toList ++ (RefusalKind.invalidAddressFormat.label.toList ++
      (", errno ".toList ++ (Text.Decimal.ofInt invalidArgumentCode ++ [']']))) =
        " [invalid_address_format, errno 22]".toList := by decide +kernel
  have report : (Refusal.notAnAddress text).report.toList =
      "not an IPv6 address: ".toList ++ Text.Quoted.encode text.toList ++
        " [invalid_address_format, errno 22]".toList := by
    rw [← ending, Refusal.report, String.toList_ofList, reportText]
    simp only [List.append_assoc]
    rfl
  refine ⟨rfl, ⟨_, quotes, rfl⟩, report, Refusal.unbroken_notAnAddress text, ?_, ?_⟩
  · have named := textNamed?_append quotes []
    rwa [List.append_nil] at named
  · rw [report]
    exact textNamed?_append quotes _

theorem names_of_refused (refused : Address.ofTextValue (.text text) = refuse refusal) :
    Names refusal text := by
  have unread : ¬ ∃ address, Reads text address := by
    intro found
    obtain ⟨address, read⟩ := found
    cases read.symm.trans refused
  cases (readText_of_not_reads unread).symm.trans refused
  exact notAnAddress_names text

theorem Names.text_eq (names : Names refusal text) (names' : Names refusal' text')
    (same : refusal.message = refusal'.message ∨ refusal.report = refusal'.report) :
    text = text' := by
  have equal : some text.toList = some text'.toList := by
    rcases same with messages | reports
    · calc
        some text.toList = textNamed? refusal.message := names.found.1.symm
        _ = textNamed? refusal'.message := congrArg textNamed? messages
        _ = some text'.toList := names'.found.1
    · calc
        some text.toList = textNamed? refusal.report.toList := names.found.2.symm
        _ = textNamed? refusal'.report.toList := by rw [reports]
        _ = some text'.toList := names'.found.2
  exact String.toList_inj.mp (Option.some.inj equal)

end Messages

/-! ## Commands that stop -/

/-- What a command stops with: the first text that is no address, or a port outside of its range, which is
looked at before the address. -/
inductive StopsWith : Command → Refusal → Prop
  | inspect {before after : List String} {text : String}
      (accepted : ∀ earlier ∈ before, ∃ address, Reads earlier address)
      (unread : ¬ ∃ address, Reads text address) :
      StopsWith (.inspect (before ++ text :: after)) (.notAnAddress text)
  | sort {before after : List String} {text : String}
      (accepted : ∀ earlier ∈ before, ∃ address, Reads earlier address)
      (unread : ¬ ∃ address, Reads text address) :
      StopsWith (.sort (before ++ text :: after)) (.notAnAddress text)
  | port {port : Int} {address? : Option String} (outside : ¬ InRange port) :
      StopsWith (.endpoint port address?) (.portOutOfRange (.integer port))
  | address {port : Int} {text : String} (inRange : InRange port)
      (unread : ¬ ∃ address, Reads text address) :
      StopsWith (.endpoint port (some text)) (.notAnAddress text)

section Stops

variable {command : Command} {refusal : Refusal}

theorem StopsWith.execute_eq (stops : StopsWith command refusal) (layout : Layout) :
    ∃ lines, execute layout command = failed lines (.refused refusal) := by
  cases stops with
  | inspect accepted unread =>
    obtain ⟨addresses, each⟩ := Address.exists_forall₂ accepted
    exact ⟨_, inspect_of_first each unread _⟩
  | sort accepted unread => exact ⟨_, sort_of_first accepted unread _⟩
  | port outside => exact ⟨_, showEndpoint_of_port outside⟩
  | address inRange unread => exact ⟨_, showEndpoint_of_address inRange unread⟩

theorem StopsWith.unbroken_report (stops : StopsWith command refusal) :
    Unbroken refusal.report.toList := by
  cases stops with
  | port => exact Refusal.unbroken_portOutOfRange _
  | _ => exact Refusal.unbroken_notAnAddress _

/-- A command that does not stop is carried out. -/
theorem stopsWith_or_execute_eq (layout : Layout) (command : Command) :
    (∃ refusal, StopsWith command refusal) ∨ ∃ lines, execute layout command = ⟨lines, [], none⟩ := by
  cases command with
  | inspect texts =>
    rcases Table.forall_or_first (fun text => ∃ address, Reads text address) texts with
      every | ⟨before, text, after, rfl, accepted, unread⟩
    · obtain ⟨addresses, each⟩ := Address.exists_forall₂ every
      exact .inr ⟨_, inspect_of_reads each⟩
    · exact .inl ⟨_, .inspect accepted unread⟩
  | sort texts =>
    rcases Table.forall_or_first (fun text => ∃ address, Reads text address) texts with
      every | ⟨before, text, after, rfl, accepted, unread⟩
    · obtain ⟨addresses, each⟩ := Address.exists_forall₂ every
      exact .inr ⟨_, sort_of_reads each⟩
    · exact .inl ⟨_, .sort accepted unread⟩
  | endpoint port address? =>
    by_cases inRange : InRange port
    · cases address? with
      | none => exact .inr ⟨_, showEndpoint_of_starts inRange .default⟩
      | some text =>
        by_cases found : ∃ address, Reads text address
        · obtain ⟨address, reads⟩ := found
          exact .inr ⟨_, showEndpoint_of_starts inRange (.read reads)⟩
        · exact .inl ⟨_, .address inRange found⟩
    · exact .inl ⟨_, .port inRange⟩

end Stops

/-! ## Errors -/

/-- The errors of a command that stops, line by line. -/
structure Explains (request : Request) (refusal : Refusal) (report : Report) : Prop where
  code : report.code = 2
  unbroken : ∀ stamp : String, Unbroken stamp.toList →
    ∀ line ∈ linesOf (report.errorText stamp), Unbroken line.toList
  quiet : Level.warning.rank ≤ request.level.rank →
    ∀ stamp, linesOf (report.errorText stamp) = ["[!] " ++ refusal.report]
  verbose : request.level = .debug → ∀ text, refusal = .notAnAddress text →
    ∃ quoted, Quotes text.toList quoted ∧ ∀ stamp : String, Unbroken stamp.toList →
      linesOf (report.errorText stamp) =
        [LogRecord.line stamp ⟨.info, "inet6", "running command: " ++ request.command.verb.name⟩,
          LogRecord.line stamp ⟨.debug, "inet6.address",
            "rejected IPv6 text " ++ String.ofList quoted ++ ": " ++ rejectionReason text⟩,
          "[!] " ++ refusal.report]

section Errors

variable {request : Request} {refusal : Refusal} {stamp : String}

theorem unbroken_announcement (command : Command) :
    Unbroken (announcement command).message.toList := by
  have each (verb : Verb) : Unbroken ("running command: " ++ verb.name).toList := by
    cases verb <;> decide
  exact each command.verb

theorem unbroken_rejection (text : String) : Unbroken (rejection text).message.toList := by
  have quoted := (Text.Quoted.encode_quotes text.toList).unbroken
  have reason : Unbroken (rejectionReason text).toList := by
    rw [rejectionReason]
    split <;> decide
  simp only [rejection, Complaint.quoted, String.toList_append, unbroken_append,
    String.toList_ofList]
  exact ⟨⟨⟨by decide, quoted⟩, by decide⟩, reason⟩

theorem unbroken_line {entry : LogRecord} (stamped : Unbroken stamp.toList)
    (source : Unbroken entry.source.toList) (message : Unbroken entry.message.toList) :
    Unbroken (entry.line stamp).toList := by
  have level : Unbroken entry.level.name.toList := by cases entry.level <;> decide
  simp only [LogRecord.line, String.toList_append, unbroken_append]
  exact ⟨⟨⟨⟨⟨⟨stamped, by decide⟩, source⟩, by decide⟩, level⟩, by decide⟩, message⟩

theorem unbroken_refusalLine (reported : Unbroken refusal.report.toList) :
    Unbroken ("[!] " ++ refusal.report).toList := by
  rw [String.toList_append, unbroken_append]
  exact ⟨by decide, reported⟩

/-- What is logged about a command that stops, and the line that says why. -/
def errorLines (request : Request) (refusal : Refusal) (stamp : String) : List String :=
  ((announcement request.command :: logOf (.refused refusal)).filter
    fun entry => request.level.rank ≤ entry.level.rank).map (LogRecord.line stamp) ++
      ["[!] " ++ refusal.report]

theorem unbroken_errorLines (reported : Unbroken refusal.report.toList)
    (stamped : Unbroken stamp.toList) :
    ∀ line ∈ errorLines request refusal stamp, Unbroken line.toList := by
  have logged : ∀ entry ∈ announcement request.command :: logOf (.refused refusal),
      Unbroken (entry.line stamp).toList := by
    have program : Unbroken "inet6".toList := by decide
    have reader : Unbroken "inet6.address".toList := by decide
    rw [List.forall_mem_cons]
    refine ⟨unbroken_line stamped program (unbroken_announcement _), ?_⟩
    cases refusal with
    | notAnAddress text =>
      exact List.forall_mem_singleton.mpr (unbroken_line stamped reader (unbroken_rejection text))
    | _ => exact List.forall_mem_nil _
  intro line member
  rcases List.mem_append.mp member with entries | last
  · obtain ⟨entry, kept, rfl⟩ := List.mem_map.mp entries
    exact logged entry (List.mem_of_mem_filter kept)
  · rw [List.mem_singleton.mp last]
    exact unbroken_refusalLine reported

theorem linesOf_errorText (reported : Unbroken refusal.report.toList)
    (stamped : Unbroken stamp.toList) (lines : List String) :
    linesOf ((reportOf request (failed lines (.refused refusal))).errorText stamp) =
      errorLines request refusal stamp :=
  linesOf_unlines fun line member => (unbroken_errorLines reported stamped line member).oneLine

theorem explains_reportOf (reported : Unbroken refusal.report.toList) (lines : List String) :
    Explains request refusal (reportOf request (failed lines (.refused refusal))) where
  code := rfl
  unbroken stamp stamped := by
    rw [linesOf_errorText reported stamped]
    exact unbroken_errorLines reported stamped
  quiet level stamp := by
    rw [errorText_reportOf level fun _ => rank_lt_of_mem_logOf]
    exact linesOf_unlines (List.forall_mem_singleton.mpr (unbroken_refusalLine reported).oneLine)
  verbose debug text same := by
    subst same
    refine ⟨_, Text.Quoted.encode_quotes text.toList, fun stamp stamped => ?_⟩
    rw [linesOf_errorText reported stamped, errorLines, debug]
    rfl

end Errors

/-- Line ends, a mark and a line of errors that is none. -/
def hostileText : String := "\n[!] \x27\u2028"

end IPv6.CommandLine
