import IPv6.Proofs.CommandLine.Switches
/-!
What the arguments of a command line ask for: the level in front of the command, the texts behind it, and
for an endpoint the port and the address by their names, in either order.
-/

namespace IPv6.CommandLine

/-! ## The program -/

def programSwitches : List Switch := [helpSwitch, levelSwitch]

def endpointSwitches : List Switch := [helpSwitch, addressSwitch, portSwitch]

theorem wellNamed_program : WellNamed programSwitches := by decide

theorem wellNamed_endpoint : WellNamed endpointSwitches := by decide

/-- What may stand before the command: nothing, or the level. -/
inductive Leads : List String → Level → Prop
  | default : Leads [] .warning
  | set {level : Level} {arguments : List String} (gives : Gives "--log-level" level.name arguments) :
      Leads arguments level

theorem readRow_eq (switches : List Switch) (row : Row) (arguments : List String) :
    readRow switches row arguments = (do
      let settings ← readFrom switches row .initial arguments
      if row ≠ .nothing ∧ settings.row?.isNone then .error (.missingArguments row.label)
      return settings) := by
  rw [readRow, readFrom]
  cases tokens switches arguments <;> rfl

theorem readFrom_verb (verb : Verb) {settings : Settings} (empty : settings.row? = none)
    {rest : List String} {given : List Token} (read : tokens programSwitches rest = .ok given) :
    readFrom programSwitches .command settings (verb.name :: rest) =
      .ok { settings with row? := some (verb.name :: rest) } := by
  have text : IsText verb.name := by cases verb <;> decide
  have whole := readTokens_command programSwitches empty verb.name given
  rw [texts_of_tokens read] at whole
  rw [readFrom, tokens_cons text.ne_separator (classify_text text), read]
  exact whole

theorem readRow_program {before : List String} {level : Level} (leads : Leads before level)
    (verb : Verb) {rest : List String} (read : ∃ given, tokens programSwitches rest = .ok given) :
    readRow programSwitches .command (before ++ verb.name :: rest) =
      .ok { Settings.initial with level := level, row? := some (verb.name :: rest) } := by
  obtain ⟨given, read⟩ := read
  rw [readRow_eq]
  cases leads with
  | default =>
    rw [List.nil_append, readFrom_verb verb rfl read]
    rfl
  | set gives =>
    have own : IsOwn programSwitches "--log-level" levelSwitch :=
      ⟨by decide, rfl, by decide, rfl, rfl⟩
    have taken (usesNext : Bool) : Settings.initial.take ⟨levelSwitch, some level.name, usesNext⟩ =
        .ok { Settings.initial with level := level } := by cases level <;> rfl
    rw [readFrom_gives wellNamed_program own gives taken, readFrom_verb verb rfl read]
    rfl

theorem readRequest_eq (program : String) {before : List String} {level : Level}
    (leads : Leads before level) (verb : Verb) {rest : List String}
    (read : ∃ given, tokens programSwitches rest = .ok given) :
    readRequest program (before ++ verb.name :: rest) = (do
      let (command, extras) ← complainAs [program, verb.name] (readCommand verb rest)
      match extras with
      | [] => return ⟨level, command⟩
      | unread => .error ⟨[program], .unrecognized unread⟩) := by
  have verbRead : readVerb verb.name = .ok verb := by cases verb <;> rfl
  have whole := readRow_program leads verb read
  rw [programSwitches] at whole
  rw [readRequest, whole]
  show (complainAs [program] (readVerb verb.name) >>= _) = _
  rw [verbRead]
  rfl

theorem readRequest_of_command (program : String) {before : List String} {level : Level}
    (leads : Leads before level) (verb : Verb) {rest : List String}
    (read : ∃ given, tokens programSwitches rest = .ok given) {command : Command}
    (taken : readCommand verb rest = .ok (command, [])) :
    readRequest program (before ++ verb.name :: rest) = .ok ⟨level, command⟩ := by
  rw [readRequest_eq program leads verb read, taken]
  rfl

/-! ## Commands -/

theorem readRequest_sort (program : String) {before : List String} {level : Level}
    (leads : Leads before level) {texts : List String} (present : texts ≠ [])
    (each : ∀ text ∈ texts, IsText text) :
    readRequest program (before ++ "sort" :: texts) = .ok ⟨level, .sort texts⟩ := by
  refine readRequest_of_command program leads .sort ⟨_, tokens_texts each⟩ ?_
  rw [readCommand, readRow_texts present each]
  rfl

theorem readRequest_inspect (program : String) {before : List String} {level : Level}
    (leads : Leads before level) {texts : List String} (present : texts ≠ [])
    (each : ∀ text ∈ texts, IsText text) :
    readRequest program (before ++ "inspect" :: texts) = .ok ⟨level, .inspect texts⟩ := by
  refine readRequest_of_command program leads .inspect ⟨_, tokens_texts each⟩ ?_
  rw [readCommand, readRow_texts present each]
  rfl

/-- Arguments that name a port by a numeral, and perhaps an address. -/
inductive Asks (port : Int) : Option String → List String → Prop
  | port {text : String} {arguments : List String}
      (numeral : Text.Numeral.read? text.toList = some port)
      (gives : Gives "--port" text arguments) : Asks port none arguments
  | portFirst {text address : String} {arguments more : List String}
      (numeral : Text.Numeral.read? text.toList = some port)
      (gives : Gives "--port" text arguments) (givesAddress : Gives "--address" address more) :
      Asks port (some address) (arguments ++ more)
  | addressFirst {text address : String} {arguments more : List String}
      (numeral : Text.Numeral.read? text.toList = some port)
      (gives : Gives "--port" text arguments) (givesAddress : Gives "--address" address more) :
      Asks port (some address) (more ++ arguments)

theorem foreign_port : IsForeign programSwitches "--port" :=
  ⟨by decide, rfl, by decide, by decide⟩

theorem foreign_address : IsForeign programSwitches "--address" :=
  ⟨by decide, rfl, by decide, by decide⟩

theorem own_port : IsOwn endpointSwitches "--port" portSwitch :=
  ⟨by decide, rfl, by decide, rfl, rfl⟩

theorem own_address : IsOwn endpointSwitches "--address" addressSwitch :=
  ⟨by decide, rfl, by decide, rfl, rfl⟩

section Asks

variable {port : Int} {address? : Option String} {arguments : List String}

theorem exists_tokens_asks (asks : Asks port address? arguments) :
    ∃ given, tokens programSwitches arguments = .ok given := by
  have withPort {text : String} {given : List String} (gives : Gives "--port" text given) :=
    exists_tokens_foreign wellNamed_program foreign_port gives
  have withAddress {text : String} {given : List String} (gives : Gives "--address" text given) :=
    exists_tokens_foreign wellNamed_program foreign_address gives
  cases asks with
  | port numeral gives =>
    rw [← List.append_nil arguments]
    exact withPort gives [] ⟨[], rfl⟩
  | @portFirst _ _ given more numeral gives givesAddress =>
    rw [← List.append_nil more]
    exact withPort gives _ (withAddress givesAddress [] ⟨[], rfl⟩)
  | @addressFirst _ _ given more numeral gives givesAddress =>
    rw [← List.append_nil given]
    exact withAddress givesAddress _ (withPort gives [] ⟨[], rfl⟩)

theorem readFrom_asks (asks : Asks port address? arguments) :
    readFrom endpointSwitches .nothing .initial arguments =
      .ok { Settings.initial with port := port, address? := address? } := by
  have portTaken {text : String} (numeral : Text.Numeral.read? text.toList = some port)
      (settings : Settings) (usesNext : Bool) :
      settings.take ⟨portSwitch, some text, usesNext⟩ = .ok { settings with port := port } := by
    show settings.setPort portSwitch text = _
    rw [Settings.setPort, numeral]
  have addressTaken (text : String) (settings : Settings) (usesNext : Bool) :
      settings.take ⟨addressSwitch, some text, usesNext⟩ =
        .ok { settings with address? := some text } := rfl
  cases asks with
  | port numeral gives =>
    rw [← List.append_nil arguments,
      readFrom_gives wellNamed_endpoint own_port gives (portTaken numeral .initial),
      readFrom_nil]
    rfl
  | @portFirst _ address given more numeral gives givesAddress =>
    rw [← List.append_nil more,
      readFrom_gives wellNamed_endpoint own_port gives (portTaken numeral .initial),
      readFrom_gives wellNamed_endpoint own_address givesAddress (addressTaken address _),
      readFrom_nil]
  | @addressFirst _ address given more numeral gives givesAddress =>
    rw [← List.append_nil given,
      readFrom_gives wellNamed_endpoint own_address givesAddress (addressTaken address .initial),
      readFrom_gives wellNamed_endpoint own_port gives (portTaken numeral _),
      readFrom_nil]

theorem readRequest_endpoint (program : String) {before : List String} {level : Level}
    (leads : Leads before level) (asks : Asks port address? arguments) :
    readRequest program (before ++ "endpoint" :: arguments) =
      .ok ⟨level, .endpoint port address?⟩ := by
  refine readRequest_of_command program leads .endpoint (exists_tokens_asks asks) ?_
  have row := readRow_eq endpointSwitches .nothing arguments
  rw [readFrom_asks asks, endpointSwitches] at row
  rw [readCommand, row]
  rfl

end Asks

/-! ## Ports in decimal digits -/

def decimalText (number : Int) : String := String.ofList (Text.Decimal.ofInt number)

/-- A number in decimal digits can be the next argument, with its sign too. -/
theorem isValue_decimalText (number : Int) :
    IsText (decimalText number) ∨ IsNegative (decimalText number) := by
  obtain ⟨first, rest, shape, decimal⟩ := Text.Numeral.exists_ofNat_eq_cons number.natAbs
  have chars : (decimalText number).toList = Text.Decimal.ofInt number := String.toList_ofList
  by_cases negative : number < 0
  · refine .inr ⟨first, rest, ?_, ?_⟩
    · rw [chars, Text.Decimal.ofInt, if_pos negative, shape]
    · intro char member
      obtain ⟨digit, small, rfl⟩ := Text.Numeral.isDecimal_of_mem (shape ▸ member)
      rw [Text.Numeral.value?_digit digit small]
      rfl
  · refine .inl ?_
    rw [IsText, chars, Text.Decimal.ofInt, if_neg negative, shape]
    exact fun same => decimal.ne '-' (by decide) (Option.some.inj same)

def addressArguments : Option String → List String
  | none => []
  | some address => ["--address", address]

/-- A port in decimal digits, and an address where one is given. -/
def endpointArguments (port : Int) (address? : Option String) : List String :=
  ["--port", decimalText port] ++ addressArguments address?

section Decimal

variable {port : Int} {address? : Option String}

theorem asks_decimal (plain : ∀ address ∈ address?, IsText address)
    (short : port.natAbs < 10 ^ Text.Numeral.digitLimit) :
    Asks port address? (endpointArguments port address?) := by
  have numeral : Text.Numeral.read? (decimalText port).toList = some port := by
    rw [decimalText, String.toList_ofList, Text.Numeral.read?_ofInt, if_pos short]
  cases address? with
  | none => exact .port numeral (.next (isValue_decimalText port))
  | some address =>
    exact .portFirst numeral (.next (isValue_decimalText port)) (.next (.inl (plain address rfl)))

theorem exists_tokens_addressArguments (plain : ∀ address ∈ address?, IsText address) :
    (∃ given, tokens programSwitches (addressArguments address?) = .ok given) ∧
      ∃ given, tokens endpointSwitches (addressArguments address?) = .ok given := by
  cases address? with
  | none => exact ⟨⟨[], rfl⟩, [], rfl⟩
  | some address =>
    have text := plain address rfl
    constructor
    · exact exists_tokens_foreign wellNamed_program foreign_address (.next (.inl text)) []
        ⟨[], rfl⟩
    · rw [addressArguments, tokens_cons own_address.proper (classify_own own_address),
        tokens_cons text.ne_separator (classify_text text)]
      exact ⟨_, rfl⟩

/-- More digits than a numeral may have are no port at all. -/
theorem readRequest_of_long (program : String) {before : List String} {level : Level}
    (leads : Leads before level) (plain : ∀ address ∈ address?, IsText address)
    (long : ¬ port.natAbs < 10 ^ Text.Numeral.digitLimit) :
    readRequest program (before ++ "endpoint" :: endpointArguments port address?) =
      .error ⟨[program, "endpoint"], .badInteger portSwitch (decimalText port)⟩ := by
  have gives : Gives "--port" (decimalText port) ["--port", decimalText port] :=
    .next (isValue_decimalText port)
  have refused (usesNext : Bool) :
      Settings.initial.take ⟨portSwitch, some (decimalText port), usesNext⟩ =
        .error (.badInteger portSwitch (decimalText port)) := by
    show Settings.initial.setPort portSwitch (decimalText port) = _
    rw [Settings.setPort, decimalText, String.toList_ofList, Text.Numeral.read?_ofInt, if_neg long]
  obtain ⟨foreign, own⟩ := exists_tokens_addressArguments plain
  have row := readRow_eq endpointSwitches .nothing (endpointArguments port address?)
  rw [endpointArguments, readFrom_gives_of_error wellNamed_endpoint own_port gives refused own,
    endpointSwitches] at row
  have read := exists_tokens_foreign wellNamed_program foreign_port gives _ foreign
  refine (readRequest_eq program leads .endpoint read).trans ?_
  rw [readCommand, row]
  rfl

end Decimal

end IPv6.CommandLine
