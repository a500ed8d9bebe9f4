import IPv6.CommandLine.Arguments
/-!
The commands: `inspect` and `sort` take one address text or more, `endpoint` an address and a port. A log
level may stand before the command.
-/

namespace IPv6.CommandLine

inductive Level
  | debug
  | info
  | warning
  | error
deriving DecidableEq, Repr

namespace Level

def all : List Level := [debug, info, warning, error]

def name : Level → String
  | debug => "DEBUG"
  | info => "INFO"
  | warning => "WARNING"
  | error => "ERROR"

def rank : Level → Nat
  | debug => 10
  | info => 20
  | warning => 30
  | error => 40

end Level

inductive Verb
  | inspect
  | endpoint
  | sort
deriving DecidableEq, Repr

namespace Verb

def all : List Verb := [inspect, endpoint, sort]

def name : Verb → String
  | inspect => "inspect"
  | endpoint => "endpoint"
  | sort => "sort"

end Verb

inductive Command
  | inspect (addresses : List String)
  | endpoint (port : Int) (address? : Option String)
  | sort (addresses : List String)

namespace Command

def verb : Command → Verb
  | inspect _ => .inspect
  | endpoint _ _ => .endpoint
  | sort _ => .sort

end Command

structure Request where
  level : Level
  command : Command

/-- A complaint and the words of the program and command that make it. -/
structure Failure where
  words : List String
  complaint : Complaint

namespace Failure

def code (failure : Failure) : Nat :=
  match failure.complaint with
  | .help => 0
  | _ => 2

/-- One line after the names of the program and the command. -/
def line (failure : Failure) : String :=
  match failure.complaint with
  | .help => ""
  | complaint => String.intercalate " " failure.words ++ ": error: " ++ complaint.message

end Failure

/-! ## Switches -/

def helpSwitch : Switch := ⟨.help, ["-h", "--help"], false⟩
def levelSwitch : Switch := ⟨.logLevel, ["--log-level"], true⟩
def addressSwitch : Switch := ⟨.address, ["--address", "-a"], true⟩
def portSwitch : Switch := ⟨.port, ["--port", "-p"], true⟩

/-- What arguments in a row take: the command and all after it, texts up to the next switch, or none. -/
inductive Row
  | command
  | addresses
  | nothing
deriving DecidableEq, Repr

namespace Row

def label : Row → String
  | command => "command"
  | addresses => "addresses"
  | nothing => ""

/-- How many tokens the row takes from the front; none unless it starts with a text. -/
def count (row : Row) (given : List Token) : Nat :=
  let lead := given.takeWhile fun token => !token.isSwitch
  match row, lead.any Token.isPlain with
  | command, true => given.length
  | addresses, true => lead.length
  | _, _ => 0

/-- The first separator goes with texts, and stays with a command. -/
def texts (row : Row) (given : List Token) : List String :=
  match row with
  | command => given.map Token.text
  | _ => (given.map Token.text).erase "--"

end Row

structure Settings where
  level : Level
  address? : Option String
  port : Int
  row? : Option (List String)
  extras : List String

namespace Settings

def initial : Settings := ⟨.warning, none, 0, none, []⟩

def addExtras (settings : Settings) (extras : List String) : Settings :=
  { settings with extras := settings.extras ++ extras }

def setLevel (settings : Settings) (switch : Switch) (value : String) :
    Except Complaint Settings :=
  match Level.all.find? fun level => level.name == value with
  | some level => .ok { settings with level := level }
  | none => .error (.badChoice switch.label value (Level.all.map Level.name))

def setPort (settings : Settings) (switch : Switch) (value : String) : Except Complaint Settings :=
  match Text.Numeral.read? value.toList with
  | some port => .ok { settings with port := port }
  | none => .error (.badInteger switch value)

def take (settings : Settings) (taken : Taken) : Except Complaint Settings :=
  match taken.switch.key, taken.value? with
  | .help, _ => .error .help
  | .logLevel, some value => settings.setLevel taken.switch value
  | .address, some value => .ok { settings with address? := some value }
  | .port, some value => settings.setPort taken.switch value
  | _, none => .error (.missingValue taken.switch)

end Settings

/-! ## Reading a row of tokens -/

/-- The tokens after a switch, and after its value where that is the next token. -/
def following (usesNext : Bool) (rest : List Token) : List Token :=
  if usesNext then rest.tail else rest

theorem length_following_le (usesNext : Bool) (rest : List Token) :
    (following usesNext rest).length ≤ rest.length := by
  cases usesNext
  · exact Nat.le_refl _
  · exact List.length_tail .. ▸ Nat.sub_le _ _

/-- Switches are taken where they stand; the row takes the first tokens it can and is then full. -/
def readTokens (switches : List Switch) (row : Row) (settings : Settings) :
    List Token → Except Complaint Settings
  | [] => .ok settings
  | .unknown text :: rest => readTokens switches row (settings.addExtras [text]) rest
  | .named _ use :: rest => do
    let taken ← takeUse switches rest use
    let changed ← settings.take taken
    readTokens switches row changed (following taken.usesNext rest)
  | token :: rest =>
    let taken := if settings.row?.isNone then row.count (token :: rest) else 0
    if 0 < taken then
      let texts := row.texts ((token :: rest).take taken)
      readTokens switches row { settings with row? := some texts } (rest.drop (taken - 1))
    else
      let lead := token :: rest.takeWhile fun next => !next.isSwitch
      readTokens switches row (settings.addExtras (lead.map Token.text))
        (rest.dropWhile fun next => !next.isSwitch)
termination_by given => given.length
decreasing_by
  · exact Nat.lt_succ_self _
  · exact Nat.lt_succ_of_le (length_following_le taken.usesNext rest)
  · exact Nat.lt_succ_of_le (List.length_drop ▸ Nat.sub_le _ _)
  · exact Nat.lt_succ_of_le (List.dropWhile_sublist _).length_le

def readRow (switches : List Switch) (row : Row) (arguments : List String) :
    Except Complaint Settings := do
  let given ← tokens switches arguments
  let settings ← readTokens switches row Settings.initial given
  if row ≠ .nothing ∧ settings.row?.isNone then .error (.missingArguments row.label)
  return settings

def complainAs {α : Type} (words : List String) : Except Complaint α → Except Failure α
  | .ok result => .ok result
  | .error complaint => .error ⟨words, complaint⟩

def readVerb (word : String) : Except Complaint Verb :=
  match Verb.all.find? fun verb => verb.name == word with
  | some verb => .ok verb
  | none => .error (.badChoice Row.command.label word (Verb.all.map Verb.name))

def readCommand (verb : Verb) (arguments : List String) :
    Except Complaint (Command × List String) :=
  match verb with
  | .inspect => do
    let settings ← readRow [helpSwitch] .addresses arguments
    return (.inspect (settings.row?.getD []), settings.extras)
  | .sort => do
    let settings ← readRow [helpSwitch] .addresses arguments
    return (.sort (settings.row?.getD []), settings.extras)
  | .endpoint => do
    let settings ← readRow [helpSwitch, addressSwitch, portSwitch] .nothing arguments
    return (.endpoint settings.port settings.address?, settings.extras)

/-- Arguments that neither the program nor the command takes are reported last. -/
def readRequest (program : String) (arguments : List String) : Except Failure Request := do
  let settings ← complainAs [program] (readRow [helpSwitch, levelSwitch] .command arguments)
  match settings.row? with
  | some (word :: rest) =>
    let verb ← complainAs [program] (readVerb word)
    let (command, extras) ← complainAs [program, verb.name] (readCommand verb rest)
    match settings.extras ++ extras with
    | [] => return ⟨settings.level, command⟩
    | unread => .error ⟨[program], .unrecognized unread⟩
  | _ => .error ⟨[program], .missingArguments Row.command.label⟩

end IPv6.CommandLine
