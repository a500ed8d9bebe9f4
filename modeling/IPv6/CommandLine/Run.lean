import IPv6.CommandLine.Command
import IPv6.Table.Records
/-!
What the commands write. An address that cannot be read ends a command: `inspect` has by then written
the blocks before it, the other commands nothing.
-/

namespace IPv6.CommandLine

structure LogRecord where
  level : Level
  source : String
  message : String

namespace LogRecord

def line (stamp : String) (entry : LogRecord) : String :=
  stamp ++ " - " ++ entry.source ++ " - " ++ entry.level.name ++ " - " ++ entry.message

end LogRecord

/-- Lines written, log records made, and the fault that ended the command. -/
structure Outcome where
  lines : List String
  log : List LogRecord
  fault? : Option Fault

structure Report where
  code : Nat
  output : String
  log : List LogRecord
  errors : List String

namespace Report

def unlines (lines : List String) : String := String.join (lines.map (· ++ "\n"))

/-- The error stream, with a time stamp before each log record. -/
def errorText (stamp : String) (report : Report) : String :=
  unlines (report.log.map (LogRecord.line stamp) ++ report.errors)

end Report

def ruleLine : String := String.ofList (List.replicate 50 '─')

def labelled (label : String) (text : List Char) : String :=
  "  " ++ label ++ String.ofList (List.replicate (14 - label.length) ' ') ++ ": " ++ String.ofList text

def classText (address : Address) : List Char :=
  match address.classes with
  | [] => ['-']
  | classes => Text.join [',', ' '] (classes.map fun kind => kind.name.toList)

def block (address : Address) : List String :=
  [ruleLine,
    labelled "Address" address.chars,
    labelled "Exploded" address.exploded,
    labelled "Bytes" (Text.Hex.spaced address.octets),
    labelled "Classes" (classText address)] ++
  match address.ipv4Text? with
  | some text => [labelled "IPv4" text.toList]
  | none => []

def rejectionReason (text : String) : String :=
  if text.toList.contains '\x00' then "embedded null character"
  else "illegal IP address string passed to inet_pton"

/-- The log record of a text that is no address. -/
def rejection (text : String) : LogRecord :=
  ⟨.debug, "inet6.address",
    "rejected IPv6 text " ++ Complaint.quoted text ++ ": " ++ rejectionReason text⟩

def logOf : Fault → List LogRecord
  | .refused (.notAnAddress text) => [rejection text]
  | _ => []

def failed (lines : List String) (fault : Fault) : Outcome := ⟨lines, logOf fault, some fault⟩

def inspect : List String → Outcome
  | [] => ⟨[ruleLine], [], none⟩
  | text :: rest =>
    match Address.readText text with
    | .error fault => failed [] fault
    | .ok address =>
      let others := inspect rest
      { others with lines := block address ++ others.lines }

def padded (width : Nat) (text : List Char) : List Char :=
  text ++ List.replicate (width - text.length) ' '

def fieldLine (endpoint : Endpoint) (field : Field) (slot : Slot) : String :=
  let octets := endpoint.record.segment slot.offset slot.size
  String.ofList ("    ".toList ++ padded 9 field.name.toList ++ " @".toList ++
    padded 2 (Text.Decimal.ofNat slot.offset) ++ ' ' :: Text.Hex.spaced octets)

def endpointLines (layout : Layout) (endpoint : Endpoint) : List String :=
  ["[*] Endpoint:    " ++ endpoint.text,
    "[*] Native size: " ++ String.ofList (Text.Decimal.ofNat Record.size)] ++
  layout.slots.map fun (field, slot) => fieldLine endpoint field slot

def showEndpoint (layout : Layout) (port : Int) (address? : Option String) : Outcome :=
  let address := match address? with
    | some text => Value.text text
    | none => .absent
  match Endpoint.ofValues layout (.integer port) address with
  | .error fault => failed [] fault
  | .ok endpoint => ⟨endpointLines layout endpoint, [], none⟩

def sort (texts : List String) : Outcome :=
  match texts.mapM Address.readText with
  | .error fault => failed [] fault
  | .ok addresses => ⟨(Table.sortAddresses addresses).map Address.text, [], none⟩

def execute (layout : Layout) : Command → Outcome
  | .inspect texts => inspect texts
  | .endpoint port address? => showEndpoint layout port address?
  | .sort texts => sort texts

def announcement (command : Command) : LogRecord :=
  ⟨.info, "inet6", "running command: " ++ command.verb.name⟩

def refusalLine : Fault → List String
  | .refused refusal => ["[!] " ++ refusal.report]
  | _ => []

def reportOf (request : Request) (outcome : Outcome) : Report :=
  { code := if outcome.fault?.isSome then 2 else 0
    output := Report.unlines outcome.lines
    log := (announcement request.command :: outcome.log).filter fun entry =>
      request.level.rank ≤ entry.level.rank
    errors := (outcome.fault?.map refusalLine).getD [] }

def run (layout : Layout) (program : String) (arguments : List String) : Except Failure Report :=
  (readRequest program arguments).map fun request =>
    reportOf request (execute layout request.command)

end IPv6.CommandLine
