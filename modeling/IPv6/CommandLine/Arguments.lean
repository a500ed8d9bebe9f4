import IPv6.Text.Numeral
import IPv6.Text.Quoted
/-!
Arguments of a command line. A switch begins with a hyphen, may be shortened to a lead that no other
switch has, and takes its value from after `=`, from the rest of a one-letter switch, or from the next
argument. What stands after `--` is never a switch, and neither is a negative number or a text with a blank.
-/

namespace IPv6.CommandLine

inductive Key
  | help
  | logLevel
  | address
  | port
deriving DecidableEq, Repr

structure Switch where
  key : Key
  names : List String
  takesValue : Bool
deriving DecidableEq, Repr

namespace Switch

def label (switch : Switch) : String := String.intercalate "/" switch.names

end Switch

/-- Why arguments are not taken. -/
inductive Complaint
  /-- Help was asked for. -/
  | help
  | ambiguous (argument : String) (names : List String)
  | missingValue (switch : Switch)
  | unusedValue (switch : Switch) (value : String)
  | badInteger (switch : Switch) (value : String)
  | badChoice (label : String) (value : String) (choices : List String)
  | missingArguments (name : String)
  | unrecognized (arguments : List String)

namespace Complaint

def quoted (text : String) : String := String.ofList (Text.Quoted.encode text.toList)

def choiceText (value : String) (choices : List String) : String :=
  "invalid choice: " ++ quoted value ++ " (choose from " ++
    String.intercalate ", " (choices.map quoted) ++ ")"

def message : Complaint → String
  | help => ""
  | ambiguous argument names =>
    "ambiguous option: " ++ argument ++ " could match " ++ String.intercalate ", " names
  | missingValue switch => "argument " ++ switch.label ++ ": expected one argument"
  | unusedValue switch value =>
    "argument " ++ switch.label ++ ": ignored explicit argument " ++ quoted value
  | badInteger switch value =>
    "argument " ++ switch.label ++ ": invalid int value: " ++ quoted value
  | badChoice label value choices => "argument " ++ label ++ ": " ++ choiceText value choices
  | missingArguments name => "the following arguments are required: " ++ name
  | unrecognized arguments => "unrecognized arguments: " ++ String.intercalate " " arguments

end Complaint

/-- A switch as an argument names it, with the value that is joined to it. -/
structure Use where
  switch : Switch
  name : String
  equals : Bool
  value? : Option String

inductive Token
  | plain (text : String)
  | separator
  | named (text : String) (use : Use)
  | unknown (text : String)

namespace Token

def text : Token → String
  | plain text => text
  | separator => "--"
  | named text _ => text
  | unknown text => text

def isSwitch : Token → Bool
  | named _ _ | unknown _ => true
  | _ => false

def isPlain : Token → Bool
  | plain _ => true
  | _ => false

end Token

def namedSwitches (switches : List Switch) : List (String × Switch) :=
  switches.flatMap fun switch => switch.names.map (·, switch)

/-- The text before the first `=`, and the text after it where there is one. -/
def cutAtEquals (argument : String) : String × Option String :=
  let chars := argument.toList
  match chars.dropWhile (· != '=') with
  | [] => (argument, none)
  | _ :: value => (String.ofList (chars.takeWhile (· != '=')), some (String.ofList value))

/-- A hyphen with digits, or with digits, a point and digits; a line end may follow. -/
def isNegativeNumber (argument : List Char) : Bool :=
  let isDigit (char : Char) : Bool := (Text.Numeral.value? char).isSome
  match argument with
  | '-' :: rest =>
    let body := if rest.getLast? = some '\n' then rest.dropLast else rest
    let fraction := body.dropWhile isDigit
    match fraction with
    | [] => !body.isEmpty
    | '.' :: digits => !digits.isEmpty && digits.all isDigit
    | _ => false
  | _ => false

/-- The switches that an argument may mean, by a lead of a long name or by a one-letter name. -/
def candidates (switches : List Switch) (argument : String) : List Use :=
  let named := namedSwitches switches
  match argument.toList with
  | '-' :: '-' :: _ =>
    let (lead, value?) := cutAtEquals argument
    (named.filter fun (name, _) => lead.isPrefixOf name).map fun (name, switch) =>
      ⟨switch, name, value?.isSome, value?⟩
  | '-' :: letter :: rest =>
    named.filterMap fun (name, switch) =>
      if name = String.ofList ['-', letter] then
        some ⟨switch, name, false, some (String.ofList rest)⟩
      else if argument.isPrefixOf name then some ⟨switch, name, false, none⟩
      else none
  | _ => []

def isHyphened (argument : List Char) : Bool :=
  match argument with
  | '-' :: _ :: _ => true
  | _ => false

def classify (switches : List Switch) (argument : String) : Except Complaint Token :=
  let named := namedSwitches switches
  if !isHyphened argument.toList then .ok (.plain argument)
  else
    match named.lookup argument with
    | some switch => .ok (.named argument ⟨switch, argument, false, none⟩)
    | none =>
      let (lead, value?) := cutAtEquals argument
      match value?, named.lookup lead with
      | some value, some switch => .ok (.named argument ⟨switch, lead, true, some value⟩)
      | _, _ =>
        match candidates switches argument with
        | [use] => .ok (.named argument use)
        | first :: second :: rest =>
          .error (.ambiguous argument ((first :: second :: rest).map Use.name))
        | [] =>
          if isNegativeNumber argument.toList || argument.toList.contains ' ' then
            .ok (.plain argument)
          else .ok (.unknown argument)

def tokens (switches : List Switch) : List String → Except Complaint (List Token)
  | [] => .ok []
  | argument :: rest =>
    if argument = "--" then .ok (.separator :: rest.map .plain)
    else do
      let token ← classify switches argument
      let others ← tokens switches rest
      return token :: others

/-- A switch taken: its value, and whether the value is the next argument. -/
structure Taken where
  switch : Switch
  value? : Option String
  usesNext : Bool

def takeNext (switch : Switch) (next : List Token) : Except Complaint Taken :=
  if switch.takesValue then
    match next with
    | .plain value :: _ => .ok ⟨switch, some value, true⟩
    | _ => .error (.missingValue switch)
  else .ok ⟨switch, none, false⟩

/-- Letters joined to a switch without value are switches too. -/
def takeLetters (switches : List Switch) (next : List Token) (switch : Switch) (equals : Bool) :
    List Char → Except Complaint Taken
  | [] => if equals then .error (.unusedValue switch "") else takeNext switch next
  | letter :: rest =>
    if switch.takesValue then .ok ⟨switch, some (String.ofList (letter :: rest)), false⟩
    else if equals || letter == '-' then
      .error (.unusedValue switch (String.ofList (letter :: rest)))
    else
      match (namedSwitches switches).lookup (String.ofList ['-', letter]) with
      | none => .ok ⟨switch, none, false⟩
      | some following => do
        let _ ← match rest with
          | '=' :: value =>
            if following.takesValue then .ok ⟨following, none, false⟩
            else takeLetters switches next following true value
          | value => takeLetters switches next following false value
        return ⟨switch, none, false⟩

def takeUse (switches : List Switch) (next : List Token) (use : Use) : Except Complaint Taken :=
  match use.value? with
  | none => takeNext use.switch next
  | some value =>
    if use.switch.takesValue then .ok ⟨use.switch, some value, false⟩
    else if use.name.startsWith "--" || value.isEmpty then
      .error (.unusedValue use.switch value)
    else takeLetters switches next use.switch use.equals value.toList

end IPv6.CommandLine
