import IPv6.CommandLine.Run
import IPv6.Proofs.Text.Numeral
import IPv6.Proofs.Text.Separated
/-!
What single arguments are read as, and rows of them. A text without a hyphen in front stands for itself,
and so do a hyphen and digits; a switch takes its value whether that is joined to it or is the next
argument.
-/

namespace IPv6.CommandLine

/-! ## Tokens -/

section Tokens

variable {switches : List Switch} {argument : String} {token : Token}

/-- An argument that does not begin with a hyphen. -/
def IsText (argument : String) : Prop := argument.toList.head? ≠ some '-'

instance (argument : String) : Decidable (IsText argument) :=
  inferInstanceAs (Decidable (_ ≠ _))

theorem IsText.ne_separator (text : IsText argument) : argument ≠ "--" := by
  rintro rfl
  exact text rfl

theorem exists_of_isHyphened {text : List Char} (hyphened : isHyphened text = true) :
    ∃ next rest, text = '-' :: next :: rest := by
  unfold isHyphened at hyphened
  split at hyphened
  case h_1 next rest => exact ⟨next, rest, rfl⟩
  case h_2 => cases hyphened

theorem classify_text (text : IsText argument) :
    classify switches argument = .ok (.plain argument) := by
  have plain : isHyphened argument.toList = false := by
    refine Bool.eq_false_iff.mpr fun hyphened => text ?_
    obtain ⟨next, rest, shape⟩ := exists_of_isHyphened hyphened
    rw [shape, List.head?_cons]
  rw [classify, plain]
  rfl

theorem text_of_classify (read : classify switches argument = .ok token) : token.text = argument := by
  -- Whatever an argument is taken for, its text goes with it.
  rw [classify] at read
  repeat' split at read
  all_goals cases read <;> rfl

theorem tokens_cons (other : argument ≠ "--") (read : classify switches argument = .ok token)
    (rest : List String) :
    tokens switches (argument :: rest) = (tokens switches rest).map (token :: ·) := by
  rw [tokens, if_neg other, read]
  cases tokens switches rest <;> rfl

theorem tokens_texts {texts : List String} (each : ∀ text ∈ texts, IsText text) :
    tokens switches texts = .ok (texts.map .plain) := by
  induction texts with
  | nil => rfl
  | cons text rest ih =>
    obtain ⟨first, others⟩ := List.forall_mem_cons.mp each
    rw [tokens_cons first.ne_separator (classify_text first), ih others]
    rfl

theorem texts_of_tokens {arguments : List String} {given : List Token}
    (read : tokens switches arguments = .ok given) : given.map Token.text = arguments := by
  induction arguments generalizing given with
  | nil =>
    cases read
    rfl
  | cons argument rest ih =>
    by_cases separator : argument = "--"
    · rw [tokens, if_pos separator] at read
      cases read
      rw [List.map_cons, List.map_map, separator]
      exact congrArg ("--" :: ·) (List.map_id rest)
    · cases first : classify switches argument with
      | error complaint =>
        rw [tokens, if_neg separator, first] at read
        cases read
      | ok token =>
        rw [tokens_cons separator first] at read
        cases others : tokens switches rest with
        | error complaint =>
          rw [others] at read
          cases read
        | ok more =>
          rw [others] at read
          cases read
          rw [List.map_cons, text_of_classify first, ih others]

end Tokens

/-! ## Rows -/

section Rows

variable {switches : List Switch} {row : Row} {settings : Settings}

theorem readTokens_whole (switches : List Switch) {first : String} {rest : List Token}
    (empty : settings.row? = none)
    (whole : row.count (.plain first :: rest) = (Token.plain first :: rest).length) :
    readTokens switches row settings (.plain first :: rest) =
      .ok { settings with row? := some (row.texts (.plain first :: rest)) } := by
  have present : 0 < (Token.plain first :: rest).length := Nat.succ_pos _
  have left : rest.drop ((Token.plain first :: rest).length - 1) = [] := List.drop_length
  rw [readTokens]
  · simp only [empty, Option.isNone_none, if_true, whole, List.take_length, left]
    rw [if_pos present, readTokens]
  · intro text other
    cases other
  · intro text use other
    cases other

/-- A command takes all that follows it. -/
theorem readTokens_command (switches : List Switch) (empty : settings.row? = none) (verb : String)
    (rest : List Token) :
    readTokens switches .command settings (.plain verb :: rest) =
      .ok { settings with row? := some (verb :: rest.map Token.text) } :=
  readTokens_whole switches empty rfl

theorem takeWhile_texts (texts : List String) :
    (texts.map Token.plain).takeWhile (fun token => !token.isSwitch) = texts.map .plain := by
  induction texts with
  | nil => rfl
  | cons text rest ih => rw [List.map_cons, List.takeWhile_cons_of_pos rfl, ih]

theorem count_texts (first : String) (rest : List String) :
    Row.addresses.count ((first :: rest).map .plain) = ((first :: rest).map Token.plain).length := by
  simp only [Row.count, takeWhile_texts]
  rfl

theorem texts_of_plain (texts : List String) :
    (texts.map Token.plain).map Token.text = texts := by
  rw [List.map_map]
  exact List.map_id texts

theorem readRow_texts {texts : List String} (present : texts ≠ [])
    (each : ∀ text ∈ texts, IsText text) :
    readRow switches .addresses texts = .ok { Settings.initial with row? := some texts } := by
  have kept : Row.addresses.texts (texts.map .plain) = texts := by
    show ((texts.map Token.plain).map Token.text).erase "--" = texts
    rw [texts_of_plain]
    exact List.erase_of_not_mem fun separator => each "--" separator rfl
  obtain ⟨first, rest, rfl⟩ := List.exists_cons_of_ne_nil present
  have empty : Settings.initial.row? = none := rfl
  have whole := readTokens_whole switches empty (count_texts first rest)
  rw [← List.map_cons, kept] at whole
  rw [readRow, tokens_texts each]
  show (readTokens switches .addresses .initial ((first :: rest).map .plain) >>= _) = _
  rw [whole]
  rfl

end Rows

/-! ## Switches -/

section Switches

variable {switches : List Switch} {argument name value : String}

/-- A hyphen and digits. -/
def IsNegative (argument : String) : Prop :=
  ∃ digit rest, argument.toList = '-' :: digit :: rest ∧
    ∀ char ∈ digit :: rest, (Text.Numeral.value? char).isSome = true

/-- Names that no negative number and no argument with `=` can be. -/
def WellNamed (switches : List Switch) : Prop :=
  ∀ named ∈ namedSwitches switches, '=' ∉ named.1.toList ∧
    ∀ char ∈ named.1.toList[1]?, (Text.Numeral.value? char).isSome = false

instance (switches : List Switch) : Decidable (WellNamed switches) :=
  have _ (name : String) :
      Decidable (∀ char ∈ name.toList[1]?, (Text.Numeral.value? char).isSome = false) :=
    Option.decidableForallMem _
  inferInstanceAs (Decidable (∀ named ∈ namedSwitches switches, _ ∧ _))

theorem isPrefixOf_iff (lead text : String) :
    lead.isPrefixOf text = true ↔ lead.toList <+: text.toList :=
  String.startsWith_string_iff

theorem lookup_eq_none (absent : ∀ named ∈ namedSwitches switches, named.1 ≠ argument) :
    (namedSwitches switches).lookup argument = none := by
  rw [List.lookup_eq_none_iff]
  intro named member
  simpa using (absent named member).symm

theorem cutAtEquals_of_not_mem (absent : '=' ∉ argument.toList) :
    cutAtEquals argument = (argument, none) := by
  rw [cutAtEquals]
  simp only [Text.dropWhile_of_not_mem absent]

theorem cutAtEquals_joined (absent : '=' ∉ name.toList) :
    cutAtEquals (name ++ "=" ++ value) = (name, some value) := by
  have chars : (name ++ "=" ++ value).toList = name.toList ++ '=' :: value.toList := by
    rw [String.toList_append, String.toList_append, List.append_assoc]
    rfl
  rw [cutAtEquals, chars]
  simp only [Text.takeWhile_append_cons absent, Text.dropWhile_append_cons absent,
    String.ofList_toList]

theorem isNegativeNumber_digits {digits : List Char} (present : digits ≠ [])
    (each : ∀ char ∈ digits, (Text.Numeral.value? char).isSome = true) :
    isNegativeNumber ('-' :: digits) = true := by
  have line : digits.getLast? ≠ some '\n' := fun last =>
    absurd (each '\n' (List.mem_of_getLast? last)) (by decide)
  have fraction : digits.dropWhile (fun char => (Text.Numeral.value? char).isSome) = [] :=
    List.dropWhile_eq_nil_iff.mpr each
  rw [isNegativeNumber]
  simp only [line, if_false, fraction]
  simpa using present

theorem candidates_negative (names : WellNamed switches) {digit : Char} {rest : List Char}
    (shape : argument.toList = '-' :: digit :: rest)
    (number : (Text.Numeral.value? digit).isSome = true) : candidates switches argument = [] := by
  have apart : ∀ named ∈ namedSwitches switches, named.1.toList[1]? ≠ some digit := by
    intro named member same
    have none := (names named member).2 digit same
    rw [number] at none
    cases none
  have other : digit ≠ '-' := by
    rintro rfl
    exact absurd number (by decide)
  unfold candidates
  simp only
  split
  case h_1 _ next long =>
    rw [shape] at long
    cases long
    exact absurd rfl other
  case h_2 letter next _ short =>
    rw [shape] at short
    cases short
    rw [List.filterMap_eq_nil_iff]
    intro named member
    have unnamed : named.1 ≠ String.ofList ['-', digit] := fun same =>
      apart named member (by rw [same, String.toList_ofList]; rfl)
    have unled : argument.isPrefixOf named.1 = false := by
      refine Bool.eq_false_iff.mpr fun lead => apart named member ?_
      obtain ⟨tail, whole⟩ := (isPrefixOf_iff argument named.1).mp lead
      rw [← whole, shape]
      rfl
    simp only [unnamed, if_false, unled]
    rfl
  case h_3 => rfl

theorem classify_negative (names : WellNamed switches) (negative : IsNegative argument) :
    classify switches argument = .ok (.plain argument) := by
  obtain ⟨digit, rest, shape, each⟩ := negative
  have number := each digit List.mem_cons_self
  have absent : '=' ∉ argument.toList := by
    rw [shape, List.mem_cons, not_or]
    exact ⟨by decide, fun member => absurd (each '=' member) (by decide)⟩
  have unnamed : (namedSwitches switches).lookup argument = none := by
    refine lookup_eq_none fun named member same => ?_
    have none := (names named member).2 digit (by rw [same, shape]; rfl)
    rw [number] at none
    cases none
  have hyphened : isHyphened argument.toList = true := by rw [shape, isHyphened]
  have negativeNumber : isNegativeNumber argument.toList = true := by
    rw [shape]
    exact isNegativeNumber_digits (List.cons_ne_nil digit rest) each
  rw [classify]
  simp only [hyphened, unnamed, cutAtEquals_of_not_mem absent, candidates_negative names shape number,
    negativeNumber]
  rfl

/-- A long name in front of no name of the switches. -/
structure IsForeign (switches : List Switch) (name : String) : Prop where
  proper : name ≠ "--"
  long : name.toList.take 2 = ['-', '-']
  single : '=' ∉ name.toList
  unled : ∀ named ∈ namedSwitches switches, ¬ name.toList <+: named.1.toList

theorem ne_of_equals (names : WellNamed switches) (equals : '=' ∈ argument.toList) :
    ∀ named ∈ namedSwitches switches, named.1 ≠ argument := by
  intro named member same
  exact (names named member).1 (same ▸ equals)

theorem equals_mem (name value : String) : '=' ∈ (name ++ "=" ++ value).toList := by
  simp [String.toList_append]

/-- A switch of another row of arguments is left for that row. -/
theorem exists_classify_foreign {value? : Option String}
    (long : argument.toList.take 2 = ['-', '-']) (cut : cutAtEquals argument = (name, value?))
    (unnamed : (namedSwitches switches).lookup argument = none)
    (foreign : IsForeign switches name) : ∃ token, classify switches argument = .ok token := by
  obtain ⟨rest, shape⟩ : ∃ rest, argument.toList = '-' :: '-' :: rest := by
    refine ⟨argument.toList.drop 2, ?_⟩
    rw [← List.take_append_drop 2 argument.toList, long]
    rfl
  have unled : (namedSwitches switches).filter (fun named => name.isPrefixOf named.1) = [] := by
    rw [List.filter_eq_nil_iff]
    intro named member lead
    exact foreign.unled named member ((isPrefixOf_iff name named.1).mp lead)
  have leadUnnamed : (namedSwitches switches).lookup name = none := by
    refine lookup_eq_none fun named member same => ?_
    exact foreign.unled named member (same ▸ List.prefix_rfl)
  have none : candidates switches argument = [] := by
    rw [candidates, shape]
    simp only [cut, unled, List.map_nil]
  have hyphened : isHyphened argument.toList = true := by rw [shape, isHyphened]
  rw [classify]
  simp only [hyphened, unnamed, cut, leadUnnamed, none]
  split
  case isTrue negated => cases negated
  case isFalse =>
    split
    · exact ⟨_, rfl⟩
    · exact ⟨_, rfl⟩

/-- The arguments that give a switch its value, which is joined to the name or is the next argument. -/
inductive Gives (name value : String) : List String → Prop
  | next (plain : IsText value ∨ IsNegative value) : Gives name value [name, value]
  | joined : Gives name value [name ++ "=" ++ value]

theorem classify_value (names : WellNamed switches) (plain : IsText value ∨ IsNegative value) :
    classify switches value = .ok (.plain value) := by
  rcases plain with text | negative
  · exact classify_text text
  · exact classify_negative names negative

theorem value_ne_separator (plain : IsText value ∨ IsNegative value) : value ≠ "--" := by
  rintro rfl
  rcases plain with text | ⟨digit, rest, shape, each⟩
  · exact text rfl
  · cases shape
    exact absurd (each '-' List.mem_cons_self) (by decide)

theorem joined_ne_separator (name value : String) : name ++ "=" ++ value ≠ "--" := by
  intro same
  have equals := equals_mem name value
  rw [same] at equals
  exact absurd equals (by decide)

theorem exists_tokens_foreign (names : WellNamed switches) (foreign : IsForeign switches name)
    {arguments : List String} (gives : Gives name value arguments) (rest : List String)
    (read : ∃ given, tokens switches rest = .ok given) :
    ∃ given, tokens switches (arguments ++ rest) = .ok given := by
  obtain ⟨given, read⟩ := read
  cases gives with
  | next plain =>
    have unnamed : (namedSwitches switches).lookup name = none :=
      lookup_eq_none fun named member same =>
        foreign.unled named member (same ▸ List.prefix_rfl)
    obtain ⟨token, first⟩ := exists_classify_foreign foreign.long
      (cutAtEquals_of_not_mem foreign.single) unnamed foreign
    refine ⟨token :: .plain value :: given, ?_⟩
    rw [List.cons_append, List.cons_append, List.nil_append, tokens_cons foreign.proper first,
      tokens_cons (value_ne_separator plain) (classify_value names plain), read]
    rfl
  | joined =>
    have long : (name ++ "=" ++ value).toList.take 2 = ['-', '-'] := by
      have two : 2 ≤ name.toList.length := by
        have size := congrArg List.length foreign.long
        rw [List.length_take] at size
        simp only [List.length_cons, List.length_nil] at size
        omega
      rw [String.toList_append, String.toList_append, List.append_assoc,
        List.take_append_of_le_length two, foreign.long]
    obtain ⟨token, first⟩ := exists_classify_foreign long (cutAtEquals_joined foreign.single)
      (lookup_eq_none (ne_of_equals names (equals_mem name value))) foreign
    refine ⟨token :: given, ?_⟩
    rw [List.singleton_append, tokens_cons (joined_ne_separator name value) first, read]
    rfl

/-- A name of one of the switches that take a value. -/
structure IsOwn (switches : List Switch) (name : String) (switch : Switch) : Prop where
  proper : name ≠ "--"
  hyphened : isHyphened name.toList = true
  single : '=' ∉ name.toList
  named : (namedSwitches switches).lookup name = some switch
  takes : switch.takesValue = true

variable {switch : Switch}

theorem classify_own (own : IsOwn switches name switch) :
    classify switches name = .ok (.named name ⟨switch, name, false, none⟩) := by
  rw [classify]
  simp only [own.hyphened, own.named]
  rfl

theorem classify_joined (names : WellNamed switches) (own : IsOwn switches name switch) :
    classify switches (name ++ "=" ++ value) =
      .ok (.named (name ++ "=" ++ value) ⟨switch, name, true, some value⟩) := by
  have hyphened : isHyphened (name ++ "=" ++ value).toList = true := by
    obtain ⟨next, rest, shape⟩ := exists_of_isHyphened own.hyphened
    rw [String.toList_append, String.toList_append, shape]
    rfl
  have unnamed := lookup_eq_none (ne_of_equals names (equals_mem name value))
  rw [classify]
  simp only [hyphened, unnamed, cutAtEquals_joined own.single, own.named]
  rfl

/-- What arguments make of the settings found so far. -/
def readFrom (switches : List Switch) (row : Row) (settings : Settings) (arguments : List String) :
    Except Complaint Settings :=
  tokens switches arguments >>= readTokens switches row settings

theorem readFrom_nil (row : Row) (settings : Settings) :
    readFrom switches row settings [] = .ok settings := by
  show readTokens switches row settings [] = .ok settings
  rw [readTokens]

/-- A switch takes its value, and what is left is read with the settings changed by it. -/
theorem exists_readFrom_gives (names : WellNamed switches) (own : IsOwn switches name switch)
    (row : Row) (settings : Settings) {arguments : List String} (gives : Gives name value arguments)
    (rest : List String) :
    ∃ usesNext, readFrom switches row settings (arguments ++ rest) = (do
      let given ← tokens switches rest
      let changed ← settings.take ⟨switch, some value, usesNext⟩
      readTokens switches row changed given) := by
  cases gives with
  | next plain =>
    refine ⟨true, ?_⟩
    rw [readFrom, List.cons_append, List.cons_append, List.nil_append,
      tokens_cons own.proper (classify_own own),
      tokens_cons (value_ne_separator plain) (classify_value names plain)]
    cases tokens switches rest with
    | error complaint => rfl
    | ok given =>
      show readTokens switches row settings
        (.named name ⟨switch, name, false, none⟩ :: .plain value :: given) = _
      rw [readTokens, takeUse, takeNext, if_pos own.takes]
      rfl
  | joined =>
    refine ⟨false, ?_⟩
    rw [readFrom, List.singleton_append,
      tokens_cons (joined_ne_separator name value) (classify_joined names own)]
    cases tokens switches rest with
    | error complaint => rfl
    | ok given =>
      show readTokens switches row settings
        (.named (name ++ "=" ++ value) ⟨switch, name, true, some value⟩ :: given) = _
      rw [readTokens, takeUse]
      simp only [own.takes, if_true]
      rfl

theorem readFrom_gives (names : WellNamed switches) (own : IsOwn switches name switch) {row : Row}
    {settings changed : Settings} {arguments : List String} (gives : Gives name value arguments)
    (taken : ∀ usesNext, settings.take ⟨switch, some value, usesNext⟩ = .ok changed)
    (rest : List String) :
    readFrom switches row settings (arguments ++ rest) = readFrom switches row changed rest := by
  obtain ⟨usesNext, whole⟩ := exists_readFrom_gives names own row settings gives rest
  rw [whole, taken]
  rfl

theorem readFrom_gives_of_error (names : WellNamed switches) (own : IsOwn switches name switch)
    {row : Row} {settings : Settings} {complaint : Complaint} {arguments rest : List String}
    (gives : Gives name value arguments)
    (refused : ∀ usesNext, settings.take ⟨switch, some value, usesNext⟩ = .error complaint)
    (read : ∃ given, tokens switches rest = .ok given) :
    readFrom switches row settings (arguments ++ rest) = .error complaint := by
  obtain ⟨usesNext, whole⟩ := exists_readFrom_gives names own row settings gives rest
  obtain ⟨given, read⟩ := read
  rw [whole, read, refused]
  rfl

end Switches

end IPv6.CommandLine
