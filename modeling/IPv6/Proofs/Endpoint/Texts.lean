import Mathlib.Data.List.Basic
import IPv6.Proofs.Address.NormalForm
import IPv6.Proofs.Endpoint.Making
import IPv6.Proofs.Text.Numeral
import IPv6.Value.Text
/-!
Texts of endpoints. The bracket that ends the address stands nowhere else in the text of an endpoint, so the
text is cut there in one way only and both parts are read back. Two endpoints have the same text, in either
form, exactly if they are equal.
-/

namespace IPv6

namespace Text.Quoted

/-- Whether a character stands for itself between apostrophes. -/
def isPlain (char : Char) : Bool := isPrintable char && char != apostrophe && char != backslash

theorem escape_of_isPlain {char : Char} (plain : isPlain char = true) :
    escape apostrophe char = [char] := by
  simp only [isPlain, Bool.and_eq_true, bne_iff_ne] at plain
  obtain ⟨⟨printable, noQuote⟩, noBackslash⟩ := plain
  have other {control : Char} (hidden : isPrintable control = false) : char ≠ control := by
    intro same
    rw [same, hidden] at printable
    exact Bool.false_ne_true printable
  rw [escape, if_neg (not_or.mpr ⟨noQuote, noBackslash⟩), if_neg (other (by decide +kernel)),
    if_neg (other (by decide +kernel)), if_neg (other (by decide +kernel)), if_pos printable]

theorem encode_of_isPlain {text : List Char} (plain : ∀ char ∈ text, isPlain char = true) :
    encode text = apostrophe :: text ++ [apostrophe] := by
  have unquoted : text.contains apostrophe = false := by
    rw [List.contains_eq_mem, decide_eq_false_iff_not]
    intro member
    exact absurd (plain apostrophe member) (by decide +kernel)
  have quote : mark text = apostrophe := by
    rw [mark, unquoted]
    rfl
  have same : text.flatMap (escape apostrophe) = text.flatMap fun char => [char] :=
    List.flatMap_congr fun char member => escape_of_isPlain (plain char member)
  rw [encode, quote, same, List.flatMap_singleton']

end Text.Quoted

theorem Address.encode_chars (address : Address) :
    Text.Quoted.encode address.chars =
      Text.Quoted.apostrophe :: address.chars ++ [Text.Quoted.apostrophe] :=
  Text.Quoted.encode_of_isPlain (forall_mem_chars (by decide +kernel) address)

theorem Address.chars_eq_iff {left right : Address} : left.chars = right.chars ↔ left = right :=
  ⟨fun same => text_injective (congrArg String.ofList same), congrArg chars⟩

namespace Endpoint

variable {left right : Endpoint}

theorem toList_text (endpoint : Endpoint) : endpoint.text.toList = endpoint.chars :=
  String.toList_ofList

/-! ## Ports -/

theorem not_mem_portText (endpoint : Endpoint) {char : Char}
    (other : ∀ digit < 10, Text.Decimal.digit digit ≠ char) : char ∉ endpoint.portText :=
  fun member => (Text.Numeral.isDecimal_of_mem member).ne char other rfl

theorem read?_portText (endpoint : Endpoint) :
    Text.Numeral.read? endpoint.portText = some (endpoint.port.toNat : Int) := by
  have small : endpoint.port.toNat < 10 ^ 5 := Nat.lt_trans endpoint.port.toNat_lt (by decide)
  have read := Text.Numeral.read?_ofInt endpoint.port.toNat
  rwa [Int.natAbs_natCast, if_pos (Text.Numeral.lt_limit small), Text.Decimal.ofInt,
    if_neg (Int.not_lt.mpr (Int.natCast_nonneg _))] at read

theorem portText_eq_iff : left.portText = right.portText ↔ left.port = right.port := by
  constructor
  · intro same
    have read := read?_portText left
    rw [same, read?_portText, Option.some.injEq, Int.natCast_inj] at read
    exact (UInt16.toNat_inj.mp read).symm
  · intro same
    rw [portText, portText, same]

/-! ## Cutting -/

/-- The text has one bracket that closes. -/
theorem chars_eq_append_iff (endpoint : Endpoint) (front back : List Char) :
    endpoint.chars = front ++ ']' :: ':' :: back ↔
      '[' :: endpoint.address.chars = front ∧ endpoint.portText = back := by
  have address : ']' ∉ '[' :: endpoint.address.chars := by
    rw [List.mem_cons, not_or]
    exact ⟨by decide, Address.not_mem_chars endpoint.address (by decide)⟩
  have port : ']' ∉ ':' :: endpoint.portText := by
    rw [List.mem_cons, not_or]
    exact ⟨by decide, endpoint.not_mem_portText (by decide)⟩
  rw [chars, List.append_cons_inj_of_notMem address port, List.cons_inj_right]
  simp only [true_and]

/-! ## Equality -/

theorem text_eq_iff : left.text = right.text ↔ left.same right = true := by
  have cut := chars_eq_append_iff left ('[' :: right.address.chars) right.portText
  rw [← chars, List.cons_inj_right, Address.chars_eq_iff, portText_eq_iff] at cut
  rw [← String.toList_inj, toList_text, toList_text, cut, same_eq_true_iff]

theorem shown_eq (endpoint : Endpoint) :
    (Value.endpoint endpoint).shown = "IPv6Endpoint(".toList ++ (endpoint.portText ++
      ',' :: ' ' :: Text.Quoted.apostrophe :: (endpoint.address.chars ++
        [Text.Quoted.apostrophe, ')'])) := by
  calc
    _ = "IPv6Endpoint(".toList ++ endpoint.portText ++ ", ".toList ++
        Text.Quoted.encode endpoint.address.chars ++ [')'] := rfl
    _ = _ := by
      have comma : ", ".toList = [',', ' '] := by decide
      rw [Address.encode_chars, comma]
      simp only [List.append_assoc, List.cons_append, List.nil_append]

/-- The comma behind the port stands nowhere else. -/
theorem shown_eq_iff :
    (Value.endpoint left).shown = (Value.endpoint right).shown ↔ left.same right = true := by
  have port : ',' ∉ left.portText := left.not_mem_portText (by decide)
  have address : ',' ∉ left.address.chars := Address.not_mem_chars left.address (by decide)
  have quoted : ',' ∉ ' ' :: Text.Quoted.apostrophe :: (left.address.chars ++
      [Text.Quoted.apostrophe, ')']) := by
    simp only [List.mem_cons, List.mem_append, address, false_or]
    decide
  rw [shown_eq, shown_eq, List.append_right_inj, List.append_cons_inj_of_notMem port quoted,
    List.cons_inj_right, List.cons_inj_right, List.append_left_inj, portText_eq_iff,
    Address.chars_eq_iff, same_eq_true_iff]
  simp only [true_and, and_comm]

/-! ## Texts of one endpoint -/

/-- What the texts of an endpoint with this host and port tell of it. -/
structure ToldBy (endpoint : Endpoint) (host : String) (port : UInt16) : Prop where
  arguments : endpoint.socketArguments = (host, port, 0, 0)
  written : Address.textOfOctets endpoint.address.octets = .ok host
  restored : ∀ layout, ∃ again, ofValues layout (.integer port.toNat) (.text host) = .ok again ∧
    Value.answer .eq (.endpoint again) (.endpoint endpoint) = .ok (.boolean true)
  joined : endpoint.text.toList =
    '[' :: host.toList ++ ']' :: ':' :: Text.Decimal.ofNat port.toNat
  /-- Wherever the text is cut, both parts are read back. -/
  cut : ∀ front back, endpoint.text.toList = front ++ ']' :: ':' :: back →
    ∃ inner : String, front = '[' :: inner.toList ∧
      Address.ofTextValue (.text inner) = .ok endpoint.address ∧
      Text.Numeral.read? back = some (endpoint.port.toNat : Int)

theorem toldBy_text (endpoint : Endpoint) :
    ToldBy endpoint endpoint.address.text endpoint.port where
  arguments := rfl
  written := Address.textOfOctets_octets endpoint.address
  restored := by
    intro layout
    refine ⟨make layout endpoint.port endpoint.address, ?_, ?_⟩
    · exact ofValues_of_ofValue layout endpoint.port (Address.readText_text endpoint.address)
    · rw [answer_eq, same_make]
  joined := by
    rw [toList_text, Address.toList_text]
    rfl
  cut := by
    intro front back cut
    rw [toList_text, chars_eq_append_iff] at cut
    rcases cut with ⟨rfl, rfl⟩
    refine ⟨endpoint.address.text, ?_, Address.readText_text endpoint.address,
      read?_portText endpoint⟩
    rw [Address.toList_text]

theorem texts_tell_endpoints :
    (∀ endpoint, ∃ host port, ToldBy endpoint host port) ∧
    (∀ left right : Endpoint,
      (left.text = right.text ↔ (Value.endpoint left).shown = (Value.endpoint right).shown) ∧
      ((Value.endpoint left).shown = (Value.endpoint right).shown ↔
        Value.answer .eq (.endpoint left) (.endpoint right) = .ok (.boolean true))) := by
  constructor
  · intro endpoint
    exact ⟨_, _, toldBy_text endpoint⟩
  · intro left right
    rw [text_eq_iff, shown_eq_iff, answer_eq, Except.ok.injEq, Value.boolean.injEq]
    exact ⟨Iff.rfl, Iff.rfl⟩

end Endpoint

end IPv6
