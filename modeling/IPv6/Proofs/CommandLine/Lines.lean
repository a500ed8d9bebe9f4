import IPv6.CommandLine.Run
import IPv6.Proofs.Address.NormalForm
import IPv6.Proofs.Text.Numeral
import IPv6.Proofs.Text.Quoted
import IPv6.Proofs.Text.Separated
/-!
Texts of one line. An address is written without a line end, and so is a refusal, whatever text or number
it quotes; lines that are written one below the other are found again.
-/

namespace IPv6

open Text (Unbroken unbroken_append unbroken_cons)

/-- No line ends within the text. -/
def OneLine (text : List Char) : Prop := '\n' ∉ text

instance (text : List Char) : Decidable (OneLine text) := inferInstanceAs (Decidable (¬ _))

theorem Text.Unbroken.oneLine {text : List Char} (unbroken : Unbroken text) : OneLine text :=
  fun member => unbroken '\n' member (by decide)

theorem unbroken_ofNat (number : Nat) : Unbroken (Text.Decimal.ofNat number) := by
  have digits : ∀ digit < 10, ¬ Text.IsControl (Text.Decimal.digit digit) := by decide
  intro char member
  obtain ⟨digit, small, rfl⟩ := Text.Numeral.isDecimal_of_mem member
  exact digits digit small

theorem unbroken_ofInt (number : Int) : Unbroken (Text.Decimal.ofInt number) := by
  rw [Text.Decimal.ofInt]
  split
  · exact unbroken_cons.mpr ⟨by decide, unbroken_ofNat number.natAbs⟩
  · exact unbroken_ofNat number.natAbs

namespace Address

theorem foreign_of_isControl {char : Char} (control : Text.IsControl char) : Foreign char := by
  refine ⟨?_, ?_, ?_⟩
  · intro value _ digit
    have plain : ¬ Text.IsControl char := by
      rcases digit with lower | upper
      · exact Text.forall_place (by decide) lower
      · exact Text.forall_place (by decide) upper
    exact plain control
  · intro colon
    exact absurd (colon ▸ control) (by decide)
  · intro point
    exact absurd (point ▸ control) (by decide)

theorem Spells.unbroken {text : List Char} {groups : List UInt16} (spelled : Spells text groups) :
    Unbroken text :=
  fun _ member control => spelled.not_mem (foreign_of_isControl control) member

theorem DottedOctets.unbroken {text : List Char} {octets : Octets}
    (dotted : DottedOctets text octets) : Unbroken text :=
  fun _ member control => dotted.not_mem (foreign_of_isControl control) member

theorem unbroken_chars (address : Address) : Unbroken address.chars :=
  (canonicalFor_chars address).spells.unbroken

theorem oneLine_text (address : Address) : OneLine address.text.toList := by
  rw [toList_text]
  exact address.unbroken_chars.oneLine

end Address

/-! ## Refusals -/

namespace Refusal

theorem unbroken_report (refusal : Refusal) (message : Unbroken refusal.message) :
    Unbroken refusal.report.toList := by
  have label : Unbroken refusal.kind.label.toList := by cases refusal.kind <;> decide
  rw [report, String.toList_ofList, reportText]
  simp only [unbroken_append]
  exact ⟨⟨⟨⟨⟨message, by decide⟩, label⟩, by decide⟩, unbroken_ofInt _⟩, by decide⟩

theorem unbroken_notAnAddress (text : String) : Unbroken (notAnAddress text).report.toList := by
  have quoted := (Text.Quoted.encode_quotes text.toList).unbroken
  have message : Unbroken ("not an IPv6 address: ".toList ++ Text.Quoted.encode text.toList) :=
    unbroken_append.mpr ⟨by decide, quoted⟩
  exact unbroken_report (notAnAddress text) message

theorem unbroken_portOutOfRange (port : Int) :
    Unbroken (portOutOfRange (.integer port)).report.toList := by
  have message : Unbroken ("port out of range: ".toList ++ Text.Decimal.ofInt port) :=
    unbroken_append.mpr ⟨by decide, unbroken_ofInt port⟩
  exact unbroken_report (portOutOfRange (.integer port)) message

theorem oneLine_notAnAddress (text : String) : OneLine (notAnAddress text).report.toList :=
  (unbroken_notAnAddress text).oneLine

theorem oneLine_portOutOfRange (port : Int) :
    OneLine (portOutOfRange (.integer port)).report.toList :=
  (unbroken_portOutOfRange port).oneLine

end Refusal

/-! ## Lines in a text -/

namespace CommandLine

/-- The lines of a text, each up to its line end. -/
def linesOf (text : String) : List String :=
  ((Text.fields '\n' text.toList).dropLast).map String.ofList

theorem toList_unlines_cons (line : String) (rest : List String) :
    (Report.unlines (line :: rest)).toList = line.toList ++ '\n' :: (Report.unlines rest).toList := by
  rw [Report.unlines, List.map_cons, String.join_cons, String.toList_append, String.toList_append,
    List.append_assoc]
  rfl

theorem linesOf_unlines {lines : List String} (each : ∀ line ∈ lines, OneLine line.toList) :
    linesOf (Report.unlines lines) = lines := by
  induction lines with
  | nil => rfl
  | cons line rest ih =>
    rw [List.forall_mem_cons] at each
    have later := ih each.2
    rw [linesOf] at later
    rw [linesOf, toList_unlines_cons, Text.fields_append '\n' _ _ each.1,
      List.dropLast_cons_of_ne_nil (Text.fields_ne_nil '\n' _), List.map_cons, later,
      String.ofList_toList]

end CommandLine

end IPv6
