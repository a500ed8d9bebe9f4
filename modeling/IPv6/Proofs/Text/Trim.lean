import Mathlib.Data.List.TakeWhile
import IPv6.Text.Blank
/-!
What is left of a text without its margins: the one part that has nothing but margin around it and none at
its own ends.
-/

namespace IPv6.Text

variable {isMargin : Char → Bool} {text core margin rest : List Char}

/-- The text begins with nothing of the class. -/
def StartsPlain (isMargin : Char → Bool) (text : List Char) : Prop :=
  ∀ char ∈ text.head?, isMargin char = false

instance (isMargin : Char → Bool) (text : List Char) : Decidable (StartsPlain isMargin text) :=
  Option.decidableForallMem text.head?

/-- A text with margins around a core that neither begins nor ends with margin. -/
def HasCore (isMargin : Char → Bool) (text core : List Char) : Prop :=
  ∃ left right, text = left ++ core ++ right ∧ (∀ char ∈ left ++ right, isMargin char = true) ∧
    StartsPlain isMargin core ∧ StartsPlain isMargin core.reverse

theorem dropWhile_margin (blank : ∀ char ∈ margin, isMargin char = true)
    (plain : StartsPlain isMargin rest) : (margin ++ rest).dropWhile isMargin = rest := by
  rw [List.dropWhile_append_of_pos blank]
  cases rest with
  | nil => rfl
  | cons char rest => exact List.dropWhile_cons_of_neg (by simp [plain char rfl])

theorem startsPlain_dropWhile (text : List Char) :
    StartsPlain isMargin (text.dropWhile isMargin) := by
  intro char first
  have found := List.head?_dropWhile_not isMargin text
  rwa [Option.mem_def.mp first] at found

/-- Without the margin before it a text keeps its core and some margin behind that. -/
theorem exists_dropWhile_eq {left right : List Char}
    (blank : ∀ char ∈ left ++ right, isMargin char = true)
    (plain : StartsPlain isMargin core) :
    ∃ behind, (left ++ (core ++ right)).dropWhile isMargin = core ++ behind ∧
      ∀ char ∈ behind, isMargin char = true := by
  cases core with
  | nil => exact ⟨[], List.dropWhile_eq_nil_iff.mpr blank, nofun⟩
  | cons first others =>
    refine ⟨right, dropWhile_margin ?_ ?_, ?_⟩
    · exact fun char member => blank char (List.mem_append_left right member)
    · exact fun char found => plain char found
    · exact fun char member => blank char (List.mem_append_right left member)

theorem hasCore_trim (text : List Char) : HasCore isMargin text (trim isMargin text) := by
  have front : text.takeWhile isMargin ++ text.dropWhile isMargin = text :=
    List.takeWhile_append_dropWhile
  have back : trim isMargin text ++
      ((text.dropWhile isMargin).reverse.takeWhile isMargin).reverse = text.dropWhile isMargin := by
    rw [trim, ← List.reverse_append, List.takeWhile_append_dropWhile, List.reverse_reverse]
  refine ⟨text.takeWhile isMargin,
    ((text.dropWhile isMargin).reverse.takeWhile isMargin).reverse, ?_, ?_, ?_, ?_⟩
  · rw [List.append_assoc, back, front]
  · intro char member
    rcases List.mem_append.mp member with before | behind
    · exact List.mem_takeWhile_imp before
    · exact List.mem_takeWhile_imp (List.mem_reverse.mp behind)
  · intro char first
    refine startsPlain_dropWhile text char ?_
    rw [← back, List.head?_append, Option.mem_def.mp first]
    rfl
  · rw [trim, List.reverse_reverse]
    exact startsPlain_dropWhile _

theorem trim_eq_iff : trim isMargin text = core ↔ HasCore isMargin text core := by
  constructor
  · intro same
    exact same ▸ hasCore_trim text
  · intro split
    rcases split with ⟨left, right, rfl, blank, plain, plainEnd⟩
    obtain ⟨behind, front, margin⟩ := exists_dropWhile_eq blank plain
    have marginBack : ∀ char ∈ behind.reverse, isMargin char = true :=
      fun char member => margin char (List.mem_reverse.mp member)
    rw [trim, List.append_assoc, front, List.reverse_append, dropWhile_margin marginBack plainEnd,
      List.reverse_reverse]

/-- A text without margin characters is its own core whatever margins are put around it. -/
theorem hasCore_of_plain (left right : List Char)
    (blank : ∀ char ∈ left ++ right, isMargin char = true)
    (plain : ∀ char ∈ core, isMargin char = false) :
    HasCore isMargin (left ++ core ++ right) core := by
  refine ⟨left, right, rfl, blank, ?_, ?_⟩
  · exact fun char first => plain char (List.mem_of_mem_head? first)
  · exact fun char first => plain char (List.mem_reverse.mp (List.mem_of_mem_head? first))

end IPv6.Text
