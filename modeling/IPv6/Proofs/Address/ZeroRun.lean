import Mathlib.Tactic.Common
import IPv6.Address.Printer
/-!
Runs of zero groups. The run that the printer looks for is the first of the longest, and there is only
one such run.
-/

namespace IPv6.Address.Run

/-- Every group of the run is there and zero. -/
def IsZero (run : Run) (groups : List UInt16) : Prop :=
  ∀ index < run.length, groups[run.start + index]? = some 0

/-- No run of zeros is longer, and none of the same length starts earlier. -/
structure IsFirstLongest (run : Run) (groups : List UInt16) : Prop where
  zero : run.IsZero groups
  longest : ∀ other : Run, other.IsZero groups → other.length ≤ run.length
  first : ∀ other : Run, other.IsZero groups → other.length = run.length → run.start ≤ other.start

theorem IsFirstLongest.unique {groups : List UInt16} {left right : Run}
    (one : left.IsFirstLongest groups) (other : right.IsFirstLongest groups) : left = right := by
  have length : left.length = right.length :=
    Nat.le_antisymm (other.longest left one.zero) (one.longest right other.zero)
  have start : left.start = right.start :=
    Nat.le_antisymm (one.first right other.zero length.symm) (other.first left one.zero length)
  cases left
  cases right
  simp_all

theorem IsZero.bound {groups : List UInt16} {run : Run} (zero : run.IsZero groups)
    (present : 1 ≤ run.length) : run.start + run.length ≤ groups.length := by
  have last := zero (run.length - 1) (by omega)
  have within := (List.getElem?_eq_some_iff.mp last).1
  omega

theorem IsZero.length_nil {run : Run} (zero : run.IsZero []) : run.length = 0 := by
  by_contra present
  have first := zero 0 (Nat.pos_of_ne_zero present)
  rw [List.getElem?_nil] at first
  cases first

theorem isZero_cons_succ (start length : Nat) (group : UInt16) (rest : List UInt16) :
    IsZero ⟨start + 1, length⟩ (group :: rest) ↔ IsZero ⟨start, length⟩ rest := by
  have shift : ∀ index, (group :: rest)[start + 1 + index]? = rest[start + index]? := by
    intro index
    rw [Nat.add_right_comm, List.getElem?_cons_succ]
  simp only [IsZero, shift]

theorem isZero_zeroPrefix (groups : List UInt16) : IsZero ⟨0, zeroPrefix groups⟩ groups := by
  induction groups with
  | nil => exact fun index within => absurd within (Nat.not_lt_zero index)
  | cons group rest ih =>
    intro index within
    by_cases lead : group = 0
    · cases index with
      | zero => simp [lead]
      | succ index =>
        have inner : index < zeroPrefix rest := by simpa [zeroPrefix, lead] using within
        simpa using ih index inner
    · simp [zeroPrefix, lead] at within

theorem length_le_zeroPrefix (groups : List UInt16) (length : Nat)
    (zero : IsZero ⟨0, length⟩ groups) : length ≤ zeroPrefix groups := by
  induction groups generalizing length with
  | nil => exact Nat.le_of_eq zero.length_nil
  | cons group rest ih =>
    cases length with
    | zero => exact Nat.zero_le _
    | succ length =>
      have first : group = 0 := by simpa using zero 0 (Nat.succ_pos length)
      have others : IsZero ⟨0, length⟩ rest := by
        intro index within
        have next := zero (index + 1) (Nat.succ_lt_succ within)
        simpa [Nat.zero_add] using next
      have tail := ih length others
      simpa [zeroPrefix, first] using tail

theorem longestRun_isFirstLongest (groups : List UInt16) :
    (longestRun groups).IsFirstLongest groups := by
  induction groups with
  | nil =>
    exact ⟨fun index within => absurd within (Nat.not_lt_zero index),
      fun other zero => Nat.le_of_eq zero.length_nil, fun _ _ _ => Nat.zero_le _⟩
  | cons group rest ih =>
    have here := isZero_zeroPrefix (group :: rest)
    -- A run of the whole list starts at the head or is a run of the rest.
    have split : ∀ other : Run, other.IsZero (group :: rest) →
        other.start = 0 ∧ other.length ≤ zeroPrefix (group :: rest) ∨
          ∃ start, other.start = start + 1 ∧ IsZero ⟨start, other.length⟩ rest := by
      intro other zero
      rcases other with ⟨start, length⟩
      cases start with
      | zero => exact .inl ⟨rfl, length_le_zeroPrefix _ length zero⟩
      | succ start => exact .inr ⟨start, rfl, (isZero_cons_succ start length group rest).mp zero⟩
    simp only [longestRun]
    split
    case isTrue large =>
      refine ⟨here, ?_, fun _ _ _ => Nat.zero_le _⟩
      intro other zero
      rcases split other zero with ⟨-, below⟩ | ⟨start, -, later⟩
      · exact below
      · exact Nat.le_trans (ih.longest ⟨start, other.length⟩ later) large
    case isFalse small =>
      refine ⟨(isZero_cons_succ _ _ group rest).mpr ih.zero, ?_, ?_⟩
      · intro other zero
        rcases split other zero with ⟨-, below⟩ | ⟨start, -, later⟩
        · show other.length ≤ (longestRun rest).length
          omega
        · exact ih.longest ⟨start, other.length⟩ later
      · intro other zero same
        have length : other.length = (longestRun rest).length := same
        rcases split other zero with ⟨-, below⟩ | ⟨start, place, later⟩
        · omega
        · have earlier := ih.first ⟨start, other.length⟩ later length
          show (longestRun rest).start + 1 ≤ other.start
          rw [place]
          exact Nat.succ_le_succ earlier

theorem IsZero.split {groups : List UInt16} {run : Run} (zero : run.IsZero groups) :
    groups = groups.take run.start ++ List.replicate run.length 0 ++
      groups.drop (run.start + run.length) := by
  have middle : (groups.drop run.start).take run.length = List.replicate run.length 0 := by
    apply List.ext_getElem?
    intro index
    by_cases within : index < run.length
    · rw [List.getElem?_take_of_lt within, List.getElem?_drop, zero index within,
        List.getElem?_replicate_of_lt within]
    · rw [List.getElem?_take_eq_none (Nat.le_of_not_lt within),
        List.getElem?_eq_none (by simpa using within)]
  rw [List.append_assoc, ← middle, ← List.drop_drop, List.take_append_drop,
    List.take_append_drop]

end IPv6.Address.Run
