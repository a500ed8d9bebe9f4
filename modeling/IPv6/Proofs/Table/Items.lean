import IPv6.Refusal
import Mathlib.Data.List.Forall2
/-!
Items taken one after the other by a function that can fail: all of them succeed, or the first that
fails decides. What belongs together item by item is put together and taken apart in the same way.
-/

namespace IPv6.Table

variable {Item Result : Type} {take : Item → Except Fault Result}

theorem mapM_cons_of_ok {item : Item} {result : Result} (first : take item = .ok result)
    (rest : List Item) :
    (item :: rest).mapM take = (rest.mapM take).map (result :: ·) := by
  rw [List.mapM_cons, first]
  cases rest.mapM take <;> rfl

theorem mapM_cons_of_error {item : Item} {fault : Fault} (first : take item = .error fault)
    (rest : List Item) : (item :: rest).mapM take = .error fault := by
  rw [List.mapM_cons, first]
  rfl

theorem mapM_eq_ok_iff (items : List Item) (results : List Result) :
    items.mapM take = .ok results ↔
      List.Forall₂ (fun item result => take item = .ok result) items results := by
  induction items generalizing results with
  | nil =>
    constructor
    · intro done
      cases done
      exact .nil
    · intro none
      cases none
      rfl
  | cons item rest ih =>
    constructor
    · intro done
      cases first : take item with
      | error fault =>
        rw [mapM_cons_of_error first] at done
        cases done
      | ok result =>
        rw [mapM_cons_of_ok first] at done
        cases others : rest.mapM take with
        | error fault =>
          rw [others] at done
          cases done
        | ok results' =>
          rw [others] at done
          cases done
          exact .cons first ((ih results').mp others)
    · intro each
      cases each with
      | cons first others => rw [mapM_cons_of_ok first, (ih _).mpr others, Except.map]

theorem getElem?_of_forall₂ {items : List Item} {results : List Result}
    (each : List.Forall₂ (fun item result => take item = .ok result) items results) {index : Nat}
    {item : Item} {result : Result} (place : items[index]? = some item)
    (taken : take item = .ok result) : results[index]? = some result := by
  rcases List.getElem?_eq_some_iff.mp place with ⟨inside, rfl⟩
  have inside' : index < results.length := each.length_eq ▸ inside
  have same : take items[index] = .ok results[index] := each.get inside inside'
  rw [List.getElem?_eq_getElem inside', ← Except.ok.inj (taken.symm.trans same)]

theorem mapM_of_first_error {before : List Item} {item : Item} {fault : Fault}
    (accepted : ∀ earlier ∈ before, ∃ result, take earlier = .ok result)
    (refused : take item = .error fault) (after : List Item) :
    (before ++ item :: after).mapM take = .error fault := by
  induction before with
  | nil => exact mapM_cons_of_error refused after
  | cons earlier rest ih =>
    rcases accepted earlier List.mem_cons_self with ⟨result, first⟩
    rw [List.cons_append, mapM_cons_of_ok first,
      ih fun other member => accepted other (List.mem_cons_of_mem earlier member), Except.map]

/-- What fails is one of the items. -/
theorem exists_of_mapM_error {items : List Item} {fault : Fault}
    (failed : items.mapM take = .error fault) : ∃ item ∈ items, take item = .error fault := by
  induction items with
  | nil => cases failed
  | cons item rest ih =>
    cases first : take item with
    | error other =>
      rw [mapM_cons_of_error first] at failed
      cases failed
      exact ⟨item, List.mem_cons_self, first⟩
    | ok result =>
      rw [mapM_cons_of_ok first] at failed
      cases others : rest.mapM take with
      | ok results =>
        rw [others] at failed
        cases failed
      | error other =>
        rw [others] at failed
        cases failed
        rcases ih others with ⟨later, member, refused⟩
        exact ⟨later, List.mem_cons_of_mem item member, refused⟩

/-- Either every item has a property, or there is a first that lacks it. -/
theorem forall_or_first (good : Item → Prop) (items : List Item) :
    (∀ item ∈ items, good item) ∨
      ∃ before item after, items = before ++ item :: after ∧
        (∀ earlier ∈ before, good earlier) ∧ ¬ good item := by
  induction items with
  | nil => exact .inl nofun
  | cons item rest ih =>
    by_cases first : good item
    · rcases ih with every | ⟨before, other, after, same, accepted, refused⟩
      · exact .inl (List.forall_mem_cons.mpr ⟨first, every⟩)
      · refine .inr ⟨item :: before, other, after, ?_, ?_, refused⟩
        · rw [same, List.cons_append]
        · exact List.forall_mem_cons.mpr ⟨first, accepted⟩
    · exact .inr ⟨[], item, rest, rfl, nofun, first⟩

/-! ## Item by item -/

section Relations

variable {relation relation' : Item → Result → Prop} {items : List Item} {results : List Result}

theorem exists_forall₂_iff :
    (∃ results, List.Forall₂ relation items results) ↔
      ∀ item ∈ items, ∃ result, relation item result := by
  induction items with
  | nil => exact ⟨fun _ => List.forall_mem_nil _, fun _ => ⟨[], .nil⟩⟩
  | cons item rest ih =>
    rw [List.forall_mem_cons, ← ih]
    constructor
    · rintro ⟨_, each⟩
      cases each with
      | cons first others => exact ⟨⟨_, first⟩, ⟨_, others⟩⟩
    · rintro ⟨⟨_, first⟩, ⟨_, others⟩⟩
      exact ⟨_, .cons first others⟩

/-- Where each item decides by itself whether it has another relation to its result, all of them do. -/
theorem forall₂_iff_of_forall₂ {good : Item → Prop}
    (each : ∀ item result, relation item result → (relation' item result ↔ good item))
    (held : List.Forall₂ relation items results) :
    List.Forall₂ relation' items results ↔ ∀ item ∈ items, good item := by
  induction held with
  | nil => exact ⟨fun _ => List.forall_mem_nil _, fun _ => .nil⟩
  | cons first others ih => rw [List.forall₂_cons, List.forall_mem_cons, each _ _ first, ih]

theorem forall₂_append_iff {front : List Item} {front' : List Result}
    (size : front.length = front'.length) :
    List.Forall₂ relation (front ++ items) (front' ++ results) ↔
      List.Forall₂ relation front front' ∧ List.Forall₂ relation items results := by
  constructor
  · intro each
    have first := List.forall₂_take_append _ _ _ each
    have others := List.forall₂_drop_append _ _ _ each
    rw [← size, List.take_left] at first
    rw [← size, List.drop_left] at others
    exact ⟨first, others⟩
  · rintro ⟨first, others⟩
    exact List.rel_append first others

/-- Pieces of one size, joined on both sides, belong together piece by piece. -/
theorem forall₂_flatMap_iff {Whole Whole' : Type} {pieces : Whole → List Item}
    {pieces' : Whole' → List Result} {wholes : List Whole} {wholes' : List Whole'} {size : Nat}
    (left : ∀ whole ∈ wholes, (pieces whole).length = size)
    (right : ∀ whole ∈ wholes', (pieces' whole).length = size)
    (count : wholes.length = wholes'.length) :
    List.Forall₂ relation (wholes.flatMap pieces) (wholes'.flatMap pieces') ↔
      List.Forall₂ (fun whole whole' => List.Forall₂ relation (pieces whole) (pieces' whole'))
        wholes wholes' := by
  induction wholes generalizing wholes' with
  | nil =>
    rw [List.eq_nil_of_length_eq_zero count.symm]
    exact ⟨fun _ => .nil, fun _ => .nil⟩
  | cons whole rest ih =>
    cases wholes' with
    | nil => cases count
    | cons whole' rest' =>
      rw [List.forall_mem_cons] at left right
      rw [List.flatMap_cons, List.flatMap_cons, forall₂_append_iff (left.1.trans right.1.symm),
        List.forall₂_cons, ih left.2 right.2 (Nat.succ.inj count)]

end Relations

end IPv6.Table
