import IPv6.Refusal
/-!
Outcomes of steps that can fail: what it takes for a chain of them to succeed, and where one of them fails.
-/

namespace IPv6

theorem ok_bind {α β : Type} (value : α) (next : α → Except Fault β) :
    (Except.ok value >>= next) = next value := rfl

theorem bind_eq_ok_iff {α β : Type} {first : Except Fault α} {next : α → Except Fault β}
    {result : β} :
    (first >>= next) = .ok result ↔ ∃ value, first = .ok value ∧ next value = .ok result := by
  cases first with
  | error fault => exact ⟨nofun, nofun⟩
  | ok value =>
    constructor
    · intro done
      exact ⟨value, rfl, done⟩
    · intro steps
      rcases steps with ⟨_, same, done⟩
      cases same
      exact done

theorem bind_eq_error_iff {α β : Type} {first : Except Fault α} {next : α → Except Fault β}
    {fault : Fault} :
    (first >>= next) = .error fault ↔
      first = .error fault ∨ ∃ value, first = .ok value ∧ next value = .error fault := by
  cases first with
  | error other =>
    constructor
    · intro failed
      cases failed
      exact .inl rfl
    · intro failed
      rcases failed with same | ⟨_, given, _⟩
      · cases same
        rfl
      · cases given
  | ok value =>
    constructor
    · intro failed
      exact .inr ⟨value, rfl, failed⟩
    · intro failed
      rcases failed with given | ⟨_, same, failed⟩
      · cases given
      · cases same
        exact failed

theorem map_eq_ok_iff {α β : Type} {first : Except Fault α} {image : α → β} {result : β} :
    first.map image = .ok result ↔ ∃ value, first = .ok value ∧ image value = result := by
  cases first with
  | error fault => exact ⟨nofun, nofun⟩
  | ok value => simp [Except.map]

theorem pure_eq_ok_iff {α : Type} {value result : α} :
    (pure value : Except Fault α) = .ok result ↔ value = result :=
  Except.ok.injEq value result ▸ Iff.rfl

/-! ## Refusals -/

/-- The outcome is a refusal of one kind. -/
def Refuses {α : Type} (outcome : Except Fault α) (kind : RefusalKind) : Prop :=
  ∃ refusal, outcome = refuse refusal ∧ refusal.kind = kind

theorem Refuses.map {α β : Type} {outcome : Except Fault α} {kind : RefusalKind}
    (refuses : Refuses outcome kind) (image : α → β) : Refuses (outcome.map image) kind := by
  rcases refuses with ⟨refusal, rfl, same⟩
  exact ⟨refusal, rfl, same⟩

theorem Refuses.unique {α : Type} {outcome : Except Fault α} {kind kind' : RefusalKind}
    (refuses : Refuses outcome kind) (refuses' : Refuses outcome kind') : kind = kind' := by
  rcases refuses with ⟨refusal, rfl, rfl⟩
  rcases refuses' with ⟨refusal', same, rfl⟩
  cases same
  rfl

theorem not_refuses_ok {α : Type} (result : α) (kind : RefusalKind) :
    ¬ Refuses (.ok result) kind := by
  rintro ⟨refusal, same, _⟩
  cases same

/-- The outcome is a result or a refusal of one kind. -/
def Reports {α : Type} (outcome : Except Fault α) (kind : RefusalKind) : Prop :=
  (∃ result, outcome = .ok result) ∨ Refuses outcome kind

theorem not_reports_error {α : Type} {fault : Fault} (other : ∀ refusal, fault ≠ .refused refusal)
    (kind : RefusalKind) : ¬ Reports (.error fault : Except Fault α) kind := by
  rintro (⟨_, same⟩ | ⟨refusal, same, _⟩)
  · cases same
  · exact other refusal (Except.error.inj same)

/-- A result or a refusal of one kind exactly under a condition, and without it the fault. -/
structure ReportedIf {α : Type} (condition : Prop) (outcome : Except Fault α) (kind : RefusalKind)
    (fault : Fault) : Prop where
  reports_iff : Reports outcome kind ↔ condition
  escapes : ¬ condition → outcome = .error fault

theorem ReportedIf.of_cases {α : Type} {condition : Prop} {outcome : Except Fault α}
    {kind : RefusalKind} {fault : Fault} (other : ∀ refusal, fault ≠ .refused refusal)
    (reports : condition → Reports outcome kind) (escapes : ¬ condition → outcome = .error fault) :
    ReportedIf condition outcome kind fault := by
  refine ⟨⟨fun reported => Classical.byContradiction fun outside => ?_, reports⟩, escapes⟩
  rw [escapes outside] at reported
  exact not_reports_error other kind reported

end IPv6
