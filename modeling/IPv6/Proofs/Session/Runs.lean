import IPv6.Proofs.Session.Steps
/-!
What steps keep. No step takes a buffer away or changes its length, what the registers name stays held, and
a buffer that no target names stays as it is.
-/

namespace IPv6.Session

variable {layout : Layout} {session changed : Session} {action : Action} {object : Object}
  {name? : Option String}

/-! ## Steps -/

theorem Stores.target {opened : Session} {buffer : Nat} {octets : Octets}
    (stores : session.Stores layout action opened buffer octets) :
    ∃ target place, action.target? = some target ∧ session.resolve target = .ok (place, opened) ∧
      place.names = [buffer] := by
  cases stores with
  | port resolved => exact ⟨_, _, rfl, resolved, rfl⟩
  | address resolved => exact ⟨_, _, rfl, resolved, rfl⟩
  | slice overwrites =>
    cases overwrites with
    | of_replaces replaces found =>
      cases replaces with
      | write resolved => exact ⟨_, _, rfl, resolved, names_of_writable found⟩
      | splice resolved => exact ⟨_, _, rfl, resolved, names_of_writable found⟩
  | field resolved found => exact ⟨_, _, rfl, resolved, names_of_writable found⟩

theorem Overwrites.fits {opened : Session} {buffer : Nat} {slice : Slice} {octets : Octets}
    (overwrites : session.Overwrites action opened buffer slice octets) :
    slice.Fits (opened.contents buffer).length := by
  cases overwrites
  exact Slice.ofBounds?_fits _ _ _

theorem Stores.length {opened : Session} {buffer : Nat} {octets : Octets}
    (stores : session.Stores layout action opened buffer octets) :
    octets.length = (opened.contents buffer).length := by
  cases stores with
  | port _ _ found => exact (Record.length_octets _).trans (whole_of_contents found).symm
  | address _ _ found => exact (Record.length_octets _).trans (whole_of_contents found).symm
  | slice overwrites fits => exact Slice.length_of_write overwrites.fits fits
  | field _ _ _ _ found => exact (Record.length_octets _).trans (whole_of_contents found).symm

/-- The target of an action names a buffer, so that the action may change it. -/
def Touches (session : Session) (action : Action) (buffer : Nat) : Prop :=
  ∃ target place opened, action.target? = some target ∧
    session.resolve target = .ok (place, opened) ∧ buffer ∈ place.names

theorem store_keeps {buffer : Nat} {octets : Octets}
    (length : octets.length = (session.contents buffer).length) :
    session.Keeps (session.store buffer octets) where
  count := Nat.le_of_eq (length_buffers_store session buffer octets).symm
  length other inside := by
    by_cases same : other = buffer
    · subst same
      rw [contents_store_self inside, length]
    · rw [contents_store_of_ne session same]

theorem perform_keeps (done : session.perform layout action = .ok (object, changed)) :
    session.Keeps changed := by
  rcases perform_cases done with new | @⟨opened, buffer, octets, stores, front⟩
  · exact new.extended.keeps
  · exact front.extended.keeps.trans (store_keeps stores.length)

theorem perform_holds (sound : session.Sound)
    (done : session.perform layout action = .ok (object, changed)) : changed.Holds object := by
  rcases perform_cases done with new | @⟨opened, buffer, octets, stores, front⟩
  · exact new.holds sound
  · exact (front.holds sound).mono (store_keeps stores.length)

theorem registers_perform (done : session.perform layout action = .ok (object, changed)) :
    changed.registers = session.registers := by
  rcases perform_cases done with new | @⟨opened, buffer, octets, _, front⟩
  · exact new.extended.registers
  · exact front.extended.registers

/-- An action leaves every buffer as it was that its target does not name. -/
theorem contents_perform (done : session.perform layout action = .ok (object, changed))
    {buffer : Nat} (inside : buffer < session.buffers.length)
    (apart : ¬ session.Touches action buffer) :
    changed.contents buffer = session.contents buffer := by
  rcases perform_cases done with new | @⟨opened, stored, octets, stores, front⟩
  · exact new.extended.contents inside
  · rcases stores.target with ⟨target, place, asked, resolved, named⟩
    have different : buffer ≠ stored := by
      rintro rfl
      exact apart ⟨target, place, opened, asked, resolved, by simp [named]⟩
    calc
      (opened.store stored octets).contents buffer = opened.contents buffer :=
        contents_store_of_ne opened different octets
      _ = session.contents buffer := front.extended.contents inside

theorem step_of_error {fault : Fault} (failed : session.perform layout action = .error fault) :
    session.step layout action name? = (.error fault, session) := by
  rw [step, failed]

/-- A step fails and leaves the session, or it is an action whose object may be given a name. -/
theorem step_cases (layout : Layout) (session : Session) (action : Action) (name? : Option String) :
    (∃ fault, session.perform layout action = .error fault ∧
        session.step layout action name? = (.error fault, session)) ∨
      ∃ object changed after, session.perform layout action = .ok (object, changed) ∧
        session.step layout action name? = (.ok object, after) ∧ after.buffers = changed.buffers ∧
        ∀ entry ∈ after.registers, entry ∈ session.registers ∨ entry.2 = object := by
  cases outcome : session.perform layout action with
  | error fault => exact .inl ⟨fault, rfl, step_of_error outcome⟩
  | ok result =>
    rcases result with ⟨object, changed⟩
    have registers := registers_perform outcome
    cases name? with
    | none =>
      refine .inr ⟨object, changed, changed, rfl, by rw [step, outcome], rfl, ?_⟩
      exact fun entry member => .inl (registers ▸ member)
    | some name =>
      refine .inr ⟨object, changed, changed.bind name object, rfl, by rw [step, outcome], rfl, ?_⟩
      intro entry member
      rcases List.mem_cons.mp member with rfl | kept
      · exact .inr rfl
      · exact .inl (registers ▸ List.mem_of_mem_filter kept)

theorem step_of_ok (name? : Option String)
    (done : session.perform layout action = .ok (object, changed)) :
    ∃ after, session.step layout action name? = (.ok object, after) ∧
      after.buffers = changed.buffers := by
  rcases step_cases layout session action name? with
    ⟨_, failed, _⟩ | ⟨_, _, after, done', outcome, buffers, _⟩
  · cases done.symm.trans failed
  · cases done.symm.trans done'
    exact ⟨after, outcome, buffers⟩

theorem perform_of_step {after : Session}
    (taken : session.step layout action name? = (.ok object, after)) :
    ∃ changed, session.perform layout action = .ok (object, changed) ∧
      after.buffers = changed.buffers := by
  rcases step_cases layout session action name? with
    ⟨_, _, outcome⟩ | ⟨_, changed, _, done, outcome, buffers, _⟩
  · cases outcome.symm.trans taken
  · cases outcome.symm.trans taken
    exact ⟨changed, done, buffers⟩

theorem contents_congr {other : Session} (same : other.buffers = session.buffers) (buffer : Nat) :
    other.contents buffer = session.contents buffer := by
  rw [contents, contents, same]

theorem Keeps.of_buffers {other : Session} (same : other.buffers = session.buffers) :
    session.Keeps other where
  count := Nat.le_of_eq (by rw [same])
  length buffer _ := by rw [contents_congr same]

theorem step_keeps (layout : Layout) (session : Session) (action : Action) (name? : Option String) :
    session.Keeps (session.step layout action name?).2 := by
  rcases step_cases layout session action name? with
    ⟨_, _, outcome⟩ | ⟨object, changed, after, done, outcome, buffers, _⟩
  · rw [outcome]
    exact Keeps.refl session
  · rw [outcome]
    exact (perform_keeps done).trans (Keeps.of_buffers buffers)

theorem step_sound (layout : Layout) (action : Action) (name? : Option String)
    (sound : session.Sound) : (session.step layout action name?).2.Sound := by
  have keeps := step_keeps layout session action name?
  rcases step_cases layout session action name? with
    ⟨_, _, outcome⟩ | ⟨object, changed, after, done, outcome, buffers, registers⟩
  · rwa [outcome]
  · rw [outcome] at keeps ⊢
    intro entry member
    rcases registers entry member with kept | rfl
    · exact (sound entry kept).mono keeps
    · exact (perform_holds sound done).mono (Keeps.of_buffers buffers)

theorem contents_step (layout : Layout) (name? : Option String) {buffer : Nat}
    (inside : buffer < session.buffers.length) (apart : ¬ session.Touches action buffer) :
    (session.step layout action name?).2.contents buffer = session.contents buffer := by
  rcases step_cases layout session action name? with
    ⟨_, _, outcome⟩ | ⟨object, changed, after, done, outcome, buffers, _⟩
  · rw [outcome]
  · rw [outcome, contents_congr buffers, contents_perform done inside apart]

/-! ## Runs -/

theorem run_cons (layout : Layout) (session : Session) (action : Action) (name? : Option String)
    (rest : List (Action × Option String)) :
    session.run layout ((action, name?) :: rest) =
      (session.step layout action name?).2.run layout rest := rfl

theorem run_keeps (layout : Layout) (session : Session) (steps : List (Action × Option String)) :
    session.Keeps (session.run layout steps) := by
  induction steps generalizing session with
  | nil => exact Keeps.refl session
  | cons step rest ih =>
    rcases step with ⟨action, name?⟩
    rw [run_cons]
    exact (step_keeps layout session action name?).trans (ih _)

theorem run_sound (layout : Layout) (steps : List (Action × Option String))
    (sound : session.Sound) : (session.run layout steps).Sound := by
  induction steps generalizing session with
  | nil => exact sound
  | cons step rest ih =>
    rcases step with ⟨action, name?⟩
    rw [run_cons]
    exact ih (step_sound layout action name? sound)

theorem empty_sound : empty.Sound := nofun

end IPv6.Session
