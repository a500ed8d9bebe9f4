import IPv6.Proofs.Session.Runs
/-!
Endpoints in a session. What is stored in port and address alone leaves an endpoint plain, so an endpoint
that is reached by such steps is the record that its port and address are encoded as.
-/

namespace IPv6

/-- Whether an action writes octets at a place that it is told. -/
def Action.isWriting : Action → Bool
  | .write _ _ _ | .splice _ _ _ _ | .setField _ _ _ => true
  | _ => false

/-- A slice of the octets of the port or of the address, or an empty one. -/
def Slice.IsConfined (slice : Slice) : Prop :=
  slice.size = 0 ∨ (2 ≤ slice.start ∧ slice.stop ≤ 4) ∨ (8 ≤ slice.start ∧ slice.stop ≤ 24)

namespace Endpoint

variable {layout : Layout} {endpoint : Endpoint}

theorem IsPlain.write (plain : endpoint.IsPlain layout) {slice : Slice} {octets written : Octets}
    (fits : slice.Fits Record.size) (confined : slice.IsConfined)
    (done : slice.write endpoint.octets octets = .ok written) :
    ∃ changed : Endpoint, written = changed.octets ∧ changed.IsPlain layout := by
  rcases Slice.write_eq_ok_iff.mp done with ⟨length, same⟩
  rcases Nat.eq_zero_or_pos slice.size with empty | filled
  · refine ⟨endpoint, ?_, plain⟩
    rw [empty, List.length_eq_zero_iff] at length
    subst length
    rw [same, List.append_nil]
    exact List.take_append_drop slice.start endpoint.octets
  · refine ⟨⟨endpoint.record.replace slice.start octets⟩, Slice.write_record fits done, ?_⟩
    apply plain.replace
    unfold Slice.IsConfined Slice.size at *
    omega

end Endpoint

namespace Session

variable {layout : Layout} {session : Session} {action : Action} {buffer : Nat} {endpoint : Endpoint}

/-- What an action writes to a buffer keeps to the port and the address there. -/
structure Confines (session : Session) (buffer : Nat) (action : Action) : Prop where
  slices : ∀ opened slice octets, session.Overwrites action opened buffer slice octets →
    slice.IsConfined
  fields : ∀ target name given place opened value field, action = .setField target name given →
    session.resolve target = .ok (place, opened) → writable? place = some buffer →
    opened.argumentValue name = .ok value → fieldName value = .ok field →
    field ∈ Endpoint.changeableFields

/-- Setters and whatever else does not write at a place it is told are confined. -/
theorem confines_of_not_isWriting (other : action.isWriting = false) : session.Confines buffer action where
  slices _ _ _ overwrites := by
    cases overwrites with
    | of_replaces replaces => cases replaces <;> cases other
  fields := by
    rintro _ _ _ _ _ _ _ rfl
    cases other

/-- Sessions after an endpoint was made and any confined steps were taken, failed ones among them. -/
inductive Reaches (layout : Layout) (buffer : Nat) : Session → Prop
  | made {session : Session} {first : Endpoint} (made : Endpoint.Made layout first)
      (placed : session.contents buffer = first.octets) : Reaches layout buffer session
  | step {session : Session} {action : Action} (reached : Reaches layout buffer session)
      (confined : session.Confines buffer action) (name? : Option String) :
      Reaches layout buffer (session.step layout action name?).2

theorem reaches_of_constructs {opened : Session}
    (constructs : session.Constructs layout action opened endpoint) (name? : Option String) :
    ∃ buffer after, session.step layout action name? = (.ok (.endpoint buffer), after) ∧
      Reaches layout buffer after := by
  have done := perform_of_constructs constructs
  rcases step_of_ok name? done with ⟨after, taken, buffers⟩
  refine ⟨opened.buffers.length, after, taken, .made constructs.made ?_⟩
  rw [contents_congr buffers]
  exact contents_allocate opened endpoint.octets

theorem Stores.isPlain {opened : Session} {octets : Octets}
    (stores : session.Stores layout action opened buffer octets)
    (found : opened.contents buffer = endpoint.octets) (plain : endpoint.IsPlain layout)
    (confined : session.Confines buffer action) :
    ∃ changed : Endpoint, octets = changed.octets ∧ changed.IsPlain layout := by
  cases stores with
  | @port _ _ _ _ _ other port _ _ found' =>
    cases Endpoint.ext_octets (found.symm.trans found')
    exact ⟨endpoint.withPort port, rfl, plain.write_port port.toNat⟩
  | @address _ _ _ _ _ other address _ _ found' =>
    cases Endpoint.ext_octets (found.symm.trans found')
    exact ⟨endpoint.withAddress address, rfl, plain.replace_address address.length_octets⟩
  | slice overwrites done =>
    have whole : endpoint.octets.length = Record.size := endpoint.record.length_octets
    have fits := overwrites.fits
    rw [found, whole] at fits
    rw [found] at done
    exact plain.write fits (confined.slices _ _ _ overwrites) done
  | @field _ _ _ _ _ _ _ _ _ record changed resolved place asked named found' taken =>
    have same : endpoint.record = record := Record.ext_octets (found.symm.trans found')
    subst same
    have changeable := confined.fields _ _ _ _ _ _ _ rfl resolved place asked named
    exact ⟨⟨changed⟩, rfl, plain.storeNamed changeable taken⟩

theorem isPlain_step (found : session.contents buffer = endpoint.octets)
    (plain : endpoint.IsPlain layout) (confined : session.Confines buffer action)
    (name? : Option String) :
    ∃ changed : Endpoint,
      (session.step layout action name?).2.contents buffer = changed.octets ∧
        changed.IsPlain layout := by
  have inside := lt_of_contents_record found
  rcases step_cases layout session action name? with
    ⟨_, _, outcome⟩ | ⟨object, changed, after, done, outcome, buffers, _⟩
  · rw [outcome]
    exact ⟨endpoint, found, plain⟩
  · rw [outcome, contents_congr buffers]
    rcases perform_cases done with new | @⟨opened, stored, octets, stores, front⟩
    · exact ⟨endpoint, (new.extended.contents inside).trans found, plain⟩
    · have openedFound := (front.extended.contents inside).trans found
      by_cases same : buffer = stored
      · subst same
        rcases stores.isPlain openedFound plain confined with ⟨other, rfl, plain'⟩
        exact ⟨other, contents_store_self (lt_of_contents_record openedFound) _, plain'⟩
      · exact ⟨endpoint, (contents_store_of_ne opened same octets).trans openedFound, plain⟩

theorem Reaches.isPlain (reached : Reaches layout buffer session) :
    ∃ endpoint : Endpoint, session.contents buffer = endpoint.octets ∧ endpoint.IsPlain layout := by
  induction reached with
  | made made placed => exact ⟨_, placed, made.isPlain⟩
  | step _ confined name? ih =>
    rcases ih with ⟨endpoint, found, plain⟩
    exact isPlain_step found plain confined name?

/-- An endpoint found in such a session. -/
def Reached (layout : Layout) (endpoint : Endpoint) : Prop :=
  ∃ session buffer, Reaches layout buffer session ∧
    session.value (.endpoint buffer) = .endpoint endpoint

theorem Reached.isPlain (reached : Reached layout endpoint) : endpoint.IsPlain layout := by
  rcases reached with ⟨session, buffer, reaches, shown⟩
  rcases reaches.isPlain with ⟨other, found, plain⟩
  cases Endpoint.ext_octets (found.symm.trans (value_endpoint_eq_iff.mp shown))
  exact plain

/-- A reached endpoint is its port and address encoded, is read back as itself, and equals another one
where their octets are the same. -/
theorem reached_endpoints_are_encoded (layout : Layout) :
    (∀ session action opened first name?, Constructs layout session action opened first →
      ∃ buffer after, session.step layout action name? = (.ok (.endpoint buffer), after) ∧
        Reaches layout buffer after) ∧
    (∀ session buffer, Reaches layout buffer session →
      ∃ endpoint, session.value (.endpoint buffer) = .endpoint endpoint ∧
        Reached layout endpoint) ∧
    (∀ endpoint, Reached layout endpoint →
      encodeValues layout (.octets .constant endpoint.address.octets)
        (.integer endpoint.port.toNat) (.integer 0) (.integer 0) = .ok endpoint.record ∧
      endpoint.record.flow = 0 ∧ endpoint.record.scope = 0 ∧
      endpoint.octets.take 2 = layout.tag ∧
      Endpoint.ofNative layout (.octets .constant endpoint.octets) = .ok endpoint) ∧
    (∀ left right, Reached layout left → Reached layout right →
      Value.relates .eq (.endpoint left) (.endpoint right) =
        .ok (decide (left.octets = right.octets))) := by
  refine ⟨?_, ?_, ?_, ?_⟩
  · intro session action opened first name? constructs
    exact reaches_of_constructs constructs name?
  · intro session buffer reaches
    rcases reaches.isPlain with ⟨endpoint, found, _⟩
    have shown := value_endpoint_eq_iff.mpr found
    exact ⟨endpoint, shown, session, buffer, reaches, shown⟩
  · intro endpoint reached
    have plain := reached.isPlain
    refine ⟨?_, plain.flow, plain.scope, plain.tag, ?_⟩
    · rw [plain.record_eq]
      exact SocketAddress.encodeGiven_eq layout .constant endpoint.socketAddress
    · exact (Endpoint.ofNative_octets layout .constant endpoint.record).trans
        (Endpoint.ofRecord_record plain)
  · intro left right reached reached'
    exact reached.isPlain.relates_eq reached'.isPlain

/-- A port is set, then another that is none, and a third is written through a view. -/
def portsInTurn : List (Action × Option String) :=
  [(.make (.given (.integer 80)) (.given .absent), some "server"),
    (.expose (.register "server"), some "view"),
    (.setPort (.register "server") (.given (.integer 443)), none),
    (.setPort (.register "server") (.given (.integer 70000)), none),
    (.write (.register "view") (.given (.integer 2)) (.given (.octets .constant [0, 53])), none)]

theorem reached_endpoints_are_encoded_portsInTurn :
    (empty.run .bsd portsInTurn).value (.endpoint 0) = .endpoint (.make .bsd 53 .loopback) ∧
    encodeValues .bsd (.octets .constant Address.loopback.octets) (.integer 53) (.integer 0)
      (.integer 0) = .ok (Endpoint.make .bsd 53 .loopback).record := by
  have made : Reaches .bsd 0 (empty.run .bsd (portsInTurn.take 1)) := by
    have new : Endpoint.ofValues .bsd (.integer 80) .absent = .ok (.make .bsd 80 .loopback) := rfl
    exact .made (.constructed new) rfl
  have set : Reaches .bsd 0 (empty.run .bsd (portsInTurn.take 4)) :=
    ((made.step (confines_of_not_isWriting rfl) (some "view")).step (confines_of_not_isWriting rfl)
      none).step (confines_of_not_isWriting rfl) none
  have confined : (empty.run .bsd (portsInTurn.take 4)).Confines 0
      (.write (.register "view") (.given (.integer 2)) (.given (.octets .constant [0, 53]))) := by
    constructor
    · rintro _ _ _ ⟨replaces, _, _⟩
      cases replaces with
      | write resolved asked =>
        cases resolved
        cases asked
        exact .inr (.inl ⟨by decide, by decide⟩)
    · rintro _ _ _ _ _ _ _ ⟨⟩
  have written : Reaches .bsd 0 (empty.run .bsd portsInTurn) := set.step confined none
  obtain ⟨_, shown, encoded, _⟩ := reached_endpoints_are_encoded .bsd
  obtain ⟨endpoint, found, reached⟩ := shown _ _ written
  have last : (empty.run .bsd portsInTurn).value (.endpoint 0) =
      .endpoint (.make .bsd 53 .loopback) := rfl
  cases last.symm.trans found
  exact ⟨last, (encoded _ reached).1⟩

end Session

end IPv6
