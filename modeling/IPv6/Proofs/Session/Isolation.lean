import IPv6.Proofs.Session.Runs
/-!
Sharing and isolation. An endpoint and its views are one record, seen alike through each of them; nothing
else shares its octets, and a step changes what names the buffer of its target and nothing else.
-/

namespace IPv6.Session

variable {layout : Layout} {session : Session}

/-! ## What is shared -/

/-- An endpoint and its views show one record, and what is stored through either is seen in it. -/
structure Shares (layout : Layout) (session : Session) : Prop where
  /-- What the registers name is held: endpoints and views are of whole records. -/
  held : ∀ entry ∈ session.registers, session.Holds entry.2
  /-- Whatever the next steps are, it stays so. -/
  stays : ∀ object, session.Holds object → ∀ steps, (session.run layout steps).Holds object
  shown : ∀ buffer, session.Holds (.endpoint buffer) → ∃ endpoint : Endpoint,
    session.contents buffer = endpoint.octets ∧ endpoint.octets.length = 28 ∧
    session.value (.endpoint buffer) = .endpoint endpoint ∧
    session.value (.view buffer) = .octets .view endpoint.octets ∧
    endpoint.port.toNat = Octets.readBigEndian ((endpoint.octets.drop 2).take 2) ∧
    endpoint.address.octets = (endpoint.octets.drop 8).take 16
  exposed : ∀ target name? opened buffer,
    session.resolve target = .ok (.endpoint buffer, opened) →
    ∃ after, session.step layout (.expose target) name? = (.ok (.view buffer), after) ∧
      after.contents buffer = opened.contents buffer
  portSet : ∀ target given name? opened buffer value port,
    session.resolve target = .ok (.endpoint buffer, opened) →
    opened.argumentValue given = .ok value → Endpoint.portOf value = .ok port →
    ∃ after, session.step layout (.setPort target given) name? = (.ok (.endpoint buffer), after) ∧
      after.contents buffer = (opened.contents buffer).take 2 ++
        (Octets.bigEndian 2 port.toNat ++ (opened.contents buffer).drop 4)
  addressSet : ∀ target given name? opened buffer value address,
    session.resolve target = .ok (.endpoint buffer, opened) →
    opened.argumentValue given = .ok value → Address.ofValue value = .ok address →
    ∃ after, session.step layout (.setAddress target given) name? = (.ok (.endpoint buffer), after) ∧
      after.contents buffer = (opened.contents buffer).take 8 ++
        (address.octets ++ (opened.contents buffer).drop 24)
  sliceWritten : ∀ action name? opened buffer slice octets,
    session.Overwrites action opened buffer slice octets → octets.length = slice.size →
    ∃ after, session.step layout action name? = (.ok (.constant .absent), after) ∧
      after.contents buffer = (opened.contents buffer).take slice.start ++ octets ++
        (opened.contents buffer).drop (slice.start + octets.length)

theorem Holds.shows_record {buffer : Nat} (holds : session.Holds (.endpoint buffer)) :
    ∃ endpoint : Endpoint, session.contents buffer = endpoint.octets ∧
      session.value (.endpoint buffer) = .endpoint endpoint := by
  cases holds with
  | endpoint whole =>
    let endpoint : Endpoint := ⟨⟨session.contents buffer, whole⟩⟩
    have found : session.endpointIn? buffer = some endpoint := endpointIn?_eq_some_iff.mpr rfl
    refine ⟨endpoint, rfl, ?_⟩
    rw [value, found]

theorem Overwrites.lt {action : Action} {opened : Session} {buffer : Nat} {slice : Slice}
    {octets : Octets} (sound : session.Sound)
    (overwrites : session.Overwrites action opened buffer slice octets) :
    buffer < opened.buffers.length := by
  cases overwrites with
  | of_replaces replaces writable =>
    apply (replaces.resolves.holds sound).lt
    rw [names_of_writable writable]
    exact List.mem_singleton_self buffer

theorem Sound.holds_of_resolve {target : Argument} {object : Object} {opened : Session}
    (sound : session.Sound) (resolved : session.resolve target = .ok (object, opened)) :
    opened.Holds object := (resolves_of_resolve resolved).holds sound

theorem Sound.shares (layout : Layout) (sound : session.Sound) : session.Shares layout where
  held := sound
  stays object holds steps := holds.mono (run_keeps layout session steps)
  shown buffer holds := by
    rcases holds.shows_record with ⟨endpoint, contents, shown⟩
    refine ⟨endpoint, contents, endpoint.record.length_octets, shown, ?_, ?_, rfl⟩
    · rw [value, contents]
    · exact Record.toNat_port endpoint.record
  exposed target name? opened buffer resolved := by
    rcases (sound.holds_of_resolve resolved).shows_record with ⟨endpoint, found, _⟩
    have done : session.perform layout (.expose target) = .ok (.view buffer, opened) :=
      perform_expose_eq_ok_iff.mpr ⟨buffer, endpoint, resolved, rfl, found⟩
    rcases step_of_ok name? done with ⟨after, taken, buffers⟩
    exact ⟨after, taken, contents_congr buffers buffer⟩
  portSet target given name? opened buffer value port resolved asked taken := by
    rcases (sound.holds_of_resolve resolved).shows_record with ⟨endpoint, found, _⟩
    have done : session.perform layout (.setPort target given) = _ :=
      perform_setPort_eq resolved asked found
    rw [taken] at done
    rcases step_of_ok name? done with ⟨after, taken, buffers⟩
    refine ⟨after, taken, ?_⟩
    rw [contents_congr buffers, contents_store_self (lt_of_contents_record found), found]
    exact Record.octets_withPort endpoint.record port
  addressSet target given name? opened buffer value address resolved asked taken := by
    rcases (sound.holds_of_resolve resolved).shows_record with ⟨endpoint, found, _⟩
    have done : session.perform layout (.setAddress target given) = _ :=
      perform_setAddress_eq resolved asked found
    rw [taken] at done
    rcases step_of_ok name? done with ⟨after, taken, buffers⟩
    refine ⟨after, taken, ?_⟩
    rw [contents_congr buffers, contents_store_self (lt_of_contents_record found), found]
    exact Record.octets_withAddress endpoint.record address
  sliceWritten action name? opened buffer slice octets overwrites equal := by
    have done : session.perform layout action = _ := perform_of_overwrites overwrites
    rw [Slice.write_eq_ok_iff.mpr ⟨equal, rfl⟩] at done
    rcases step_of_ok name? done with ⟨after, taken, buffers⟩
    refine ⟨after, taken, ?_⟩
    rw [contents_congr buffers]
    exact contents_store_self (overwrites.lt sound) _

/-! ## What is apart -/

/-- Steps reach what names the buffer of their target and nothing else, and what they make is new. -/
structure Separates (layout : Layout) (session : Session) : Prop where
  unreached : ∀ action name? object, session.Holds object →
    (∀ buffer ∈ object.names, ¬ session.Touches action buffer) →
    (session.step layout action name?).2.value object = session.value object
  /-- An object that is made names no buffer of those that were held before. -/
  fresh : ∀ action name? object after, action.isMaking = true →
    session.step layout action name? = (.ok object, after) →
    ∀ old, session.Holds old → ∀ buffer ∈ object.names, buffer ∉ old.names
  /-- A copy is such an object too. It starts with the port and the address of its original. -/
  copied : ∀ how source name? buffer opened original,
    session.resolve source = .ok (.endpoint buffer, opened) →
    opened.value (.endpoint buffer) = .endpoint original →
    ∃ other after copy, session.step layout (.copy how source) name? = (.ok (.endpoint other), after) ∧
      after.value (.endpoint other) = .endpoint copy ∧ copy.port = original.port ∧
      copy.address = original.address ∧ ∀ old, opened.Holds old → other ∉ old.names
  /-- Addresses and octets that are read out name no buffer. -/
  readOut : ∀ action name? object after, action.isReading = true →
    session.step layout action name? = (.ok object, after) → object.names = []
  /-- Nor does anything that is worked out, but for an endpoint and a buffer. -/
  workedOut : ∀ operation arguments name? values given,
    session.argumentValues arguments = .ok values → operation values = .ok given →
    ∃ object after, session.step layout (.evaluate operation arguments) name? = (.ok object, after) ∧
      after.value object = given ∧
      ((∀ endpoint, given ≠ .endpoint endpoint) → (∀ octets, given ≠ .octets .buffer octets) →
        object.names = [])

theorem separates (layout : Layout) (session : Session) : session.Separates layout where
  unreached action name? object holds apart := by
    apply value_congr
    intro buffer named
    exact contents_step layout name? (holds.lt named) (apart buffer named)
  fresh action name? object after making taken old holds buffer named := by
    rcases perform_of_step taken with ⟨_, done, _⟩
    rcases perform_making making done with ⟨given, made⟩
    have new : session.buffers.length ≤ buffer := @le_of_mem_names_introduce _ given _ (by rwa [made])
    intro again
    exact absurd (holds.lt again) (Nat.not_lt.mpr new)
  copied how source name? buffer opened original resolved shown := by
    have done : session.perform layout (.copy how source) =
        .ok (opened.addEndpoint (original.copy layout)) :=
      perform_of_constructs (.copy resolved shown (Endpoint.copied_endpoint layout how original))
    rcases step_of_ok name? done with ⟨after, taken, buffers⟩
    refine ⟨opened.buffers.length, after, original.copy layout, taken, ?_,
      Endpoint.port_make layout _ _, Endpoint.address_make layout _ _, fun old holds again => ?_⟩
    · rw [value_endpoint_eq_iff, contents_congr buffers]
      exact contents_allocate opened _
    · exact absurd (holds.lt again) (Nat.lt_irrefl _)
  readOut action name? object after reading taken := by
    rcases perform_of_step taken with ⟨_, done, _⟩
    rcases perform_reading reading done with ⟨⟨value, rfl⟩, _⟩
    rfl
  workedOut operation arguments name? values given asked worked := by
    have done : session.perform layout (.evaluate operation arguments) =
        .ok (session.introduce given) := by
      simp [perform, bind_eq_ok_iff, asked, worked]
    rcases step_of_ok name? done with ⟨after, taken, buffers⟩
    refine ⟨(session.introduce given).1, after, taken, ?_, ?_⟩
    · calc
        after.value (session.introduce given).1 =
            (session.introduce given).2.value (session.introduce given).1 :=
          value_congr fun buffer _ => contents_congr buffers buffer
        _ = given := value_introduce session given
    · intro notEndpoint notBuffer
      unfold introduce
      split
      · exact absurd rfl (notEndpoint _)
      · exact absurd rfl (notBuffer _)
      · rfl

/-! ## What fails -/

/-- A step that fails leaves everything as it was; so does a slice that is given too much or too little. -/
structure Withstands (layout : Layout) (session : Session) : Prop where
  failed : ∀ action name? fault after,
    session.step layout action name? = (.error fault, after) → after = session
  portRefused : ∀ target given name? opened buffer value fault,
    session.resolve target = .ok (.endpoint buffer, opened) →
    opened.argumentValue given = .ok value → Endpoint.portOf value = .error fault →
    session.step layout (.setPort target given) name? = (.error fault, session)
  addressRefused : ∀ target given name? opened buffer value fault,
    session.resolve target = .ok (.endpoint buffer, opened) →
    opened.argumentValue given = .ok value → Address.ofValue value = .error fault →
    session.step layout (.setAddress target given) name? = (.error fault, session)
  unequal : ∀ action name? opened buffer slice octets,
    session.Overwrites action opened buffer slice octets → octets.length ≠ slice.size →
    session.step layout action name? = (.error .wrongValue, session)

theorem Sound.withstands (layout : Layout) (sound : session.Sound) : session.Withstands layout where
  failed action name? fault after taken := by
    rcases step_cases layout session action name? with
      ⟨_, _, outcome⟩ | ⟨_, _, _, _, outcome, _⟩ <;> cases outcome.symm.trans taken
    rfl
  portRefused target given name? opened buffer value fault resolved asked refused := by
    rcases (sound.holds_of_resolve resolved).shows_record with ⟨endpoint, found, _⟩
    apply step_of_error
    rw [perform_setPort_eq resolved asked found, refused]
    rfl
  addressRefused target given name? opened buffer value fault resolved asked refused := by
    rcases (sound.holds_of_resolve resolved).shows_record with ⟨endpoint, found, _⟩
    apply step_of_error
    rw [perform_setAddress_eq resolved asked found, refused]
    rfl
  unequal action name? opened buffer slice octets overwrites other := by
    apply step_of_error
    rw [perform_of_overwrites overwrites, Slice.write_of_length_ne other]
    rfl

/-- An endpoint, a copy of it and a view of it. -/
def copiedAndViewed : List (Action × Option String) :=
  [(.make (.given (.integer 80)) (.given .absent), some "server"),
    (.copy .own (.register "server"), some "copy"), (.expose (.register "server"), some "view")]

def portThroughView : Action :=
  .splice (.register "view") (.given (.integer 2)) (.given (.integer 4))
    (.given (.octets .constant [1, 187]))

end IPv6.Session
