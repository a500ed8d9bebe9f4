import IPv6.Proofs.Endpoint.Making
import IPv6.Proofs.Session.Objects
import IPv6.Proofs.Session.Slice
/-!
What an action can do. One that succeeds brings values in, and only some then store octets in a buffer; what
they store there is listed.
-/

namespace IPv6

/-- The object that an action may change. -/
def Action.target? : Action → Option Argument
  | .setPort target _ | .setAddress target _ | .write target _ _ | .splice target _ _ _
  | .setField target _ _ => some target
  | _ => none

/-- Whether an action gives an object of its own making, whatever its arguments are. -/
def Action.isMaking : Action → Bool
  | .make _ _ | .receive _ | .newBuffer | .encode _ _ _ _ | .evaluate _ _ => true
  | _ => false

def Action.isReading : Action → Bool
  | .snapshot _ | .address _ | .read _ _ _ => true
  | _ => false

namespace Session

/-! ## Parts of an action -/

theorem endpointOf_eq_ok_iff {session : Session} {object : Object} {buffer : Nat}
    {endpoint : Endpoint} :
    session.endpointOf object = .ok (buffer, endpoint) ↔
      object = .endpoint buffer ∧ session.contents buffer = endpoint.octets := by
  rw [← endpointIn?_eq_some_iff]
  cases object with
  | endpoint place =>
    rw [endpointOf, Object.endpoint.injEq]
    cases found : session.endpointIn? place with
    | none =>
      constructor
      · exact nofun
      · intro same
        rcases same with ⟨rfl, other⟩
        rw [found] at other
        cases other
    | some other =>
      constructor
      · intro same
        cases same
        exact ⟨rfl, found⟩
      · intro same
        rcases same with ⟨rfl, there⟩
        rw [found] at there
        cases there
        rfl
  | _ => simp [endpointOf]

theorem replaceSlice_eq_ok_iff {session changed : Session} {object : Object}
    {replacement : Replacement} :
    session.replaceSlice object replacement = .ok changed ↔
      ∃ buffer octets written, writable? object = some buffer ∧
        replacementOf replacement.given = .ok octets ∧
        (replacement.slice (session.contents buffer).length).write (session.contents buffer) octets =
          .ok written ∧ changed = session.store buffer written := by
  rw [replaceSlice]
  cases place : writable? object with
  | none => simp
  | some buffer =>
    simp only [bind_eq_ok_iff, pure_eq_ok_iff, Option.some.injEq]
    constructor
    · intro steps
      rcases steps with ⟨octets, taken, written, stored, rfl⟩
      exact ⟨buffer, octets, written, rfl, taken, stored, rfl⟩
    · intro steps
      rcases steps with ⟨_, octets, written, rfl, taken, stored, rfl⟩
      exact ⟨octets, taken, written, stored, rfl⟩

theorem names_of_writable {object : Object} {buffer : Nat} (place : writable? object = some buffer) :
    object.names = [buffer] := by
  cases object <;> cases place <;> rfl

/-- An object whose octets can be written shows its buffer as a record. -/
theorem recordView_eq_ok_iff {session : Session} {object : Object} {buffer : Nat} {record : Record}
    (place : writable? object = some buffer) :
    recordView (session.value object) = .ok record ↔ session.contents buffer = record.octets := by
  have octets : ∃ kind, session.value object = .octets kind (session.contents buffer) := by
    cases object <;> cases place
    · exact ⟨.buffer, rfl⟩
    · exact ⟨.view, rfl⟩
  rcases octets with ⟨kind, shown⟩
  rw [shown, recordView, Value.length?]
  simp only
  split
  case isTrue => exact SocketAddress.recordOf_eq_ok_iff _ _
  case isFalse other =>
    constructor
    · intro read
      cases read
    · intro same
      refine absurd ?_ other
      rw [same]
      exact record.length_octets

/-! ## Actions that store -/

/-- An action replaces a slice of an object. -/
inductive Replaces (session : Session) : Action → Object → Session → Replacement → Prop
  | write {target start given : Argument} {object : Object} {opened : Session}
      {replacement : Replacement} (resolved : session.resolve target = .ok (object, opened))
      (asked : opened.overwriting start given = .ok replacement) :
      Replaces session (.write target start given) object opened replacement
  | splice {target start stop given : Argument} {object : Object} {opened : Session}
      {replacement : Replacement} (resolved : session.resolve target = .ok (object, opened))
      (asked : opened.splicing start stop given = .ok replacement) :
      Replaces session (.splice target start stop given) object opened replacement

/-- An action replaces a slice of the octets of a buffer by others. -/
inductive Overwrites (session : Session) (action : Action) (opened : Session) (buffer : Nat) :
    Slice → Octets → Prop
  | of_replaces {object : Object} {replacement : Replacement} {octets : Octets}
      (replaces : session.Replaces action object opened replacement)
      (place : writable? object = some buffer)
      (taken : replacementOf replacement.given = .ok octets) :
      Overwrites session action opened buffer (replacement.slice (opened.contents buffer).length) octets

/-- An action stores octets in a buffer of the session that its target leaves behind. -/
inductive Stores (layout : Layout) (session : Session) : Action → Session → Nat → Octets → Prop
  | port {target given : Argument} {opened : Session} {value : Value} {buffer : Nat}
      {endpoint : Endpoint} {port : UInt16}
      (resolved : session.resolve target = .ok (.endpoint buffer, opened))
      (asked : opened.argumentValue given = .ok value)
      (found : opened.contents buffer = endpoint.octets)
      (taken : Endpoint.portOf value = .ok port) :
      Stores layout session (.setPort target given) opened buffer (endpoint.withPort port).octets
  | address {target given : Argument} {opened : Session} {value : Value} {buffer : Nat}
      {endpoint : Endpoint} {address : Address}
      (resolved : session.resolve target = .ok (.endpoint buffer, opened))
      (asked : opened.argumentValue given = .ok value)
      (found : opened.contents buffer = endpoint.octets)
      (taken : Address.ofValue value = .ok address) :
      Stores layout session (.setAddress target given) opened buffer
        (endpoint.withAddress address).octets
  | slice {action : Action} {opened : Session} {buffer : Nat} {slice : Slice}
      {octets written : Octets} (overwrites : session.Overwrites action opened buffer slice octets)
      (fits : slice.write (opened.contents buffer) octets = .ok written) :
      Stores layout session action opened buffer written
  | field {target name given : Argument} {object : Object} {opened : Session}
      {nameValue value : Value} {field : String} {buffer : Nat} {record changed : Record}
      (resolved : session.resolve target = .ok (object, opened))
      (place : writable? object = some buffer)
      (asked : opened.argumentValue name = .ok nameValue)
      (named : fieldName nameValue = .ok field)
      (found : opened.contents buffer = record.octets)
      (taken : storeNamed layout record field value = .ok changed) :
      Stores layout session (.setField target name given) opened buffer changed.octets

/-- An action leaves the session in which it stored octets. -/
inductive Updates (layout : Layout) (session : Session) (action : Action) (object : Object) :
    Session → Prop
  | stored {opened : Session} {buffer : Nat} {octets : Octets}
      (stores : session.Stores layout action opened buffer octets)
      (resolves : session.Resolves opened object) :
      Updates layout session action object (opened.store buffer octets)

variable {layout : Layout} {session changed : Session} {action : Action} {object : Object}

theorem perform_setPort {target given : Argument}
    (done : session.perform layout (.setPort target given) = .ok (object, changed)) :
    session.Updates layout (.setPort target given) object changed := by
  simp only [perform, bind_eq_ok_iff, Prod.exists, endpointOf_eq_ok_iff, Endpoint.setPort,
    map_eq_ok_iff, pure_eq_ok_iff, Prod.mk.injEq] at done
  rcases done with ⟨_, opened, resolved, value, asked, buffer, endpoint, ⟨rfl, found⟩, _,
    ⟨port, taken, rfl⟩, rfl, rfl⟩
  exact .stored (.port resolved asked found taken) (resolves_of_resolve resolved)

theorem perform_setAddress {target given : Argument}
    (done : session.perform layout (.setAddress target given) = .ok (object, changed)) :
    session.Updates layout (.setAddress target given) object changed := by
  simp only [perform, bind_eq_ok_iff, Prod.exists, endpointOf_eq_ok_iff, Endpoint.setAddress,
    map_eq_ok_iff, pure_eq_ok_iff, Prod.mk.injEq] at done
  rcases done with ⟨_, opened, resolved, value, asked, buffer, endpoint, ⟨rfl, found⟩, _,
    ⟨address, taken, rfl⟩, rfl, rfl⟩
  exact .stored (.address resolved asked found taken) (resolves_of_resolve resolved)

/-- A port that is none is refused, and any other is stored. -/
theorem perform_setPort_eq {target given : Argument} {opened : Session} {buffer : Nat} {value : Value}
    {endpoint : Endpoint} (resolved : session.resolve target = .ok (.endpoint buffer, opened))
    (asked : opened.argumentValue given = .ok value)
    (found : opened.contents buffer = endpoint.octets) :
    session.perform layout (.setPort target given) =
      (Endpoint.portOf value).map fun port =>
        (.endpoint buffer, opened.store buffer (endpoint.withPort port).octets) := by
  have owned := endpointOf_eq_ok_iff.mpr ⟨rfl, found⟩
  simp only [perform, resolved, asked, owned, ok_bind, Endpoint.setPort]
  cases Endpoint.portOf value <;> rfl

theorem perform_setAddress_eq {target given : Argument} {opened : Session} {buffer : Nat}
    {value : Value} {endpoint : Endpoint}
    (resolved : session.resolve target = .ok (.endpoint buffer, opened))
    (asked : opened.argumentValue given = .ok value)
    (found : opened.contents buffer = endpoint.octets) :
    session.perform layout (.setAddress target given) =
      (Address.ofValue value).map fun address =>
        (.endpoint buffer, opened.store buffer (endpoint.withAddress address).octets) := by
  have owned := endpointOf_eq_ok_iff.mpr ⟨rfl, found⟩
  simp only [perform, resolved, asked, owned, ok_bind, Endpoint.setAddress]
  cases Address.ofValue value <;> rfl

theorem perform_of_replaces {opened : Session} {replacement : Replacement}
    (replaces : session.Replaces action object opened replacement) :
    session.perform layout action = (opened.replaceSlice object replacement).map done := by
  cases replaces with
  | write resolved asked =>
    simp only [perform, resolved, asked, ok_bind]
    cases opened.replaceSlice object replacement <;> rfl
  | splice resolved asked =>
    simp only [perform, resolved, asked, ok_bind]
    cases opened.replaceSlice object replacement <;> rfl

/-- The slice is replaced or, where it is not as long as what is given, nothing is. -/
theorem perform_of_overwrites {opened : Session} {buffer : Nat} {slice : Slice} {octets : Octets}
    (overwrites : session.Overwrites action opened buffer slice octets) :
    session.perform layout action =
      (slice.write (opened.contents buffer) octets).map fun written =>
        (opened.store buffer written).done := by
  cases overwrites with
  | @of_replaces place replacement _ replaces writable taken =>
    have replaced : opened.replaceSlice place replacement =
        ((replacement.slice (opened.contents buffer).length).write (opened.contents buffer)
          octets).map (opened.store buffer) := by
      simp only [replaceSlice, writable, taken, ok_bind]
      cases Slice.write _ _ _ <;> rfl
    rw [perform_of_replaces replaces, replaced]
    cases Slice.write _ _ _ <;> rfl

theorem Replaces.resolves {opened : Session} {replacement : Replacement}
    (replaces : session.Replaces action object opened replacement) :
    session.Resolves opened object := by
  cases replaces with
  | write resolved => exact resolves_of_resolve resolved
  | splice resolved => exact resolves_of_resolve resolved

theorem updates_of_replaces {place : Object} {opened : Session} {replacement : Replacement}
    (replaces : session.Replaces action place opened replacement)
    (done : session.perform layout action = .ok (object, changed)) :
    session.Updates layout action object changed := by
  rw [perform_of_replaces replaces, map_eq_ok_iff] at done
  rcases done with ⟨_, replaced, same⟩
  cases same
  rcases replaceSlice_eq_ok_iff.mp replaced with ⟨buffer, octets, written, writable, taken, fits, rfl⟩
  exact .stored (.slice (.of_replaces replaces writable taken) fits)
    ⟨replaces.resolves.extended, fun _ => .constant _⟩

theorem perform_write {target start given : Argument}
    (done : session.perform layout (.write target start given) = .ok (object, changed)) :
    session.Updates layout (.write target start given) object changed := by
  have steps := done
  simp only [perform, bind_eq_ok_iff, Prod.exists] at steps
  rcases steps with ⟨place, opened, resolved, replacement, asked, _⟩
  exact updates_of_replaces (.write resolved asked) done

theorem perform_splice {target start stop given : Argument}
    (done : session.perform layout (.splice target start stop given) = .ok (object, changed)) :
    session.Updates layout (.splice target start stop given) object changed := by
  have steps := done
  simp only [perform, bind_eq_ok_iff, Prod.exists] at steps
  rcases steps with ⟨place, opened, resolved, replacement, asked, _⟩
  exact updates_of_replaces (.splice resolved asked) done

/-- A field is stored where the octets can be written; those of a grid are changed for the answer
alone. -/
theorem perform_setField {target name given : Argument}
    (done : session.perform layout (.setField target name given) = .ok (object, changed)) :
    session.Resolves changed object ∨
      session.Updates layout (.setField target name given) object changed := by
  simp only [perform, bind_eq_ok_iff, Prod.exists] at done
  rcases done with ⟨place, opened, resolved, nameValue, asked, value, _, done⟩
  have front := (resolves_of_resolve resolved).extended
  simp only [setRecordField, bind_eq_ok_iff] at done
  rcases done with ⟨record, viewed, done⟩
  split at done
  case h_1 buffer writable =>
    simp only [bind_eq_ok_iff, pure_eq_ok_iff] at done
    rcases done with ⟨field, named, stored, taken, made⟩
    cases made
    have found := (recordView_eq_ok_iff writable).mp viewed
    exact .inr (.stored (.field resolved writable asked named found taken)
      ⟨front, fun _ => .constant _⟩)
  case h_2 =>
    simp only [bind_eq_ok_iff, pure_eq_ok_iff] at done
    rcases done with ⟨_, _, _, _, made⟩
    cases made
    exact .inl ⟨front, fun _ => .constant _⟩
  case h_3 => cases done

/-! ## Actions that bring values in -/

theorem resolves_of_introduce {opened : Session} {given : Value}
    (extended : session.Extends opened) (brought : opened.introduce given = (object, changed)) :
    session.Resolves changed object := by
  have made := resolves_introduce opened given
  rw [brought] at made
  exact ⟨extended.trans made.extended, fun sound => made.holds (extended.sound sound)⟩

theorem perform_making (making : action.isMaking = true)
    (done : session.perform layout action = .ok (object, changed)) :
    ∃ given, session.introduce given = (object, changed) := by
  cases action with
  | make port address =>
    simp only [perform, bind_eq_ok_iff, pure_eq_ok_iff] at done
    rcases done with ⟨_, _, _, _, endpoint, _, made⟩
    exact ⟨.endpoint endpoint, made⟩
  | receive source =>
    simp only [perform, bind_eq_ok_iff, pure_eq_ok_iff] at done
    rcases done with ⟨_, _, endpoint, _, made⟩
    exact ⟨.endpoint endpoint, made⟩
  | newBuffer => exact ⟨_, Except.ok.inj done⟩
  | encode address port flow scope =>
    simp only [perform, bind_eq_ok_iff, pure_eq_ok_iff] at done
    rcases done with ⟨_, _, _, _, _, _, _, _, record, _, made⟩
    exact ⟨.octets .buffer record.octets, made⟩
  | evaluate operation arguments =>
    simp only [perform, bind_eq_ok_iff, pure_eq_ok_iff] at done
    rcases done with ⟨_, _, given, _, made⟩
    exact ⟨given, made⟩
  | _ => cases making

theorem perform_reading (reading : action.isReading = true)
    (done : session.perform layout action = .ok (object, changed)) :
    (∃ value, object = .constant value) ∧ session.Extends changed := by
  cases action with
  | snapshot target =>
    simp only [perform, bind_eq_ok_iff, pure_eq_ok_iff] at done
    rcases done with ⟨_, _, payload, _, made⟩
    cases made
    exact ⟨⟨_, rfl⟩, Extends.refl _⟩
  | address target =>
    simp only [perform, bind_eq_ok_iff, pure_eq_ok_iff, Prod.exists] at done
    rcases done with ⟨_, _, resolved, _, endpoint, _, made⟩
    cases made
    exact ⟨⟨_, rfl⟩, (resolves_of_resolve resolved).extended⟩
  | read target start count =>
    simp only [perform, bind_eq_ok_iff] at done
    rcases done with ⟨_, _, startValue, _, _, _, _, _, done⟩
    split at done
    case h_1 => cases done
    case h_2 =>
      simp only [bind_eq_ok_iff, pure_eq_ok_iff] at done
      rcases done with ⟨octets, _, made⟩
      cases made
      exact ⟨⟨_, rfl⟩, Extends.refl _⟩
  | _ => cases reading

/-- A copy is brought in anew, but for a list that is copied with the items it has. -/
theorem perform_copy {how : Copying} {source : Argument}
    (done : session.perform layout (.copy how source) = .ok (object, changed)) :
    ∃ found opened, session.resolve source = .ok (found, opened) ∧
      ((∃ items, found = .list items ∧ object = found ∧ changed = opened) ∨
        ∃ given, Value.copied layout how (opened.value found) = .ok given ∧
          opened.introduce given = (object, changed)) := by
  simp only [perform, bind_eq_ok_iff, Prod.exists] at done
  rcases done with ⟨found, opened, resolved, done⟩
  refine ⟨found, opened, resolved, ?_⟩
  split at done
  case h_1 items _ =>
    cases done
    exact .inl ⟨items, rfl, rfl, rfl⟩
  case h_2 =>
    rcases bind_eq_ok_iff.mp done with ⟨given, copied, made⟩
    exact .inr ⟨given, copied, pure_eq_ok_iff.mp made⟩

theorem mem_of_sortedOn {Item : Type} {view : Item → Value} {items sorted : List Item}
    (done : Value.sortedOn view items = .ok sorted) {item : Item} (member : item ∈ sorted) :
    item ∈ items := by
  unfold Value.sortedOn at done
  split at done
  case h_1 =>
    cases done
    exact member
  case h_2 =>
    split at done <;> cases done
    exact (List.mergeSort_perm _ _).mem_iff.mp member

theorem perform_sort {source : Argument}
    (done : session.perform layout (.sort source) = .ok (object, changed)) :
    session.Resolves changed object := by
  simp only [perform, bind_eq_ok_iff, Prod.exists] at done
  rcases done with ⟨found, opened, resolved, done⟩
  have front := resolves_of_resolve resolved
  split at done
  case h_1 items =>
    rcases bind_eq_ok_iff.mp done with ⟨sorted, inOrder, made⟩
    cases made
    refine ⟨front.extended, fun sound => .list fun item member => ?_⟩
    cases front.holds sound with
    | list each => exact each item (mem_of_sortedOn inOrder member)
  case h_2 =>
    simp only [bind_eq_ok_iff, pure_eq_ok_iff] at done
    rcases done with ⟨_, _, sorted, _, made⟩
    exact resolves_of_introduce front.extended made

theorem exposed_eq_ok_iff {buffer : Nat} :
    session.exposed object = .ok buffer ↔
      ∃ endpoint : Endpoint, object = .endpoint buffer ∧
        session.contents buffer = endpoint.octets := by
  have owned : session.exposed object = .ok buffer ↔
      ∃ endpoint, session.endpointOf object = .ok (buffer, endpoint) := by
    unfold exposed
    split
    case h_4 => simp [map_eq_ok_iff]
    all_goals simp [endpointOf]
  simp only [owned, endpointOf_eq_ok_iff]

theorem perform_expose_eq_ok_iff {target : Argument} :
    session.perform layout (.expose target) = .ok (object, changed) ↔
      ∃ (buffer : Nat) (endpoint : Endpoint),
        session.resolve target = .ok (.endpoint buffer, changed) ∧ object = .view buffer ∧
          changed.contents buffer = endpoint.octets := by
  simp only [perform, bind_eq_ok_iff, Prod.exists, exposed_eq_ok_iff, pure_eq_ok_iff, Prod.mk.injEq]
  constructor
  · intro steps
    rcases steps with ⟨_, opened, resolved, buffer, ⟨endpoint, rfl, contents⟩, rfl, rfl⟩
    exact ⟨buffer, endpoint, resolved, rfl, contents⟩
  · intro steps
    rcases steps with ⟨buffer, endpoint, resolved, rfl, contents⟩
    exact ⟨_, changed, resolved, buffer, ⟨endpoint, rfl, contents⟩, rfl, rfl⟩

/-- An action makes an endpoint and brings it into the session it leaves behind. -/
inductive Constructs (layout : Layout) (session : Session) : Action → Session → Endpoint → Prop
  | make {port address : Argument} {portValue addressValue : Value} {endpoint : Endpoint}
      (asked : session.argumentValue port = .ok portValue)
      (asked' : session.argumentValue address = .ok addressValue)
      (made : Endpoint.ofValues layout portValue addressValue = .ok endpoint) :
      Constructs layout session (.make port address) session endpoint
  | receive {source : Argument} {value : Value} {endpoint : Endpoint}
      (asked : session.argumentValue source = .ok value)
      (made : Endpoint.ofNative layout value = .ok endpoint) :
      Constructs layout session (.receive source) session endpoint
  | copy {how : Copying} {source : Argument} {place : Object} {opened : Session}
      {original endpoint : Endpoint} (resolved : session.resolve source = .ok (place, opened))
      (shown : opened.value place = .endpoint original)
      (made : Value.copied layout how (.endpoint original) = .ok (.endpoint endpoint)) :
      Constructs layout session (.copy how source) opened endpoint
  | evaluate {operation : List Value → Except Fault Value} {arguments : List Argument}
      {values : List Value} {endpoint : Endpoint}
      (asked : session.argumentValues arguments = .ok values)
      (worked : operation values = .ok (.endpoint endpoint))
      (made : Endpoint.Made layout endpoint) :
      Constructs layout session (.evaluate operation arguments) session endpoint

theorem Constructs.made {opened : Session}
    (constructs : session.Constructs layout action opened endpoint) :
    Endpoint.Made layout endpoint := by
  cases constructs with
  | make _ _ made => exact .constructed made
  | receive _ made => exact .received made
  | copy _ _ made => exact .copied made
  | evaluate _ _ made => exact made

theorem perform_of_constructs {opened : Session}
    (constructs : session.Constructs layout action opened endpoint) :
    session.perform layout action = .ok (opened.addEndpoint endpoint) := by
  cases constructs with
  | make asked asked' made => simp [perform, bind_eq_ok_iff, asked, asked', made]
  | receive asked made => simp [perform, bind_eq_ok_iff, asked, made]
  | copy resolved shown made =>
    simp only [perform, bind_eq_ok_iff, Prod.exists]
    refine ⟨_, _, resolved, ?_⟩
    split
    case h_1 =>
      rw [value_list] at shown
      cases shown
    case h_2 =>
      rw [shown]
      exact bind_eq_ok_iff.mpr ⟨_, made, rfl⟩
  | evaluate asked worked _ => simp [perform, bind_eq_ok_iff, asked, worked, addEndpoint]

/-- What an action that succeeds does: it brings values in, and it may store octets besides. -/
theorem perform_cases (done : session.perform layout action = .ok (object, changed)) :
    session.Resolves changed object ∨ session.Updates layout action object changed := by
  have making (making : action.isMaking = true) : session.Resolves changed object := by
    rcases perform_making making done with ⟨given, made⟩
    exact resolves_of_introduce (Extends.refl session) made
  have reading (reading : action.isReading = true) : session.Resolves changed object := by
    rcases perform_reading reading done with ⟨⟨value, rfl⟩, extended⟩
    exact ⟨extended, fun _ => .constant value⟩
  cases action with
  | copy how source =>
    rcases perform_copy done with ⟨found, opened, resolved, ⟨_, _, rfl, rfl⟩ | ⟨given, _, made⟩⟩
    · exact .inl (resolves_of_resolve resolved)
    · exact .inl (resolves_of_introduce (resolves_of_resolve resolved).extended made)
  | sort source => exact .inl (perform_sort done)
  | setPort target given => exact .inr (perform_setPort done)
  | setAddress target given => exact .inr (perform_setAddress done)
  | expose target =>
    rcases perform_expose_eq_ok_iff.mp done with ⟨buffer, endpoint, resolved, rfl, contents⟩
    have front := resolves_of_resolve resolved
    exact .inl ⟨front.extended, fun _ => .view (whole_of_contents contents)⟩
  | write target start given => exact .inr (perform_write done)
  | splice target start stop given => exact .inr (perform_splice done)
  | setField target name given => exact perform_setField done
  | snapshot target => exact .inl (reading rfl)
  | address target => exact .inl (reading rfl)
  | read target start count => exact .inl (reading rfl)
  | _ => exact .inl (making rfl)

end Session

end IPv6
