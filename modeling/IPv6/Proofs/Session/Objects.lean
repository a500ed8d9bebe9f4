import IPv6.Proofs.SocketAddress.Codec
import IPv6.Session.Action
/-!
Objects and the buffers they name. An object shows what is in its buffers and nothing else, buffers are
only ever added behind those there are, and a value brought into a session gets a buffer of its own.
-/

namespace IPv6

namespace Object

theorem induction {motive : Object → Prop} (endpoint : ∀ place, motive (.endpoint place))
    (buffer : ∀ place, motive (.buffer place)) (view : ∀ place, motive (.view place))
    (constant : ∀ value, motive (.constant value))
    (list : ∀ items, (∀ item ∈ items, motive item) → motive (.list items)) :
    ∀ object, motive object
  | .endpoint place => endpoint place
  | .buffer place => buffer place
  | .view place => view place
  | .constant value => constant value
  | .list items => list items fun item _ => induction endpoint buffer view constant list item

mutual

/-- The buffers that an object names, itself or through its items. -/
def names : Object → List Nat
  | .endpoint place | .buffer place | .view place => [place]
  | .constant _ => []
  | .list items => namesOfAll items

def namesOfAll : List Object → List Nat
  | [] => []
  | item :: rest => names item ++ namesOfAll rest

end

theorem names_list (items : List Object) : (Object.list items).names = items.flatMap names := by
  rw [names]
  induction items with
  | nil => rfl
  | cons item rest ih => rw [namesOfAll, ih, List.flatMap_cons]

end Object

theorem Argument.induction {motive : Argument → Prop} (given : ∀ value, motive (.given value))
    (register : ∀ name, motive (.register name))
    (list : ∀ items, (∀ item ∈ items, motive item) → motive (.list items)) :
    ∀ argument, motive argument
  | .given value => given value
  | .register name => register name
  | .list items => list items fun item _ => induction given register list item

namespace Session

/-! ## Contents -/

@[simp] theorem contents_store_self {session : Session} {buffer : Nat}
    (inside : buffer < session.buffers.length) (octets : Octets) :
    (session.store buffer octets).contents buffer = octets := by
  simp [contents, store, inside]

theorem contents_store_of_ne (session : Session) {buffer other : Nat} (different : other ≠ buffer)
    (octets : Octets) : (session.store buffer octets).contents other = session.contents other := by
  simp [contents, store, List.getElem?_set_ne different.symm]

theorem store_contents {session : Session} {buffer : Nat}
    (inside : buffer < session.buffers.length) :
    session.store buffer (session.contents buffer) = session := by
  simp [store, contents, inside]

@[simp] theorem store_store (session : Session) (buffer : Nat) (octets octets' : Octets) :
    (session.store buffer octets).store buffer octets' = session.store buffer octets' := by
  simp [store]

@[simp] theorem length_buffers_store (session : Session) (buffer : Nat) (octets : Octets) :
    (session.store buffer octets).buffers.length = session.buffers.length := by
  simp [store]

theorem lt_of_whole {session : Session} {place : Nat}
    (whole : (session.contents place).length = Record.size) : place < session.buffers.length := by
  by_contra outside
  have none : session.contents place = [] := by simp [contents, Nat.le_of_not_lt outside]
  rw [none] at whole
  cases whole

theorem whole_of_contents {session : Session} {buffer : Nat} {record : Record}
    (found : session.contents buffer = record.octets) :
    (session.contents buffer).length = Record.size := by
  rw [found]
  exact record.length_octets

theorem lt_of_contents_record {session : Session} {buffer : Nat} {record : Record}
    (found : session.contents buffer = record.octets) : buffer < session.buffers.length :=
  lt_of_whole (whole_of_contents found)

theorem endpointIn?_eq_some_iff {session : Session} {buffer : Nat} {endpoint : Endpoint} :
    session.endpointIn? buffer = some endpoint ↔ session.contents buffer = endpoint.octets := by
  rw [endpointIn?, Option.map_eq_some_iff]
  constructor
  · intro found
    rcases found with ⟨record, made, rfl⟩
    rw [Record.ofOctets?] at made
    split at made <;> cases made
    rfl
  · intro found
    refine ⟨endpoint.record, ?_, rfl⟩
    rw [Record.ofOctets?, found]
    exact dif_pos endpoint.record.length_octets

theorem value_endpoint_eq_iff {session : Session} {buffer : Nat} {endpoint : Endpoint} :
    session.value (.endpoint buffer) = .endpoint endpoint ↔
      session.contents buffer = endpoint.octets := by
  rw [← endpointIn?_eq_some_iff, value]
  cases session.endpointIn? buffer <;> simp

theorem value_list (session : Session) (items : List Object) :
    session.value (.list items) = .sequence .list (items.map session.value) := by
  have each : session.values items = items.map session.value := by
    induction items with
    | nil => rfl
    | cons item rest ih => rw [values, ih, List.map_cons]
  rw [value, each]

/-- What an object shows depends on the buffers it names. -/
theorem value_congr {session other : Session} {object : Object}
    (same : ∀ buffer ∈ object.names, session.contents buffer = other.contents buffer) :
    session.value object = other.value object := by
  induction object using Object.induction with
  | endpoint place =>
    have contents := same place (by simp [Object.names])
    simp only [value, endpointIn?, contents]
  | buffer place =>
    have contents := same place (by simp [Object.names])
    simp only [value, contents]
  | view place =>
    have contents := same place (by simp [Object.names])
    simp only [value, contents]
  | constant given => rfl
  | list items ih =>
    rw [Object.names_list] at same
    rw [value_list, value_list]
    congr 1
    apply List.map_congr_left
    intro item member
    exact ih item member fun buffer named => same buffer (List.mem_flatMap.mpr ⟨item, member, named⟩)

/-! ## Objects that a session holds -/

/-- What an object names is there, and where it is an endpoint or a view of one, it is a record. -/
inductive Holds (session : Session) : Object → Prop
  | endpoint {place : Nat} (whole : (session.contents place).length = Record.size) :
      Holds session (.endpoint place)
  | buffer {place : Nat} (inside : place < session.buffers.length) : Holds session (.buffer place)
  | view {place : Nat} (whole : (session.contents place).length = Record.size) :
      Holds session (.view place)
  | constant (value : Value) : Holds session (.constant value)
  | list {items : List Object} (each : ∀ item ∈ items, Holds session item) :
      Holds session (.list items)

theorem Holds.lt {session : Session} {object : Object} (holds : session.Holds object) {place : Nat}
    (named : place ∈ object.names) : place < session.buffers.length := by
  induction object using Object.induction with
  | endpoint other =>
    cases holds with
    | endpoint whole =>
      rw [List.mem_singleton.mp named]
      exact lt_of_whole whole
  | buffer other =>
    cases holds with
    | buffer inside => rwa [List.mem_singleton.mp named]
  | view other =>
    cases holds with
    | view whole =>
      rw [List.mem_singleton.mp named]
      exact lt_of_whole whole
  | constant given => exact absurd named List.not_mem_nil
  | list items ih =>
    cases holds with
    | list each =>
      rw [Object.names_list, List.mem_flatMap] at named
      rcases named with ⟨item, member, inItem⟩
      exact ih item member (each item member) inItem

/-- No buffer is lost or changes its length. -/
structure Keeps (session changed : Session) : Prop where
  count : session.buffers.length ≤ changed.buffers.length
  length : ∀ buffer < session.buffers.length,
    (changed.contents buffer).length = (session.contents buffer).length

theorem Keeps.refl (session : Session) : session.Keeps session := ⟨Nat.le_refl _, fun _ _ => rfl⟩

theorem Keeps.trans {first second third : Session} (before : first.Keeps second)
    (after : second.Keeps third) : first.Keeps third where
  count := Nat.le_trans before.count after.count
  length buffer inside := by
    rw [after.length buffer (Nat.lt_of_lt_of_le inside before.count), before.length buffer inside]

theorem Keeps.whole {session changed : Session} (keeps : session.Keeps changed) {place : Nat}
    (whole : (session.contents place).length = Record.size) :
    (changed.contents place).length = Record.size := by
  rw [keeps.length place (lt_of_whole whole), whole]

theorem Holds.mono {session changed : Session} {object : Object} (holds : session.Holds object)
    (keeps : session.Keeps changed) : changed.Holds object := by
  induction holds with
  | endpoint whole => exact .endpoint (keeps.whole whole)
  | buffer inside => exact .buffer (Nat.lt_of_lt_of_le inside keeps.count)
  | view whole => exact .view (keeps.whole whole)
  | constant given => exact .constant given
  | list _ ih => exact .list ih

/-- What the registers name is held. -/
def Sound (session : Session) : Prop := ∀ entry ∈ session.registers, session.Holds entry.2

theorem Sound.register {session : Session} (sound : session.Sound) {name : String} {object : Object}
    (found : session.register? name = some object) : session.Holds object := by
  rcases List.lookup_eq_some_iff.mp found with ⟨before, after, same, _⟩
  apply sound (name, object)
  rw [same]
  exact List.mem_append_right before List.mem_cons_self

/-! ## Values brought into a session -/

/-- Buffers are added behind those there are, and nothing else changes. -/
structure Extends (session opened : Session) : Prop where
  buffers : session.buffers <+: opened.buffers
  registers : opened.registers = session.registers

theorem Extends.refl (session : Session) : session.Extends session := ⟨List.prefix_refl _, rfl⟩

theorem Extends.trans {first second third : Session} (before : first.Extends second)
    (after : second.Extends third) : first.Extends third :=
  ⟨before.buffers.trans after.buffers, after.registers.trans before.registers⟩

theorem Extends.contents {session opened : Session} (extended : session.Extends opened)
    {buffer : Nat} (inside : buffer < session.buffers.length) :
    opened.contents buffer = session.contents buffer := by
  rcases extended.buffers with ⟨added, same⟩
  simp [Session.contents, ← same, List.getElem?_append_left inside]

theorem Extends.keeps {session opened : Session} (extended : session.Extends opened) :
    session.Keeps opened where
  count := extended.buffers.length_le
  length _ inside := by rw [extended.contents inside]

theorem Extends.sound {session opened : Session} (extended : session.Extends opened)
    (sound : session.Sound) : opened.Sound := by
  intro entry member
  rw [extended.registers] at member
  exact (sound entry member).mono extended.keeps

theorem contents_allocate (session : Session) (octets : Octets) :
    (session.allocate octets).2.contents session.buffers.length = octets := by
  simp [allocate, contents]

theorem introduce_extends (session : Session) (given : Value) :
    session.Extends (session.introduce given).2 := by
  unfold introduce
  split
  · exact ⟨List.prefix_append _ _, rfl⟩
  · exact ⟨List.prefix_append _ _, rfl⟩
  · exact Extends.refl session

theorem introduce_holds (session : Session) (given : Value) :
    (session.introduce given).2.Holds (session.introduce given).1 := by
  unfold introduce
  split
  case h_1 endpoint =>
    apply Holds.endpoint
    exact (congrArg List.length (session.contents_allocate endpoint.octets)).trans
      endpoint.record.length_octets
  case h_2 octets =>
    apply Holds.buffer
    simp [allocate]
  case h_3 => exact .constant _

/-- A value brought in shows itself. -/
theorem value_introduce (session : Session) (given : Value) :
    (session.introduce given).2.value (session.introduce given).1 = given := by
  unfold introduce
  split
  case h_1 endpoint => exact value_endpoint_eq_iff.mpr (session.contents_allocate endpoint.octets)
  case h_2 octets => exact congrArg _ (session.contents_allocate octets)
  case h_3 => rfl

/-- What is brought in names no buffer that was there. -/
theorem le_of_mem_names_introduce {session : Session} {given : Value} {buffer : Nat}
    (named : buffer ∈ (session.introduce given).1.names) : session.buffers.length ≤ buffer := by
  unfold introduce at named
  split at named
  · exact Nat.le_of_eq (List.mem_singleton.mp named).symm
  · exact Nat.le_of_eq (List.mem_singleton.mp named).symm
  · cases named

theorem resolve_list {session opened : Session} {items : List Argument} {object : Object} :
    session.resolve (.list items) = .ok (object, opened) ↔
      ∃ objects, session.resolveAll items = .ok (objects, opened) ∧ object = .list objects := by
  rw [resolve, bind_eq_ok_iff]
  constructor
  · intro steps
    rcases steps with ⟨⟨objects, _⟩, resolved, made⟩
    cases made
    exact ⟨objects, resolved, rfl⟩
  · intro steps
    rcases steps with ⟨objects, resolved, rfl⟩
    exact ⟨(objects, opened), resolved, rfl⟩

theorem resolveAll_cons {session opened : Session} {item : Argument} {rest : List Argument}
    {objects : List Object} :
    session.resolveAll (item :: rest) = .ok (objects, opened) ↔
      ∃ first between others, session.resolve item = .ok (first, between) ∧
        between.resolveAll rest = .ok (others, opened) ∧ objects = first :: others := by
  rw [resolveAll, bind_eq_ok_iff]
  constructor
  · intro steps
    rcases steps with ⟨⟨first, between⟩, resolved, later⟩
    rcases bind_eq_ok_iff.mp later with ⟨⟨others, _⟩, resolved', made⟩
    cases made
    exact ⟨first, between, others, resolved, resolved', rfl⟩
  · intro steps
    rcases steps with ⟨first, between, others, resolved, resolved', rfl⟩
    refine ⟨(first, between), resolved, bind_eq_ok_iff.mpr ⟨(others, opened), resolved', rfl⟩⟩

/-- What working out an argument leaves behind: more buffers, and an object that is held. -/
structure Resolves (session opened : Session) (object : Object) : Prop where
  extended : session.Extends opened
  holds : session.Sound → opened.Holds object

theorem resolves_introduce (session : Session) (given : Value) :
    session.Resolves (session.introduce given).2 (session.introduce given).1 :=
  ⟨introduce_extends session given, fun _ => introduce_holds session given⟩

theorem resolves_list {items : List Argument}
    (each : ∀ item ∈ items, ∀ {session opened : Session} {object : Object},
      session.resolve item = .ok (object, opened) → session.Resolves opened object)
    {session opened : Session} {objects : List Object}
    (resolved : session.resolveAll items = .ok (objects, opened)) :
    session.Resolves opened (.list objects) := by
  induction items generalizing session objects with
  | nil =>
    cases resolved
    exact ⟨Extends.refl _, fun _ => .list nofun⟩
  | cons item rest ih =>
    rcases resolveAll_cons.mp resolved with ⟨first, between, others, head, tail, rfl⟩
    have front := each item List.mem_cons_self head
    have back := ih (fun other member => each other (List.mem_cons_of_mem item member)) tail
    refine ⟨front.extended.trans back.extended, fun sound => .list ?_⟩
    cases back.holds (front.extended.sound sound) with
    | list rests =>
      rw [List.forall_mem_cons]
      exact ⟨(front.holds sound).mono back.extended.keeps, rests⟩

theorem resolves_of_resolve {session opened : Session} {argument : Argument} {object : Object}
    (resolved : session.resolve argument = .ok (object, opened)) :
    session.Resolves opened object := by
  induction argument using Argument.induction generalizing session opened object with
  | given value =>
    have made : session.introduce value = (object, opened) := by simpa [resolve] using resolved
    have brought := resolves_introduce session value
    rwa [made] at brought
  | register name =>
    rw [resolve] at resolved
    split at resolved <;> cases resolved
    case h_1 found => exact ⟨Extends.refl _, fun sound => sound.register found⟩
  | list items ih =>
    rcases resolve_list.mp resolved with ⟨objects, all, rfl⟩
    exact resolves_list ih all

end Session

end IPv6
