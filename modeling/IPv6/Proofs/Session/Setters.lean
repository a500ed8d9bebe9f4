import IPv6.Proofs.Session.Runs
/-!
Setting the port and the address of an endpoint. A setter looks at the value first and then replaces the
octets of its field and no others, whatever octets the endpoint has; the two setters do not see each other.
-/

namespace IPv6

/-- A field of an endpoint that can be set. -/
inductive Setter
  | port
  | address

namespace Setter

def action : Setter → (target given : Argument) → Action
  | port => .setPort
  | address => .setAddress

def offset : Setter → Nat
  | port => 2
  | address => 8

def size : Setter → Nat
  | port => 2
  | address => 16

/-- The octets that a value stands for in the field. -/
def taken : Setter → Value → Except Fault Octets
  | port, value => (Endpoint.portOf value).map fun port => Octets.bigEndian 2 port.toNat
  | address, value => (Address.ofValue value).map Address.octets

variable {setter : Setter} {value : Value} {octets : Octets}

theorem length_of_taken (accepted : setter.taken value = .ok octets) :
    octets.length = setter.size := by
  cases setter with
  | port =>
    rcases map_eq_ok_iff.mp accepted with ⟨port, _, rfl⟩
    exact Octets.length_bigEndian 2 port.toNat
  | address =>
    rcases map_eq_ok_iff.mp accepted with ⟨address, _, rfl⟩
    exact address.length_octets

theorem fits_of_taken (accepted : setter.taken value = .ok octets) :
    setter.offset + octets.length ≤ Record.size := by
  rw [length_of_taken accepted]
  cases setter <;> decide

/-- The record with the field set, or as it was where the value is not accepted. -/
def put (setter : Setter) (record : Record) (value : Value) : Record :=
  match setter.taken value with
  | .ok octets => record.replace setter.offset octets
  | .error _ => record

/-- A later value in the same field leaves nothing of an earlier one. -/
theorem put_put {later : Value} (accepted : setter.taken later = .ok octets) (record : Record)
    (value : Value) : setter.put (setter.put record value) later = setter.put record later := by
  unfold put
  rw [accepted]
  cases earlier : setter.taken value with
  | error fault => rfl
  | ok octets' =>
    apply Record.replace_replace record (fits_of_taken earlier)
    rw [length_of_taken accepted, length_of_taken earlier]

/-- The fields lie apart. -/
theorem put_comm {other : Setter} (different : setter ≠ other) (record : Record)
    (value value' : Value) :
    other.put (setter.put record value) value' = setter.put (other.put record value') value := by
  unfold put
  cases first : setter.taken value with
  | error fault => rfl
  | ok octets =>
    cases second : other.taken value' with
    | error fault => rfl
    | ok octets' =>
      apply Record.replace_comm record (fits_of_taken first) (fits_of_taken second)
      rw [length_of_taken first, length_of_taken second]
      cases setter <;> cases other <;> first | contradiction | decide

end Setter

namespace Session

variable {layout : Layout} {session : Session}

/-- A target that is an endpoint with some octets, and a value that is given for one of its fields. -/
structure Gives (session : Session) (target given : Argument) (opened : Session) (buffer : Nat)
    (record : Record) (value : Value) : Prop where
  resolved : session.resolve target = .ok (.endpoint buffer, opened)
  found : opened.contents buffer = record.octets
  asked : opened.argumentValue given = .ok value

section Steps

variable {target given : Argument} {opened : Session} {buffer : Nat} {record : Record}
  {value : Value}

theorem Gives.perform_eq (gives : session.Gives target given opened buffer record value)
    (layout : Layout) (setter : Setter) :
    session.perform layout (setter.action target given) =
      (setter.taken value).map fun octets =>
        (.endpoint buffer, opened.store buffer (record.replace setter.offset octets).octets) := by
  have found : opened.contents buffer = (Endpoint.mk record).octets := gives.found
  cases setter with
  | port =>
    have performed : session.perform layout (.setPort target given) = _ :=
      perform_setPort_eq gives.resolved gives.asked found
    rw [Setter.action, performed, Setter.taken]
    cases Endpoint.portOf value <;> rfl
  | address =>
    have performed : session.perform layout (.setAddress target given) = _ :=
      perform_setAddress_eq gives.resolved gives.asked found
    rw [Setter.action, performed, Setter.taken]
    cases Address.ofValue value <;> rfl

theorem Gives.step_of_error (gives : session.Gives target given opened buffer record value)
    (layout : Layout) {setter : Setter} {fault : Fault} (failed : setter.taken value = .error fault)
    (name? : Option String) :
    session.step layout (setter.action target given) name? = (.error fault, session) := by
  apply Session.step_of_error
  rw [gives.perform_eq, failed]
  rfl

/-- The octets of the field are replaced, and no other buffer is changed. -/
theorem Gives.step_of_taken (gives : session.Gives target given opened buffer record value)
    (layout : Layout) {setter : Setter} {octets : Octets}
    (accepted : setter.taken value = .ok octets) (name? : Option String) :
    ∃ after, session.step layout (setter.action target given) name? =
        (.ok (.endpoint buffer), after) ∧
      after.contents buffer = (record.replace setter.offset octets).octets ∧
      ∀ other ≠ buffer, after.contents other = opened.contents other := by
  have performed := gives.perform_eq layout setter
  rw [accepted] at performed
  rcases step_of_ok name? performed with ⟨after, done, buffers⟩
  refine ⟨after, done, ?_, ?_⟩
  · rw [contents_congr buffers]
    exact contents_store_self (lt_of_contents_record gives.found) _
  · intro other different
    rw [contents_congr buffers]
    exact contents_store_of_ne opened different _

end Steps

/-! ## One endpoint under one name -/

/-- A name for an endpoint with some octets. -/
structure Binds (session : Session) (name : String) (buffer : Nat) (record : Record) : Prop where
  bound : session.register? name = some (.endpoint buffer)
  found : session.contents buffer = record.octets

section Names

variable {name : String} {buffer : Nat} {record : Record}

theorem Binds.gives (binds : session.Binds name buffer record) (value : Value) :
    session.Gives (.register name) (.given value) session buffer record value where
  resolved := by rw [resolve, binds.bound]
  found := binds.found
  asked := rfl

theorem Binds.store (binds : session.Binds name buffer record) (changed : Record) :
    (session.store buffer changed.octets).Binds name buffer changed where
  bound := binds.bound
  found := contents_store_self (lt_of_contents_record binds.found) changed.octets

/-- Whether a setter succeeds depends on the value alone; a value that is not accepted leaves the record
as it was. -/
theorem Binds.step_eq (binds : session.Binds name buffer record) (layout : Layout)
    (setter : Setter) (value : Value) :
    session.step layout (setter.action (.register name) (.given value)) none =
      ((setter.taken value).map fun _ => .endpoint buffer,
        session.store buffer (setter.put record value).octets) := by
  have performed := (binds.gives value).perform_eq layout setter
  rw [step, performed, Setter.put]
  cases setter.taken value with
  | error fault =>
    show (_, session) = (_, session.store buffer record.octets)
    rw [← binds.found, store_contents (lt_of_contents_record binds.found)]
    rfl
  | ok octets => rfl

/-- The outcome of a setter and then another, and the session they leave. -/
theorem Binds.step_step (binds : session.Binds name buffer record) (layout : Layout)
    (setter other : Setter) (value value' : Value) :
    (session.step layout (setter.action (.register name) (.given value)) none).2.step layout
        (other.action (.register name) (.given value')) none =
      ((other.taken value').map fun _ => .endpoint buffer,
        session.store buffer (other.put (setter.put record value) value').octets) := by
  rw [binds.step_eq layout setter value, (binds.store _).step_eq layout other value', store_store]

end Names

/-! ## Exact and atomic -/

/-- What the setters do to an endpoint, whatever its octets are. -/
structure SetsExactly (layout : Layout) (session : Session) : Prop where
  portSet : ∀ target given name? opened buffer endpoint value number,
    session.Gives target given opened buffer (Endpoint.record endpoint) value →
    Value.IsPort value number →
    ∃ after changed, session.step layout (.setPort target given) name? =
        (.ok (.endpoint buffer), after) ∧
      after.contents buffer = endpoint.octets.take 2 ++
        (Octets.bigEndian 2 number ++ endpoint.octets.drop 4) ∧
      (∀ other ≠ buffer, after.contents other = opened.contents other) ∧
      after.value (.endpoint buffer) = .endpoint changed ∧ changed.port.toNat = number
  portRefused : ∀ target given name? opened buffer endpoint value,
    session.Gives target given opened buffer (Endpoint.record endpoint) value →
    (∀ number, ¬ Value.IsPort value number) →
    ∃ refusal, session.step layout (.setPort target given) name? =
        (.error (.refused refusal), session) ∧ refusal.kind = .invalidArgument
  addressSet : ∀ target given name? opened buffer endpoint value address,
    session.Gives target given opened buffer (Endpoint.record endpoint) value →
    Address.ofValue value = .ok address →
    ∃ after changed, session.step layout (.setAddress target given) name? =
        (.ok (.endpoint buffer), after) ∧
      after.contents buffer = endpoint.octets.take 8 ++
        (address.octets ++ endpoint.octets.drop 24) ∧
      (∀ other ≠ buffer, after.contents other = opened.contents other) ∧
      after.value (.endpoint buffer) = .endpoint changed ∧ changed.address = address
  addressRefused : ∀ target given name? opened buffer endpoint value fault,
    session.Gives target given opened buffer (Endpoint.record endpoint) value →
    Address.ofValue value = .error fault →
    session.step layout (.setAddress target given) name? = (.error fault, session)
  /-- In either order each setter has the same outcome, and the same session is left. -/
  commute : ∀ name buffer record port address, session.Binds name buffer record →
    let setPort := Action.setPort (.register name) (.given port)
    let setAddress := Action.setAddress (.register name) (.given address)
    session.run layout [(setPort, none), (setAddress, none)] =
        session.run layout [(setAddress, none), (setPort, none)] ∧
      ((session.step layout setAddress none).2.step layout setPort none).1 =
        (session.step layout setPort none).1 ∧
      ((session.step layout setPort none).2.step layout setAddress none).1 =
        (session.step layout setAddress none).1
  /-- A later setter that succeeds leaves nothing of an earlier one of the same field. -/
  override : ∀ setter name buffer record value later object, session.Binds name buffer record →
    let earlier := Setter.action setter (.register name) (.given value)
    let last := Setter.action setter (.register name) (.given later)
    ((session.step layout earlier none).2.step layout last none).1 = .ok object →
    session.run layout [(earlier, none), (last, none)] = session.run layout [(last, none)]

theorem setters_exact_and_atomic (layout : Layout) (session : Session) :
    session.SetsExactly layout where
  portSet target given name? opened buffer endpoint value number gives isPort := by
    rcases isPort.exists_port with ⟨port, rfl⟩
    have accepted : Setter.port.taken value = .ok (Octets.bigEndian 2 port.toNat) := by
      rw [Setter.taken, (Endpoint.portOf_eq_ok_iff value port).mpr isPort, Except.map]
    rcases gives.step_of_taken layout accepted name? with ⟨after, done, contents, others⟩
    have whole : after.contents buffer = (endpoint.withPort port).octets := contents
    refine ⟨after, endpoint.withPort port, done, ?_, others, value_endpoint_eq_iff.mpr whole, ?_⟩
    · rw [whole]
      exact Record.octets_withPort endpoint.record port
    · exact congrArg UInt16.toNat (Record.port_withPort endpoint.record port)
  portRefused target given name? opened buffer endpoint value gives none := by
    cases outcome : Endpoint.portOf value with
    | ok port => exact absurd ((Endpoint.portOf_eq_ok_iff value port).mp outcome) (none port.toNat)
    | error fault =>
      rcases Endpoint.exists_refusal_of_portOf outcome with ⟨refusal, rfl, kind⟩
      have failed : Setter.port.taken value = .error (.refused refusal) := by
        rw [Setter.taken, outcome, Except.map]
      exact ⟨refusal, gives.step_of_error layout failed name?, kind⟩
  addressSet target given name? opened buffer endpoint value address gives taken := by
    have accepted : Setter.address.taken value = .ok address.octets := by
      rw [Setter.taken, taken, Except.map]
    rcases gives.step_of_taken layout accepted name? with ⟨after, done, contents, others⟩
    have whole : after.contents buffer = (endpoint.withAddress address).octets := contents
    refine ⟨after, endpoint.withAddress address, done, ?_, others,
      value_endpoint_eq_iff.mpr whole, Record.address_withAddress endpoint.record address⟩
    rw [whole]
    exact Record.octets_withAddress endpoint.record address
  addressRefused target given name? opened buffer endpoint value fault gives failed := by
    have refused : Setter.address.taken value = .error fault := by
      rw [Setter.taken, failed, Except.map]
    exact gives.step_of_error layout refused name?
  commute name buffer record port address binds := by
    have portFirst := binds.step_step layout .port .address port address
    have addressFirst := binds.step_step layout .address .port address port
    have same := Setter.put_comm (nofun : Setter.port ≠ Setter.address) record port address
    refine ⟨?_, ?_, ?_⟩
    · calc
        _ = session.store buffer (Setter.address.put (Setter.port.put record port) address).octets :=
          congrArg Prod.snd portFirst
        _ = _ := by
          rw [same]
          exact (congrArg Prod.snd addressFirst).symm
    · exact (congrArg Prod.fst addressFirst).trans
        (congrArg Prod.fst (binds.step_eq layout .port port)).symm
    · exact (congrArg Prod.fst portFirst).trans
        (congrArg Prod.fst (binds.step_eq layout .address address)).symm
  override setter name buffer record value later object binds := by
    intro earlier last done
    have both := binds.step_step layout setter setter value later
    have alone := binds.step_eq layout setter later
    rw [both] at done
    rcases map_eq_ok_iff.mp done with ⟨octets, accepted, _⟩
    calc
      _ = session.store buffer (setter.put (setter.put record value) later).octets :=
        congrArg Prod.snd both
      _ = _ := by
        rw [Setter.put_put accepted]
        exact (congrArg Prod.snd alone).symm

/-- An endpoint whose octets are of no layout. -/
def scribbled : Record := ⟨(List.range 28).map UInt8.ofNat, by decide⟩

def holdingScribbled : Session := ⟨[scribbled.octets], [("server", .endpoint 0)]⟩

theorem setters_exact_and_atomic_scribbled :
    (∃ after, holdingScribbled.step .bsd
        (.setPort (.register "server") (.given (.integer 443))) none = (.ok (.endpoint 0), after) ∧
      after.contents 0 = [0, 1, 1, 187] ++ scribbled.octets.drop 4) ∧
    (∃ refusal, holdingScribbled.step .bsd
        (.setPort (.register "server") (.given (.boolean true))) none =
          (.error (.refused refusal), holdingScribbled) ∧ refusal.kind = .invalidArgument) ∧
    (∃ after, holdingScribbled.step .systemV
        (.setAddress (.register "server") (.given (.text "::1"))) none = (.ok (.endpoint 0), after) ∧
      after.contents 0 = scribbled.octets.take 8 ++ (Octets.zeros 15 ++ [1] ++ [24, 25, 26, 27])) ∧
    holdingScribbled.step .systemV
        (.setAddress (.register "server") (.given (.integer 5))) none =
      (refuse (.integerAsAddress (.integer 5)), holdingScribbled) ∧
    holdingScribbled.run .bsd
        [(.setPort (.register "server") (.given (.integer 80)), none),
          (.setPort (.register "server") (.given (.integer 443)), none)] =
      holdingScribbled.run .bsd [(.setPort (.register "server") (.given (.integer 443)), none)] := by
  have binds : holdingScribbled.Binds "server" 0 scribbled := ⟨rfl, rfl⟩
  have bsd := setters_exact_and_atomic .bsd holdingScribbled
  have systemV := setters_exact_and_atomic .systemV holdingScribbled
  refine ⟨?_, ?_, ?_, ?_, ?_⟩
  · have isPort : Value.IsPort (.integer 443) 443 := ⟨.integer 443, by decide⟩
    rcases bsd.portSet _ _ none _ 0 ⟨scribbled⟩ _ 443 (binds.gives _) isPort with
      ⟨after, _, done, contents, _⟩
    exact ⟨after, done, contents⟩
  · apply bsd.portRefused _ _ none _ 0 ⟨scribbled⟩ _ (binds.gives _)
    rintro number ⟨counts, _⟩
    cases counts
  · rcases systemV.addressSet _ _ none _ 0 ⟨scribbled⟩ _ .loopback (binds.gives (.text "::1")) rfl
      with ⟨after, _, done, contents, _⟩
    exact ⟨after, done, contents⟩
  · exact systemV.addressRefused _ _ none _ 0 ⟨scribbled⟩ _ _ (binds.gives (.integer 5)) rfl
  · exact bsd.override .port "server" 0 scribbled (.integer 80) (.integer 443) (.endpoint 0) binds rfl

end Session

end IPv6
