import IPv6.Proofs.Session.Setters
import IPv6.Proofs.SocketAddress.Contents
/-!
Records viewed in a buffer. Each field of the view is a lens of its own: what fits the field is read as it
was written, no octet outside of the field changes, what is read may be written back, a later value leaves
nothing of an earlier one, and writes to different fields commute.
-/

namespace IPv6.Session

/-- The session after a field is written through the view of an object as a record. -/
def writeField (layout : Layout) (session : Session) (object : Object) (field : Field)
    (given : Value) : Except Fault Session :=
  (setRecordField layout session object (.text field.name) given).map fun (_, changed) => changed

/-- What a field of the view reads. -/
def readField (layout : Layout) (session : Session) (object : Object) (field : Field) :
    Except Fault Value := do
  let record ← recordView (session.value object)
  loadNamed layout record field.name

/-- The octets of the object can be written, and they are those of a record. -/
structure Views (session : Session) (object : Object) (buffer : Nat) (record : Record) : Prop where
  writable : writable? object = some buffer
  found : session.contents buffer = record.octets

variable {layout : Layout} {field other : Field} {slot slot' : Slot} {session : Session}
  {object : Object} {buffer : Nat} {record : Record} {given given' content content' : Value}

namespace Views

theorem store (views : session.Views object buffer record) (changed : Record) :
    (session.store buffer changed.octets).Views object buffer changed where
  writable := views.writable
  found := contents_store_self (lt_of_contents_record views.found) changed.octets

theorem readField_eq (views : session.Views object buffer record) (layout : Layout)
    (field : Field) :
    session.readField layout object field = loadNamed layout record field.name := by
  rw [readField, (recordView_eq_ok_iff views.writable).mpr views.found, ok_bind]

theorem writeField_eq (views : session.Views object buffer record) (layout : Layout)
    (field : Field) (given : Value) :
    session.writeField layout object field given =
      (storeNamed layout record field.name given).map fun changed =>
        session.store buffer changed.octets := by
  rw [writeField, setRecordField, (recordView_eq_ok_iff views.writable).mpr views.found, ok_bind,
    views.writable]
  simp only [fieldName, ok_bind]
  cases storeNamed layout record field.name given <;> rfl

end Views

/-- What fits the field takes the place of its octets in every buffer that is viewed. -/
theorem exists_octets_of_fits (found : layout.slot? field = some slot)
    (fits : field.Fits slot given content) :
    ∃ octets : Octets, octets.length = slot.size ∧ field.content slot octets = content ∧
      ∀ {session : Session} {object buffer record}, session.Views object buffer record →
        session.writeField layout object field given =
          .ok (session.store buffer (record.replace slot.offset octets).octets) := by
  rcases fits.exists_octets found with ⟨octets, whole, same, stores⟩
  refine ⟨octets, whole, same, fun {session object buffer record} views => ?_⟩
  rw [views.writeField_eq, stores record]
  rfl

/-- What follows a write through the view: what is read there, the octets that say it, and no other octet,
field or buffer changed. -/
structure Written (layout : Layout) (field : Field) (slot : Slot) (session : Session)
    (object : Object) (buffer : Nat) (content : Value) (changed : Session) : Prop where
  read : changed.readField layout object field = .ok content
  shows : field.Shows (((changed.contents buffer).drop slot.offset).take slot.size) content
  outside : ∀ place, place < slot.offset ∨ slot.offset + slot.size ≤ place →
    (changed.contents buffer)[place]? = (session.contents buffer)[place]?
  others : ∀ other ≠ field,
    changed.readField layout object other = session.readField layout object other
  buffers : ∀ place ≠ buffer, changed.contents place = session.contents place

/-- A field of the view as a lens on the buffer: what is read fits, and may be written back. -/
structure IsLens (layout : Layout) (field : Field) (slot : Slot) (session : Session)
    (object : Object) (buffer : Nat) : Prop where
  written : ∀ given content, field.Fits slot given content →
    ∃ changed, session.writeField layout object field given = .ok changed ∧
      Written layout field slot session object buffer content changed
  restored : ∃ content, session.readField layout object field = .ok content ∧
    (∃ given, field.Fits slot given content) ∧
    ∀ given, field.Fits slot given content →
      session.writeField layout object field given = .ok session
  overwritten : ∀ given content given' content', field.Fits slot given content →
    field.Fits slot given' content' →
    (session.writeField layout object field given >>= fun changed =>
      changed.writeField layout object field given') =
        session.writeField layout object field given'
  commutes : ∀ other slot', layout.slot? other = some slot' → other ≠ field →
    ∀ given content given' content', field.Fits slot given content →
    other.Fits slot' given' content' →
    ∃ both,
      (session.writeField layout object field given >>= fun changed =>
        changed.writeField layout object other given') = .ok both ∧
      (session.writeField layout object other given' >>= fun changed =>
        changed.writeField layout object field given) = .ok both

section Laws

variable (views : session.Views object buffer record) (found : layout.slot? field = some slot)

include views found

theorem Views.written (fits : field.Fits slot given content) :
    ∃ changed, session.writeField layout object field given = .ok changed ∧
      Written layout field slot session object buffer content changed := by
  rcases exists_octets_of_fits found fits with ⟨octets, whole, rfl, writes⟩
  have inside : slot.offset + octets.length ≤ 28 := by
    rw [whole]
    exact Layout.slot_fits found
  have after := views.store (record.replace slot.offset octets)
  have own : (record.replace slot.offset octets).segment slot.offset slot.size = octets := by
    rw [← whole]
    exact record.segment_replace inside
  refine ⟨_, writes views, ?_⟩
  constructor
  case read =>
    rw [after.readField_eq, Field.loadNamed_name, found]
    dsimp only
    rw [own]
  case shows =>
    rw [after.found]
    show field.Shows ((record.replace slot.offset octets).segment slot.offset slot.size) _
    rw [own]
    exact Field.shows_content found octets
  case outside =>
    intro place outside
    rw [after.found, views.found, record.getElem?_replace inside, whole, if_neg (by omega)]
  case others =>
    intro other different
    rw [after.readField_eq, views.readField_eq, Field.loadNamed_name, Field.loadNamed_name]
    cases found' : layout.slot? other with
    | none => rfl
    | some slot' =>
      have apart := Layout.slots_apart found found' different.symm
      rw [Slot.Apart, ← whole] at apart
      dsimp only
      rw [record.segment_replace_apart inside apart]
  case buffers => exact fun place different => contents_store_of_ne session different _

theorem Views.restored :
    ∃ content, session.readField layout object field = .ok content ∧
      (∃ given, field.Fits slot given content) ∧
      ∀ given, field.Fits slot given content →
        session.writeField layout object field given = .ok session := by
  have inside := Layout.slot_fits found
  have whole := record.length_segment inside
  refine ⟨field.content slot (record.segment slot.offset slot.size), ?_,
    Field.exists_fits_content found whole, ?_⟩
  · rw [views.readField_eq, Field.loadNamed_name, found]
  · intro given fits
    rcases exists_octets_of_fits found fits with ⟨octets, whole', same, writes⟩
    cases Field.content_injective (whole'.trans whole.symm) same
    rw [writes views, record.replace_segment inside, ← views.found,
      store_contents (lt_of_contents_record views.found)]

theorem Views.overwritten (fits : field.Fits slot given content)
    (fits' : field.Fits slot given' content') :
    (session.writeField layout object field given >>= fun changed =>
      changed.writeField layout object field given') =
        session.writeField layout object field given' := by
  rcases exists_octets_of_fits found fits with ⟨octets, whole, -, writes⟩
  rcases exists_octets_of_fits found fits' with ⟨octets', whole', -, writes'⟩
  have inside : slot.offset + octets.length ≤ 28 := by
    rw [whole]
    exact Layout.slot_fits found
  rw [writes views, ok_bind, writes' (views.store _), store_store,
    record.replace_replace inside (whole'.trans whole.symm), writes' views]

theorem Views.commutes (found' : layout.slot? other = some slot') (different : other ≠ field)
    (fits : field.Fits slot given content) (fits' : other.Fits slot' given' content') :
    ∃ both,
      (session.writeField layout object field given >>= fun changed =>
        changed.writeField layout object other given') = .ok both ∧
      (session.writeField layout object other given' >>= fun changed =>
        changed.writeField layout object field given) = .ok both := by
  rcases exists_octets_of_fits found fits with ⟨octets, whole, -, writes⟩
  rcases exists_octets_of_fits found' fits' with ⟨octets', whole', -, writes'⟩
  have inside := Layout.slot_fits found
  have inside' := Layout.slot_fits found'
  have apart := Layout.slots_apart found found' different.symm
  rw [Slot.Fits, ← whole] at inside
  rw [Slot.Fits, ← whole'] at inside'
  rw [Slot.Apart, ← whole, ← whole'] at apart
  refine ⟨session.store buffer
    ((record.replace slot.offset octets).replace slot'.offset octets').octets, ?_, ?_⟩
  · rw [writes views, ok_bind, writes' (views.store _), store_store]
  · rw [writes' views, ok_bind, writes (views.store _), store_store,
      record.replace_comm inside inside' apart]

end Laws

theorem fields_are_lenses (views : session.Views object buffer record)
    (found : layout.slot? field = some slot) : IsLens layout field slot session object buffer where
  written _ _ fits := views.written found fits
  restored := views.restored found
  overwritten _ _ _ _ fits fits' := views.overwritten found fits fits'
  commutes _ _ found' different _ _ _ _ fits fits' := views.commutes found found' different fits fits'

def viewingScribbled : Session := ⟨[[1, 2, 3], scribbled.octets], [("view", .view 1)]⟩

theorem fields_are_lenses_scribbled :
    IsLens .bsd .scope ⟨24, 4, .leastFirst⟩ viewingScribbled (.view 1) 1 ∧
    IsLens .systemV .address ⟨8, 16, .mostFirst⟩ viewingScribbled (.view 1) 1 ∧
    Field.Fits ⟨24, 4, .leastFirst⟩ .scope (.integer 0x01020304) (.integer 0x01020304) ∧
    Field.Shows .scope [4, 3, 2, 1] (.integer 0x01020304) ∧
    Field.Shows .flow [1, 2, 3, 4] (.integer 0x01020304) := by
  have views : viewingScribbled.Views (.view 1) 1 scribbled := ⟨rfl, rfl⟩
  refine ⟨fields_are_lenses views rfl, fields_are_lenses views rfl, ?_, ?_, ?_⟩
  · exact @Field.Fits.number _ _ _ 0x01020304 nofun (.integer _) (by decide)
  · exact @Field.Shows.hostOrder _ _ 0x01020304 (by decide) ⟨by decide, by decide⟩
  · exact @Field.Shows.networkOrder _ _ 0x01020304 (by decide) ⟨by decide, by decide⟩

end IPv6.Session
