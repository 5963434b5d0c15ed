import ReleasePipeline.Proofs.Json.Values
import ReleasePipeline.Json.Record

/-!
# `ReleasePipeline.Proofs.Json.Forms`: values of known types are read back as they were written

`LawfulForm` says of a type that its values survive being written as JSON and read back. A record
has it when its fields have it: `record_reads` leaves one equation for each field, and such an
equation says no more than that the member of the name is there once. An enumeration has it when
the names of its values lead back to them.

With the theorem on whole texts this gives `decode_toJson`: whatever the layout, the bytes of a
rendered value are decoded as the value.
-/

set_option autoImplicit false

namespace ReleasePipeline.Proofs

open Json (readItems readMembers)

/-- Values of a type survive being written as JSON and read back. -/
class LawfulForm (α : Type) [JsonForm α] : Prop where
  /-- A written value has no integer that could not be read. -/
  inRange : ∀ value : α, InRange (toJson value)
  reads : ∀ value : α, ofReading (toJson value).toReading = .ok value

/-- The bytes of a rendered value are decoded as the value. -/
theorem decode_toJson {α : Type} [JsonForm α] [LawfulForm α] (layout : Layout) (value : α) :
    Json.decode ofReading ((toJson value).render layout).toUTF8.data.toList = .ok value := by
  rw [decode_render ofReading layout (LawfulForm.inRange value)]
  exact LawfulForm.reads value

/-! ### Records -/

/-- Members that were written are not at fault themselves. -/
theorem objectFlaw_readMembers (place : Nat) (members : List (String × Json)) :
    Fields.objectFlaw none place (readMembers members) = none := by
  induction members generalizing place with
  | nil => rfl
  | cons member rest ih => exact ih (place + 1)

/-- A record is read when its fields are. -/
theorem record_reads {α : Type} {fields : Fields α} {members : List (String × Json)} {value : α}
    (h : fields.read ⟨readMembers members, true⟩ = .ok value) :
    Fields.record fields (Json.obj members).toReading = .ok value := by
  show Fields.settle (fields.read ⟨readMembers members, true⟩)
    (Fields.objectFlaw none 0 (readMembers members)) = .ok value
  rw [h, objectFlaw_readMembers]
  rfl

section
variable {α β : Type} {members : Members}

/-- The first field is given to the constructor. -/
theorem map_reads {make : α → β} {field : Fields α} {value : α}
    (h : field.read members = .ok value) : (make <$> field).read members = .ok (make value) := by
  show (Fields.apply (Fields.none make) field).read members = _
  simp only [Fields.apply, Fields.none, h]

/-- A further field is given to what the fields before it made. -/
theorem seq_reads {make : Fields (α → β)} {made : α → β} {field : Fields α} {value : α}
    (hmake : make.read members = .ok made) (h : field.read members = .ok value) :
    (make <*> field).read members = .ok (made value) := by
  show (Fields.apply make field).read members = _
  simp only [Fields.apply, hmake, h]

/-- A field is read from the only member of its name. -/
theorem single_reads {name : String} {read : Reading → Except Fault α}
    {absent : Members → Option α} {place : Nat} {reading : Reading} {value : α}
    (hmember : occurrences name 0 members.entries = [(place, reading)])
    (h : read reading = .ok value) :
    (Fields.single name read absent).read members = .ok value := by
  simp only [Fields.single, hmember, h]

/-- A field that must be there is read from the member that holds it. -/
theorem required_reads [JsonForm α] [LawfulForm α] {name : String} {place : Nat} {value : α}
    (hmember : occurrences name 0 members.entries = [(place, (toJson value).toReading)]) :
    (Fields.required name).read members = .ok value :=
  single_reads hmember (LawfulForm.reads value)

/-- So is a field that may be missing, when it is there. -/
theorem optional_reads [JsonForm α] [LawfulForm (Option α)] {name : String} {place : Nat}
    {value : Option α}
    (hmember : occurrences name 0 members.entries = [(place, (toJson value).toReading)]) :
    (Fields.optional name).read members = .ok value :=
  single_reads hmember (LawfulForm.reads value)

end

/-! ### Plain types -/

instance : LawfulForm String where
  inRange _ := trivial
  reads _ := rfl

instance : LawfulForm Bool where
  inRange _ := trivial
  reads _ := rfl

instance : LawfulForm UInt64 where
  inRange value := by
    have hlt := value.toNat_lt
    show minInteger ≤ (value.toNat : Int) ∧ (value.toNat : Int) ≤ maxInteger
    unfold minInteger maxInteger
    omega
  reads value := by
    have hlt := value.toNat_lt
    have hrange : (0 : Int) ≤ value.toNat ∧ (value.toNat : Int) ≤ 18446744073709551615 := by omega
    show (if (0 : Int) ≤ value.toNat ∧ (value.toNat : Int) ≤ 18446744073709551615 then
      Except.ok (UInt64.ofNat (value.toNat : Int).toNat) else .error Fault.wrongShape) = .ok value
    rw [if_pos hrange, Int.toNat_natCast, UInt64.ofNat_toNat]

instance : LawfulForm Int32 where
  inRange value := by
    have hle := value.le_toInt
    have hlt := value.toInt_lt
    show minInteger ≤ value.toInt ∧ value.toInt ≤ maxInteger
    unfold minInteger maxInteger
    omega
  reads value := by
    have hle := value.le_toInt
    have hlt := value.toInt_lt
    have hrange : -2147483648 ≤ value.toInt ∧ value.toInt ≤ 2147483647 := by omega
    show (if -2147483648 ≤ value.toInt ∧ value.toInt ≤ 2147483647 then
      Except.ok (Int32.ofInt value.toInt) else .error Fault.wrongShape) = .ok value
    rw [if_pos hrange, Int32.ofInt_toInt]

/-- Values of a type are never written as `null`, so that it can stand for a missing one. -/
class NeverNull (α : Type) [JsonForm α] : Prop where
  ne_null : ∀ value : α, (toJson value).toReading ≠ .null

instance : NeverNull Int32 where
  ne_null _ h := nomatch h

instance {α : Type} [JsonForm α] [LawfulForm α] [NeverNull α] : LawfulForm (Option α) where
  inRange
    | none => trivial
    | some value => LawfulForm.inRange value
  reads
    | none => rfl
    | some value => by
      have hread : (ofReading (toJson value).toReading).map some = .ok (some value) := by
        rw [LawfulForm.reads]
        rfl
      have hnull := NeverNull.ne_null value
      show ofReading (toJson value).toReading = Except.ok (some value)
      -- Anything but `null` is read as a value.
      cases hreading : (toJson value).toReading with
      | null => exact absurd hreading hnull
      | _ =>
          rw [hreading] at hread
          exact hread

/-- The items of an array are read one after the other. -/
theorem readList_readItems {α : Type} [JsonForm α] [LawfulForm α] (values : List α) :
    readList ofReading none (readItems (values.map toJson)) = .ok values := by
  induction values with
  | nil => rfl
  | cons value rest ih =>
      show readList ofReading none ((toJson value).toReading :: readItems (rest.map toJson)) = _
      rw [readList, LawfulForm.reads, ih]
      rfl

instance {α : Type} [JsonForm α] [LawfulForm α] : LawfulForm (List α) where
  inRange values := by
    show ItemsInRange (values.map toJson)
    induction values with
    | nil => trivial
    | cons value rest ih => exact ⟨LawfulForm.inRange value, ih⟩
  reads values := readList_readItems values

end ReleasePipeline.Proofs
