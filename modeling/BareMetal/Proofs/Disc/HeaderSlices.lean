import BareMetal.Proofs.Disc.BootHeader

/-!
# The slices of a boot header

A header is built by copying values and digits into slices of it.  The values that a description
gives fit their fields, and the fields and the digits lie within the first 256 bytes, so no slice
reaches outside its data and no copy has another length than its slice (`buildChecked_eq`).
-/

namespace BareMetal.Disc.BootHeader

/-! ## Checked slices -/

/-- `data` with `piece` copied over the `length` bytes at `offset`, which have to be there and to be
as many as the piece has. -/
def copyInto (data : Bytes) (offset length : Nat) (piece : Bytes) : Except Fault Bytes :=
  if offset + length ≤ data.size ∧ piece.size = length then .ok (Bytes.splice data offset piece)
  else .error .outOfRange

/-- A field is filled with blanks and the value copied into it, every slice checked. -/
def setFieldChecked (data : Bytes) (f : Field) (value : String) : Except Fault Bytes := do
  let slot ← Bytes.cut data f.offset f.length
  let filled ← copyInto (Array.replicate slot.size 0x20) 0 value.utf8ByteSize (Bytes.ofText value)
  copyInto data f.offset f.length filled

/-- What the digits of a header say, and the header with its digits brought up to date, every slice
checked. -/
def updateDigitsChecked (data : Bytes) (crc : UInt16) : Except Fault (Option UInt16 × Bytes) := do
  let digits ← Bytes.cut data crcOffset 4
  let previousCrc :=
    (Numeral.read? 16 (digits.toList.map fun b => Char.ofNat b.toNat)).map UInt16.ofNat
  let updated ← if previousCrc = some crc then .ok data
    else copyInto data crcOffset 4 (crcDigits crc)
  return (previousCrc, updated)

/-- A header is built, every slice checked. -/
def buildChecked (template : Bytes) (text : String) : Except Fault (Except Error Built) :=
  if template.size ≠ fileSize then .ok (.error (.templateSize fileSize template.size))
  else match Description.parse text with
    | .error e => .ok (.error e)
    | .ok values => do
      let data ← values.foldlM (fun d (field, value) => setFieldChecked d field value) template
      let crc ← crc data
      let (previousCrc, data) ← updateDigitsChecked data crc
      return .ok {
        data
        crc
        previousCrc
        values
        unset := Field.all.filter fun f => values.all fun (g, _) => g ≠ f }

section

variable {data piece : Bytes} {values : List (Field × String)}

theorem copyInto_of_le {offset length : Nat} (inside : offset + length ≤ data.size)
    (size : piece.size = length) :
    copyInto data offset length piece = .ok (Bytes.splice data offset piece) :=
  if_pos ⟨inside, size⟩

theorem setFieldChecked_eq (long : 0x100 ≤ data.size) {f : Field} {value : String}
    (fits : value.utf8ByteSize ≤ f.length) :
    setFieldChecked data f value = .ok (setField data f value) := by
  have inside : f.offset + f.length ≤ data.size := f.stop_le.trans long
  have filled_eq : Bytes.splice (Array.replicate f.length 0x20) 0 (Bytes.ofText value) =
      Bytes.ofText value ++ Array.replicate (f.length - value.utf8ByteSize) 0x20 := by
    simp [Bytes.splice, Bytes.size_ofText]
  have slot_size : (Bytes.slice data f.offset f.length).size = f.length := Bytes.size_slice inside
  have filled_ok : copyInto (Array.replicate f.length 0x20) 0 value.utf8ByteSize
      (Bytes.ofText value) =
      .ok (Bytes.ofText value ++ Array.replicate (f.length - value.utf8ByteSize) 0x20) := by
    rw [copyInto_of_le (by simpa using fits) (Bytes.size_ofText value), filled_eq]
  have placed : copyInto data f.offset f.length
      (Bytes.ofText value ++ Array.replicate (f.length - value.utf8ByteSize) 0x20) =
      .ok (setField data f value) := copyInto_of_le inside (size_fieldContent fits)
  rw [setFieldChecked, Bytes.cut_of_le inside]
  simp only [Outcome.ok_bind, slot_size, filled_ok, placed]

theorem foldlM_setFieldChecked (long : 0x100 ≤ data.size)
    (fit : ∀ p ∈ values, p.2.utf8ByteSize ≤ p.1.length) :
    values.foldlM (fun d (f, value) => setFieldChecked d f value) data =
      .ok (setFields data values) := by
  induction values generalizing data with
  | nil => rfl
  | cons p rest ih =>
    obtain ⟨f, value⟩ := p
    have fits : value.utf8ByteSize ≤ f.length := fit (f, value) List.mem_cons_self
    have others : ∀ q ∈ rest, q.2.utf8ByteSize ≤ q.1.length :=
      fun q mem => fit q (List.mem_cons_of_mem _ mem)
    rw [List.foldlM_cons]
    simp only [setFieldChecked_eq long fits]
    exact ih (by rwa [size_setField long fits]) others

theorem updateDigitsChecked_eq (long : 0x100 ≤ data.size) (crc : UInt16) :
    updateDigitsChecked data crc = .ok (storedCrc data, updateDigits data crc) := by
  have inside : crcOffset + 4 ≤ data.size := by
    rw [crcOffset]
    omega
  rw [updateDigitsChecked, Bytes.cut_of_le inside, Outcome.ok_bind, ← storedCrc, updateDigits,
    copyInto_of_le inside (size_crcDigits crc)]
  by_cases stored : storedCrc data = some crc
  · simp only [if_pos stored]
    rfl
  · simp only [if_neg stored]
    rfl

end

/-- No slice that is taken to build a header reaches outside its data. -/
theorem buildChecked_eq (template : Bytes) (text : String) :
    buildChecked template text = .ok (build template text) := by
  by_cases size : template.size = fileSize
  · rw [buildChecked, if_neg (not_not.2 size), build_of_size size]
    cases parsed : Description.parse text with
    | error e => rfl
    | ok values =>
      have fit := Description.size_le_of_parse parsed
      have long := le_size_of_eq size
      have set_long := le_size_setFields long fit
      simp only [foldlM_setFieldChecked long fit, Outcome.ok_bind, crc_of_le set_long,
        updateDigitsChecked_eq set_long]
      rfl
  · rw [buildChecked, if_pos size, build, if_pos size]
    rfl

end BareMetal.Disc.BootHeader
