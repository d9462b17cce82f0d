import BareMetal.Disc.BootHeader
import BareMetal.Proofs.Outcome
import BareMetal.Proofs.Text.Digits

/-!
# What a boot header holds

The fields of a header lie apart, so that a byte of a header belongs to one field at most.  A field
that a description sets holds the last value given for it and blanks behind it; whatever no field
set covers, the digits of the check value aside, is that of the template (`build_sets_fields`).
-/

namespace BareMetal.Disc

/-! ## Fields by position -/

namespace Field

/-- The byte at offset `o` of a header belongs to the field. -/
def Covers (f : Field) (o : Nat) : Prop := f.offset ≤ o ∧ o < f.offset + f.length

instance (f : Field) (o : Nat) : Decidable (f.Covers o) := inferInstanceAs (Decidable (_ ∧ _))

theorem stop_le (f : Field) : f.offset + f.length ≤ 0x100 := by cases f <;> decide

theorem apart {f g : Field} (h : f ≠ g) :
    f.offset + f.length ≤ g.offset ∨ g.offset + g.length ≤ f.offset := by
  have check : ∀ f ∈ all, ∀ g ∈ all, f ≠ g →
      f.offset + f.length ≤ g.offset ∨ g.offset + g.length ≤ f.offset := by decide
  exact check f (mem_all f) g (mem_all g) h

theorem Covers.eq {f g : Field} {o : Nat} (hf : f.Covers o) (hg : g.Covers o) : f = g := by
  by_contra h
  unfold Covers at hf hg
  rcases apart h with before | behind <;> omega

end Field

/-! ## Values that a description gives -/

namespace Description

/-- The value if it is ASCII and fits the field. -/
def accept (f : Field) (value : String) : Except Error String :=
  if value.toList.any fun c => 0x80 ≤ c.toNat then .error (.notAscii f value)
  else if f.length < value.utf8ByteSize then .error (.fieldTooLong f value)
  else .ok value

theorem checkValue_eq (f : Field) (given : String) : checkValue f given =
    ((if f = .areaSymbols then positionalAreas given else .ok given) >>= accept f) := by
  have unfolded : checkValue f given = if f = .areaSymbols then positionalAreas given >>= accept f
      else Except.ok given >>= accept f := rfl
  rw [unfolded]
  split_ifs <;> rfl

theorem size_le_of_accept {f : Field} {given value : String} (h : accept f given = .ok value) :
    value.utf8ByteSize ≤ f.length := by
  unfold accept at h
  split_ifs at h with wide long
  obtain rfl := Except.ok.inj h
  exact Nat.not_lt.1 long

theorem size_le_of_readLine {number : Nat} {line : List Char} {f : Field} {value : String}
    (h : readLine number line = .ok (f, value)) : value.utf8ByteSize ≤ f.length := by
  unfold readLine at h
  split at h
  · cases h
  · simp only at h
    split at h
    · cases h
    · obtain ⟨checked, checked_ok, pair_eq⟩ := Outcome.bind_eq_ok_iff.1 h
      cases pair_eq
      rw [checkValue_eq] at checked_ok
      obtain ⟨_, -, accepted⟩ := Outcome.bind_eq_ok_iff.1 checked_ok
      exact size_le_of_accept accepted

/-- Every value that is accepted fits its field. -/
theorem size_le_of_parse {text : String} {values : List (Field × String)}
    (h : parse text = .ok values) : ∀ p ∈ values, p.2.utf8ByteSize ≤ p.1.length := by
  intro p mem
  obtain ⟨⟨number, line⟩, -, read⟩ := Outcome.exists_of_mem_mapM h mem
  exact size_le_of_readLine read

end Description

namespace BootHeader

/-- A header file is long enough for all fields. -/
theorem le_size_of_eq {data : Bytes} (size : data.size = fileSize) : 0x100 ≤ data.size := by
  rw [size]
  decide

/-! ## Setting fields -/

/-- The byte of a value at a position, or a blank behind its end. -/
def valueByte (value : String) (i : Nat) : UInt8 := ((Bytes.ofText value)[i]?).getD 0x20

/-- The header with all fields set, one after the other. -/
def setFields (data : Bytes) (values : List (Field × String)) : Bytes :=
  values.foldl (fun d (field, value) => setField d field value) data

section

variable {data : Bytes} {f : Field} {value : String} {o : Nat}

theorem size_fieldContent (fits : value.utf8ByteSize ≤ f.length) :
    (Bytes.ofText value ++ Array.replicate (f.length - value.utf8ByteSize) 0x20).size =
      f.length := by
  rw [Array.size_append, Array.size_replicate, Bytes.size_ofText]
  omega

theorem getElem?_fieldContent (fits : value.utf8ByteSize ≤ f.length) {i : Nat} (hi : i < f.length) :
    (Bytes.ofText value ++ Array.replicate (f.length - value.utf8ByteSize) 0x20)[i]? =
      some (valueByte value i) := by
  rw [Array.getElem?_append, Array.getElem?_replicate, Bytes.size_ofText, valueByte]
  split_ifs with inside
  · rw [← Bytes.size_ofText] at inside
    rw [Array.getElem?_eq_getElem inside, Option.getD_some]
  · rw [← Bytes.size_ofText] at inside
    rw [Array.getElem?_eq_none (Nat.not_lt.1 inside), Option.getD_none]
  · omega

theorem size_setField (long : 0x100 ≤ data.size) (fits : value.utf8ByteSize ≤ f.length) :
    (setField data f value).size = data.size := by
  apply Bytes.size_splice
  rw [size_fieldContent fits]
  exact f.stop_le.trans long

theorem getElem?_setField_of_covers (long : 0x100 ≤ data.size)
    (fits : value.utf8ByteSize ≤ f.length) (covers : f.Covers o) :
    (setField data f value)[o]? = some (valueByte value (o - f.offset)) := by
  have stop_le := f.stop_le
  unfold Field.Covers at covers
  rw [setField, Bytes.getElem?_splice (by omega), size_fieldContent fits, if_neg (by omega),
    if_pos covers.2, getElem?_fieldContent fits (by omega)]

theorem getElem?_setField_of_not_covers (long : 0x100 ≤ data.size)
    (fits : value.utf8ByteSize ≤ f.length) (outside : ¬ f.Covers o) :
    (setField data f value)[o]? = data[o]? := by
  have stop_le := f.stop_le
  unfold Field.Covers at outside
  apply Bytes.getElem?_splice_of_apart
  · omega
  · rw [size_fieldContent fits]
    omega

end

section

variable {data : Bytes} {values : List (Field × String)} {o : Nat}

theorem size_setFields (long : 0x100 ≤ data.size)
    (fit : ∀ p ∈ values, p.2.utf8ByteSize ≤ p.1.length) :
    (setFields data values).size = data.size := by
  induction values generalizing data with
  | nil => rfl
  | cons p rest ih =>
    have size_eq := size_setField long (fit p (by simp))
    rw [setFields, List.foldl_cons, ← setFields, ih (by rwa [size_eq])
      fun q mem => fit q (by simp [mem]), size_eq]

theorem le_size_setFields (long : 0x100 ≤ data.size)
    (fit : ∀ p ∈ values, p.2.utf8ByteSize ≤ p.1.length) : 0x100 ≤ (setFields data values).size := by
  rwa [size_setFields long fit]

theorem getElem?_setFields_of_not_covers (long : 0x100 ≤ data.size)
    (fit : ∀ p ∈ values, p.2.utf8ByteSize ≤ p.1.length) (outside : ∀ p ∈ values, ¬ p.1.Covers o) :
    (setFields data values)[o]? = data[o]? := by
  induction values generalizing data with
  | nil => rfl
  | cons p rest ih =>
    have fits := fit p (by simp)
    rw [setFields, List.foldl_cons, ← setFields, ih (by rwa [size_setField long fits])
      (fun q mem => fit q (by simp [mem])) (fun q mem => outside q (by simp [mem])),
      getElem?_setField_of_not_covers long fits (outside p (by simp))]

/-- The last value of a field replaces whatever the earlier ones have left. -/
theorem getElem?_setFields_of_last {before after : List (Field × String)} {f : Field}
    {value : String} (long : 0x100 ≤ data.size)
    (fit : ∀ p ∈ before ++ (f, value) :: after, p.2.utf8ByteSize ≤ p.1.length)
    (last : ∀ later, (f, later) ∉ after) (covers : f.Covers o) :
    (setFields data (before ++ (f, value) :: after))[o]? =
      some (valueByte value (o - f.offset)) := by
  have fits : value.utf8ByteSize ≤ f.length := fit (f, value) (by simp)
  have fit_before : ∀ p ∈ before, p.2.utf8ByteSize ≤ p.1.length :=
    fun p mem => fit p (by simp [mem])
  have fit_after : ∀ p ∈ after, p.2.utf8ByteSize ≤ p.1.length := fun p mem => fit p (by simp [mem])
  have long_before := le_size_setFields long fit_before
  have outside : ∀ p ∈ after, ¬ p.1.Covers o := by
    rintro ⟨g, later⟩ mem covers'
    obtain rfl := covers.eq covers'
    exact last later mem
  rw [setFields, List.foldl_append, List.foldl_cons, ← setFields, ← setFields,
    getElem?_setFields_of_not_covers (by rwa [size_setField long_before fits]) fit_after outside,
    getElem?_setField_of_covers long_before fits covers]

end

/-! ## The digits of the check value -/

/-- The byte at offset `o` is one of the four digits of the check value. -/
def IsDigit (o : Nat) : Prop := crcOffset ≤ o ∧ o < crcOffset + 4

instance (o : Nat) : Decidable (IsDigit o) := inferInstanceAs (Decidable (_ ∧ _))

/-- The header with its digits brought up to date. -/
def updateDigits (data : Bytes) (crc : UInt16) : Bytes :=
  if storedCrc data = some crc then data else Bytes.splice data crcOffset (crcDigits crc)

theorem size_crcDigits (crc : UInt16) : (crcDigits crc).size = 4 :=
  Bytes.size_ofText_hexPad crc.toNat_lt

/-- The part that the check value is taken of lies among the fields. -/
theorem crc_of_le {data : Bytes} (long : 0x100 ≤ data.size) :
    crc data = .ok (crc16 (Bytes.slice data checkedOffset checkedLength)) := by
  have inside : checkedOffset + checkedLength ≤ data.size := by
    rw [checkedOffset, checkedLength]
    omega
  rw [crc, if_pos inside]

section

variable {data : Bytes} {crc : UInt16}

theorem size_updateDigits (long : 0x100 ≤ data.size) :
    (updateDigits data crc).size = data.size := by
  unfold updateDigits
  split
  · rfl
  · apply Bytes.size_splice
    rw [size_crcDigits, crcOffset]
    omega

theorem getElem?_updateDigits (long : 0x100 ≤ data.size) {o : Nat} (other : ¬ IsDigit o) :
    (updateDigits data crc)[o]? = data[o]? := by
  unfold updateDigits
  split
  · rfl
  · unfold IsDigit crcOffset at other
    apply Bytes.getElem?_splice_of_apart
    · rw [crcOffset]
      omega
    · rw [size_crcDigits, crcOffset]
      omega

/-- The digits stand outside the part that the check value is taken of. -/
theorem slice_updateDigits (long : 0x100 ≤ data.size) :
    Bytes.slice (updateDigits data crc) checkedOffset checkedLength =
      Bytes.slice data checkedOffset checkedLength := by
  unfold updateDigits
  split
  · rfl
  · apply Bytes.slice_splice_of_apart
    · rw [crcOffset]
      omega
    · rw [size_crcDigits]
      decide

end

/-! ## Building a header -/

/-- The finished header of a template and the values of a description. -/
def finished (template : Bytes) (values : List (Field × String)) : Built where
  data := updateDigits (setFields template values)
    (crc16 (Bytes.slice (setFields template values) checkedOffset checkedLength))
  crc := crc16 (Bytes.slice (setFields template values) checkedOffset checkedLength)
  previousCrc := storedCrc (setFields template values)
  values
  unset := Field.all.filter fun f => values.all fun (g, _) => g ≠ f

theorem build_of_size {template : Bytes} (size : template.size = fileSize) (text : String) :
    build template text = (Description.parse text).map (finished template) := by
  rw [build, if_neg (not_not.2 size)]
  generalize Description.parse text = parsed
  cases parsed <;> rfl

theorem eq_finished_of_build {template : Bytes} {text : String} {built : Built}
    (h : build template text = .ok built) : template.size = fileSize ∧
      ∃ values, Description.parse text = .ok values ∧ built = finished template values := by
  by_cases size : template.size = fileSize
  · rw [build_of_size size, Outcome.map_eq_ok_iff] at h
    obtain ⟨values, parsed, rfl⟩ := h
    exact ⟨size, values, parsed, rfl⟩
  · rw [build, if_pos size] at h
    cases h

/-- What a header holds that is made from a template and some values. -/
structure Holds (template : Bytes) (values : List (Field × String)) (built : Built) : Prop where
  size : built.data.size = 32768
  /-- A field that is set holds the last value given for it. -/
  last : ∀ before f value after, values = before ++ (f, value) :: after →
    (∀ later, (f, later) ∉ after) → ∀ o, f.Covers o → ¬ IsDigit o →
    built.data[o]? = some (valueByte value (o - f.offset))
  /-- Everything else is that of the template. -/
  kept : ∀ o, (∀ f value, (f, value) ∈ values → ¬ f.Covers o) → ¬ IsDigit o →
    built.data[o]? = template[o]?
  crc : BootHeader.crc built.data = .ok built.crc
  mem_unset : ∀ f, f ∈ built.unset ↔ ∀ value, (f, value) ∉ values
  unset_order : built.unset.Sublist Field.all

theorem holds_finished {template : Bytes} {values : List (Field × String)}
    (size : template.size = 32768) (fit : ∀ p ∈ values, p.2.utf8ByteSize ≤ p.1.length) :
    Holds template values (finished template values) := by
  have long : 0x100 ≤ template.size := by omega
  have set_size : (setFields template values).size = template.size := size_setFields long fit
  have set_long := le_size_setFields long fit
  have final_size : (finished template values).data.size = template.size :=
    (size_updateDigits set_long).trans set_size
  refine ⟨final_size.trans size, ?_, ?_, ?_, ?_, List.filter_sublist⟩
  · rintro before f value after rfl last o covers other
    exact (getElem?_updateDigits set_long other).trans
      (getElem?_setFields_of_last long fit last covers)
  · intro o outside other
    exact (getElem?_updateDigits set_long other).trans
      (getElem?_setFields_of_not_covers long fit fun p mem => outside p.1 p.2 mem)
  · rw [crc_of_le (long.trans_eq final_size.symm)]
    exact congrArg (fun part => Except.ok (crc16 part)) (slice_updateDigits set_long)
  · intro f
    simp only [finished, List.mem_filter, Field.mem_all, true_and, List.all_eq_true,
      decide_eq_true_eq, Prod.forall]
    constructor
    · intro others value mem
      exact others f value mem rfl
    · rintro unset g value mem rfl
      exact unset value mem

theorem holds_of_build {template : Bytes} {text : String} {built : Built}
    (h : build template text = .ok built) : Holds template built.values built := by
  obtain ⟨size, values, parsed, rfl⟩ := eq_finished_of_build h
  exact holds_finished size (Description.size_le_of_parse parsed)

/-- A template of the right size and a description that is accepted give a header whose fields are
those of the description where it sets them and those of the template elsewhere.  Any other template
and any other description are refused. -/
theorem build_sets_fields (template : Bytes) (text : String) :
    (template.size = 32768 → ∀ values, Description.parse text = .ok values →
      ∃ built, build template text = .ok built ∧ Holds template values built) ∧
    (template.size = 32768 → ∀ e, Description.parse text = .error e →
      build template text = .error e) ∧
    (template.size ≠ 32768 →
      build template text = .error (.templateSize 32768 template.size)) := by
  refine ⟨?_, ?_, ?_⟩
  · intro size values parsed
    refine ⟨finished template values, ?_, holds_finished size (Description.size_le_of_parse parsed)⟩
    rw [build_of_size size, parsed]
    rfl
  · intro size e refused
    rw [build_of_size size, refused]
    rfl
  · intro size
    have other : template.size ≠ fileSize := size
    rw [build, if_pos other]
    rfl

/-- The second of two values of a field replaces the longer first one, and the field behind it
keeps what the template has. -/
theorem build_sets_fields_twice : ∃ built,
    build (Array.replicate 32768 0x2A) "Version: LONGER\nVersion: V1" = .ok built ∧
      built.data[0x4B]? = some 0x31 ∧ built.data[0x4C]? = some 0x20 ∧
      built.data[0x50]? = some 0x2A := by
  have size : (Array.replicate 32768 (0x2A : UInt8)).size = 32768 := Array.size_replicate
  have parsed : Description.parse "Version: LONGER\nVersion: V1" =
      .ok [(.version, "LONGER"), (.version, "V1")] := by
    decide +kernel
  obtain ⟨built, built_ok, holds⟩ := (build_sets_fields _ _).1 size _ parsed
  have last := holds.last [(.version, "LONGER")] .version "V1" [] rfl nofun
  refine ⟨built, built_ok, ?_, ?_, ?_⟩
  · rw [last 0x4B (by decide) (by decide)]
    rfl
  · rw [last 0x4C (by decide) (by decide)]
    rfl
  · have outside : ∀ f value, (f, value) ∈ [(Field.version, "LONGER"), (.version, "V1")] →
        ¬ f.Covers 0x50 := by
      intro f value mem
      obtain ⟨rfl, -⟩ : f = .version ∧ (value = "LONGER" ∨ value = "V1") := by
        simpa [← and_or_left] using mem
      decide
    rw [holds.kept 0x50 outside (by decide), Array.getElem?_replicate, if_pos (by decide)]

end BootHeader

end BareMetal.Disc
