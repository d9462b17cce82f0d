import BareMetal.Disk.Image
import Mathlib.Data.List.Induction

/-!
# Extents over a content

Extents that are written one after the other over some content replace what they cover, the later
ones before the earlier ones, and leave everything else as it is (`Image.Overlays`).  This is what an
image makes of a device that is large enough (`Image.overlays_writeOver`), and a flattened image is
what its extents make of zeros (`Image.flatten_eq_writeOver`).
-/

namespace BareMetal.Disk

/-- The extent has a byte at offset `i`. -/
def Extent.Covers (e : Extent) (i : Nat) : Prop := e.offset ≤ i ∧ i < e.stop

instance (e : Extent) (i : Nat) : Decidable (e.Covers i) := inferInstanceAs (Decidable (_ ∧ _))

namespace Image

/-- The last of the extents that cover an offset. -/
def lastCovering? (extents : List Extent) (i : Nat) : Option Extent :=
  extents.reverse.find? fun e => e.Covers i

/-- The byte at an offset when the extents have been written over a content. -/
def overlaidByte (extents : List Extent) (old : Bytes) (i : Nat) : Option UInt8 :=
  match lastCovering? extents i with
  | some e => e.data[i - e.offset]?
  | none => old[i]?

/-- The new content has the size of the old one, and each byte of it is that of the last extent that
covers it, or the old one if none does. -/
structure Overlays (extents : List Extent) (old new : Bytes) : Prop where
  size : new.size = old.size
  byte : ∀ i, new[i]? = overlaidByte extents old i

/-! ## The last extent over an offset -/

section

variable {extents : List Extent} {e : Extent} {old : Bytes} {i : Nat}

theorem lastCovering?_eq_some_iff : lastCovering? extents i = some e ↔
    e.Covers i ∧ ∃ before after, extents = before ++ e :: after ∧ ∀ d ∈ after, ¬ d.Covers i := by
  rw [lastCovering?, List.find?_eq_some_iff_append, decide_eq_true_eq]
  refine and_congr_right fun _ => ⟨?_, ?_⟩
  · rintro ⟨after, before, split, none⟩
    refine ⟨before.reverse, after.reverse, ?_, by simpa using none⟩
    simpa using congrArg List.reverse split
  · rintro ⟨before, after, rfl, none⟩
    exact ⟨after.reverse, before.reverse, by simp, by simpa using none⟩

theorem lastCovering?_eq_none_iff :
    lastCovering? extents i = none ↔ ∀ e ∈ extents, ¬ e.Covers i := by
  simp [lastCovering?]

theorem lastCovering?_concat (extents : List Extent) (e : Extent) (i : Nat) :
    lastCovering? (extents ++ [e]) i = if e.Covers i then some e else lastCovering? extents i := by
  by_cases covers : e.Covers i <;> simp [lastCovering?, covers]

theorem overlaidByte_of_last (last : lastCovering? extents i = some e) :
    overlaidByte extents old i = e.data[i - e.offset]? := by
  rw [overlaidByte, last]

theorem overlaidByte_of_not_covers (none : ∀ e ∈ extents, ¬ e.Covers i) :
    overlaidByte extents old i = old[i]? := by
  rw [overlaidByte, lastCovering?_eq_none_iff.2 none]

/-- What is under the extents does not matter where one of them lies. -/
theorem overlaidByte_of_covers {old' : Bytes} (covered : ∃ e ∈ extents, e.Covers i) :
    overlaidByte extents old i = overlaidByte extents old' i := by
  unfold overlaidByte
  cases found : lastCovering? extents i with
  | some e => rfl
  | none =>
    obtain ⟨e, mem, covers⟩ := covered
    exact absurd covers (lastCovering?_eq_none_iff.1 found e mem)

end

/-! ## Writing extents -/

section

variable {content : Bytes} {e : Extent} {i : Nat} (h : e.stop ≤ content.size)
include h

theorem place_eq_ok : place content e = .ok (Bytes.splice content e.offset e.data) := if_pos h

/-- An extent within the device is written over it and does not make it grow. -/
theorem writeExtent_eq : writeExtent content e = Bytes.splice content e.offset e.data := by
  have padded : Bytes.padTo e.stop content = content := by
    simp [Bytes.padTo, Bytes.zeros, Nat.sub_eq_zero_of_le h]
  unfold writeExtent
  split
  case isTrue empty =>
    unfold Extent.stop at h
    simp [Bytes.splice, Array.eq_empty_of_size_eq_zero empty, Nat.max_eq_right (by omega :
      e.offset ≤ content.size)]
  case isFalse => rw [padded]

theorem size_splice : (Bytes.splice content e.offset e.data).size = content.size :=
  Bytes.size_splice h

theorem getElem?_splice_of_covers (hi : e.Covers i) :
    (Bytes.splice content e.offset e.data)[i]? = e.data[i - e.offset]? := by
  unfold Extent.Covers at hi
  unfold Extent.stop at h hi
  rw [Bytes.getElem?_splice (by omega), if_neg (by omega), if_pos (by omega)]

theorem getElem?_splice_of_not_covers (hi : ¬ e.Covers i) :
    (Bytes.splice content e.offset e.data)[i]? = content[i]? := by
  unfold Extent.Covers at hi
  unfold Extent.stop at h hi
  exact Bytes.getElem?_splice_of_apart (by omega) (by omega)

end

theorem Overlays.nil (old : Bytes) : Overlays [] old old := ⟨rfl, fun _ => rfl⟩

/-- One more extent, written behind the others. -/
theorem Overlays.concat {extents : List Extent} {old new : Bytes} {e : Extent}
    (h : Overlays extents old new) (stop_le : e.stop ≤ old.size) :
    Overlays (extents ++ [e]) old (Bytes.splice new e.offset e.data) := by
  have fits : e.stop ≤ new.size := by rwa [h.size]
  refine ⟨(size_splice fits).trans h.size, fun i => ?_⟩
  rw [overlaidByte, lastCovering?_concat]
  by_cases covers : e.Covers i
  · rw [if_pos covers, getElem?_splice_of_covers fits covers]
  · rw [if_neg covers, getElem?_splice_of_not_covers fits covers, h.byte, overlaidByte]

theorem Overlays.eq {extents : List Extent} {old new new' : Bytes} (h : Overlays extents old new)
    (h' : Overlays extents old new') : new = new' :=
  Array.ext_getElem? fun i => (h.byte i).trans (h'.byte i).symm

section

variable {extents : List Extent} {old : Bytes} (stop_le : ∀ e ∈ extents, e.stop ≤ old.size)
include stop_le

theorem overlays_foldl_writeExtent : Overlays extents old (extents.foldl writeExtent old) := by
  induction extents using List.reverseRecOn with
  | nil => exact .nil old
  | append_singleton extents e ih =>
    have overlays := ih fun d mem => stop_le d (by simp [mem])
    have e_stop := stop_le e (by simp)
    have fits : e.stop ≤ (extents.foldl writeExtent old).size := by rwa [overlays.size]
    rw [List.foldl_append, List.foldl_cons, List.foldl_nil, writeExtent_eq fits]
    exact overlays.concat e_stop

/-- Over a content that is large enough, nothing differs between a file and a device. -/
theorem foldlM_place_eq : extents.foldlM place old = .ok (extents.foldl writeExtent old) := by
  induction extents generalizing old with
  | nil => rfl
  | cons e rest ih =>
    have e_stop := stop_le e (by simp)
    rw [List.foldlM_cons, place_eq_ok e_stop, List.foldl_cons, writeExtent_eq e_stop]
    refine ih fun d mem => ?_
    rw [size_splice e_stop]
    exact stop_le d (by simp [mem])

end

/-! ## Devices and files -/

section

variable {image : Image}

/-- What is written over a device that is large enough. -/
theorem overlays_writeOver (stop_le : ∀ e ∈ image.extents, e.stop ≤ image.size) {device : Bytes}
    (holds : image.size ≤ device.size) :
    Overlays image.extents device (image.writeOver device) :=
  overlays_foldl_writeExtent fun e mem => Nat.le_trans (stop_le e mem) holds

theorem overlays_writeOver_zeros (stop_le : ∀ e ∈ image.extents, e.stop ≤ image.size) :
    Overlays image.extents (Bytes.zeros image.size) (image.writeOver (Bytes.zeros image.size)) :=
  overlays_writeOver stop_le (Nat.le_of_eq (Bytes.size_zeros image.size).symm)

/-- A file is what a device of its size with nothing but zeros on it becomes. -/
theorem flatten_eq_writeOver (stop_le : ∀ e ∈ image.extents, e.stop ≤ image.size) :
    image.flatten = .ok (image.writeOver (Bytes.zeros image.size)) := by
  refine foldlM_place_eq fun e mem => ?_
  rw [Bytes.size_zeros]
  exact stop_le e mem

end

end Image

end BareMetal.Disk
