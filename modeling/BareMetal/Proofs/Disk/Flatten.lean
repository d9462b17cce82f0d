import BareMetal.Proofs.Disk.Overlay

/-!
# Flattened images

An image whose extents lie on its disk without touching one another (`Image.WellFormed`) flattens
into a file that holds each extent at its place and zeros elsewhere (`Image.Shows`).
-/

namespace BareMetal.Disk

/-- No byte belongs to both extents. -/
def Extent.Disjoint (d e : Extent) : Prop := d.stop ≤ e.offset ∨ e.stop ≤ d.offset

namespace Image

/-- All extents lie on the disk, and no two of them have a byte in common. -/
structure WellFormed (image : Image) : Prop where
  stop_le : ∀ e ∈ image.extents, e.stop ≤ image.size
  disjoint : image.extents.Pairwise Extent.Disjoint

/-- The file has the size of the disk, each extent at its place, and zeros elsewhere. -/
structure Shows (image : Image) (disk : Bytes) : Prop where
  size : disk.size = image.size
  extent : ∀ e ∈ image.extents, ∀ i < e.data.size, disk[e.offset + i]? = e.data[i]?
  zero : ∀ i < image.size, (∀ e ∈ image.extents, ¬ e.Covers i) → disk[i]? = some 0

/-- An extent that no other touches is the last one over each of its bytes. -/
theorem lastCovering?_of_disjoint {extents : List Extent}
    (disjoint : extents.Pairwise Extent.Disjoint) {e : Extent} (mem : e ∈ extents) {i : Nat}
    (covers : e.Covers i) : lastCovering? extents i = some e := by
  obtain ⟨before, after, rfl⟩ := List.append_of_mem mem
  refine lastCovering?_eq_some_iff.2 ⟨covers, before, after, rfl, fun d d_mem d_covers => ?_⟩
  have apart : e.Disjoint d :=
    List.rel_of_pairwise_cons (List.pairwise_append.1 disjoint).2.1 d_mem
  unfold Extent.Disjoint at apart
  unfold Extent.Covers at covers d_covers
  omega

/-- Flattening a well-formed image does not fault. -/
theorem WellFormed.flatten_eq_ok {image : Image} (h : image.WellFormed) :
    ∃ disk, image.flatten = .ok disk ∧ image.Shows disk := by
  have overlays := overlays_writeOver_zeros h.stop_le
  refine ⟨_, flatten_eq_writeOver h.stop_le, ?_, fun e mem i hi => ?_, fun i hi uncovered => ?_⟩
  · rw [overlays.size, Bytes.size_zeros]
  · have covers : e.Covers (e.offset + i) := by
      unfold Extent.Covers Extent.stop
      omega
    rw [overlays.byte, overlaidByte_of_last (lastCovering?_of_disjoint h.disjoint mem covers),
      Nat.add_sub_cancel_left]
  · rw [overlays.byte, overlaidByte_of_not_covers uncovered, Bytes.getElem?_zeros, if_pos hi]

namespace Shows

variable {image : Image} {disk : Bytes}

theorem slice_within (h : image.Shows disk) {e : Extent} (he : e ∈ image.extents)
    (offset length : Nat) (hl : offset + length ≤ e.data.size) :
    Bytes.slice disk (e.offset + offset) length = Bytes.slice e.data offset length := by
  apply Array.ext_getElem?
  intro i
  rw [Bytes.getElem?_slice, Bytes.getElem?_slice]
  by_cases hi : i < length
  · rw [if_pos hi, if_pos hi, Nat.add_assoc, h.extent e he _ (by omega)]
  · rw [if_neg hi, if_neg hi]

theorem slice_extent (h : image.Shows disk) {e : Extent} (he : e ∈ image.extents) :
    Bytes.slice disk e.offset e.data.size = e.data := by
  have := h.slice_within he 0 e.data.size (by omega)
  rwa [Bytes.slice_all] at this

end Shows

end Image

end BareMetal.Disk
