import BareMetal.Disk.Chs
import Mathlib.Logic.Equiv.Defs
import Mathlib.Tactic.Linarith
import Mathlib.Tactic.Ring

/-!
# Sectors and their addresses

On a disk of valid geometry, the sectors counted from the start (`Chs.ofSector`, `Chs.toSector`)
and the packed addresses of the disk (`Chs.OnDisk`) are in one-to-one correspondence.  `Chs.pack`
and `Chs.index` are the two directions on natural numbers, where a sector number has three digits
of mixed radix: sector, head and cylinder.
-/

namespace BareMetal.Disk

namespace Geometry

/-- Every number of the geometry is within the limits of a BIOS address. -/
structure Valid (g : Geometry) : Prop where
  cylinders_pos : 0 < g.cylinders.toNat
  cylinders_le : g.cylinders.toNat ≤ 1024
  heads_pos : 0 < g.heads.toNat
  heads_le : g.heads.toNat ≤ 255
  sectorsPerTrack_pos : 0 < g.sectorsPerTrack.toNat
  sectorsPerTrack_le : g.sectorsPerTrack.toNat ≤ 63

/-- The sectors of a disk, without the bound of a word. -/
def sectors (g : Geometry) : Nat :=
  g.cylinders.toNat * (g.heads.toNat * g.sectorsPerTrack.toNat)

theorem validate_eq_ok_iff (g : Geometry) : g.validate = .ok () ↔ g.Valid := by
  have outside (n bound : UInt32) :
      (n = 0 ∨ bound < n) ↔ ¬ (0 < n.toNat ∧ n.toNat ≤ bound.toNat) := by
    rw [Word32.toNat_pos_iff, UInt32.lt_iff_toNat_lt]
    by_cases h : n = 0 <;> simp [h]
  simp only [validate, outside]
  constructor
  · intro h
    split_ifs at h with hc hh hs
    exact ⟨hc.1, hc.2, hh.1, hh.2, hs.1, hs.2⟩
  · intro h
    rw [if_neg (not_not.2 ⟨h.cylinders_pos, h.cylinders_le⟩),
      if_neg (not_not.2 ⟨h.heads_pos, h.heads_le⟩),
      if_neg (not_not.2 ⟨h.sectorsPerTrack_pos, h.sectorsPerTrack_le⟩)]

namespace Valid

variable {g : Geometry}

theorem track_le (h : g.Valid) : g.heads.toNat * g.sectorsPerTrack.toNat ≤ 255 * 63 :=
  Nat.mul_le_mul h.heads_le h.sectorsPerTrack_le

theorem sectors_le (h : g.Valid) : g.sectors ≤ 1024 * (255 * 63) :=
  Nat.mul_le_mul h.cylinders_le h.track_le

theorem sectorsPerCylinder_eq_ok (h : g.Valid) : ∃ n, g.sectorsPerCylinder = .ok n ∧
    n.toNat = g.heads.toNat * g.sectorsPerTrack.toNat := by
  have := h.track_le
  exact Word32.exists_mul _ _ (by unfold Word32.bound; omega)

theorem totalSectors_eq_ok (h : g.Valid) : ∃ n, g.totalSectors = .ok n ∧ n.toNat = g.sectors := by
  obtain ⟨n, hn, value⟩ := h.sectorsPerCylinder_eq_ok
  have := h.sectors_le
  rw [sectors, ← value] at this ⊢
  rw [totalSectors, hn]
  exact Word32.exists_mul _ _ (by unfold Word32.bound; omega)

end Valid

end Geometry

namespace Chs

/-! ## The packed bytes -/

theorem toNat_and_low (b : UInt8) : (b &&& 0x3F).toNat = b.toNat % 64 := by
  rw [UInt8.toNat_and]
  exact Nat.and_two_pow_sub_one_eq_mod b.toNat 6

theorem toNat_and_high (b : UInt8) : (b &&& 0xC0).toNat = b.toNat / 64 * 64 := by
  have byte : ∀ n : Fin 256, n.val &&& 0xC0 = n.val / 64 * 64 := by decide +kernel
  rw [UInt8.toNat_and]
  exact byte ⟨b.toNat, b.toNat_lt⟩

theorem toNat_sectorNumber (c : Chs) : c.sectorNumber.toNat = c.sector.toNat % 64 := by
  rw [sectorNumber, UInt8.toNat_toUInt32, toNat_and_low]

/-- The two high bits of the cylinder stand above the number of the sector. -/
theorem toNat_cylinder (c : Chs) :
    c.cylinder.toNat = c.sector.toNat / 64 * 256 + c.cylinderLow.toNat := by
  have high : ((c.sector &&& 0xC0).toUInt32 <<< 2).toNat = (c.sector.toNat / 64) <<< 8 := by
    have := c.sector.toNat_lt
    rw [UInt32.toNat_shiftLeft, UInt8.toNat_toUInt32, toNat_and_high, Nat.shiftLeft_eq,
      Nat.shiftLeft_eq]
    simp only [UInt32.reduceToNat, Nat.reduceMod, Nat.reducePow]
    omega
  rw [cylinder, UInt32.toNat_or, UInt8.toNat_toUInt32, high, Nat.or_comm,
    ← Nat.shiftLeft_add_eq_or_of_lt c.cylinderLow.toNat_lt, Nat.shiftLeft_eq]

/-! ## Addresses as digits -/

/-- The cylinder of a sector; past the end of the disk they start over. -/
def cylinderOf (g : Geometry) (s : Nat) : Nat :=
  s / (g.sectorsPerTrack.toNat * g.heads.toNat) % g.cylinders.toNat

/-- The packed address of a sector. -/
def pack (g : Geometry) (s : Nat) : Chs where
  head := UInt8.ofNat (s / g.sectorsPerTrack.toNat % g.heads.toNat)
  sector := UInt8.ofNat (s % g.sectorsPerTrack.toNat + 1 + cylinderOf g s / 256 * 64)
  cylinderLow := UInt8.ofNat (cylinderOf g s % 256)

/-- The sector at an address. -/
def index (c : Chs) (g : Geometry) : Nat :=
  (c.cylinder.toNat * g.heads.toNat + c.head.toNat) * g.sectorsPerTrack.toNat +
    c.sectorNumber.toNat - 1

/-- The disk has a sector of this address. -/
def OnDisk (c : Chs) (g : Geometry) : Prop :=
  c.head.toUInt32 < g.heads ∧ 1 ≤ c.sectorNumber ∧ c.sectorNumber ≤ g.sectorsPerTrack ∧
    c.cylinder < g.cylinders

instance (c : Chs) (g : Geometry) : Decidable (c.OnDisk g) := inferInstanceAs (Decidable (_ ∧ _))

theorem onDisk_iff (c : Chs) (g : Geometry) :
    c.OnDisk g ↔ c.head.toNat < g.heads.toNat ∧ 1 ≤ c.sectorNumber.toNat ∧
      c.sectorNumber.toNat ≤ g.sectorsPerTrack.toNat ∧ c.cylinder.toNat < g.cylinders.toNat :=
  Iff.rfl

section Digits

variable {g : Geometry}

theorem cylinderOf_lt (h : g.Valid) (s : Nat) : cylinderOf g s < g.cylinders.toNat :=
  Nat.mod_lt _ h.cylinders_pos

theorem toNat_head_pack (h : g.Valid) (s : Nat) :
    (pack g s).head.toNat = s / g.sectorsPerTrack.toNat % g.heads.toNat := by
  have lt := Nat.mod_lt (s / g.sectorsPerTrack.toNat) h.heads_pos
  have le := h.heads_le
  rw [pack, UInt8.toNat_ofNat', Nat.mod_eq_of_lt (by omega)]

theorem toNat_sector_pack (h : g.Valid) (s : Nat) :
    (pack g s).sector.toNat = s % g.sectorsPerTrack.toNat + 1 + cylinderOf g s / 256 * 64 := by
  have number := Nat.mod_lt s h.sectorsPerTrack_pos
  have cylinder := cylinderOf_lt h s
  have spt_le := h.sectorsPerTrack_le
  have cylinders_le := h.cylinders_le
  rw [pack, UInt8.toNat_ofNat', Nat.mod_eq_of_lt (by omega)]

theorem toNat_cylinderLow_pack (g : Geometry) (s : Nat) :
    (pack g s).cylinderLow.toNat = cylinderOf g s % 256 := by
  rw [pack, UInt8.toNat_ofNat', Nat.mod_eq_of_lt (by omega)]

theorem toNat_sectorNumber_pack (h : g.Valid) (s : Nat) :
    (pack g s).sectorNumber.toNat = s % g.sectorsPerTrack.toNat + 1 := by
  have number := Nat.mod_lt s h.sectorsPerTrack_pos
  have spt_le := h.sectorsPerTrack_le
  rw [toNat_sectorNumber, toNat_sector_pack h]
  omega

theorem toNat_cylinder_pack (h : g.Valid) (s : Nat) :
    (pack g s).cylinder.toNat = cylinderOf g s := by
  have number := Nat.mod_lt s h.sectorsPerTrack_pos
  have spt_le := h.sectorsPerTrack_le
  rw [toNat_cylinder, toNat_sector_pack h, toNat_cylinderLow_pack]
  omega

theorem onDisk_pack (h : g.Valid) (s : Nat) : (pack g s).OnDisk g := by
  rw [onDisk_iff, toNat_head_pack h, toNat_sectorNumber_pack h, toNat_cylinder_pack h]
  exact ⟨Nat.mod_lt _ h.heads_pos, Nat.le_add_left 1 _, Nat.mod_lt _ h.sectorsPerTrack_pos,
    cylinderOf_lt h s⟩

/-- Packing a sector and reading it back loses the whole disks before it and nothing else. -/
theorem index_pack (h : g.Valid) (s : Nat) : (pack g s).index g = s % g.sectors := by
  rw [index, toNat_cylinder_pack h, toNat_head_pack h, toNat_sectorNumber_pack h, cylinderOf]
  set c := g.cylinders.toNat with hc
  set t := g.heads.toNat with ht
  set n := g.sectorsPerTrack.toNat with hn
  have sectors : g.sectors = n * (t * c) := by rw [Geometry.sectors, ← hc, ← ht, ← hn]; ring
  rw [sectors, Nat.mod_mul, Nat.mod_mul, Nat.div_div_eq_div_mul]
  rw [← Nat.add_assoc, Nat.add_sub_cancel]
  ring

theorem index_lt {c : Chs} (hc : c.OnDisk g) : c.index g < g.sectors := by
  obtain ⟨head, number_pos, number, cylinder⟩ := (onDisk_iff c g).1 hc
  have track : c.cylinder.toNat * g.heads.toNat + c.head.toNat + 1 ≤
      g.cylinders.toNat * g.heads.toNat := by nlinarith
  have bound := Nat.mul_le_mul_right g.sectorsPerTrack.toNat track
  rw [Nat.add_mul, Nat.one_mul] at bound
  rw [index, Geometry.sectors, ← Nat.mul_assoc]
  omega

/-- The digits of the sector at an address of the disk are those of the address. -/
theorem digits_index {c : Chs} (hc : c.OnDisk g) :
    c.index g % g.sectorsPerTrack.toNat = c.sectorNumber.toNat - 1 ∧
      c.index g / g.sectorsPerTrack.toNat % g.heads.toNat = c.head.toNat ∧
      cylinderOf g (c.index g) = c.cylinder.toNat := by
  obtain ⟨head, number_pos, number, cylinder⟩ := (onDisk_iff c g).1 hc
  have index_eq : c.index g = c.sectorNumber.toNat - 1 +
      g.sectorsPerTrack.toNat * (c.head.toNat + g.heads.toNat * c.cylinder.toNat) := by
    have : c.index g = (c.cylinder.toNat * g.heads.toNat + c.head.toNat) *
        g.sectorsPerTrack.toNat + (c.sectorNumber.toNat - 1) := Nat.add_sub_assoc number_pos _
    rw [this]
    ring
  have track : c.index g / g.sectorsPerTrack.toNat =
      c.head.toNat + g.heads.toNat * c.cylinder.toNat := by
    rw [index_eq, Nat.add_mul_div_left _ _ (by omega), Nat.div_eq_of_lt (by omega), Nat.zero_add]
  refine ⟨?_, ?_, ?_⟩
  · rw [index_eq, Nat.add_mul_mod_self_left, Nat.mod_eq_of_lt (by omega)]
  · rw [track, Nat.add_mul_mod_self_left, Nat.mod_eq_of_lt head]
  · rw [cylinderOf, ← Nat.div_div_eq_div_mul, track, Nat.add_mul_div_left _ _ (by omega),
      Nat.div_eq_of_lt head, Nat.zero_add, Nat.mod_eq_of_lt cylinder]

/-- An address of the disk is the address of the sector at it. -/
theorem pack_index (h : g.Valid) {c : Chs} (hc : c.OnDisk g) : pack g (c.index g) = c := by
  obtain ⟨number, head, cylinder⟩ := digits_index hc
  have number_pos := ((onDisk_iff c g).1 hc).2.1
  have low_lt := c.cylinderLow.toNat_lt
  have head_eq : (pack g (c.index g)).head = c.head := by
    rw [← UInt8.toNat_inj, toNat_head_pack h, head]
  have sector_eq : (pack g (c.index g)).sector = c.sector := by
    rw [toNat_sectorNumber] at number number_pos
    rw [← UInt8.toNat_inj, toNat_sector_pack h, number, cylinder, toNat_cylinder]
    omega
  have low_eq : (pack g (c.index g)).cylinderLow = c.cylinderLow := by
    rw [← UInt8.toNat_inj, toNat_cylinderLow_pack, cylinder, toNat_cylinder]
    omega
  exact Chs.ext head_eq sector_eq low_eq

end Digits

/-! ## The computations on words -/

section Words

variable {g : Geometry}

/-- No step of the packing leaves its word, and no byte is cut off. -/
theorem ofSector_eq_ok (h : g.Valid) (s : UInt32) : ofSector s g = .ok (pack g s.toNat) := by
  have number_lt := Nat.mod_lt s.toNat h.sectorsPerTrack_pos
  have track_pos := Nat.mul_pos h.sectorsPerTrack_pos h.heads_pos
  have track_le : g.sectorsPerTrack.toNat * g.heads.toNat ≤ 63 * 255 :=
    Nat.mul_le_mul h.sectorsPerTrack_le h.heads_le
  have cylinder_lt := cylinderOf_lt h s.toNat
  have spt_le := h.sectorsPerTrack_le
  have cylinders_le := h.cylinders_le
  obtain ⟨track, track_ok, track_eq⟩ := Word32.exists_mul g.sectorsPerTrack g.heads
    (by unfold Word32.bound; omega)
  obtain ⟨q, q_ok, q_eq⟩ := Word32.exists_div s track (by omega)
  obtain ⟨c, c_ok, c_eq⟩ := Word32.exists_rem q g.cylinders h.cylinders_pos
  obtain ⟨t, t_ok, t_eq⟩ := Word32.exists_div s g.sectorsPerTrack h.sectorsPerTrack_pos
  obtain ⟨head, head_ok, head_eq⟩ := Word32.exists_rem t g.heads h.heads_pos
  obtain ⟨r, r_ok, r_eq⟩ := Word32.exists_rem s g.sectorsPerTrack h.sectorsPerTrack_pos
  obtain ⟨number, number_ok, number_eq⟩ := Word32.exists_add r 1
    (by simp only [Word32.bound, UInt32.reduceToNat]; omega)
  have c_val : c.toNat = cylinderOf g s.toNat := by rw [c_eq, q_eq, track_eq, cylinderOf]
  have c_div : (c / 256).toNat = cylinderOf g s.toNat / 256 := by
    simp only [UInt32.toNat_div, c_val, UInt32.reduceToNat]
  obtain ⟨high, high_ok, high_eq⟩ := Word32.exists_mul (c / 256) 64
    (by simp only [Word32.bound, UInt32.reduceToNat]; omega)
  obtain ⟨packed, packed_ok, packed_eq⟩ := Word32.exists_add number high
    (by simp only [Word32.bound, UInt32.reduceToNat] at *; omega)
  have bytes : Chs.mk head.toUInt8 packed.toUInt8 (c % 256).toUInt8 = pack g s.toNat := by
    have low : (c % 256).toNat = cylinderOf g s.toNat % 256 := by
      simp only [UInt32.toNat_mod, c_val, UInt32.reduceToNat]
    rw [← UInt8.ofNat_uInt32ToNat, ← UInt8.ofNat_uInt32ToNat, ← UInt8.ofNat_uInt32ToNat, head_eq,
      t_eq, packed_eq, number_eq, r_eq, high_eq, c_div, low]
    rfl
  rw [ofSector, track_ok]
  simp only [bind, Except.bind, q_ok, c_ok, t_ok, head_ok, r_ok, number_ok, high_ok, packed_ok]
  rw [← bytes]
  rfl

/-- No step of the reading of an address of the disk leaves its word. -/
theorem toSector_eq_ok {c : Chs} (h : g.Valid) (hc : c.OnDisk g) :
    ∃ s, c.toSector g = .ok s ∧ s.toNat = c.index g := by
  obtain ⟨head, number_pos, number, cylinder⟩ := (onDisk_iff c g).1 hc
  have index_lt := (index_lt hc).trans_le h.sectors_le
  rw [index] at index_lt
  have tracks_le := Nat.le_mul_of_pos_right (c.cylinder.toNat * g.heads.toNat + c.head.toNat)
    h.sectorsPerTrack_pos
  obtain ⟨y, y_ok, y_eq⟩ := Word32.exists_mul c.cylinder g.heads (by unfold Word32.bound; omega)
  obtain ⟨t, t_ok, t_eq⟩ := Word32.exists_add y c.head.toUInt32
    (by rw [UInt8.toNat_toUInt32]; unfold Word32.bound; omega)
  rw [UInt8.toNat_toUInt32, y_eq] at t_eq
  obtain ⟨n, n_ok, n_eq⟩ := Word32.exists_mul t g.sectorsPerTrack
    (by rw [t_eq]; unfold Word32.bound; omega)
  rw [t_eq] at n_eq
  obtain ⟨next, next_ok, next_eq⟩ := Word32.exists_add n c.sectorNumber
    (by unfold Word32.bound; omega)
  obtain ⟨s, s_ok, s_eq⟩ := Word32.exists_sub next 1 (by simp only [UInt32.reduceToNat]; omega)
  refine ⟨s, ?_, ?_⟩
  · rw [toSector, y_ok]
    simp only [bind, Except.bind, t_ok, n_ok, next_ok, s_ok]
  · rw [s_eq, next_eq, n_eq, index]
    rfl

/-- The address of a sector leads back to it, modulo the size of the disk. -/
theorem toSector_pack (h : g.Valid) {s : Nat} {w : UInt32} (hw : w.toNat = s % g.sectors) :
    (pack g s).toSector g = .ok w := by
  obtain ⟨t, t_ok, t_eq⟩ := toSector_eq_ok h (onDisk_pack h s)
  rw [index_pack h, ← hw, UInt32.toNat_inj] at t_eq
  rw [t_ok, t_eq]

end Words

/-! ## The correspondence -/

/-- The sectors of a disk and its addresses, each the other's value. -/
def sectorEquiv {g : Geometry} (h : g.Valid) {total : UInt32} (ht : total.toNat = g.sectors) :
    {s : UInt32 // s < total} ≃ {c : Chs // c.OnDisk g} where
  toFun s := ⟨pack g s.1.toNat, onDisk_pack h s.1.toNat⟩
  invFun c := ⟨UInt32.ofNat (c.1.index g), by
    have lt := index_lt c.2
    have le := h.sectors_le
    rw [UInt32.lt_iff_toNat_lt, ht, UInt32.toNat_ofNat_of_lt' (by unfold UInt32.size; omega)]
    exact lt⟩
  left_inv s := by
    have lt := UInt32.lt_iff_toNat_lt.1 s.2
    rw [ht] at lt
    ext
    simp only [index_pack h, Nat.mod_eq_of_lt lt, UInt32.ofNat_toNat]
  right_inv c := by
    have lt := index_lt c.2
    have le := h.sectors_le
    apply Subtype.ext
    show pack g (UInt32.ofNat (c.1.index g)).toNat = c.1
    rw [UInt32.toNat_ofNat_of_lt' (by unfold UInt32.size; omega), pack_index h c.2]

/-- On a disk of valid geometry, every sector has an address of the disk, which leads back to it
modulo the size of the disk, and every address of the disk is the address of the sector that it
leads to.  No word overflows on either way, and no byte of an address is cut off. -/
theorem sector_address_correspondence (g : Geometry) (h : g.validate = .ok ()) :
    ∃ total : UInt32, g.totalSectors = .ok total ∧
      (∀ s : UInt32, ∃ c, ofSector s g = .ok c ∧ c.toSector g = .ok (s % total) ∧ c.OnDisk g ∧
        c.head.toNat = s.toNat / g.sectorsPerTrack.toNat % g.heads.toNat ∧
        c.sector.toNat = s.toNat % g.sectorsPerTrack.toNat + 1 +
          cylinderOf g s.toNat / 256 * 64 ∧
        c.cylinderLow.toNat = cylinderOf g s.toNat % 256) ∧
      (∀ c : Chs, c.OnDisk g →
        ∃ s, c.toSector g = .ok s ∧ s < total ∧ ofSector s g = .ok c) ∧
      ∃ e : {s : UInt32 // s < total} ≃ {c : Chs // c.OnDisk g},
        (∀ s : {s : UInt32 // s < total}, ofSector s.1 g = .ok (e s).1) ∧
          ∀ c : {c : Chs // c.OnDisk g}, c.1.toSector g = .ok (e.symm c).1 := by
  have valid := (Geometry.validate_eq_ok_iff g).1 h
  obtain ⟨total, total_ok, total_eq⟩ := valid.totalSectors_eq_ok
  have inverse (c : {c : Chs // c.OnDisk g}) :
      c.1.toSector g = .ok ((sectorEquiv valid total_eq).symm c).1 := by
    obtain ⟨s, s_ok, s_eq⟩ := toSector_eq_ok valid c.2
    rw [s_ok, ← UInt32.ofNat_toNat (x := s), s_eq]
    rfl
  refine ⟨total, total_ok, fun s => ?_, fun c hc => ?_, sectorEquiv valid total_eq,
    fun s => ofSector_eq_ok valid s.1, inverse⟩
  · have back : (s % total).toNat = s.toNat % g.sectors := by rw [UInt32.toNat_mod, total_eq]
    exact ⟨pack g s.toNat, ofSector_eq_ok valid s, toSector_pack valid back,
      onDisk_pack valid s.toNat, toNat_head_pack valid _, toNat_sector_pack valid _,
      toNat_cylinderLow_pack g _⟩
  · obtain ⟨s, s_ok, s_eq⟩ := toSector_eq_ok valid hc
    refine ⟨s, s_ok, ?_, ?_⟩
    · rw [UInt32.lt_iff_toNat_lt, s_eq, total_eq]
      exact index_lt hc
    · rw [ofSector_eq_ok valid, s_eq, pack_index valid hc]

/-- The last word as a sector of the largest disk. -/
theorem sector_address_correspondence_largest :
    (⟨1024, 255, 63⟩ : Geometry).validate = .ok () ∧
      ∃ c, ofSector 0xFFFFFFFF ⟨1024, 255, 63⟩ = .ok c ∧
        c.toSector ⟨1024, 255, 63⟩ = .ok (0xFFFFFFFF % 16450560) := by
  have valid : (⟨1024, 255, 63⟩ : Geometry).validate = .ok () := by decide
  obtain ⟨total, total_ok, addresses, -⟩ := sector_address_correspondence ⟨1024, 255, 63⟩ valid
  obtain ⟨c, c_ok, back, -⟩ := addresses 0xFFFFFFFF
  have : (⟨1024, 255, 63⟩ : Geometry).totalSectors = .ok 16450560 := by decide
  obtain rfl : total = 16450560 := Except.ok.inj (total_ok.symm.trans this)
  exact ⟨valid, c, c_ok, back⟩

end Chs

end BareMetal.Disk
