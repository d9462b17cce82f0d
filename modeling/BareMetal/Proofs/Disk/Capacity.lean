import BareMetal.Proofs.Disk.HardDisk

/-!
# Kernels that a hard disk can take

A hard disk has at most 1023 cylinders behind the boot record, for the boot sector and the kernel.
What becomes of a kernel is told by the number of sectors that it needs there (`neededSectors`): a
disk is laid out for it exactly when they fit, and any other kernel is refused for a stated reason
(`plan_decided_by_capacity`).  One reason is no error that is reported: where a word holds the
sectors of the kernel but not the boot sector with them, their count leaves the word
(`not_plan_reports_all_others`).
-/

namespace BareMetal.Disk.HardDisk.Layout

/-- The sectors of the boot sector and a kernel of the given length. -/
def neededSectors (kernelLength : Nat) : Nat := ceilDiv kernelLength sectorSize + 1

/-- The sectors of the cylinders that a hard disk can have behind the first one. -/
def capacity : Nat := 1023 * 1008

/-- The cylinders of a disk with the given number of sectors behind its first cylinder. -/
def cylindersFor (sectors : Nat) : Nat := ceilDiv sectors 1008 + 1

/-- Why no disk is laid out for a kernel. -/
inductive Refused (kernelLength : Nat) : Error → Prop
  /-- The disk would have too many cylinders. -/
  | cylinders : capacity < neededSectors kernelLength →
      neededSectors kernelLength < Word32.bound →
      Refused kernelLength
        (.geometry (.cylinders (UInt32.ofNat (cylindersFor (neededSectors kernelLength)))))
  /-- A word counts the sectors of the kernel, but not one more. -/
  | fault : neededSectors kernelLength = Word32.bound → Refused kernelLength (.fault .overflow)
  /-- The sectors of the kernel are more than a word counts. -/
  | sectorCount : Word32.bound < neededSectors kernelLength →
      Refused kernelLength (.range (.fieldOverflow "kernel sector count" kernelLength 32))

theorem cylindersFor_le_iff {sectors : Nat} : cylindersFor sectors ≤ 1024 ↔ sectors ≤ capacity := by
  have cover : ceilDiv sectors 1008 ≤ 1023 ↔ sectors ≤ 1023 * 1008 := ceilDiv_le_iff (by decide)
  rw [cylindersFor, capacity, ← cover]
  omega

/-- A disk of 16 heads and 63 sectors per track has a valid geometry if its cylinders are within
the limits. -/
theorem make_eq (cylinders : UInt32) :
    Geometry.make cylinders heads sectorsPerTrack =
      if cylinders = 0 ∨ 1024 < cylinders then .error (.cylinders cylinders)
      else .ok ⟨cylinders, heads, sectorsPerTrack⟩ := by
  have heads_within : ¬ (heads = 0 ∨ 255 < heads) := by decide
  have track_within : ¬ (sectorsPerTrack = 0 ∨ 63 < sectorsPerTrack) := by decide
  unfold Geometry.make Geometry.validate
  simp only [if_neg heads_within, if_neg track_within]
  split_ifs <;> rfl

section

variable {n : Nat}

theorem narrowSectors_of_le (h : neededSectors n ≤ Word32.bound) :
    narrowSectors n = .ok (UInt32.ofNat (ceilDiv n sectorSize)) := if_pos h

theorem narrowSectors_of_gt (h : Word32.bound < neededSectors n) :
    narrowSectors n = .error (.range (.fieldOverflow "kernel sector count" n 32)) :=
  if_neg (Nat.not_lt.2 (Nat.le_of_lt_succ h))

/-- The boot sector is counted with a kernel whose own sectors fit a word. -/
theorem add_one_sectors (h : neededSectors n ≤ Word32.bound) :
    Word32.add (UInt32.ofNat (ceilDiv n sectorSize)) 1 = Word32.exact (neededSectors n) := by
  have fits : ceilDiv n sectorSize < UInt32.size := h
  rw [Word32.add, UInt32.toNat_ofNat_of_lt' fits]
  rfl

theorem toNat_cylindersFor (h : neededSectors n < Word32.bound) :
    (UInt32.ofNat (cylindersFor (neededSectors n))).toNat = cylindersFor (neededSectors n) := by
  apply UInt32.toNat_ofNat_of_lt'
  unfold Word32.bound at h
  unfold cylindersFor ceilDiv UInt32.size
  omega

/-- Where a word counts all sectors, the limits of the geometry decide. -/
theorem plan_of_lt (h : neededSectors n < Word32.bound) :
    plan n = do
      let geometry ← (Geometry.make (UInt32.ofNat (cylindersFor (neededSectors n))) heads
        sectorsPerTrack).mapError .geometry
      let partitionSize ← faulting
        (Word32.mul (UInt32.ofNat (ceilDiv (neededSectors n) 1008)) (heads * sectorsPerTrack))
      return { geometry, kernelSectors := UInt32.ofNat (ceilDiv n sectorSize)
               partitionStart := heads * sectorsPerTrack, partitionSize } := by
  have counted : Word32.add (UInt32.ofNat (ceilDiv n sectorSize)) 1 =
      .ok (UInt32.ofNat (neededSectors n)) := by
    rw [add_one_sectors h.le, Word32.exact_of_lt h]
  have needed : (UInt32.ofNat (neededSectors n)).toNat = neededSectors n :=
    UInt32.toNat_ofNat_of_lt' h
  have more : Word32.add (UInt32.ofNat (ceilDiv (neededSectors n) 1008)) 1 =
      .ok (UInt32.ofNat (cylindersFor (neededSectors n))) := by
    rw [Word32.add_eq_ok_iff, toNat_cylindersFor h, UInt32.toNat_ofNat_of_lt']
    · rfl
    · unfold Word32.bound at h
      unfold ceilDiv UInt32.size
      omega
  have per_cylinder : (heads * sectorsPerTrack).toNat = 1008 := rfl
  rw [plan, narrowSectors_of_le h.le]
  simp only [Outcome.ok_bind, counted, faulting, Except.mapError, needed, per_cylinder, more]

theorem exists_plan (fits : neededSectors n ≤ capacity) : ∃ l, plan n = .ok l := by
  have counted : neededSectors n < Word32.bound := fits.trans_lt (by decide)
  have few := cylindersFor_le_iff.2 fits
  have inside : ¬ (UInt32.ofNat (cylindersFor (neededSectors n)) = 0 ∨
      1024 < UInt32.ofNat (cylindersFor (neededSectors n))) := by
    rw [← UInt32.toNat_inj, UInt32.lt_iff_toNat_lt, toNat_cylindersFor counted]
    show ¬ (cylindersFor (neededSectors n) = 0 ∨ 1024 < cylindersFor (neededSectors n))
    unfold cylindersFor at few ⊢
    omega
  have cover : (UInt32.ofNat (ceilDiv (neededSectors n) 1008)).toNat * 1008 < Word32.bound := by
    unfold cylindersFor at few
    rw [UInt32.toNat_ofNat_of_lt' (by unfold UInt32.size; omega)]
    unfold Word32.bound
    omega
  obtain ⟨size, size_ok, -⟩ := Word32.exists_mul _ (heads * sectorsPerTrack) cover
  rw [plan_of_lt counted, make_eq, if_neg inside, size_ok]
  exact ⟨_, rfl⟩

theorem Refused.plan_eq {e : Error} (h : Refused n e) : plan n = .error e := by
  cases h with
  | cylinders too_many counted =>
    have many := mt cylindersFor_le_iff.1 (Nat.not_le.2 too_many)
    have outside : UInt32.ofNat (cylindersFor (neededSectors n)) = 0 ∨
        1024 < UInt32.ofNat (cylindersFor (neededSectors n)) := by
      right
      rw [UInt32.lt_iff_toNat_lt, toNat_cylindersFor counted]
      exact Nat.not_le.1 many
    rw [plan_of_lt counted, make_eq, if_pos outside]
    rfl
  | fault limit =>
    have overflow : Word32.add (UInt32.ofNat (ceilDiv n sectorSize)) 1 = .error .overflow := by
      rw [add_one_sectors limit.le, Word32.exact_of_le limit.ge]
    rw [plan, narrowSectors_of_le limit.le]
    simp only [Outcome.ok_bind, overflow]
    rfl
  | sectorCount wide =>
    rw [plan, narrowSectors_of_gt wide]
    rfl

theorem fits_or_refused (n : Nat) : neededSectors n ≤ capacity ∨ ∃ e, Refused n e := by
  rcases Nat.lt_or_ge capacity (neededSectors n) with too_many | fits
  · right
    rcases Nat.lt_trichotomy (neededSectors n) Word32.bound with counted | limit | wide
    · exact ⟨_, .cylinders too_many counted⟩
    · exact ⟨_, .fault limit⟩
    · exact ⟨_, .sectorCount wide⟩
  · exact Or.inl fits

theorem exists_plan_iff : (∃ l, plan n = .ok l) ↔ neededSectors n ≤ capacity :=
  (Outcome.decided_of_total exists_plan (fun _ refused => refused.plan_eq) (fits_or_refused n)).1

theorem plan_eq_error_iff {e : Error} : plan n = .error e ↔ Refused n e :=
  (Outcome.decided_of_total exists_plan (fun _ refused => refused.plan_eq) (fits_or_refused n)).2 e

end

/-- A disk is laid out exactly for the kernels that fit with their boot sector behind its first
cylinder.  Any other kernel is refused: for the cylinders that it would need or, where a word does
not count its sectors, for their number.  Between these lie the kernels of as many sectors as a word
counts; for them alone the layout faults. -/
theorem plan_decided_by_capacity (kernelLength : Nat) :
    ((∃ l, plan kernelLength = .ok l) ↔ neededSectors kernelLength ≤ capacity) ∧
      (∀ e, plan kernelLength = .error e ↔ Refused kernelLength e) ∧
      ∀ f, plan kernelLength = .error (.fault f) ↔
        f = .overflow ∧ neededSectors kernelLength = Word32.bound := by
  refine ⟨exists_plan_iff, fun e => plan_eq_error_iff, fun f => ?_⟩
  rw [plan_eq_error_iff]
  constructor
  · rintro (_ | limit)
    exact ⟨rfl, limit⟩
  · rintro ⟨rfl, limit⟩
    exact .fault limit

/-- Not every kernel that does not fit is reported: one of 4294967295 sectors stops the tool. -/
theorem not_plan_reports_all_others :
    ¬ ∀ kernelLength < 2 ^ 64, capacity < neededSectors kernelLength →
      (∃ e, plan kernelLength = .error (.geometry e)) ∨
        ∃ e, plan kernelLength = .error (.range e) := by
  intro claimed
  have fault : plan 2199023255040 = .error (.fault .overflow) := by decide
  rcases claimed 2199023255040 (by decide) (by decide) with ⟨e, reported⟩ | ⟨e, reported⟩
  · cases fault.symm.trans reported
  · cases fault.symm.trans reported

end BareMetal.Disk.HardDisk.Layout
