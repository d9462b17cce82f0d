import BareMetal.Proofs.Design.BaseAddress
import BareMetal.Proofs.Outcome

/-!
# Base addresses that are not found

The interfaces without a base address are reported together, in the order in which they are asked
for, but only where every address that there is can be read.  Otherwise the first address that
cannot be read is reported, and none of them.
-/

namespace BareMetal.Design.System

/-- No connection to the interface has a base address. -/
def Lacks (s : System) (endpoint : String) : Prop :=
  ∀ c ∈ s.connections, c.endpoint = endpoint → ∀ p ∈ c.parameters, p.name ≠ "baseAddress"

instance (s : System) (endpoint : String) : Decidable (s.Lacks endpoint) :=
  inferInstanceAs (Decidable (∀ c ∈ s.connections, c.endpoint = endpoint →
    ∀ p ∈ c.parameters, p.name ≠ "baseAddress"))

/-- The base address of the interface cannot be read. -/
def Malformed (s : System) (endpoint value : String) : Prop :=
  s.HasBase endpoint value ∧ address? value = none

/-- Why the base addresses of some interfaces cannot be had. -/
inductive Refused (s : System) (endpoints : List String) : Error → Prop
  | malformed {before : List String} {e value : String} {after : List String} :
    endpoints = before ++ e :: after → s.Malformed e value →
    (∀ d ∈ before, ∀ other, ¬ s.Malformed d other) →
    s.Refused endpoints (.invalidAddress e value)
  | missing : (∃ e ∈ endpoints, s.Lacks e) → (∀ e ∈ endpoints, ∀ value, ¬ s.Malformed e value) →
    s.Refused endpoints (.endpointNotFound (endpoints.filter (s.Lacks ·)))

variable {s : System} {endpoint value : String} {endpoints : List String} {error : Error}

/-! ## What is said of one interface -/

theorem baseAddress?_eq_none_iff : s.baseAddress? endpoint = none ↔ s.Lacks endpoint := by
  rw [baseAddress?_eq, List.findSome?_eq_none_iff]
  refine forall₂_congr fun c _ => ?_
  rw [← Connection.parameter?_eq_none_iff, ite_eq_right_iff]

theorem find_eq_missing_iff : s.find endpoint = .missing ↔ s.Lacks endpoint := by
  rw [← baseAddress?_eq_none_iff, find]
  cases s.baseAddress? endpoint with
  | none => simp
  | some value => cases read : address? value <;> simp [read]

theorem find_eq_invalid_iff : s.find endpoint = .invalid value ↔ s.Malformed endpoint value := by
  rw [Malformed, ← baseAddress?_eq_some_iff, find]
  cases s.baseAddress? endpoint with
  | none => simp
  | some value' =>
    cases read : address? value' with
    | none =>
      simp only [read, Finding.invalid.injEq, Option.some.injEq, iff_self_and]
      rintro rfl
      exact read
    | some address =>
      simp only [read, reduceCtorEq, Option.some.injEq, false_iff, not_and]
      rintro rfl
      simp [read]

/-- The error that an interface brings about whatever the others are. -/
def fault? (s : System) (endpoint : String) : Option Error :=
  match s.find endpoint with
  | .invalid value => some (.invalidAddress endpoint value)
  | _ => none

theorem fault?_eq_some_iff : s.fault? endpoint = some error ↔
    ∃ value, s.Malformed endpoint value ∧ .invalidAddress endpoint value = error := by
  simp only [← find_eq_invalid_iff, fault?]
  cases s.find endpoint <;> simp

theorem fault?_eq_none_iff : s.fault? endpoint = none ↔ ∀ value, ¬ s.Malformed endpoint value := by
  simp only [← find_eq_invalid_iff, fault?]
  cases s.find endpoint <;> simp

/-! ## What is said of all of them -/

theorem filterMap_missing (s : System) (endpoints : List String) :
    (endpoints.filterMap fun e => if s.find e = .missing then some e else none) =
      endpoints.filter (s.Lacks ·) := by
  simp only [find_eq_missing_iff]
  rw [← List.filterMap_eq_filter]
  refine List.filterMap_congr fun e _ => ?_
  simp [Option.guard]

theorem baseAddresses_eq (s : System) (endpoints : List String) : s.baseAddresses endpoints =
    match endpoints.findSome? s.fault? with
    | some error => .error error
    | none => match endpoints.filter (s.Lacks ·) with
      | [] => .ok (endpoints.filterMap fun e => match s.find e with
          | .found a => some a
          | _ => none)
      | missing => .error (.endpointNotFound missing) := by
  rw [← filterMap_missing, baseAddresses]
  simp only [List.findSome?_map, List.filterMap_map]
  rfl

theorem Refused.baseAddresses_eq (why : s.Refused endpoints error) :
    s.baseAddresses endpoints = .error error := by
  rw [System.baseAddresses_eq]
  cases why with
  | malformed split malformed others =>
    have first : endpoints.findSome? s.fault? = some (.invalidAddress _ _) :=
      List.findSome?_eq_some_iff.2 ⟨_, _, _, split, fault?_eq_some_iff.2 ⟨_, malformed, rfl⟩,
        fun d mem => fault?_eq_none_iff.2 (others d mem)⟩
    rw [first]
  | missing lacks valid =>
    have no_fault : endpoints.findSome? s.fault? = none :=
      List.findSome?_eq_none_iff.2 fun e mem => fault?_eq_none_iff.2 (valid e mem)
    obtain ⟨e, mem, e_lacks⟩ := lacks
    have named : e ∈ endpoints.filter (s.Lacks ·) := by simpa using ⟨mem, e_lacks⟩
    rw [no_fault]
    rcases missing_eq : endpoints.filter (s.Lacks ·) with - | ⟨first, others⟩
    · rw [missing_eq] at named
      cases named
    · rfl

theorem resolves_or_refused (s : System) (endpoints : List String) :
    (∃ found, List.Forall₂ s.Resolves endpoints found) ∨ ∃ error, s.Refused endpoints error := by
  -- A malformed address is looked for first: only where there is none do the others matter.
  cases first : endpoints.findSome? s.fault? with
  | some error =>
    obtain ⟨before, e, after, split, fault, others⟩ := List.findSome?_eq_some_iff.1 first
    obtain ⟨value, malformed, -⟩ := fault?_eq_some_iff.1 fault
    exact .inr ⟨_, .malformed split malformed fun d mem => fault?_eq_none_iff.1 (others d mem)⟩
  | none =>
    by_cases lacks : ∃ e ∈ endpoints, s.Lacks e
    · exact .inr ⟨_, .missing lacks fun e mem =>
        fault?_eq_none_iff.1 (List.findSome?_eq_none_iff.1 first e mem)⟩
    · have none_missing : endpoints.filter (s.Lacks ·) = [] := by simpa using lacks
      have ok : ∃ found, s.baseAddresses endpoints = .ok found := by
        rw [baseAddresses_eq, first]
        simp only [none_missing]
        exact ⟨_, rfl⟩
      obtain ⟨found, ok⟩ := ok
      exact .inl ⟨found, baseAddresses_eq_ok_iff.1 ok⟩

theorem baseAddresses_eq_error_iff :
    s.baseAddresses endpoints = .error error ↔ s.Refused endpoints error :=
  (Outcome.eq_iff_of_total (fun _ => baseAddresses_eq_ok_iff.2)
    (fun _ why => why.baseAddresses_eq) (resolves_or_refused s endpoints)).2 error

theorem refused_endpointNotFound_iff {missing : List String} :
    s.Refused endpoints (.endpointNotFound missing) ↔
      missing = endpoints.filter (s.Lacks ·) ∧ missing ≠ [] ∧
        ∀ e ∈ endpoints, ∀ value, ¬ s.Malformed e value := by
  constructor
  · intro why
    cases why with
    | missing lacks valid => exact ⟨rfl, by simpa using lacks, valid⟩
  · rintro ⟨rfl, named, valid⟩
    exact .missing (by simpa using named) valid

theorem refused_invalidAddress_iff :
    s.Refused endpoints (.invalidAddress endpoint value) ↔ ∃ before after,
      endpoints = before ++ endpoint :: after ∧ s.Malformed endpoint value ∧
        ∀ d ∈ before, ∀ other, ¬ s.Malformed d other := by
  constructor
  · intro why
    cases why with
    | malformed split malformed others => exact ⟨_, _, split, malformed, others⟩
  · rintro ⟨before, after, split, malformed, others⟩
    exact .malformed split malformed others

theorem exists_baseAddresses_eq_error_iff : (∃ error, s.baseAddresses endpoints = .error error) ↔
    ∃ e ∈ endpoints, s.Lacks e ∨ ∃ value, s.Malformed e value := by
  constructor
  · rintro ⟨error, failed⟩
    cases baseAddresses_eq_error_iff.1 failed with
    | malformed split malformed others => exact ⟨_, by simp [split], .inr ⟨_, malformed⟩⟩
    | missing lacks valid =>
      obtain ⟨e, mem, e_lacks⟩ := lacks
      exact ⟨e, mem, .inl e_lacks⟩
  · rintro ⟨e, mem, bad⟩
    cases outcome : s.baseAddresses endpoints with
    | error error => exact ⟨error, rfl⟩
    | ok found =>
      obtain ⟨a, e_found⟩ := exists_found_of_baseAddresses outcome e mem
      rcases bad with lacks | ⟨value, malformed⟩
      · cases e_found.symm.trans (find_eq_missing_iff.2 lacks)
      · cases e_found.symm.trans (find_eq_invalid_iff.2 malformed)

/-- An interface that has no base address, or a malformed one, makes it fail.  Where an address is
malformed, the first such address is all that is reported; otherwise all the interfaces without a
base address are, in the order in which they are asked for. -/
theorem extract_names_missing_unless_malformed (s : System) (components : List String)
    (suffix : String) :
    let ends := components.map fun c => c ++ "." ++ suffix
    ((∃ error, s.extract components suffix = .error error) ↔
      ∃ e ∈ ends, s.Lacks e ∨ ∃ value, s.Malformed e value) ∧
    (∀ missing, s.extract components suffix = .error (.endpointNotFound missing) ↔
      missing = ends.filter (s.Lacks ·) ∧ missing ≠ [] ∧
        ∀ e ∈ ends, ∀ value, ¬ s.Malformed e value) ∧
    ∀ e value, s.extract components suffix = .error (.invalidAddress e value) ↔ ∃ before after,
      ends = before ++ e :: after ∧ s.Malformed e value ∧
        ∀ d ∈ before, ∀ other, ¬ s.Malformed d other := by
  intro ends
  have extract_eq : s.extract components suffix = s.baseAddresses ends := rfl
  rw [extract_eq]
  refine ⟨exists_baseAddresses_eq_error_iff, fun missing => ?_, fun e value => ?_⟩
  · rw [baseAddresses_eq_error_iff, refused_endpointNotFound_iff]
  · rw [baseAddresses_eq_error_iff, refused_invalidAddress_iff]

/-- A malformed address keeps an interface from being named that lacks one, even if that interface
is asked for first. -/
theorem not_extract_names_missing : ¬ ∀ (s : System) (components : List String) (suffix : String),
    (∃ c ∈ components, s.Lacks (c ++ "." ++ suffix)) →
      s.extract components suffix = .error (.endpointNotFound
        ((components.map fun c => c ++ "." ++ suffix).filter (s.Lacks ·))) := by
  intro names
  let s : System := ⟨[⟨"x.s1", [⟨"baseAddress", "0xZZ"⟩]⟩]⟩
  have extracted := names s ["y", "x"] "s1" ⟨"y", by simp, by decide⟩
  have refused : s.extract ["y", "x"] "s1" = .error (.invalidAddress "x.s1" "0xZZ") := by
    decide +kernel
  cases refused.symm.trans extracted

end BareMetal.Design.System
