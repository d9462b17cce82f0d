import BareMetal.Design.BaseAddress
import Mathlib.Data.List.Forall2

/-!
# Base addresses that are found

An interface has the base address of the first connection to it that has one, which is the first
parameter of that name (`System.HasBase`).  Base addresses are had for all the interfaces that are
asked for, or for none of them.
-/

namespace BareMetal.Design

/-- The first base address among the parameters of a connection has a value. -/
def Connection.HasBase (c : Connection) (value : String) : Prop :=
  ∃ before p after, c.parameters = before ++ p :: after ∧
    (∀ q ∈ before, q.name ≠ "baseAddress") ∧ p.name = "baseAddress" ∧ p.value = value

/-- The first connection to an interface that has a base address has this one; connections to it
without a base address are passed over. -/
def System.HasBase (s : System) (endpoint value : String) : Prop :=
  ∃ before c after, s.connections = before ++ c :: after ∧
    (∀ d ∈ before, d.endpoint = endpoint → ∀ p ∈ d.parameters, p.name ≠ "baseAddress") ∧
    c.endpoint = endpoint ∧ c.HasBase value

theorem Connection.parameter?_eq_some_iff {c : Connection} {value : String} :
    c.parameter? baseAddressName = some value ↔ c.HasBase value := by
  simp only [parameter?, Option.map_eq_some_iff, List.find?_eq_some_iff_append, beq_iff_eq,
    Bool.not_eq_true', beq_eq_false_iff_ne, baseAddressName]
  constructor
  · rintro ⟨p, ⟨name_eq, before, after, parameters_eq, others⟩, value_eq⟩
    exact ⟨before, p, after, parameters_eq, others, name_eq, value_eq⟩
  · rintro ⟨before, p, after, parameters_eq, others, name_eq, value_eq⟩
    exact ⟨p, ⟨name_eq, before, after, parameters_eq, others⟩, value_eq⟩

theorem Connection.parameter?_eq_none_iff {c : Connection} :
    c.parameter? baseAddressName = none ↔ ∀ p ∈ c.parameters, p.name ≠ "baseAddress" := by
  simp [parameter?, baseAddressName]

namespace System

theorem baseAddress?_eq (s : System) (endpoint : String) : s.baseAddress? endpoint =
    s.connections.findSome? fun c =>
      if c.endpoint = endpoint then c.parameter? baseAddressName else none := by
  rw [baseAddress?]
  induction s.connections with
  | nil => rfl
  | cons c rest ih =>
    by_cases reaches : c.endpoint = endpoint
    · rw [List.filter_cons_of_pos (by simpa using reaches), List.findSome?_cons,
        List.findSome?_cons, ih, if_pos reaches]
    · rw [List.filter_cons_of_neg (by simpa using reaches), List.findSome?_cons, ih,
        if_neg reaches]

theorem baseAddress?_eq_some_iff {s : System} {endpoint value : String} :
    s.baseAddress? endpoint = some value ↔ s.HasBase endpoint value := by
  rw [baseAddress?_eq, List.findSome?_eq_some_iff]
  constructor
  · rintro ⟨before, c, after, connections_eq, found, others⟩
    by_cases reaches : c.endpoint = endpoint
    · rw [if_pos reaches] at found
      refine ⟨before, c, after, connections_eq, fun d mem d_reaches => ?_, reaches,
        Connection.parameter?_eq_some_iff.1 found⟩
      have lacks := others d mem
      rw [if_pos d_reaches] at lacks
      exact Connection.parameter?_eq_none_iff.1 lacks
    · rw [if_neg reaches] at found
      cases found
  · rintro ⟨before, c, after, connections_eq, others, reaches, has⟩
    refine ⟨before, c, after, connections_eq, ?_, fun d mem => ?_⟩
    · rw [if_pos reaches]
      exact Connection.parameter?_eq_some_iff.2 has
    · split_ifs with d_reaches
      · exact Connection.parameter?_eq_none_iff.2 (others d mem d_reaches)
      · rfl

/-- The constant of an interface and its address. -/
structure Resolves (s : System) (endpoint : String) (a : BaseAddress) : Prop where
  address : ∃ value, s.HasBase endpoint value ∧ address? value = some a.address
  constant : a.constant =
    String.ofList (endpoint.toList.map fun c => if c = '.' then '_' else c) ++ "_ADDRESS"

theorem constantName_eq (endpoint : String) : constantName endpoint =
    String.ofList (endpoint.toList.map fun c => if c = '.' then '_' else c) ++ "_ADDRESS" := by
  rw [constantName, Text.replaceChar, List.map_eq_flatMap]
  congr 3
  funext c
  split_ifs <;> rfl

theorem find_eq_found_iff {s : System} {endpoint : String} {a : BaseAddress} :
    s.find endpoint = .found a ↔ s.Resolves endpoint a := by
  unfold find
  constructor
  · intro found
    split at found
    case h_1 => cases found
    rename_i value base
    split at found
    case h_2 => cases found
    rename_i address read
    cases found
    exact ⟨⟨value, baseAddress?_eq_some_iff.1 base, read⟩, constantName_eq endpoint⟩
  · rintro ⟨⟨value, has, read⟩, constant_eq⟩
    rw [← constantName_eq] at constant_eq
    rw [baseAddress?_eq_some_iff.2 has]
    simp only [read, ← constant_eq]

/-! ## All interfaces or none -/

theorem baseAddresses_of_found {s : System} {endpoints : List String} {found : List BaseAddress}
    (h : List.Forall₂ (fun e a => s.find e = .found a) endpoints found) :
    s.baseAddresses endpoints = .ok found := by
  have each : ∀ p ∈ endpoints.map fun e => (e, s.find e), ∃ a, p.2 = .found a := by
    rw [List.forall_mem_map]
    induction h with
    | nil => exact nofun
    | cons e_found _ ih => exact List.forall_mem_cons.2 ⟨⟨_, e_found⟩, ih⟩
  unfold baseAddresses
  simp only
  split
  case h_1 e refused =>
    obtain ⟨p, mem, p_invalid⟩ := List.exists_of_findSome?_eq_some refused
    obtain ⟨a, p_found⟩ := each p mem
    simp [p_found] at p_invalid
  split
  case h_2 none_missing =>
    refine absurd (List.filterMap_eq_nil_iff.2 fun p mem => ?_) none_missing
    obtain ⟨a, p_found⟩ := each p mem
    simp [p_found]
  refine congrArg Except.ok ?_
  clear * - h
  induction h with
  | nil => rfl
  | @cons e a _ _ e_found _ ih =>
    rw [List.map_cons, List.filterMap_cons_some (b := a) (by simp only [e_found]), ih]

theorem exists_found_of_baseAddresses {s : System} {endpoints : List String}
    {found : List BaseAddress} (h : s.baseAddresses endpoints = .ok found) :
    ∀ e ∈ endpoints, ∃ a, s.find e = .found a := by
  intro e mem
  unfold baseAddresses at h
  simp only at h
  split at h
  case h_1 => cases h
  rename_i no_invalid
  split at h
  case h_2 => cases h
  rename_i no_missing
  have pair_mem : (e, s.find e) ∈ endpoints.map fun e => (e, s.find e) :=
    List.mem_map.2 ⟨e, mem, rfl⟩
  have valid := List.findSome?_eq_none_iff.1 no_invalid _ pair_mem
  have present := List.filterMap_eq_nil_iff.1 no_missing _ pair_mem
  cases finding : s.find e with
  | found a => exact ⟨a, rfl⟩
  | invalid value => simp [finding] at valid
  | missing => simp [finding] at present

/-- The base addresses are had when every interface has one that can be read. -/
theorem baseAddresses_eq_ok_iff {s : System} {endpoints : List String}
    {found : List BaseAddress} :
    s.baseAddresses endpoints = .ok found ↔ List.Forall₂ s.Resolves endpoints found := by
  have found_iff : List.Forall₂ s.Resolves endpoints found ↔
      List.Forall₂ (fun e a => s.find e = .found a) endpoints found := by
    simp only [find_eq_found_iff]
  rw [found_iff]
  refine ⟨fun h => ?_, baseAddresses_of_found⟩
  have each := exists_found_of_baseAddresses h
  obtain ⟨found', pairs⟩ : ∃ found', List.Forall₂ (fun e a => s.find e = .found a) endpoints
      found' := by
    clear h found_iff
    induction endpoints with
    | nil => exact ⟨[], .nil⟩
    | cons e rest ih =>
      obtain ⟨a, e_found⟩ := each e (by simp)
      obtain ⟨others, pairs⟩ := ih fun e' mem => each e' (by simp [mem])
      exact ⟨a :: others, .cons e_found pairs⟩
  obtain rfl := Except.ok.inj ((baseAddresses_of_found pairs).symm.trans h)
  exact pairs

end System

end BareMetal.Design
