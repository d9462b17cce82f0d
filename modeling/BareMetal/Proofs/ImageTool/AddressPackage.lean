import BareMetal.Proofs.Design.BaseAddress
import BareMetal.Proofs.ImageTool.Products

/-!
# Packages of base addresses

A package is written only when all its addresses have been found: a run that fails to find one has
nothing to write, and leaves every file as it was (`extract_all_or_nothing`).
-/

namespace BareMetal.ImageTool

open Host

/-! ## Addresses that are found -/

/-- The file at a path holds a design. -/
def Describes (w : World) (path : String) (s : Design.System) : Prop :=
  ∃ content text, w.files.read path = .ok content ∧ Utf8.decode? content = some text ∧
    Design.System.parse? text = some s

/-- The package holds addresses that have been found in the design. -/
theorem exists_extract_of_contents? {w : World} {designPath package : String}
    {components : List String} {suffix outputDirectory : String} {contents : List Bytes}
    (h : Job.contents? w.files (.addressPackage designPath package components suffix
      outputDirectory) = some contents) :
    ∃ s found, Describes w designPath s ∧ s.extract components suffix = .ok found := by
  obtain ⟨text, text_eq, h⟩ := Option.bind_eq_some_iff.1 h
  obtain ⟨s, parsed, h⟩ := Option.bind_eq_some_iff.1 h
  obtain ⟨found, extracted, -⟩ := Option.bind_eq_some_iff.1 h
  obtain ⟨content, read, decoded⟩ := Option.bind_eq_some_iff.1 text_eq
  exact ⟨s, found, ⟨content, text, Outcome.toOption_eq_some_iff.1 read, decoded, parsed⟩,
    Outcome.toOption_eq_some_iff.1 extracted⟩

theorem extract_eq_ok_iff {s : Design.System} {components : List String} {suffix : String}
    {found : List Design.BaseAddress} : s.extract components suffix = .ok found ↔
      List.Forall₂ (fun c a => s.Resolves (c ++ "." ++ suffix) a) components found := by
  rw [Design.System.extract, Design.System.baseAddresses_eq_ok_iff, List.forall₂_map_left_iff]
  rfl

theorem exists_extract_iff {s : Design.System} {components : List String} {suffix : String} :
    (∃ found, s.extract components suffix = .ok found) ↔
      ∀ c ∈ components, ∃ value address, s.HasBase (c ++ "." ++ suffix) value ∧
        Design.address? value = some address := by
  simp only [extract_eq_ok_iff]
  constructor
  · rintro ⟨found, pairs⟩ c mem
    induction pairs with
    | nil => cases mem
    | @cons c' a _ _ resolves _ ih =>
      rcases List.mem_cons.1 mem with rfl | mem
      · obtain ⟨value, has, read⟩ := resolves.address
        exact ⟨value, a.address, has, read⟩
      · exact ih mem
  · intro each
    induction components with
    | nil => exact ⟨[], .nil⟩
    | cons c rest ih =>
      obtain ⟨found, pairs⟩ := ih fun c' mem => each c' (by simp [mem])
      obtain ⟨value, address, has, read⟩ := each c (by simp)
      exact ⟨⟨_, address⟩ :: found, .cons ⟨⟨value, has, read⟩, rfl⟩ pairs⟩

/-- Base addresses are extracted when every interface has one that can be read, in the order in
which they are asked for; otherwise the run that asks for them fails and writes nothing. -/
theorem extract_all_or_nothing (components : List String) (suffix : String) :
    (∀ (s : Design.System) found, s.extract components suffix = .ok found ↔
      List.Forall₂ (fun c a => s.Resolves (c ++ "." ++ suffix) a) components found) ∧
    (∀ s : Design.System, (∃ found, s.extract components suffix = .ok found) ↔
      ∀ c ∈ components, ∃ value address, s.HasBase (c ++ "." ++ suffix) value ∧
        Design.address? value = some address) ∧
    ∀ (w : World) toolchain designPath package outputDirectory,
      (∀ s, Describes w designPath s → ∀ found, s.extract components suffix ≠ .ok found) →
      ∃ failure w', run ⟨toolchain, .addressPackage designPath package components suffix
        outputDirectory⟩ w = (.error failure, w') ∧ w'.files = w.files := by
  refine ⟨fun s found => extract_eq_ok_iff, fun s => exists_extract_iff, ?_⟩
  intro w toolchain designPath package outputDirectory lacks
  let o : Options :=
    ⟨toolchain, .addressPackage designPath package components suffix outputDirectory⟩
  rcases publishes_run (o := o) rfl w rfl with
    ⟨-, ⟨failure, failed⟩, kept⟩ | ⟨contents, between, made, -⟩
  · exact ⟨failure, _, Prod.ext failed rfl, kept⟩
  · obtain ⟨-, -, made⟩ := Option.bind_eq_some_iff.1 made
    obtain ⟨s, found, describes, extracted⟩ := exists_extract_of_contents? made
    exact absurd extracted (lacks s describes found)

/-- An interface that is asked for twice has the address of its second connection, as the first has
none; a run that asks for another interface leaves the files alone. -/
theorem extract_all_or_nothing_passed_over :
    let s : Design.System := ⟨[⟨"t.s1", []⟩,
      ⟨"t.s1", [⟨"baseAddress", "0x10"⟩, ⟨"baseAddress", "?"⟩]⟩]⟩
    let design := "<s><connection end=\"t.s1\"/></s>"
    let w : World := { files :=
      { nodes := systemNodes ++ [(workingDirectory ++ ["d"], .file (Bytes.ofText design) false)] } }
    s.extract ["t", "t"] "s1" = .ok [⟨"t_s1_ADDRESS", 0x10⟩, ⟨"t_s1_ADDRESS", 0x10⟩] ∧
    ∃ failure w', run ⟨{}, .addressPackage "d" "P" ["u"] "s1" "."⟩ w = (.error failure, w') ∧
      w'.files = w.files := by
  intro s design w
  have has : s.HasBase "t.s1" "0x10" :=
    ⟨[⟨"t.s1", []⟩], _, [], rfl, by simp, rfl, [], _, _, rfl, nofun, rfl, rfl⟩
  have resolves : s.Resolves "t.s1" ⟨"t_s1_ADDRESS", 0x10⟩ :=
    ⟨⟨"0x10", has, by decide +kernel⟩, by decide +kernel⟩
  refine ⟨((extract_all_or_nothing ["t", "t"] "s1").1 s _).2 (.cons resolves (.cons resolves .nil)),
    (extract_all_or_nothing ["u"] "s1").2.2 w {} "d" "P" "." ?_⟩
  rintro s' ⟨content, text, read, decoded, parsed⟩ found extracted
  have read_eq : w.files.read "d" = .ok (Bytes.ofText design) := by decide +kernel
  obtain rfl := Except.ok.inj (read_eq.symm.trans read)
  have decoded_eq : Utf8.decode? (Bytes.ofText design) = some design := by decide +kernel
  obtain rfl := Option.some.inj (decoded_eq.symm.trans decoded)
  have parsed_eq : Design.System.parse? design = some ⟨[⟨"t.s1", []⟩]⟩ := by decide +kernel
  obtain rfl := Option.some.inj (parsed_eq.symm.trans parsed)
  exact nomatch extracted

end BareMetal.ImageTool
