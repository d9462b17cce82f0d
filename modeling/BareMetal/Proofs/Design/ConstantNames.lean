import BareMetal.Proofs.Design.AdaPackage
import BareMetal.Proofs.Design.BaseAddress
import Mathlib.Data.List.Nodup

/-!
# Names of constants

All names of a package have the same ending, made of the suffix, so they differ where the components
do, apart from the dots that have become underscores (`nodup_constants_iff`).  Two components of
which one has a dot where the other has an underscore get one name (`not_constants_distinct`), and
the package then declares it twice.
-/

namespace BareMetal.Design

/-- A text with an underscore for each dot. -/
def underscored (text : String) : String :=
  String.ofList (text.toList.map fun c => if c = '.' then '_' else c)

theorem underscored_append (text rest : String) :
    underscored (text ++ rest) = underscored text ++ underscored rest := by
  rw [underscored, String.toList_append, List.map_append, String.ofList_append]
  rfl

namespace AdaPackage

/-- A line declares a constant of a name. -/
def Declares (line name : String) : Prop :=
  ∃ address, declared? line = some { constant := name, address }

/-- No name is declared by both of two lines. -/
def DeclareApart (line other : String) : Prop :=
  ∀ name, ¬ (Declares line name ∧ Declares other name)

/-- The name of the constant that a line declares. -/
def declaredName? (line : String) : Option String := (declared? line).map (·.constant)

theorem declares_iff {line name : String} :
    Declares line name ↔ declaredName? line = some name := by
  rw [declaredName?, Option.map_eq_some_iff]
  constructor
  · rintro ⟨address, declared⟩
    exact ⟨_, declared, rfl⟩
  · rintro ⟨a, declared, rfl⟩
    exact ⟨a.address, declared⟩

theorem declareApart_iff {line other : String} (h : ∃ name, declaredName? line = some name) :
    DeclareApart line other ↔ declaredName? line ≠ declaredName? other := by
  obtain ⟨name, declared⟩ := h
  simp only [DeclareApart, declares_iff, declared, Option.some.injEq]
  constructor
  · intro apart same
    exact apart name ⟨rfl, same.symm⟩
  · rintro differ _ ⟨rfl, same⟩
    exact differ same.symm

/-- No two lines declare one name exactly when the constants that they declare have distinct
names. -/
theorem pairwise_declareApart_iff {rows : List String} {found : List BaseAddress}
    (h : rows.map declared? = found.map some) :
    rows.Pairwise DeclareApart ↔ (found.map (·.constant)).Nodup := by
  have names : rows.map declaredName? = (found.map (·.constant)).map some := by
    have names := congrArg (List.map (Option.map (·.constant))) h
    rw [List.map_map, List.map_map] at names
    rw [List.map_map]
    exact names
  have named : ∀ row ∈ rows, ∃ name, declaredName? row = some name := by
    intro row mem
    have mem_names : declaredName? row ∈ rows.map declaredName? := List.mem_map_of_mem mem
    rw [names, List.mem_map] at mem_names
    obtain ⟨name, -, declared⟩ := mem_names
    exact ⟨name, declared.symm⟩
  calc rows.Pairwise DeclareApart
      ↔ rows.Pairwise fun row other => declaredName? row ≠ declaredName? other :=
        List.Pairwise.iff_of_mem fun mem _ => declareApart_iff (named _ mem)
    _ ↔ (rows.map declaredName?).Nodup := List.pairwise_map.symm
    _ ↔ (found.map (·.constant)).Nodup := by
        rw [names, List.nodup_map_iff (Option.some_injective _)]

end AdaPackage

namespace System

section

variable {s : System} {components : List String} {suffix : String} {found : List BaseAddress}
  (extracted : s.extract components suffix = .ok found)
include extracted

theorem forall₂_constant : List.Forall₂
    (fun c a => underscored c ++ (underscored ("." ++ suffix) ++ "_ADDRESS") = a.constant)
    components found := by
  have resolved := baseAddresses_eq_ok_iff.1 extracted
  rw [List.forall₂_map_left_iff] at resolved
  refine resolved.imp fun c a resolves => ?_
  rw [resolves.constant, interfaceOf, String.append_assoc, ← String.append_assoc,
    ← underscored_append]
  rfl

/-- Names differ where the components do, also if some characters count as the same. -/
theorem nodup_map_constants_iff (fold : Char → Char) :
    (found.map fun a => a.constant.toList.map fold).Nodup ↔
      (components.map fun c => (underscored c).toList.map fold).Nodup := by
  let tail := (underscored ("." ++ suffix) ++ "_ADDRESS").toList.map fold
  have names : ((components.map fun c => (underscored c).toList.map fold).map (· ++ tail)) =
      found.map fun a => a.constant.toList.map fold := by
    rw [List.map_map, ← List.forall₂_eq_eq_eq, List.forall₂_map_left_iff,
      List.forall₂_map_right_iff]
    refine (forall₂_constant extracted).imp fun c a constant => ?_
    rw [← constant, String.toList_append, List.map_append]
    rfl
  rw [← names, List.nodup_map_iff (List.append_left_injective tail)]

theorem nodup_constants_iff :
    (found.map (·.constant)).Nodup ↔ (components.map underscored).Nodup := by
  have chars (texts : List String) : (texts.map String.toList).Nodup ↔ texts.Nodup :=
    List.nodup_map_iff fun _ _ => String.toList_inj.1
  have names := nodup_map_constants_iff extracted id
  simp only [List.map_id] at names
  rw [← chars, ← chars, List.map_map, List.map_map]
  exact names

theorem getLast?_constant : ∀ a ∈ found, a.constant.toList.getLast? ≠ some ' ' := by
  have endings := forall₂_constant extracted
  clear extracted
  induction endings with
  | nil => exact nofun
  | @cons c a _ _ constant _ ih =>
    refine List.forall_mem_cons.2 ⟨?_, ih⟩
    rw [← constant, ← String.append_assoc, AdaPackage.getLast?_append_mark _ rfl]
    decide

/-- The lines of the constants in a package give the constants again. -/
theorem map_declared?_rows (width : Nat) :
    (found.map (AdaPackage.row width)).map AdaPackage.declared? = found.map some := by
  rw [List.map_map]
  exact List.map_congr_left fun a mem =>
    AdaPackage.declared?_row (getLast?_constant extracted a mem) width

end

/-- The constants of some interfaces have distinct names exactly when the components still differ
with underscores for their dots, and the same is true if some characters count as the same, such as
letters of either case.  The lines of a package declare the constants in order, and no two of them
declare one name exactly when the names are distinct. -/
theorem constants_distinct_iff {s : System} {components : List String} {suffix : String}
    {found : List BaseAddress} (extracted : s.extract components suffix = .ok found) :
    ((found.map (·.constant)).Nodup ↔ (components.map underscored).Nodup) ∧
    (∀ fold : Char → Char, (found.map fun a => a.constant.toList.map fold).Nodup ↔
      (components.map fun c => (underscored c).toList.map fold).Nodup) ∧
    ∀ package text, AdaPackage.render package found = .ok text → ∃ rows : List String,
      text = "package " ++ package ++ " is\n   pragma Pure;\n" ++
        String.join (rows.map (· ++ "\n")) ++ "end " ++ package ++ ";\n" ∧
      rows.map AdaPackage.declared? = found.map some ∧
      (rows.Pairwise AdaPackage.DeclareApart ↔ (components.map underscored).Nodup) := by
  refine ⟨nodup_constants_iff extracted, nodup_map_constants_iff extracted, ?_⟩
  intro package text rendered
  have declared := map_declared?_rows extracted (AdaPackage.width found)
  refine ⟨found.map (AdaPackage.row (AdaPackage.width found)), ?_, declared, ?_⟩
  · have text_eq : text = AdaPackage.text package found := by
      unfold AdaPackage.render at rendered
      split_ifs at rendered
      exact (Except.ok.inj rendered).symm
    rw [text_eq, AdaPackage.text, AdaPackage.map_declaration]
  · rw [AdaPackage.pairwise_declareApart_iff declared, nodup_constants_iff extracted]

/-- Two components that differ in more than a dot and an underscore. -/
theorem constants_distinct_of_dotted :
    let s : System := ⟨[⟨"a.b.s1", [⟨"baseAddress", "0x10"⟩]⟩,
      ⟨"ab.s1", [⟨"baseAddress", "0x20"⟩]⟩]⟩
    let found : List BaseAddress := [⟨"a_b_s1_ADDRESS", 0x10⟩, ⟨"ab_s1_ADDRESS", 0x20⟩]
    s.extract ["a.b", "ab"] "s1" = .ok found ∧ (found.map (·.constant)).Nodup ∧
    ∃ rows : List String, rows.map AdaPackage.declared? = found.map some ∧
      rows.Pairwise AdaPackage.DeclareApart := by
  intro s found
  have extracted : s.extract ["a.b", "ab"] "s1" = .ok found := by decide +kernel
  obtain ⟨names, -, package⟩ := constants_distinct_iff extracted
  have distinct : (["a.b", "ab"].map underscored).Nodup := by decide
  obtain ⟨rows, -, declared, apart⟩ := package "P" _ rfl
  exact ⟨extracted, names.2 distinct, rows, declared, apart.2 distinct⟩

/-- A dot and an underscore make no difference between two names. -/
theorem not_constants_distinct : ¬ ∀ (s : System) (components : List String) (suffix : String)
    (found : List BaseAddress), components.Nodup → s.extract components suffix = .ok found →
      (found.map (·.constant)).Nodup := by
  intro distinct
  let s : System := ⟨[⟨"a.b.s1", [⟨"baseAddress", "0x10"⟩]⟩,
    ⟨"a_b.s1", [⟨"baseAddress", "0x20"⟩]⟩]⟩
  have extracted : s.extract ["a.b", "a_b"] "s1" =
      .ok [⟨"a_b_s1_ADDRESS", 0x10⟩, ⟨"a_b_s1_ADDRESS", 0x20⟩] := by
    decide +kernel
  exact absurd (distinct s _ _ _ (by decide) extracted) (by decide)

end System

end BareMetal.Design
