import ClientWiring.Proofs.Class.Lookup
set_option autoImplicit false

/-! The two spellings of the name of a class: points all along, as the full name of a class has them,
or a colon behind the module. They lead to the same place if the module is the longest part of the
name that can be loaded and each part of the name can be told from the marks between them. -/

namespace ClientWiring

namespace ClassName

def marked (name : ClassName) : String :=
  name.module ++ ":" ++ name.qualified

end ClassName

namespace Library

/-- A name in a module that is loaded. No mark stands where it could be taken for one between the
parts of the name, no part is empty, and no module stands on the way to the class. -/
structure Spells (library : Library) (name : ClassName) (found : Module) : Prop where
  loaded : library.load name.module = .ok found
  uncoloned : ':' ∉ name.module.toList
  filled : "" ∉ parts name.module
  nonempty : name.path ≠ []
  plain : ∀ part ∈ name.path, part ≠ "" ∧ '.' ∉ part.toList ∧ ':' ∉ part.toList
  unshadowed : ∀ before rest, name.path = before ++ rest → before ≠ [] → rest ≠ [] →
    ∀ other, library.load (name.module ++ "." ++ ".".intercalate before) ≠ .ok other

namespace Spells

variable {library : Library} {name : ClassName} {found : Module}

theorem parts_qualified (spells : library.Spells name found) :
    parts name.qualified = name.path :=
  parts_intercalate spells.nonempty fun part member => (spells.plain part member).2.1

theorem filled_path (spells : library.Spells name found) : "" ∉ name.path :=
  fun member => (spells.plain "" member).1 rfl

theorem module_ne (spells : library.Spells name found) : name.module ≠ "" := by
  intro empty
  apply spells.filled
  rw [empty]
  decide

theorem qualified_ne (spells : library.Spells name found) : name.qualified ≠ "" := by
  intro empty
  apply spells.filled_path
  rw [← spells.parts_qualified, empty]
  decide

theorem parts_full (spells : library.Spells name found) :
    parts name.full = parts name.module ++ name.path := by
  rw [ClassName.full, parts_append, spells.parts_qualified]

theorem uncoloned_full (spells : library.Spells name found) : ':' ∉ name.full.toList := by
  rw [ClassName.full, String.toList_append, String.toList_append, List.mem_append, List.mem_append]
  rintro ((inModule | inPoint) | inPath)
  · exact spells.uncoloned inModule
  · exact absurd inPoint (by decide)
  · rcases mem_intercalate inPath with point | ⟨part, member, inside⟩
    · exact absurd point (by decide)
    · exact (spells.plain part member).2.2 inside

theorem leads_full (spells : library.Spells name found) :
    library.Leads name.full found name.path := by
  refine .longest spells.uncoloned_full ?_ spells.parts_full (parts_ne_nil name.module)
    spells.nonempty ?_ ?_
  · rw [spells.parts_full, List.mem_append, not_or]
    exact ⟨spells.filled, spells.filled_path⟩
  · rw [intercalate_parts]
    exact spells.loaded
  · intro more less split some others
    rw [String.intercalate_append_of_ne_nil (parts_ne_nil name.module) some, intercalate_parts]
    exact spells.unshadowed more less split some others

theorem leads_marked (spells : library.Spells name found) :
    library.Leads name.marked found name.path := by
  have filled : "" ∉ parts name.qualified := by
    rw [spells.parts_qualified]
    exact spells.filled_path
  have leads : library.Leads name.marked found (parts name.qualified) :=
    .exactly rfl spells.uncoloned spells.module_ne filled spells.loaded
  rwa [spells.parts_qualified] at leads

theorem trim_marked (spells : library.Spells name found)
    (bare : Text.trim name.full = name.full) : Text.trim name.marked = name.marked := by
  have front : name.module.toList ≠ [] := by simpa using spells.module_ne
  have back : name.qualified.toList ≠ [] := by simpa using spells.qualified_ne
  have ends : ∀ mark : String,
      (name.module ++ mark ++ name.qualified).toList.head? = name.module.toList.head? ∧
      (name.module ++ mark ++ name.qualified).toList.getLast? =
        name.qualified.toList.getLast? := by
    intro mark
    rw [String.toList_append, String.toList_append, List.append_assoc,
      List.head?_append_of_ne_nil _ front, ← List.append_assoc, List.getLast?_append_of_ne_nil _ back]
    exact ⟨rfl, rfl⟩
  rw [Text.trim_eq_self_iff] at bare ⊢
  rw [ClassName.full, (ends ".").1, (ends ".").2] at bare
  rw [ClassName.marked, (ends ":").1, (ends ":").2]
  exact bare

end Spells

end Library

namespace Registry

/-- Where no name is registered, both spellings of a name have the same outcome: the class that the
module holds under the path, or no class. So a class is found again under its own full name. -/
theorem resolve_spellings {library : Library} (orderly : library.Orderly) {name : ClassName}
    {found : Module} (spells : library.Spells name found)
    (bare : Text.trim name.full = name.full) (registry : Registry) :
    (registry.get? name.full = none → registry.get? name.marked = none →
      registry.resolve library name.full =
          (library.classOf? found name.path).elim (.error (.unresolved name.full)) .ok ∧
        registry.resolve library name.marked =
          (library.classOf? found name.path).elim (.error (.unresolved name.marked)) .ok) ∧
      ∀ info, info.name = name → library.classOf? found name.path = some info →
        (∀ other, registry.get? name.full = some other → other = info) →
          registry.resolve library info.name.full = .ok info := by
  have full : registry.get? name.full = none → registry.resolve library name.full =
      (library.classOf? found name.path).elim (.error (.unresolved name.full)) .ok :=
    fun unknown => resolve_of_leads_bare orderly bare unknown spells.leads_full
  refine ⟨fun unknown unknownMarked => ⟨full unknown, ?_⟩, ?_⟩
  · exact resolve_of_leads_bare orderly (spells.trim_marked bare) unknownMarked spells.leads_marked
  · rintro info rfl has own
    cases known : registry.get? info.name.full with
    | none =>
        rw [full known, has]
        rfl
    | some other =>
        rw [own other known] at known
        apply resolve_of_registered
        rwa [bare]

end Registry

namespace Sample

def nested : Module :=
  package "acme" [entry (plainClass "acme" ["Outer"]), entry (plainClass "acme" ["Outer", "Inner"])]

def crowded : Library :=
  libraryOf [nested, leaf "acme:Outer" [], leaf "acme." [entry (plainClass "acme." ["Extra"])],
    package " acme" [], leaf " acme.Outer" []]

theorem crowded_spells : crowded.Spells ⟨"acme", ["Outer", "Inner"]⟩ nested where
  loaded := by with_unfolding_all rfl
  uncoloned := by decide
  filled := by decide +kernel
  nonempty := by decide
  plain := by decide +kernel
  unshadowed before rest split some others other := by
    have outer : before = ["Outer"] := by
      match before, rest, split, some, others with
      | [_], _, rfl, _, _ => rfl
      | [_, _], [], _, _, nothing => exact absurd rfl nothing
    have absent : crowded.load "acme.Outer" = .error .notFound := by with_unfolding_all rfl
    subst outer
    intro loaded
    cases absent.symm.trans loaded

end Sample

theorem Registry.resolve_spellings_nested :
    Sample.crowded.Orderly ∧ Sample.crowded.Spells ⟨"acme", ["Outer", "Inner"]⟩ Sample.nested ∧
      Registry.initial.resolve Sample.crowded "acme.Outer.Inner" =
        .ok (Sample.plainClass "acme" ["Outer", "Inner"]) ∧
      Registry.initial.resolve Sample.crowded "acme:Outer.Inner" =
        .ok (Sample.plainClass "acme" ["Outer", "Inner"]) := by
  have agree := Registry.resolve_spellings (Sample.libraryOf_orderly _) Sample.crowded_spells
    (by decide +kernel) Registry.initial
  have both := agree.1 (by decide +kernel) (by decide +kernel)
  exact ⟨Sample.libraryOf_orderly _, Sample.crowded_spells, both.1, both.2⟩

namespace Registry

/-- A name in a module that is loaded, neither of whose spellings is registered and one of whose
spellings only resolves. -/
def Disagrees (registry : Registry) (library : Library) (name : ClassName) : Prop :=
  (library.load name.module).isOk ∧ (registry.get? name.full).isNone ∧
    (registry.get? name.marked).isNone ∧
    (registry.resolve library name.full).isOk ≠ (registry.resolve library name.marked).isOk

instance (registry : Registry) (library : Library) (name : ClassName) :
    Decidable (Disagrees registry library name) :=
  inferInstanceAs (Decidable (_ ∧ _))

/-- The spellings of a path of one part disagree where the name of the module has a colon or an empty
part, and where a blank stands in front of the module or behind the path. -/
theorem spellings_disagree :
    Sample.crowded.Orderly ∧
      Disagrees [] Sample.crowded ⟨"acme:Outer", ["Inner"]⟩ ∧
      Disagrees [] Sample.crowded ⟨"acme.", ["Extra"]⟩ ∧
      Disagrees [] Sample.crowded ⟨" acme.Outer", ["Inner"]⟩ ∧
      Disagrees [("acme.Absent", Verifier.noop)] Sample.crowded ⟨"acme", ["Absent "]⟩ := by
  refine ⟨Sample.libraryOf_orderly _, ?_, ?_, ?_, ?_⟩ <;> decide +kernel

end Registry

end ClientWiring
