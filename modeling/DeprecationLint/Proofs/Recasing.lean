import DeprecationLint.Proofs.Reordering
import DeprecationLint.Proofs.TargetChecks

/-!
# Names in another case

The names in the settings may differ from the declared ones in the case of their letters, but
nothing after that is so generous: attributes are told by the full name of their type, and the root
by its simple name. So everything depends on a target holding names **as they are declared**, not as
they were asked for.

Where no two declared names are equal but for case, a name stands for the one type that has it but
for case (`Module.standsFor_iff`), which is the same type for every spelling. Then each check of a
module passes for all spellings or for none (`Check.passes_of_recased`) and reports the same, except
that a missing type is named as it was asked for (`Check.Reports.recased`). `run_of_recased` is
that **the spelling shows in nothing else**.
-/

namespace DeprecationLint

open Platform Snapshot

namespace Platform

/-! ### Spellings -/

/-- Two sets of names ask for the same types, each perhaps spelled in another case, and for versions
with the same marker. -/
structure Names.Recased (names names' : Names) : Prop where
  /-- The names of the root are equal but for case. -/
  rootType : equalIgnoringCase names.rootType names'.rootType = true
  /-- The names of the attribute type are equal but for case. -/
  attributeType : equalIgnoringCase names.attributeType names'.attributeType = true
  /-- The names of the platform type are equal but for case. -/
  platformType : equalIgnoringCase names.platformType names'.platformType = true
  /-- The markers are the same. -/
  versionMarker : names'.versionMarker = names.versionMarker

/-- Two faults are the same, except that a missing type is named as each of two sets of names asks
for it. -/
inductive Names.SameFault (names names' : Names) : Fault → Fault → Prop
  /-- The root is missing. -/
  | rootType : SameFault names names' (.missingType names.rootType) (.missingType names'.rootType)
  /-- The attribute type is missing. -/
  | attributeType : SameFault names names' (.missingType names.attributeType)
      (.missingType names'.attributeType)
  /-- The platform type is missing. -/
  | platformType : SameFault names names' (.missingType names.platformType)
      (.missingType names'.platformType)
  /-- No type is missing. -/
  | other {f : Fault} (hother : ∀ name, f ≠ .missingType name) : SameFault names names' f f

theorem equalIgnoringCase_congr {a b : String} (h : equalIgnoringCase a b = true) (c : String) :
    equalIgnoringCase c a = equalIgnoringCase c b := by
  rw [equalIgnoringCase, equalIgnoringCase, equalIgnoringCase_iff.1 h]

/-! ### What a name stands for -/

variable {m : Module}
  (hm : m.types.Pairwise fun t u ↦ equalIgnoringCase t.fullName u.fullName = false)

include hm

/-- **A name stands for the type that has it but for case.** -/
theorem Module.standsFor_iff {name : String} {t : TypeDeclaration} :
    m.StandsFor name t ↔ t ∈ m.types ∧ equalIgnoringCase t.fullName name = true := by
  constructor
  · exact Module.StandsFor.mem
  · rintro ⟨ht, hname⟩
    obtain ⟨u, hu⟩ := Module.exists_standsFor_iff.2 ⟨t, ht, hname⟩
    have htu : t = u := Module.eq_of_equalIgnoringCase hm ht hu.mem.1 hname hu.mem.2
    rwa [htu]

theorem Module.standsFor_congr {name name' : String} (h : equalIgnoringCase name name' = true) :
    m.StandsFor name = m.StandsFor name' := by
  funext t
  rw [standsFor_iff hm, standsFor_iff hm, equalIgnoringCase_congr h]

variable {names names' : Names} (h : names.Recased names') (text : Option String)

include h

/-- **A check passes for both spellings or for none.** -/
theorem Check.passes_of_recased (c : Check) :
    c.Passes m names' text = c.Passes m names text := by
  have hattribute := Module.standsFor_congr hm h.attributeType
  have hplatform := Module.standsFor_congr hm h.platformType
  cases c with
  | rootType => simp only [Passes, equalIgnoringCase_congr h.rootType]
  | attributeType => simp only [Passes, equalIgnoringCase_congr h.attributeType]
  | platformType => simp only [Passes, equalIgnoringCase_congr h.platformType]
  | title => rfl
  | member => simp only [Passes, hattribute]
  | versions => simp only [Passes, hplatform, h.versionMarker]
  | version => simp only [Passes, hplatform, h.versionMarker]

variable {text}

/-- **A check reports the same for both spellings**, except for the name of a missing type. -/
theorem Check.Reports.recased {c : Check} {f : Fault} (hf : c.Reports m names text f) :
    ∃ f', c.Reports m names' text f' ∧ names.SameFault names' f f' := by
  have hattribute := Module.standsFor_congr hm h.attributeType
  have hplatform := Module.standsFor_congr hm h.platformType
  cases c with
  | rootType => exact ⟨_, rfl, hf ▸ .rootType⟩
  | attributeType => exact ⟨_, rfl, hf ▸ .attributeType⟩
  | platformType => exact ⟨_, rfl, hf ▸ .platformType⟩
  | title => exact ⟨f, hf, .other (by simp [show f = _ from hf])⟩
  | member =>
    obtain ⟨t, ht, rfl⟩ := hf
    exact ⟨_, ⟨t, hattribute ▸ ht, rfl⟩, .other (by simp)⟩
  | versions =>
    obtain ⟨t, ht, rfl⟩ := hf
    exact ⟨_, ⟨t, hplatform ▸ ht, rfl⟩, .other (by simp)⟩
  | version =>
    obtain ⟨v, hv, rfl⟩ := hf
    exact ⟨_, ⟨v, hv, rfl⟩, .other (by simp)⟩

/-- Checks stop at the same place for both spellings. -/
theorem Check.Stops.recased {checks : List Check} {f : Fault}
    (hf : Check.Stops m names text checks f) :
    ∃ f', Check.Stops m names' text checks f' ∧ names.SameFault names' f f' := by
  obtain ⟨c, hfirst, hreports⟩ := hf
  obtain ⟨f', hreports', hsame⟩ := hreports.recased hm h
  refine ⟨f', ⟨c, ?_, hreports'⟩, hsame⟩
  simpa only [Check.passes_of_recased hm h text] using hfirst

/-- **A target holds names as they are declared**, whatever the spelling that they were asked for
with. -/
theorem Target.resolve_of_recased {t : Target} (ht : resolve m names text = .ok t) :
    resolve m names' text = .ok t := by
  have hsame : ∀ {name name' : String}, equalIgnoringCase name name' = true →
      m.typeIgnoringCase? name' = m.typeIgnoringCase? name := by
    intro name name' hname
    ext u
    rw [Module.typeIgnoringCase?_eq_some_iff, Module.typeIgnoringCase?_eq_some_iff,
      Module.standsFor_congr hm hname]
  rw [resolve_eq_ok_iff] at ht ⊢
  rwa [hsame h.rootType, hsame h.attributeType, hsame h.platformType, h.versionMarker]

end Platform

/-! ### Runs -/

/-- **The case of configured names does not matter.** Let no two types of a module have full names
that are equal but for case, and let two sets of names ask for the same types but for case, with the
same marker for versions. Then for every version both have a fault, which is the same one except
that a missing type is named as it was asked for; or both resolve to the same target, and a run for
it writes the same to every sink and comes to the same end. -/
theorem run_of_recased {m : Module}
    (hm : m.types.Pairwise fun t u ↦ equalIgnoringCase t.fullName u.fullName = false)
    {names names' : Names} (h : names.Recased names') (version : Option String) :
    (∃ f f', Target.resolve m names version = .error f ∧
      Target.resolve m names' version = .error f' ∧ names.SameFault names' f f') ∨
    ∃ t t', Target.resolve m names version = .ok t ∧ Target.resolve m names' version = .ok t' ∧
      t' = t ∧
      ∀ (excluded : String → Bool) (solution : Solution) (sink : Sink),
        Inspection.run { target := t', excluded } solution sink =
          Inspection.run { target := t, excluded } solution sink := by
  cases ht : Target.resolve m names version with
  | error f =>
    have hstops := Target.stops_of_resolve_eq_error ht
    obtain ⟨f', hstops', hsame⟩ := hstops.recased hm h
    exact Or.inl ⟨f, f', rfl, Target.resolve_eq_error_iff_stops.2 hstops', hsame⟩
  | ok t =>
    exact Or.inr ⟨t, t, rfl, Target.resolve_of_recased hm h ht, rfl, fun _ _ _ ↦ rfl⟩

/-- The names of the platform with a box, in capitals. -/
def shoutedNames : Names where
  rootType := "KIT.ROOT"
  attributeType := "KIT.SINCE"
  platformType := "KIT.VERSION"
  versionMarker := "v"

/-- The names of that platform, but for a root that it does not declare. -/
def lidNames : Names :=
  { boxNames with rootType := "kit.lid" }

/-- The same names in capitals. -/
def shoutedLidNames : Names :=
  { shoutedNames with rootType := "KIT.LID" }

/-- In capitals the names resolve to the declared ones, and a missing root is named in capitals. -/
theorem run_of_recased_shouted :
    (Target.resolve boxModule shoutedNames none = .ok boxTarget ∧
      boxTarget.attributeType = "Kit.Since" ∧ boxTarget.rootName = "Root") ∧
    Target.resolve boxModule lidNames none = .error (.missingType "kit.lid") ∧
    Target.resolve boxModule shoutedLidNames none = .error (.missingType "KIT.LID") ∧
    lidNames.SameFault shoutedLidNames (.missingType "kit.lid") (.missingType "KIT.LID") := by
  have hm : boxModule.types.Pairwise fun t u ↦
      equalIgnoringCase t.fullName u.fullName = false := by decide
  have hbox : Target.resolve boxModule boxNames none = .ok boxTarget := by rfl
  have hlid : Target.resolve boxModule lidNames none = .error (.missingType "kit.lid") := by rfl
  have hshouted : Target.resolve boxModule shoutedLidNames none =
      .error (.missingType "KIT.LID") := by rfl
  have hnames : boxNames.Recased shoutedNames := ⟨by decide, by decide, by decide, rfl⟩
  have hlidNames : lidNames.Recased shoutedLidNames := ⟨by decide, by decide, by decide, rfl⟩
  refine ⟨⟨?_, rfl, rfl⟩, hlid, hshouted, ?_⟩
  · rcases run_of_recased hm hnames none with ⟨f, f', hf, -⟩ | ⟨t, t', ht, ht', rfl, -⟩
    · cases hbox.symm.trans hf
    · cases hbox.symm.trans ht
      exact ht'
  · rcases run_of_recased hm hlidNames none with ⟨f, f', hf, hf', hsame⟩ | ⟨t, t', ht, -⟩
    · cases hlid.symm.trans hf
      cases hshouted.symm.trans hf'
      exact hsame
    · cases hlid.symm.trans ht

end DeprecationLint
