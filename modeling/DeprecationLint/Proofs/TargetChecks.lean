import DeprecationLint.Proofs.Nearest
import DeprecationLint.Proofs.TargetVersion
import DeprecationLint.Proofs.VersionText
import Mathlib.Data.List.TakeWhile

/-!
# What a module must have for a target

Seven things are asked of a module before a target is made from it, and the first that it does not
have is reported. `Check` lists them, and says of each **what it asks** (`Check.Passes`) and **what
is reported without it** (`Check.Reports`), without saying how anything is looked up.

* `stops_of_resolve_eq_error`: a fault is that of the first check that fails. This is read off the
  sequence of checks. The opposite direction needs no second look at it, since there is only one
  first check that fails, and it has only one fault to report (`Check.Stops.unique`).
* `resolvedIn_of_resolve`: what every target is made of (`Target.ResolvedIn`), whatever the names
  and the text it was asked for with.

`resolve_is_checked` has both. That a platform has no versions is reported by the check for versions
and nowhere else: once that has passed, there is a greatest one (`exists_chooseVersion_none`).
-/

namespace DeprecationLint.Platform

/-! ### What a name stands for -/

/-- What a name from the settings stands for: the last declaration under this very name, and if
there is none the first under a name that equals it but for the case of ASCII letters. -/
def Module.StandsFor (m : Module) (name : String) (t : TypeDeclaration) : Prop :=
  m.Declares name t ∨ (∀ u ∈ m.types, u.fullName ≠ name) ∧
    IsFirst (fun u ↦ equalIgnoringCase u.fullName name = true) m.types t

theorem Module.typeIgnoringCase?_eq_some_iff {m : Module} {name : String} {t : TypeDeclaration} :
    m.typeIgnoringCase? name = some t ↔ m.StandsFor name t := by
  rw [typeIgnoringCase?, Option.or_eq_some_iff, type?_eq_some_iff, type?_eq_none_iff,
    find?_eq_some_iff_isFirst, StandsFor]

theorem Module.StandsFor.unique {m : Module} {name : String} {t u : TypeDeclaration}
    (ht : m.StandsFor name t) (hu : m.StandsFor name u) : t = u :=
  Option.some.inj ((typeIgnoringCase?_eq_some_iff.2 ht).symm.trans
    (typeIgnoringCase?_eq_some_iff.2 hu))

/-- A name stands for a type of the module that has this name, but for case. -/
theorem Module.StandsFor.mem {m : Module} {name : String} {t : TypeDeclaration}
    (h : m.StandsFor name t) :
    t ∈ m.types ∧ equalIgnoringCase t.fullName name = true := by
  rcases h with ⟨before, after, hsplit, hname, -⟩ | ⟨-, before, after, hsplit, hname, -⟩
  · refine ⟨by simp [hsplit], ?_⟩
    rw [hname, equalIgnoringCase, beq_self_eq_true]
  · exact ⟨by simp [hsplit], hname⟩

/-- **A name stands for something exactly when a type has the name**, but for case. -/
theorem Module.exists_standsFor_iff {m : Module} {name : String} :
    (∃ t, m.StandsFor name t) ↔ ∃ t ∈ m.types, equalIgnoringCase t.fullName name = true := by
  constructor
  · intro h
    obtain ⟨t, ht⟩ := h
    exact ⟨t, ht.mem⟩
  · intro h
    obtain ⟨t, ht, hname⟩ := h
    have hfind : (m.types.find? fun u ↦ equalIgnoringCase u.fullName name).isSome :=
      List.find?_isSome.2 ⟨t, ht, hname⟩
    have hsome : (m.typeIgnoringCase? name).isSome := by
      rw [typeIgnoringCase?, Option.isSome_or, hfind, Bool.or_true]
    obtain ⟨u, hu⟩ := Option.isSome_iff_exists.1 hsome
    exact ⟨u, typeIgnoringCase?_eq_some_iff.1 hu⟩

/-! ### The simple name of a type -/

/-- **The simple name of a type is what follows the last dot of its full name.** -/
theorem TypeDeclaration.simpleName_after_last_dot (t : TypeDeclaration) :
    '.' ∉ t.simpleName.toList ∧
      (t.fullName = t.simpleName ∨ ∃ outer, t.fullName = outer ++ "." ++ t.simpleName) := by
  have hname : t.simpleName.toList =
      (t.fullName.toList.reverse.takeWhile (· ≠ '.')).reverse := by
    rw [simpleName, String.toList_ofList]
  have hfull : t.fullName.toList =
      (t.fullName.toList.reverse.dropWhile (· ≠ '.')).reverse ++ t.simpleName.toList := by
    rw [hname, ← List.reverse_append, List.takeWhile_append_dropWhile, List.reverse_reverse]
  constructor
  · intro hmem
    rw [hname, List.mem_reverse] at hmem
    simpa using List.mem_takeWhile_imp hmem
  · rcases hrest : t.fullName.toList.reverse.dropWhile (· ≠ '.') with - | ⟨c, outer⟩
    · refine .inl (String.toList_inj.1 ?_)
      rw [hfull, hrest, List.reverse_nil, List.nil_append]
    · -- the part before the simple name ends with the first dot from the right
      have hdot : c = '.' := by
        have hhead := List.head?_dropWhile_not (fun d : Char ↦ decide (d ≠ '.'))
          t.fullName.toList.reverse
        rw [hrest] at hhead
        simpa using hhead
      refine .inr ⟨String.ofList outer.reverse, String.toList_inj.1 ?_⟩
      rw [hfull, hrest, hdot]
      simp

/-! ### The checks -/

/-- What is asked of a module, one thing after another. -/
inductive Check where
  /-- The root type is declared. -/
  | rootType
  /-- The attribute type is declared. -/
  | attributeType
  /-- The platform type is declared. -/
  | platformType
  /-- The module has a title. -/
  | title
  /-- The attribute type has the member that holds versions. -/
  | member
  /-- The platform type enumerates versions. -/
  | versions
  /-- The text, if one is given, names one of them. -/
  | version
  deriving DecidableEq, Repr

namespace Check

/-- The checks in the order in which they are made. -/
def all : List Check :=
  [rootType, attributeType, platformType, title, member, versions, version]

/-- What a check asks. -/
def Passes (m : Module) (names : Names) (text : Option String) : Check → Prop
  | rootType => ∃ t ∈ m.types, equalIgnoringCase t.fullName names.rootType = true
  | attributeType => ∃ t ∈ m.types, equalIgnoringCase t.fullName names.attributeType = true
  | platformType => ∃ t ∈ m.types, equalIgnoringCase t.fullName names.platformType = true
  | title => ∃ title, m.title = some title ∧ title ≠ ""
  | member => ∃ t, m.StandsFor names.attributeType t ∧ ∃ x ∈ t.members, x.name = deprecatedEntry
  | versions => ∃ t, m.StandsFor names.platformType t ∧ ∃ e ∈ t.enumerants, ∃ d rest,
      d.isDigit = true ∧ e.name = names.versionMarker ++ String.ofList (d :: rest)
  | version => ∀ v, text = some v → ∃ t, m.StandsFor names.platformType t ∧
      ∃ x, (Versions.mk names.versionMarker t.enumerants).parse? v = some x

/-- What is reported if a check fails. -/
def Reports (m : Module) (names : Names) (text : Option String) : Check → Fault → Prop
  | rootType, f => f = .missingType names.rootType
  | attributeType, f => f = .missingType names.attributeType
  | platformType, f => f = .missingType names.platformType
  | title, f => f = .missingTitle
  | member, f => ∃ t, m.StandsFor names.attributeType t ∧ f = .missingMember t.fullName
  | versions, f => ∃ t, m.StandsFor names.platformType t ∧ f = .noVersions t.fullName
  | version, f => ∃ v, text = some v ∧ f = .invalidVersion v

variable {m : Module} {names : Names} {text : Option String} {f : Fault}

/-- A check has one fault to report. -/
theorem Reports.unique {c : Check} {g : Fault} (hf : c.Reports m names text f)
    (hg : c.Reports m names text g) : f = g := by
  cases c with
  | rootType | attributeType | platformType | title => exact hf.trans hg.symm
  | member | versions =>
    obtain ⟨t, ht, rfl⟩ := hf
    obtain ⟨u, hu, rfl⟩ := hg
    rw [ht.unique hu]
  | version =>
    obtain ⟨v, hv, rfl⟩ := hf
    obtain ⟨w, hw, rfl⟩ := hg
    rw [Option.some.inj (hv.symm.trans hw)]

/-! Once it is known what the names stand for, each of the later checks looks at one thing. -/

theorem passes_title_iff :
    title.Passes m names text ↔ ∃ identity, Target.title? m = some identity := by
  simp only [Passes, Target.title?, Option.filter_eq_some_iff, decide_eq_true_eq]

theorem passes_member_iff {t : TypeDeclaration} (ht : m.StandsFor names.attributeType t) :
    member.Passes m names text ↔ t.hasMember deprecatedEntry = true := by
  rw [TypeDeclaration.hasMember, List.any_eq_true]
  simp only [beq_iff_eq]
  constructor
  · intro h
    obtain ⟨u, hu, hmember⟩ := h
    rwa [ht.unique hu]
  · intro h
    exact ⟨t, ht, h⟩

theorem passes_versions_iff {t : TypeDeclaration} (ht : m.StandsFor names.platformType t) :
    versions.Passes m names text ↔
      (Versions.mk names.versionMarker t.enumerants).isEmpty = false := by
  have hmem : (∃ e, e ∈ (Versions.mk names.versionMarker t.enumerants).versions) ↔
      ∃ e ∈ t.enumerants, ∃ d rest, d.isDigit = true ∧
        e.name = names.versionMarker ++ String.ofList (d :: rest) := by
    simp only [Versions.mem_versions_iff]
  rw [Versions.isEmpty, List.isEmpty_eq_false_iff_exists_mem, hmem]
  constructor
  · intro h
    obtain ⟨u, hu, hversion⟩ := h
    rwa [ht.unique hu]
  · intro h
    exact ⟨t, ht, h⟩

theorem passes_version_iff {t : TypeDeclaration} (ht : m.StandsFor names.platformType t) :
    version.Passes m names text ↔ ∀ v, text = some v →
      ∃ x, (Versions.mk names.versionMarker t.enumerants).parse? v = some x := by
  constructor
  · intro h v hv
    obtain ⟨u, hu, hx⟩ := h v hv
    rwa [ht.unique hu]
  · intro h v hv
    exact ⟨t, ht, h v hv⟩

/-! ### The first check that fails -/

/-- Checks stop with a fault: the first of them that fails reports it. -/
def Stops (m : Module) (names : Names) (text : Option String) (checks : List Check)
    (f : Fault) : Prop :=
  ∃ c, IsFirst (fun c ↦ ¬c.Passes m names text) checks c ∧ c.Reports m names text f

theorem Stops.here {c : Check} {checks : List Check} (hfails : ¬c.Passes m names text)
    (hreports : c.Reports m names text f) : Stops m names text (c :: checks) f :=
  ⟨c, ⟨[], checks, rfl, hfails, by simp⟩, hreports⟩

theorem Stops.later {c : Check} {checks : List Check} (hpasses : c.Passes m names text)
    (h : Stops m names text checks f) : Stops m names text (c :: checks) f := by
  obtain ⟨d, ⟨before, after, hsplit, hfails, hbefore⟩, hreports⟩ := h
  refine ⟨d, ⟨c :: before, after, by rw [hsplit, List.cons_append], hfails, ?_⟩, hreports⟩
  exact List.forall_mem_cons.2 ⟨not_not.2 hpasses, hbefore⟩

/-- **Checks stop with one fault only.** -/
theorem Stops.unique {checks : List Check} {g : Fault} (hf : Stops m names text checks f)
    (hg : Stops m names text checks g) : f = g := by
  obtain ⟨c, hc, hf⟩ := hf
  obtain ⟨d, hd, hg⟩ := hg
  rw [hc.unique hd] at hf
  exact hf.unique hg

theorem Stops.exists_not_passes {checks : List Check} (h : Stops m names text checks f) :
    ∃ c : Check, ¬c.Passes m names text := by
  obtain ⟨c, ⟨-, -, -, hfails, -⟩, -⟩ := h
  exact ⟨c, hfails⟩

end Check

namespace Target

variable {m : Module} {names : Names} {text : Option String} {f : Fault} {t : Target}

/-- A type that is looked up by name is missing, or the fault comes from later on. -/
theorem missing_or_of_bind_eq_error {α : Type} {name : String}
    {k : TypeDeclaration → Except Fault α}
    (h : (orFault (.missingType name) (m.typeIgnoringCase? name) >>= k) = .error f) :
    ((¬∃ t ∈ m.types, equalIgnoringCase t.fullName name = true) ∧ f = .missingType name) ∨
      ∃ t, m.StandsFor name t ∧ k t = .error f := by
  rw [bind_eq_error_iff, orFault_eq_error_iff] at h
  rcases h with ⟨hnone, hf⟩ | ⟨t, ht, hk⟩
  · refine .inl ⟨fun hdeclared ↦ ?_, hf⟩
    obtain ⟨t, ht⟩ := Module.exists_standsFor_iff.2 hdeclared
    rw [Module.typeIgnoringCase?_eq_some_iff.2 ht] at hnone
    exact absurd hnone (by simp)
  · exact .inr ⟨t, Module.typeIgnoringCase?_eq_some_iff.1 (orFault_eq_ok_iff.1 ht), hk⟩

/-- **Where there are versions, a greatest one can be chosen**, and no fault comes up. -/
theorem exists_chooseVersion_none {vs : Versions} (h : vs.isEmpty = false)
    (platformType : String) : ∃ x, chooseVersion vs platformType none = .ok (x, true) := by
  obtain ⟨e, he⟩ := List.isEmpty_eq_false_iff_exists_mem.1 h
  obtain ⟨x, hx, -⟩ := Versions.exists_max?_of_mem he
  exact ⟨x, chooseVersion_none_eq_ok_iff.2 ⟨hx, rfl⟩⟩

/-- A version cannot be chosen only because a text was given that names none. -/
theorem exists_text_of_chooseVersion_eq_error {vs : Versions} (h : vs.isEmpty = false)
    {platformType : String} (hf : chooseVersion vs platformType text = .error f) :
    ∃ v, text = some v ∧ vs.parse? v = none ∧ f = .invalidVersion v := by
  rcases text with - | v
  · obtain ⟨x, hx⟩ := exists_chooseVersion_none h platformType
    rw [hx] at hf
    exact absurd hf (by simp)
  · rw [chooseVersion, bind_eq_error_iff, orFault_eq_error_iff] at hf
    rcases hf with ⟨hnone, hf⟩ | ⟨x, -, hx⟩
    · exact ⟨v, rfl, hnone, hf⟩
    · exact absurd hx (by simp [pure, Except.pure])

/-- **A fault is that of the first check that fails.** -/
theorem stops_of_resolve_eq_error (h : resolve m names text = .error f) :
    Check.Stops m names text Check.all f := by
  rcases missing_or_of_bind_eq_error h with ⟨hroot, hf⟩ | ⟨root, hroot, h⟩
  · exact .here hroot hf
  refine .later (Module.exists_standsFor_iff.1 ⟨root, hroot⟩) ?_
  rcases missing_or_of_bind_eq_error h with ⟨htype, hf⟩ | ⟨type, htype, h⟩
  · exact .here htype hf
  refine .later (Module.exists_standsFor_iff.1 ⟨type, htype⟩) ?_
  rcases missing_or_of_bind_eq_error h with ⟨hplatform, hf⟩ | ⟨platform, hplatform, h⟩
  · exact .here hplatform hf
  refine .later (Module.exists_standsFor_iff.1 ⟨platform, hplatform⟩) ?_
  rcases bind_eq_error_iff.1 h with htitle | ⟨identity, htitle, h⟩
  · obtain ⟨hnone, hf⟩ := orFault_eq_error_iff.1 htitle
    exact .here (by simp [Check.passes_title_iff, hnone]) hf
  refine .later (Check.passes_title_iff.2 ⟨identity, orFault_eq_ok_iff.1 htitle⟩) ?_
  rcases unless_bind_eq_error_iff.1 h with ⟨hmember, hf⟩ | ⟨hmember, h⟩
  · exact .here (mt (Check.passes_member_iff htype).1 hmember) ⟨type, htype, hf⟩
  refine .later ((Check.passes_member_iff htype).2 hmember) ?_
  rw [← ite_not] at h
  rcases unless_bind_eq_error_iff.1 h with ⟨hversions, hf⟩ | ⟨hversions, h⟩
  · have hempty := not_not.1 hversions
    exact .here (by simp [Check.passes_versions_iff hplatform, hempty]) ⟨platform, hplatform, hf⟩
  have hversions := Bool.eq_false_iff.2 hversions
  refine .later ((Check.passes_versions_iff hplatform).2 hversions) ?_
  rcases bind_eq_error_iff.1 h with hchoose | ⟨⟨v, d⟩, -, h⟩
  · obtain ⟨v, hv, hnone, hf⟩ := exists_text_of_chooseVersion_eq_error hversions hchoose
    refine .here (fun hpasses ↦ ?_) ⟨v, hv, hf⟩
    obtain ⟨x, hx⟩ := (Check.passes_version_iff hplatform).1 hpasses v hv
    exact absurd (hnone.symm.trans hx) (by simp)
  · exact absurd h (by simp [pure, Except.pure])

/-- A target is made only if all checks pass. -/
theorem passes_of_resolve (h : resolve m names text = .ok t) (c : Check) :
    c.Passes m names text := by
  obtain ⟨root, type, platform, identity, v, d, hroot, htype, hplatform, htitle, hmember,
    hversions, hchoose, -⟩ := resolve_eq_ok_iff.1 h
  rw [Module.typeIgnoringCase?_eq_some_iff] at hroot htype hplatform
  cases c with
  | rootType => exact Module.exists_standsFor_iff.1 ⟨root, hroot⟩
  | attributeType => exact Module.exists_standsFor_iff.1 ⟨type, htype⟩
  | platformType => exact Module.exists_standsFor_iff.1 ⟨platform, hplatform⟩
  | title => exact Check.passes_title_iff.2 ⟨identity, htitle⟩
  | member => exact (Check.passes_member_iff htype).2 hmember
  | versions => exact (Check.passes_versions_iff hplatform).2 hversions
  | version =>
    rw [Check.passes_version_iff hplatform]
    intro w hw
    rw [hw, chooseVersion_some_eq_ok_iff] at hchoose
    exact ⟨v, hchoose.1⟩

/-- **The checks decide**: a target is made exactly when all of them pass, and otherwise the first
one that fails reports. -/
theorem resolve_eq_error_iff_stops :
    resolve m names text = .error f ↔ Check.Stops m names text Check.all f := by
  constructor
  · exact stops_of_resolve_eq_error
  · intro hstops
    rcases hresolve : resolve m names text with g | t
    · rw [hstops.unique (stops_of_resolve_eq_error hresolve)]
    · obtain ⟨c, hfails⟩ := hstops.exists_not_passes
      exact absurd (passes_of_resolve hresolve c) hfails

theorem exists_resolve_iff :
    (∃ t, resolve m names text = .ok t) ↔ ∀ c : Check, c.Passes m names text := by
  constructor
  · intro h c
    obtain ⟨t, ht⟩ := h
    exact passes_of_resolve ht c
  · intro hall
    rcases hresolve : resolve m names text with f | t
    · obtain ⟨c, hfails⟩ := (stops_of_resolve_eq_error hresolve).exists_not_passes
      exact absurd (hall c) hfails
    · exact ⟨t, rfl⟩

/-! ### What a target is made of -/

/-- What a target holds that was made for names and a text in a module. -/
structure ResolvedIn (m : Module) (names : Names) (text : Option String) (t : Target) : Prop where
  /-- The module is the one at hand. -/
  module : t.module = m
  /-- The root is spelled as it is declared. -/
  rootFullName : ∃ root ∈ m.types, m.StandsFor names.rootType root ∧
    t.rootFullName = root.fullName
  /-- The simple name of the root is what follows the last dot of its full name. -/
  rootName : '.' ∉ t.rootName.toList ∧
    (t.rootFullName = t.rootName ∨ ∃ outer, t.rootFullName = outer ++ "." ++ t.rootName)
  /-- The attribute type is spelled as it is declared. -/
  attributeType : ∃ type ∈ m.types, m.StandsFor names.attributeType type ∧
    t.attributeType = type.fullName
  /-- The identity is the title of the module. -/
  identity : m.title = some t.identity ∧ t.identity ≠ ""
  /-- The versions are those of the platform type. -/
  versions : ∃ platform ∈ m.types, m.StandsFor names.platformType platform ∧
    t.versions = ⟨names.versionMarker, platform.enumerants⟩
  /-- The version is one of them, at most the greatest, and the greatest if no text is given. -/
  version : (∃ e ∈ t.versions.versions, e.value = t.version) ∧
    ∃ greatest ∈ t.versions.versions, (∀ e ∈ t.versions.versions, e.value ≤ greatest.value) ∧
      t.version ≤ greatest.value ∧ (text = none → t.version = greatest.value)
  /-- The version is the one that the text names. -/
  named : ∀ v, text = some v → t.versions.parse? v = some t.version
  /-- The version is a default exactly when no text is given. -/
  defaulted : t.defaulted = text.isNone
  /-- The text of the version is that of a version: what follows the marker in its name, from an
  ASCII digit on, with dots for underscores. -/
  versionText : ∃ e ∈ t.versions.versions, e.value = t.version ∧ ∃ d rest, d.isDigit = true ∧
    e.name = t.versions.marker ++ String.ofList (d :: rest) ∧
    t.versionText = replaceChar '_' '.' (String.ofList (d :: rest)) ∧
    t.versionText.toList.head? = some d

/-- What is chosen is a version, and the greatest one or the one that the text names. -/
theorem chosen_of_chooseVersion {vs : Versions} {platformType : String} {v : UInt64} {d : Bool}
    (h : chooseVersion vs platformType text = .ok (v, d)) :
    ((∃ e ∈ vs.versions, e.value = v) ∧
      ∃ greatest ∈ vs.versions, (∀ e ∈ vs.versions, e.value ≤ greatest.value) ∧
        v ≤ greatest.value ∧ (text = none → v = greatest.value)) ∧
    (∀ w, text = some w → vs.parse? w = some v) ∧ d = text.isNone := by
  rcases text with - | w
  · obtain ⟨hmax, rfl⟩ := chooseVersion_none_eq_ok_iff.1 h
    obtain ⟨⟨e, he, rfl⟩, hgreatest⟩ := Versions.max?_eq_some_iff.1 hmax
    exact ⟨⟨⟨e, he, rfl⟩, e, he, hgreatest, hgreatest e he, fun _ ↦ rfl⟩, by simp, rfl⟩
  · obtain ⟨hparse, rfl⟩ := chooseVersion_some_eq_ok_iff.1 h
    obtain ⟨x, hmax, hle⟩ := Versions.exists_max?_of_parse? hparse
    obtain ⟨⟨g, hg, rfl⟩, hgreatest⟩ := Versions.max?_eq_some_iff.1 hmax
    refine ⟨⟨Versions.mem_of_parse? hparse, g, hg, hgreatest, hle, by simp⟩, ?_, rfl⟩
    intro w' hw
    rw [← Option.some.inj hw, hparse]

/-- **Every target holds what it should.** -/
theorem resolvedIn_of_resolve (h : resolve m names text = .ok t) : t.ResolvedIn m names text := by
  obtain ⟨root, type, platform, identity, v, d, hroot, htype, hplatform, htitle, -, -, hchoose,
    rfl⟩ := resolve_eq_ok_iff.1 h
  rw [Module.typeIgnoringCase?_eq_some_iff] at hroot htype hplatform
  have htitle : m.title = some identity ∧ identity ≠ "" := by
    simpa [title?, Option.filter_eq_some_iff] using htitle
  obtain ⟨hversion, hnamed, hdefaulted⟩ := chosen_of_chooseVersion hchoose
  obtain ⟨e, he, hev⟩ := hversion.1
  exact {
    module := rfl
    rootFullName := ⟨root, hroot.mem.1, hroot, rfl⟩
    rootName := root.simpleName_after_last_dot
    attributeType := ⟨type, htype.mem.1, htype, rfl⟩
    identity := htitle
    versions := ⟨platform, hplatform.mem.1, hplatform, rfl⟩
    version := hversion
    named := hnamed
    defaulted := hdefaulted
    versionText := hev ▸ Versions.exists_format_of_mem he }

end Target

/-- **A target is made exactly when a module passes all checks**; otherwise the first check that
fails reports its fault, and no other. A target that is made holds what it should, and once there
are versions the greatest of them can always be chosen. -/
theorem resolve_is_checked (m : Module) (names : Names) (text : Option String) :
    ((∃ t, Target.resolve m names text = .ok t) ↔ ∀ c : Check, c.Passes m names text) ∧
    (∀ f, Target.resolve m names text = .error f ↔ Check.Stops m names text Check.all f) ∧
    (∀ t, Target.resolve m names text = .ok t → t.ResolvedIn m names text) ∧
    ∀ (vs : Versions) (platformType : String), vs.isEmpty = false →
      ∃ x, Target.chooseVersion vs platformType none = .ok (x, true) :=
  ⟨Target.exists_resolve_iff, fun _ ↦ Target.resolve_eq_error_iff_stops,
    fun _ ↦ Target.resolvedIn_of_resolve, fun _ platformType h ↦
      Target.exists_chooseVersion_none h platformType⟩

/-- The platform with a box, but without a title. -/
def untitledModule : Module :=
  { boxModule with title := none }

/-- One of the names differs from the declared one in case, and still finds its type. Without a
title, that is what is reported, although the text names no version either. -/
theorem resolve_is_checked_box :
    Target.resolve boxModule boxNames none = .ok boxTarget ∧
    boxTarget.ResolvedIn boxModule boxNames none ∧
    Target.resolve untitledModule boxNames (some "9") = .error .missingTitle ∧
    Check.Stops untitledModule boxNames (some "9") Check.all .missingTitle ∧
    ¬∀ c : Check, c.Passes untitledModule boxNames (some "9") := by
  have hbox : Target.resolve boxModule boxNames none = .ok boxTarget := by rfl
  have huntitled : Target.resolve untitledModule boxNames (some "9") = .error .missingTitle := by
    rfl
  have hchecked := resolve_is_checked untitledModule boxNames (some "9")
  refine ⟨hbox, (resolve_is_checked boxModule boxNames none).2.2.1 boxTarget hbox, huntitled,
    (hchecked.2.1 _).1 huntitled, fun hall ↦ ?_⟩
  obtain ⟨t, ht⟩ := hchecked.1.2 hall
  exact absurd (huntitled.symm.trans ht) (by simp)

end DeprecationLint.Platform
