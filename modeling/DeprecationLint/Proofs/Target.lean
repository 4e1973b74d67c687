import DeprecationLint.Platform.Target
import Mathlib.Data.UInt

/-!
# Which targets resolve

`Target.resolve` is a sequence of checks; `resolve_eq_ok_iff` lists what passes them and what the
target is then made of. The checks look at very little of a module, so modules that agree there have
the same target (`resolve_congr`). Only the last check looks at the text of a version, so a target
that resolves for some text also resolves for none, and then for a version at least as great
(`exists_resolve_none`).
-/

namespace DeprecationLint.Platform

/-! ### Checks in sequence -/

theorem bind_eq_ok_iff {α β : Type} {x : Except Fault α} {k : α → Except Fault β} {b : β} :
    (x >>= k) = .ok b ↔ ∃ a, x = .ok a ∧ k a = .ok b := by
  cases x <;> simp [bind, Except.bind]

theorem bind_eq_error_iff {α β : Type} {x : Except Fault α} {k : α → Except Fault β} {f : Fault} :
    (x >>= k) = .error f ↔ x = .error f ∨ ∃ a, x = .ok a ∧ k a = .error f := by
  cases x <;> simp [bind, Except.bind]

/-- A check that throws lets nothing through; one that passes changes nothing. -/
theorem unless_bind_eq_ok_iff {α : Type} {p : Prop} [Decidable p] {f : Fault}
    {k : Except Fault α} {a : α} :
    (if p then k else throw f >>= fun _ : Unit ↦ k) = .ok a ↔ p ∧ k = .ok a := by
  by_cases h : p <;> simp [h, throw, throwThe, MonadExceptOf.throw, bind, Except.bind]

/-- A check that throws is the end; one that passes leaves the fault to what follows. -/
theorem unless_bind_eq_error_iff {α : Type} {p : Prop} [Decidable p] {f g : Fault}
    {k : Except Fault α} :
    (if p then k else throw g >>= fun _ : Unit ↦ k) = .error f ↔
      ¬p ∧ f = g ∨ p ∧ k = .error f := by
  by_cases h : p <;>
    simp [h, throw, throwThe, MonadExceptOf.throw, bind, Except.bind, eq_comm]

theorem Target.orFault_eq_ok_iff {α : Type} {f : Fault} {o : Option α} {a : α} :
    orFault f o = .ok a ↔ o = some a := by
  cases o <;> simp [orFault]

theorem Target.orFault_eq_error_iff {α : Type} {f g : Fault} {o : Option α} :
    orFault g o = .error f ↔ o = none ∧ f = g := by
  cases o <;> simp [orFault, eq_comm]

/-- Equal views of two options are views of nothing, or of two elements that look alike. -/
theorem eq_none_or_exists_of_map_eq {α β : Type} {view : α → β} {o o' : Option α}
    (h : o'.map view = o.map view) :
    o = none ∧ o' = none ∨ ∃ a a', o = some a ∧ o' = some a' ∧ view a' = view a := by
  cases o with
  | none => exact Or.inl ⟨rfl, Option.map_eq_none_iff.1 h⟩
  | some a =>
    obtain ⟨a', ha', hview⟩ := Option.map_eq_some_iff.1 h
    exact Or.inr ⟨a, a', rfl, ha', hview⟩

/-! ### Versions -/

namespace Versions

variable {vs : Versions} {text : String} {v : UInt64}

/-- A text stands for the value of some version. -/
theorem mem_of_parse? (h : vs.parse? text = some v) : ∃ e ∈ vs.versions, e.value = v := by
  rw [parse?] at h
  split at h
  · split at h
    case h_1 e he =>
      have hmem : e ∈ vs.versions.filter (·.name == vs.nameOf text) := by simp [he]
      exact ⟨e, (List.mem_filter.1 hmem).1, Option.some.inj h⟩
    case h_2 => exact absurd h (by simp)
  · exact absurd h (by simp)

/-- The greater of two words is an upper bound of both, and one of them. -/
theorem lawfulOrderMax_word : Std.LawfulOrderMax UInt64 := by
  have hmax : ∀ a b : UInt64, max a b = if a ≤ b then b else a := fun _ _ ↦ rfl
  refine .of_max_le_iff (fun a b c ↦ ?_) fun a b ↦ ?_
  · simp only [hmax, UInt64.le_iff_toNat_le]
    split <;> omega
  · rw [hmax]
    split
    · exact Or.inr rfl
    · exact Or.inl rfl

/-- The greatest version is the value of a version, and no version has a greater one. -/
theorem max?_eq_some_iff :
    vs.max? = some v ↔ (∃ e ∈ vs.versions, e.value = v) ∧ ∀ e ∈ vs.versions, e.value ≤ v := by
  have := lawfulOrderMax_word
  rw [max?, List.max?_eq_some_iff]
  simp only [List.mem_map, forall_exists_index, and_imp, forall_apply_eq_imp_iff₂]

/-- Where there is a version, there is a greatest one. -/
theorem exists_max?_of_mem {e : Enumerant} (he : e ∈ vs.versions) :
    ∃ m, vs.max? = some m ∧ e.value ≤ m := by
  have hsome : vs.max?.isSome := List.isSome_max?_of_mem (List.mem_map_of_mem he)
  obtain ⟨m, hm⟩ := Option.isSome_iff_exists.1 hsome
  exact ⟨m, hm, (max?_eq_some_iff.1 hm).2 e he⟩

end Versions

/-! ### The target -/

namespace Target

variable {m : Module} {names : Names} {text : Option String} {t : Target}

/-- **A target resolves exactly when every check passes**, and is then made of what was found. -/
theorem resolve_eq_ok_iff :
    resolve m names text = .ok t ↔
      ∃ root attributeType platform identity v d,
        m.typeIgnoringCase? names.rootType = some root ∧
        m.typeIgnoringCase? names.attributeType = some attributeType ∧
        m.typeIgnoringCase? names.platformType = some platform ∧
        title? m = some identity ∧
        attributeType.hasMember deprecatedEntry = true ∧
        (Versions.mk names.versionMarker platform.enumerants).isEmpty = false ∧
        chooseVersion ⟨names.versionMarker, platform.enumerants⟩ platform.fullName text =
          .ok (v, d) ∧
        t = {
          module := m
          rootName := root.simpleName
          rootFullName := root.fullName
          attributeType := attributeType.fullName
          identity
          versions := ⟨names.versionMarker, platform.enumerants⟩
          version := v
          defaulted := d } := by
  simp only [resolve, bind_eq_ok_iff, orFault_eq_ok_iff]
  constructor
  · rintro ⟨root, hroot, attributeType, hattribute, platform, hplatform, identity, htitle, h⟩
    obtain ⟨hmember, h⟩ := unless_bind_eq_ok_iff.1 h
    rw [← ite_not] at h
    obtain ⟨hversions, h⟩ := unless_bind_eq_ok_iff.1 h
    obtain ⟨⟨v, d⟩, hchoose, h⟩ := bind_eq_ok_iff.1 h
    exact ⟨root, attributeType, platform, identity, v, d, hroot, hattribute, hplatform, htitle,
      hmember, by simpa using hversions, hchoose, (Except.ok.inj h).symm⟩
  · rintro ⟨root, attributeType, platform, identity, v, d, hroot, hattribute, hplatform, htitle,
      hmember, hversions, hchoose, rfl⟩
    refine ⟨root, hroot, attributeType, hattribute, platform, hplatform, identity, htitle, ?_⟩
    rw [if_pos hmember, if_neg (by simp [hversions]), bind_eq_ok_iff]
    exact ⟨(v, d), hchoose, rfl⟩

/-- **A target is made of little**: two modules with the same title that find the three types under
the same names, the type of the attributes with or without the member for versions in both, and the
platform type with the same enumerants, have the same target or the same fault. -/
theorem resolve_congr {m' : Module} (htitle : m'.title = m.title)
    (hroot : (m'.typeIgnoringCase? names.rootType).map (·.fullName) =
      (m.typeIgnoringCase? names.rootType).map (·.fullName))
    (hattribute : ((m'.typeIgnoringCase? names.attributeType).map fun t ↦
        (t.fullName, t.hasMember deprecatedEntry)) =
      (m.typeIgnoringCase? names.attributeType).map fun t ↦
        (t.fullName, t.hasMember deprecatedEntry))
    (hplatform : ((m'.typeIgnoringCase? names.platformType).map fun t ↦
        (t.fullName, t.enumerants)) =
      (m.typeIgnoringCase? names.platformType).map fun t ↦ (t.fullName, t.enumerants))
    (text : Option String) :
    resolve m' names text = (resolve m names text).map ({ · with module := m' }) := by
  rw [resolve, resolve, title?, title?, htitle]
  rcases eq_none_or_exists_of_map_eq hroot with ⟨h, h'⟩ | ⟨root, root', h, h', hname⟩
  · rw [h, h']
    rfl
  rw [h, h']
  rcases eq_none_or_exists_of_map_eq hattribute with ⟨h, h'⟩ | ⟨type, type', h, h', ht⟩
  · rw [h, h']
    rfl
  rw [h, h']
  rcases eq_none_or_exists_of_map_eq hplatform with ⟨h, h'⟩ | ⟨platform, platform', h, h', hp⟩
  · rw [h, h']
    rfl
  rw [h, h']
  obtain ⟨htname, hmember⟩ := Prod.mk.inj ht
  obtain ⟨hpname, henumerants⟩ := Prod.mk.inj hp
  -- from here on both modules pass or fail the same checks
  have hsimple : root'.simpleName = root.simpleName := by
    rw [TypeDeclaration.simpleName, TypeDeclaration.simpleName, hname]
  simp only [orFault, bind, Except.bind, hname, hsimple, htname, hmember, hpname, henumerants]
  cases m.title.filter (· ≠ "") with
  | none => rfl
  | some identity =>
    cases type.hasMember deprecatedEntry with
    | false => rfl
    | true =>
      cases (Versions.mk names.versionMarker platform.enumerants).isEmpty with
      | true => rfl
      | false =>
        cases chooseVersion ⟨names.versionMarker, platform.enumerants⟩ platform.fullName text <;>
          rfl

theorem chooseVersion_some_eq_ok_iff {vs : Versions} {platformType text : String} {v : UInt64}
    {d : Bool} :
    chooseVersion vs platformType (some text) = .ok (v, d) ↔
      vs.parse? text = some v ∧ d = false := by
  cases h : vs.parse? text <;>
    simp [chooseVersion, h, orFault, bind, Except.bind, pure, Except.pure, eq_comm]

theorem chooseVersion_none_eq_ok_iff {vs : Versions} {platformType : String} {v : UInt64}
    {d : Bool} :
    chooseVersion vs platformType none = .ok (v, d) ↔ vs.max? = some v ∧ d = true := by
  cases h : vs.max? <;>
    simp [chooseVersion, h, orFault, bind, Except.bind, pure, Except.pure, eq_comm]

/-- The module of a target is the one that it was resolved in. -/
theorem module_of_resolve (h : resolve m names text = .ok t) : t.module = m := by
  obtain ⟨_, _, _, _, _, _, -, -, -, -, -, -, -, rfl⟩ := resolve_eq_ok_iff.1 h
  rfl

/-- The version of a target is a default exactly when no text is given. -/
theorem defaulted_of_resolve (h : resolve m names text = .ok t) : t.defaulted = text.isNone := by
  obtain ⟨_, _, _, _, _, _, -, -, -, -, -, -, hchoose, rfl⟩ := resolve_eq_ok_iff.1 h
  cases text with
  | none => exact (chooseVersion_none_eq_ok_iff.1 hchoose).2
  | some text => exact (chooseVersion_some_eq_ok_iff.1 hchoose).2

/-- Two targets differ at most in the version, and in whether it was given. -/
def AgreeButVersion (t u : Target) : Prop :=
  t = { u with version := t.version, defaulted := t.defaulted }

/-- **Without a version a target resolves whenever it does with one**, and the version is then at
least as great. -/
theorem exists_resolve_none {text : String} (h : resolve m names (some text) = .ok t) :
    ∃ u, resolve m names none = .ok u ∧ t.AgreeButVersion u ∧ t.version ≤ u.version := by
  obtain ⟨root, attributeType, platform, identity, v, d, hroot, hattribute, hplatform, htitle,
    hmember, hversions, hchoose, rfl⟩ := resolve_eq_ok_iff.1 h
  obtain ⟨hparse, -⟩ := chooseVersion_some_eq_ok_iff.1 hchoose
  obtain ⟨e, he, hev⟩ := Versions.mem_of_parse? hparse
  obtain ⟨w, hw, hle⟩ := Versions.exists_max?_of_mem he
  rw [hev] at hle
  exact ⟨_, resolve_eq_ok_iff.2 ⟨root, attributeType, platform, identity, w, true, hroot,
    hattribute, hplatform, htitle, hmember, hversions,
    chooseVersion_none_eq_ok_iff.2 ⟨hw, rfl⟩, rfl⟩, rfl, hle⟩

end Target

end DeprecationLint.Platform
