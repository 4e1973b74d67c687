import DeprecationLint.Proofs.Composition

/-!
# Leaving out is deleting

A source file that is left out of a run is passed over before anything is looked at, written or
counted, except that it is counted as left out. So a run with exclusions is a run without them over
what is left of the solution, and `run_of_exclusions` is that **the two differ in nothing but that
count**.

The argument is a comparison of two folds (`Summary.foldlM_skip`). In the one, some steps do no
more than raise the count of what is left out; in the other, these steps are gone. Since no step
looks at that count, all it is raised by can be added at the end.

Which files are left out is decided pattern by pattern (`Glob.accepts_of_compile`), and so is
whether the patterns can be used at all (`Glob.exists_parseAll_iff`). So neither the order of the
patterns nor their repetition matters.
-/

namespace DeprecationLint

open Platform Snapshot

/-! ### Patterns -/

/-- A traversal succeeds with what each element comes to. -/
theorem mapM_eq_ok_iff {ε α β : Type} {f : α → Except ε β} {l : List α} {l' : List β} :
    l.mapM f = .ok l' ↔ l.map f = l'.map .ok := by
  induction l generalizing l' with
  | nil => cases l' <;> simp [pure, Except.pure]
  | cons a l ih =>
    rw [List.mapM_cons, List.map_cons]
    cases ha : f a with
    | error e => cases l' <;> simp [bind, Except.bind]
    | ok b =>
      cases l' with
      | nil => cases l.mapM f <;> simp [bind, Except.bind, pure, Except.pure]
      | cons b' l' =>
        rw [List.map_cons, List.cons.injEq, ← ih]
        cases l.mapM f <;> simp [bind, Except.bind, pure, Except.pure]

namespace Glob

/-- Does the pattern that a text stands for match a path? A text that is no pattern matches
nothing. -/
def textAccepts (text path : String) : Bool :=
  match Pattern.parse text with
  | .ok p => p.accepts path
  | .error _ => false

variable {texts texts' : List String} {ps : List Pattern} {excluded : String → Bool}

/-- A pattern can be used if it needs no expression, or one that does not nest too deeply. -/
def Pattern.IsUsable (p : Pattern) : Prop :=
  p.isFixed = true ∨ p.isTooDeep = false

theorem tooDeep?_eq_none_iff : tooDeep? ps = none ↔ ∀ p ∈ ps, p.IsUsable := by
  simp only [tooDeep?, Option.or_eq_none_iff, Option.map_eq_none_iff, List.find?_eq_none,
    List.findIdx?_eq_none_iff, List.mem_filter, Pattern.standsAlone, Pattern.standsWithOthers,
    Pattern.IsUsable]
  constructor
  · rintro ⟨halone, hothers⟩ p hp
    have ha := halone p
    have ho := hothers p
    grind
  · intro h
    constructor <;> intro p hp <;> have := h p hp.1 <;> grind

theorem parseAll_eq_ok_iff :
    parseAll texts = .ok ps ↔ texts.map Pattern.parse = ps.map .ok ∧ ∀ p ∈ ps, p.IsUsable := by
  rw [← mapM_eq_ok_iff, ← tooDeep?_eq_none_iff, parseAll]
  cases texts.mapM Pattern.parse with
  | error m => simp [bind, Except.bind]
  | ok qs =>
    simp only [bind, Except.bind, pure, Except.pure, Except.ok.injEq]
    constructor
    · intro h
      split at h
      · exact absurd h (by simp)
      · obtain rfl := Except.ok.inj h
        exact ⟨rfl, by assumption⟩
    · rintro ⟨rfl, hdeep⟩
      rw [hdeep]

theorem mem_iff_of_parseAll (h : parseAll texts = .ok ps) {p : Pattern} :
    p ∈ ps ↔ ∃ text ∈ texts, Pattern.parse text = .ok p := by
  obtain ⟨hmap, -⟩ := parseAll_eq_ok_iff.1 h
  have hmem : p ∈ ps ↔ Except.ok p ∈ ps.map (Except.ok (ε := Malformed)) := by simp
  rw [hmem, ← hmap, List.mem_map]

/-- **A path is matched by some pattern exactly when it is matched by the pattern of some text.** -/
theorem anyAccepts_of_parseAll (h : parseAll texts = .ok ps) (path : String) :
    anyAccepts ps path = texts.any (textAccepts · path) := by
  refine Bool.eq_iff_iff.2 ?_
  simp only [anyAccepts, List.any_eq_true, mem_iff_of_parseAll h]
  constructor
  · rintro ⟨p, ⟨text, htext, hparse⟩, haccepts⟩
    exact ⟨text, htext, by rw [textAccepts, hparse]; exact haccepts⟩
  · rintro ⟨text, htext, haccepts⟩
    rw [textAccepts] at haccepts
    split at haccepts
    case h_1 p hparse => exact ⟨p, ⟨text, htext, hparse⟩, haccepts⟩
    case h_2 => exact absurd haccepts (by simp)

/-- Texts can be used together exactly when each of them is a pattern that can be used. -/
theorem exists_parseAll_iff :
    (∃ ps, parseAll texts = .ok ps) ↔
      ∀ text ∈ texts, ∃ p, Pattern.parse text = .ok p ∧ p.IsUsable := by
  simp only [parseAll_eq_ok_iff]
  constructor
  · rintro ⟨ps, hmap, husable⟩ text htext
    have hmem : Pattern.parse text ∈ ps.map .ok := hmap ▸ List.mem_map_of_mem htext
    obtain ⟨p, hp, hparse⟩ := List.mem_map.1 hmem
    exact ⟨p, hparse.symm, husable p hp⟩
  · intro hall
    have : Nonempty Pattern := ⟨⟨[]⟩⟩
    choose! parsed hparsed using hall
    refine ⟨texts.map parsed, ?_, ?_⟩
    · rw [List.map_map]
      exact List.map_congr_left fun text htext ↦ (hparsed text htext).1
    · simp only [List.mem_map, forall_exists_index, and_imp, forall_apply_eq_imp_iff₂]
      exact fun text htext ↦ (hparsed text htext).2

theorem compile_eq_ok_iff :
    compile texts = .ok excluded ↔ ∃ ps, parseAll texts = .ok ps ∧ anyAccepts ps = excluded := by
  rw [compile]
  cases parseAll texts <;> simp

theorem accepts_of_compile (h : compile texts = .ok excluded) (path : String) :
    excluded path = texts.any (textAccepts · path) := by
  obtain ⟨ps, hps, rfl⟩ := compile_eq_ok_iff.1 h
  exact anyAccepts_of_parseAll hps path

/-- **Neither the order of patterns nor their repetition matters.** -/
theorem compile_of_mem_iff (h : compile texts = .ok excluded)
    (hmem : ∀ text, text ∈ texts' ↔ text ∈ texts) : compile texts' = .ok excluded := by
  obtain ⟨ps, hps, -⟩ := compile_eq_ok_iff.1 h
  have hall := exists_parseAll_iff.1 ⟨ps, hps⟩
  obtain ⟨ps', hps'⟩ := exists_parseAll_iff.2 fun text htext ↦ hall text ((hmem text).1 htext)
  refine compile_eq_ok_iff.2 ⟨ps', hps', funext fun path ↦ ?_⟩
  rw [accepts_of_compile h, anyAccepts_of_parseAll hps', Bool.eq_iff_iff, List.any_eq_true,
    List.any_eq_true]
  exact exists_congr fun text ↦ and_congr_left fun _ ↦ hmem text

end Glob

/-- Without texts, nothing is matched. -/
theorem Settings.exclusions_compile (s : Settings) :
    s.exclusions Glob.compile = Glob.compile s.excludedPaths := by
  rw [exclusions]
  cases s.excludedPaths <;> rfl

/-! ### What is left of a solution -/

/-- A project without some of its source files. -/
def Snapshot.Project.without (leftOut : Tree → Bool) (p : Project) : Project :=
  { p with trees := p.trees.filter (!leftOut ·) }

/-- A solution without some of its source files. -/
def Snapshot.Solution.without (leftOut : Tree → Bool) (solution : Solution) : Solution :=
  ⟨solution.projects.map (Project.without leftOut)⟩

/-! ### Counts of what is left out -/

namespace Summary

/-- Counts with another number of source files left out. -/
def mapSkipped (n : Nat → Nat) (s : Summary) : Summary :=
  { s with treesSkipped := n s.treesSkipped }

section Fold

variable {α β : Type} {step : Summary → α → Emit Summary} {step' : Summary → β → Emit Summary}

/-- A step does not look at how many source files are left out. -/
def SkipBlind (step : Summary → α → Emit Summary) : Prop :=
  ∀ n s a, step (s.mapSkipped n) a = mapSkipped n <$> step s a

/-- What no step looks at may as well be changed at the end. -/
theorem SkipBlind.foldlM (h : SkipBlind step) (l : List α) (n : Nat → Nat) (s : Summary) :
    l.foldlM step (s.mapSkipped n) = mapSkipped n <$> l.foldlM step s := by
  induction l generalizing s with
  | nil => simp
  | cons a l ih => simp only [List.foldlM_cons, h n s a, bind_map_left, map_bind, ih]

/-- **Steps that do no more than leave something out may be dropped**, if it is counted at the end.
A step is given by the steps that it amounts to and by how much it leaves out. -/
theorem foldlM_skip {steps : α → List β} {leftOut : α → Nat} (hblind : SkipBlind step')
    (hstep : ∀ s a, step s a = mapSkipped (· + leftOut a) <$> (steps a).foldlM step' s)
    (l : List α) (s : Summary) :
    l.foldlM step s =
      mapSkipped (· + (l.map leftOut).sum) <$> (l.flatMap steps).foldlM step' s := by
  induction l generalizing s with
  | nil => simp [mapSkipped]
  | cons a l ih =>
    have hlater : ∀ t : Summary, l.foldlM step (t.mapSkipped (· + leftOut a)) =
        mapSkipped (· + ((a :: l).map leftOut).sum) <$> (l.flatMap steps).foldlM step' t := by
      intro t
      rw [ih, hblind.foldlM, Functor.map_map, List.map_cons, List.sum_cons]
      refine congrArg (· <$> _) (funext fun u ↦ ?_)
      simp only [mapSkipped, Nat.add_assoc]
    rw [List.foldlM_cons, hstep, bind_map_left, List.flatMap_cons, List.foldlM_append, map_bind]
    exact congrArg _ (funext hlater)

end Fold

end Summary

/-! ### Runs -/

namespace Inspection

variable {target : Target} {excluded : String → Bool} {leftOut : Tree → Bool}

theorem skipBlind_stepTree (target : Target) (table : SymbolTable) :
    Summary.SkipBlind (stepTree { target } table) := by
  intro n done tree
  show (runTree { target } table tree >>= fun _ ↦ _) = _ <$> (_ >>= fun _ ↦ _)
  rw [map_bind]
  simp only [map_pure]
  rfl

theorem skipBlind_stepProject (target : Target) :
    Summary.SkipBlind (stepProject { target }) := by
  intro n done p
  rw [stepProject, stepProject, map_bind]
  exact congrArg _ (funext fun _ ↦
    (skipBlind_stepTree target p.symbols).foldlM p.trees n { done with projects := _ })

/-- A source file is gone on with, or left out. -/
theorem stepTree_eq (h : ∀ tree, excludes { target, excluded } tree = leftOut tree)
    (table : SymbolTable) (done : Summary) (tree : Tree) :
    stepTree { target, excluded } table done tree =
      Summary.mapSkipped (· + [tree].countP leftOut) <$>
        ([tree].filter (!leftOut ·)).foldlM (stepTree { target } table) done := by
  rw [stepTree, h]
  cases hleft : leftOut tree with
  | true => simp [hleft, Summary.mapSkipped]
  | false =>
    have hcount : [tree].countP leftOut = 0 := by simp [hleft]
    have hkept : [tree].filter (!leftOut ·) = [tree] := by simp [hleft]
    have hid : Summary.mapSkipped (· + 0) = id := rfl
    rw [hcount, hkept, hid, id_map, List.foldlM_cons]
    exact (bind_pure _).symm

/-- **A project with some source files left out is gone on with as without them.** -/
theorem stepProject_eq (h : ∀ tree, excludes { target, excluded } tree = leftOut tree)
    (done : Summary) (p : Project) :
    stepProject { target, excluded } done p =
      Summary.mapSkipped (· + p.trees.countP leftOut) <$>
        stepProject { target } done (p.without leftOut) := by
  have hcount : (p.trees.map fun tree ↦ [tree].countP leftOut).sum = p.trees.countP leftOut := by
    rw [← List.flatMap_singleton' p.trees, List.countP_flatMap, List.flatMap_singleton']
    rfl
  have hleft : (p.trees.flatMap fun tree ↦ [tree].filter (!leftOut ·)) =
      (p.without leftOut).trees := by
    rw [← List.filter_flatMap, List.flatMap_singleton']
    rfl
  rw [stepProject, stepProject, map_bind, ← hcount, ← hleft]
  exact congrArg _ (funext fun _ ↦
    Summary.foldlM_skip (skipBlind_stepTree target p.symbols) (stepTree_eq h p.symbols) p.trees _)

/-- **A run with some source files left out is a run over the others**, with another count of what
is left out. -/
theorem run_eq_of_excludes (h : ∀ tree, excludes { target, excluded } tree = leftOut tree)
    (solution : Solution) :
    run { target, excluded } solution =
      Summary.mapSkipped (fun _ ↦ (solution.projects.flatMap (·.trees)).countP leftOut) <$>
        run { target } (solution.without leftOut) := by
  have hskipped : (solution.projects.map fun p ↦ p.trees.countP leftOut).sum =
      (solution.projects.flatMap (·.trees)).countP leftOut :=
    List.countP_flatMap.symm
  have hleft : (solution.projects.flatMap fun p ↦ [p.without leftOut]) =
      (solution.without leftOut).projects :=
    List.map_eq_flatMap.symm
  have hall : run { target, excluded } solution =
      Summary.mapSkipped (· + (solution.projects.flatMap (·.trees)).countP leftOut) <$>
        run { target } (solution.without leftOut) := by
    rw [run, run, ← hskipped, ← hleft]
    refine Summary.foldlM_skip (skipBlind_stepProject target) (fun done p ↦ ?_) _ _
    rw [stepProject_eq h, List.foldlM_cons]
    exact congrArg _ (bind_pure _).symm
  -- without patterns nothing is left out, so what is left out is all that is counted
  have hnone : run { target } (solution.without leftOut) =
      Summary.mapSkipped (fun _ ↦ 0) <$> run { target } (solution.without leftOut) :=
    (skipBlind_stepProject target).foldlM _ (fun _ ↦ 0) {}
  rw [hall, hnone, Functor.map_map, Functor.map_map]
  simp only [Summary.mapSkipped, Nat.zero_add]

end Inspection

/-- Settings that leave out the source files of a directory. -/
def sourceSettings : Settings where
  excludedPaths := ["src/*.x"]

/-- A source file elsewhere that holds nothing. -/
def yardTree : Tree :=
  { boxTree with path := "lib/yard.x", nodes := [] }

/-- A solution with a crate, and with a source file elsewhere. -/
def yardSolution : Solution where
  projects := [{ name := "Yard", symbols := boxTable, trees := [boxTree, yardTree] }]

end DeprecationLint
