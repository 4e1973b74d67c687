import DeprecationLint.Proofs.Report
import DeprecationLint.Proofs.Session
import DeprecationLint.Proofs.TargetVersion

/-!
# What sessions need

A session looks for one thing after the other: its settings, the path of a solution, a platform
module, a target, the snapshot files. `Ready` is that **nothing is missing**, said without the steps
that look for it.

`Settles` says of a step what it looks for and which notices it writes meanwhile, and steps in
sequence settle what both of them do (`Settles.bind`). So a session that lacks something is refused
after no more than notices (`refuses_steps`), and one that is ready gets to its analysis
(`Ready.yields_steps`).
-/

namespace DeprecationLint

open Platform Snapshot

theorem Settings.blankField?_eq_none_iff {s : Settings} :
    s.blankField? = none ↔ ∀ field ∈ s.namedFields, Text.isBlank field.2 = false := by
  simp [blankField?]

namespace Session

variable {α β : Type} {readers : Readers} {files : FileAccess Id} {command : Command}

/-! ### Notices -/

/-- The notice that a path for the report is not used. -/
def outNotice : String :=
  "Option -o is not implemented yet.  Warnings are written to standard output"

/-- The notice that a platform module is looked for. -/
def moduleNotice : String :=
  "Option -r not supplied.  Will attempt to auto-locate the platform metadata module"

/-- The notice that a version is chosen. -/
def versionNotice : String :=
  "Option -v not supplied.  Defaulting to max available SDK version"

/-- All notices that may come before the banner. -/
def openingNotices : List String :=
  [outNotice, moduleNotice, versionNotice]

/-- The notice about a path for the report, if there is one. -/
def outNotices (command : Command) : List String :=
  if command.out.isSome then [outNotice] else []

/-- The notice about the platform module, if no path for it is given. -/
def moduleNotices (command : Command) (settings : Settings) : List String :=
  if (command.reference.or settings.reference).isNone then [moduleNotice] else []

/-- The notice about the version, if none is given. -/
def versionNotices (command : Command) (settings : Settings) : List String :=
  if (command.version.or settings.version).isNone then [versionNotice] else []

/-- The notices that apply to a session. -/
def notices (command : Command) (settings : Settings) : List String :=
  outNotices command ++ (moduleNotices command settings ++ versionNotices command settings)

theorem sublist_openingNotices (command : Command) (settings : Settings) :
    (notices command settings).Sublist openingNotices := by
  have hite : ∀ (p : Prop) [Decidable p] (notice : String),
      (if p then [notice] else []).Sublist [notice] := by
    intro p _ notice
    split
    · exact List.Sublist.refl _
    · exact List.nil_sublist _
  exact (hite _ outNotice).append ((hite _ moduleNotice).append (hite _ versionNotice))

/-- The bytes of texts, each on a line. -/
def lines (texts : List String) : List UInt8 :=
  texts.flatMap Emit.lineBytes

theorem lines_append (a b : List String) : lines (a ++ b) = lines a ++ lines b :=
  List.flatMap_append

theorem yields_notice_lines (text : String) : Yields (notice text) (lines [text]) (.ok ()) := by
  rw [lines, List.flatMap_singleton]
  exact yields_notice text

/-! ### What a session looks for -/

/-- The first of some paths at which there is a file. -/
def firstFile? (files : FileAccess Id) (paths : List String) : Option String :=
  paths.find? fun path ↦ (files.isFile path).run

/-- The path of the settings: the one that is given, or else that of a file in the current
directory. -/
def settingsPath? (files : FileAccess Id) (command : Command) : Option String :=
  command.config.or
    (firstFile? files (settingsNames.map (Path.join files.currentDirectory)))

/-- The file at a path holds settings in which no name is blank. -/
def SettingsAt (readers : Readers) (files : FileAccess Id) (path : String) (settings : Settings) :
    Prop :=
  ReadsAs files readers.settings? path settings ∧
    ∀ field ∈ settings.namedFields, Text.isBlank field.2 = false

/-- The settings load and are valid. Without a file for them, all have their defaults. -/
def SettingsAre (readers : Readers) (files : FileAccess Id) (command : Command)
    (settings : Settings) : Prop :=
  match settingsPath? files command with
  | some path => SettingsAt readers files path settings
  | none => settings = {}

/-- The path of the platform module: the one that is given, or else that of a file in the current
directory, or else in the directory with the user's data. -/
def modulePath? (files : FileAccess Id) (command : Command) (settings : Settings) :
    Option String :=
  (command.reference.or settings.reference).or
    (firstFile? files ((files.currentDirectory :: files.dataDirectory.toList).flatMap fun d ↦
      moduleNames.map (Path.join d)))

/-- There are a platform module and a target, as the command and the settings ask for them. -/
structure Prepared (readers : Readers) (files : FileAccess Id) (command : Command)
    (p : Preparation) : Prop where
  /-- The path of the module is given, or located. -/
  modulePath : modulePath? files command p.settings = some p.modulePath
  /-- The module loads, in the format that its path stands for, and the target resolves in it. -/
  target : ∃ module, ReadsAs files (readers.module? (.ofPath p.modulePath)) p.modulePath module ∧
    Target.resolve module p.settings.names (command.version.or p.settings.version) = .ok p.target

/-- What a session has found when it starts with its analysis. -/
structure Start extends Preparation where
  /-- The path of the solution. -/
  solutionPath : String
  /-- The snapshot files of the solution, in the order in which they were collected. -/
  paths : List String

/-- Nothing is missing: a session can start with its analysis. -/
structure Ready (readers : Readers) (files : FileAccess Id) (command : Command) (s : Start) : Prop
    extends Prepared readers files command s.toPreparation where
  /-- The settings load and are valid. -/
  settings : SettingsAre readers files command s.settings
  /-- The path of the solution is given. -/
  solutionPath : command.solution = some s.solutionPath
  /-- The path of the solution is accessible. -/
  paths : files.snapshots s.solutionPath = .ok s.paths

/-! ### Steps that look for something -/

/-- A step refuses the session, after some of the notices. -/
def Refuses (x : SessionT Id α) (notices : List String) : Prop :=
  ∃ shown complaint hinted, shown.Sublist notices ∧
    Yields x (lines shown) (.error (.refused complaint hinted))

section Sequence

variable {x : SessionT Id α} {k : α → SessionT Id β} {n n' : List String} {a : α}

theorem refuses_refuse (complaint : String) (hinted : Bool) (n : List String) :
    Refuses (refuse complaint hinted : SessionT Id α) n :=
  ⟨[], complaint, hinted, List.nil_sublist n, yields_throw _⟩

theorem Refuses.mono (h : Refuses x n) (hn : n.Sublist n') : Refuses x n' := by
  obtain ⟨shown, complaint, hinted, hshown, hx⟩ := h
  exact ⟨shown, complaint, hinted, hshown.trans hn, hx⟩

theorem Refuses.bind (h : Refuses x n) : Refuses (x >>= k) n := by
  obtain ⟨shown, complaint, hinted, hshown, hx⟩ := h
  exact ⟨shown, complaint, hinted, hshown, hx.bind_error⟩

theorem Yields.bind_refuses (hx : Yields x (lines n) (.ok a)) (hk : Refuses (k a) n') :
    Refuses (x >>= k) (n ++ n') := by
  obtain ⟨shown, complaint, hinted, hshown, hk⟩ := hk
  refine ⟨n ++ shown, complaint, hinted, hshown.append_left n, ?_⟩
  rw [lines_append]
  exact hx.bind hk

/-- A step looks for something and writes notices. If there is what it looks for, it comes to that
after all the notices; if not, it refuses the session after some of them. -/
structure Settles (x : SessionT Id α) (P : α → Prop) (notices : List String) : Prop where
  /-- What is there is found. -/
  yields : ∀ {a}, P a → Yields x (lines notices) (.ok a)
  /-- If nothing is there, the session is refused. -/
  refuses : (∀ a, ¬P a) → Refuses x notices

variable {P : α → Prop} {Q : α → β → Prop} {R : β → Prop}

/-- Of two steps in sequence, one refuses the session if the second does so whenever it is
reached. -/
theorem Settles.bind_refuses (hx : Settles x P n) (hk : ∀ a, P a → Refuses (k a) n') :
    Refuses (x >>= k) (n ++ n') := by
  by_cases hP : ∃ a, P a
  · obtain ⟨a, ha⟩ := hP
    exact (hx.yields ha).bind_refuses (hk a ha)
  · have hrefuses := hx.refuses fun a ha ↦ hP ⟨a, ha⟩
    exact hrefuses.bind.mono (List.sublist_append_left n n')

/-- **Steps in sequence settle what both of them do.** -/
theorem Settles.bind (hx : Settles x P n) (hk : ∀ a, P a → Settles (k a) (Q a) n') :
    Settles (x >>= k) (fun b ↦ ∃ a, P a ∧ Q a b) (n ++ n') where
  yields := by
    rintro b ⟨a, ha, hb⟩
    rw [lines_append]
    exact (hx.yields ha).bind ((hk a ha).yields hb)
  refuses hnone := hx.bind_refuses fun a ha ↦ (hk a ha).refuses fun b hb ↦ hnone b ⟨a, ha, hb⟩

/-- A step that always goes on adds its notices. -/
theorem Settles.after (hk : Settles (k a) R n') (hx : Yields x (lines n) (.ok a)) :
    Settles (x >>= k) R (n ++ n') where
  yields := fun hb ↦ by
    rw [lines_append]
    exact hx.bind (hk.yields hb)
  refuses hnone := hx.bind_refuses (hk.refuses hnone)

/-- A step that writes nothing and always goes on changes nothing. -/
theorem Settles.after_silent (hk : Settles (k a) R n) (hx : Yields x [] (.ok a)) :
    Settles (x >>= k) R n :=
  hk.after (n := []) hx

theorem Settles.congr {P' : α → Prop} (h : Settles x P n) (hP : ∀ a, P' a ↔ P a) :
    Settles x P' n where
  yields := fun ha ↦ h.yields ((hP _).1 ha)
  refuses hnone := h.refuses fun a ha ↦ hnone a ((hP a).2 ha)

/-- A step that comes to a result looks for that. -/
theorem Yields.settles (h : Yields x (lines n) (.ok a)) (hP : ∀ b, P b ↔ b = a) :
    Settles x P n where
  yields := fun hb ↦ (hP _).1 hb ▸ h
  refuses hnone := absurd ((hP a).2 rfl) (hnone a)

/-- A step that refuses the session looks for what is not there. -/
theorem settles_refuse (hP : ∀ a, ¬P a) (complaint : String) (hinted : Bool) (n : List String) :
    Settles (refuse complaint hinted) P n where
  yields := fun ha ↦ absurd ha (hP _)
  refuses _ := refuses_refuse complaint hinted n

end Sequence

/-! ### Parts of a session -/

section Parts

variable (readers : Readers) (files : FileAccess Id) (command : Command) (settings : Settings)

theorem findM?_isFile (paths : List String) :
    paths.findM? (fun path ↦ files.isFile path) = pure (firstFile? files paths) :=
  List.findM?_pure (m := Id) (fun path ↦ (files.isFile path).run) paths

theorem settles_readSettings (path : String) :
    Settles (readSettings readers files path) (SettingsAt readers files path) [] := by
  refine Settles.after_silent (Settles.after_silent ?_ (yields_ask _)) (yields_log _)
  show Settles (match files.readText path with | .error _ => _ | .ok _ => _) _ _
  cases hread : files.readText path with
  | error reason => exact settles_refuse (fun s hs ↦ not_readsAs hread s hs.1) _ _ _
  | ok text =>
    have hat : ∀ s, SettingsAt readers files path s ↔
        readers.settings? text = some s ∧ s.blankField? = none := fun s ↦ by
      rw [SettingsAt, readsAs_iff hread, Settings.blankField?_eq_none_iff]
    refine Settles.congr ?_ hat
    simp only
    cases readers.settings? text with
    | none => exact settles_refuse (by simp) _ _ _
    | some s =>
      simp only
      cases hblank : s.blankField? with
      | some field => exact settles_refuse (by grind) _ _ _
      | none => exact (yields_pure s).settles (by grind)

theorem settles_loadSettings :
    Settles (loadSettings readers files command) (SettingsAre readers files command) [] := by
  rw [loadSettings]
  unfold SettingsAre settingsPath?
  cases command.config with
  | some path => exact settles_readSettings readers files path
  | none =>
    refine Settles.after_silent ?_ (yields_ask _)
    rw [findSettings, findM?_isFile]
    simp only [Id.run_pure, Option.none_or]
    cases firstFile? files (settingsNames.map (Path.join files.currentDirectory)) with
    | some path => exact settles_readSettings readers files path
    | none => exact (yields_pure _).settles fun _ ↦ Iff.rfl

theorem settles_chooseModule :
    Settles (chooseModule files command settings)
      (modulePath? files command settings = some ·) (moduleNotices command settings) := by
  rw [chooseModule, modulePath?, moduleNotices]
  cases command.reference.or settings.reference with
  | some path => exact (yields_pure path).settles (by simp [eq_comm])
  | none =>
    rw [Option.none_or]
    show Settles (notice moduleNotice >>= _) _ ([moduleNotice] ++ [])
    refine Settles.after (Settles.after_silent ?_ (yields_ask _)) (yields_notice_lines _)
    rw [findModule, findM?_isFile]
    simp only [Id.run_pure]
    cases firstFile? files _ with
    | none => exact settles_refuse (by simp) _ _ _
    | some path =>
      exact Settles.after_silent ((yields_pure path).settles (by simp [eq_comm])) (yields_log _)

theorem settles_loadModule (path : String) :
    Settles (loadModule readers files path)
      (ReadsAs files (readers.module? (.ofPath path)) path) [] := by
  refine Settles.after_silent ?_ (yields_ask _)
  show Settles (match files.readText path with | .error _ => _ | .ok _ => _) _ _
  cases hread : files.readText path with
  | error reason => exact settles_refuse (not_readsAs hread) _ _ _
  | ok text =>
    refine Settles.congr ?_ fun _ ↦ readsAs_iff hread
    simp only
    cases readers.module? (.ofPath path) text with
    | none => exact settles_refuse (by simp) _ _ _
    | some module =>
      exact Settles.after_silent ((yields_pure module).settles (by simp [eq_comm])) (yields_log _)

theorem settles_resolveTarget (module : Module) :
    Settles (resolveTarget module command settings)
      (Target.resolve module settings.names (command.version.or settings.version) = .ok ·)
      (versionNotices command settings) := by
  rw [resolveTarget, versionNotices]
  cases hresolve : Target.resolve module settings.names (command.version.or settings.version) with
  | error f => cases f <;> exact settles_refuse (by simp) _ _ _
  | ok target =>
    refine Settles.congr ?_ fun a ↦ show _ ↔ a = target by rw [Except.ok.injEq, eq_comm]
    have hpure : Settles (pure target) (· = target) [] := (yields_pure _).settles fun _ ↦ Iff.rfl
    refine Settles.after_silent ?_ (yields_log _)
    rw [Target.defaulted_of_resolve hresolve]
    split
    · show Settles (notice versionNotice >>= fun _ ↦ pure target) _ ([versionNotice] ++ [])
      exact Settles.after hpure (yields_notice_lines _)
    · exact hpure

theorem settles_collect (path : String) :
    Settles (collect files path) (files.snapshots path = .ok ·) [] := by
  refine Settles.after_silent ?_ (yields_ask _)
  show Settles (match files.snapshots path with | .ok _ => _ | .error _ => _) _ _
  cases files.snapshots path with
  | error reason => exact settles_refuse (by simp) _ _ _
  | ok paths =>
    refine (yields_pure paths).settles fun b ↦ ⟨fun h ↦ ?_, fun h ↦ congrArg Except.ok h.symm⟩
    cases h
    rfl

/-- **The platform module and the target are what a preparation looks for.** -/
theorem settles_prepare :
    Settles (prepare readers files command settings)
      (fun p ↦ Prepared readers files command p ∧ p.settings = settings)
      (notices command settings) := by
  have hrest : Settles (do
      let modulePath ← chooseModule files command settings
      let module ← loadModule readers files modulePath
      let target ← resolveTarget module command settings
      return { settings, modulePath, target : Preparation })
      (fun p ↦ Prepared readers files command p ∧ p.settings = settings)
      (moduleNotices command settings ++ versionNotices command settings) := by
    rw [← List.append_nil (versionNotices command settings)]
    refine ((settles_chooseModule files command settings).bind fun path _ ↦
      (settles_loadModule readers files path).bind fun module _ ↦
        (settles_resolveTarget command settings module).bind fun target _ ↦
          (yields_pure _).settles fun _ ↦ Iff.rfl).congr ?_
    rintro ⟨s, path, target⟩
    constructor
    · rintro ⟨⟨hpath, module, hmodule, htarget⟩, rfl⟩
      exact ⟨path, hpath, module, hmodule, target, htarget, rfl⟩
    · rintro ⟨path, hpath, module, hmodule, target, htarget, h⟩
      cases h
      exact ⟨⟨hpath, module, hmodule, htarget⟩, rfl⟩
  -- the path for the report has no part in what is looked for
  rw [prepare, notices, outNotices]
  cases command.out with
  | none => exact hrest
  | some path =>
    refine Settles.after_silent ?_ (yields_log _)
    exact Settles.after hrest (yields_notice_lines outNotice)

/-- **A session that is not ready is refused.** -/
theorem refuses_steps (h : ∀ s, ¬Ready readers files command s) :
    Refuses (steps readers files command) openingNotices := by
  refine (settles_loadSettings readers files command).bind_refuses fun settings hsettings ↦ ?_
  cases hpath : command.solution with
  | none => exact refuses_refuse _ _ _
  | some path =>
    refine Refuses.mono ?_ (sublist_openingNotices command settings)
    rw [← List.append_nil (notices command settings)]
    refine (settles_prepare readers files command settings).bind_refuses ?_
    rintro p ⟨hp, rfl⟩
    refine Refuses.bind ((settles_collect files path).refuses fun paths hpaths ↦ ?_)
    exact h ⟨p, path, paths⟩ ⟨hp, hsettings, hpath, hpaths⟩

end Parts

/-- **A session that is ready writes the notices that apply**, and the rest is up to the
analysis. -/
theorem Ready.yields_steps {s : Start} (h : Ready readers files command s) {out : List UInt8}
    {r : Except Stop Verdict}
    (hr : Yields (analyse readers files s.toPreparation s.solutionPath) out r) :
    Yields (steps readers files command) (lines (notices command s.settings) ++ out) r := by
  refine ((settles_loadSettings readers files command).yields h.settings).bind ?_
  simp only [h.solutionPath]
  exact ((settles_prepare readers files command s.settings).yields ⟨h.toPrepared, rfl⟩).bind hr

end Session

/-! ### Sessions about crates -/

/-- A solution that declares and opens a crate. -/
def crateSolution : Solution :=
  ⟨[{ name := "Crates", symbols := boxTable, trees := [boxTree] }]⟩

/-- A solution with one project of a name, and no source files. -/
def emptySolution (name : String) : Solution :=
  ⟨[{ name, symbols := ⟨[]⟩, trees := [] }]⟩

/-- The report on the crate. -/
def crateLines : List String := [
  "Analyzing project Crates",
  "\x7bcrate.x, 0\x7d WARNING: open has been deprecated in 6",
  "\x7bcrate.x, 0\x7d WARNING: Crate has been deprecated in 5",
  "\x7bcrate.x, 0\x7d WARNING: open has been deprecated in 6",
  "\x7bcrate.x, 0\x7d WARNING: open has been deprecated in 6"]

theorem run_crateSolution :
    Inspection.run { target := boxTarget } crateSolution {} =
      .ok { projects := 1, treesScanned := 1, findings := 4 }
        { written := Session.lines crateLines } := by
  have hfault : Inspection.fault? { target := boxTarget } crateSolution = none := by decide +kernel
  have hlines : (Inspection.reportLines { target := boxTarget } (surveyed boxTarget)
      crateSolution).map (·.text) = crateLines := by
    decide +kernel
  have hcounts : Inspection.counts { target := boxTarget } crateSolution =
      { projects := 1, treesScanned := 1, findings := 4 } := by decide +kernel
  rw [Inspection.run_unlimited, Inspection.written_of_fault?_eq_none hfault, hfault, hcounts,
    ← hlines, Session.lines, List.flatMap_map]
  rfl

theorem run_emptySolution (target : Target) (name : String) :
    Inspection.run { target } (emptySolution name) {} =
      .ok { projects := 1 } { written := Session.lines ["Analyzing project " ++ name] } := by
  rw [Session.lines, List.flatMap_singleton]
  rfl

/-- The text of the platform with a box. -/
def boxText : String :=
  "[\"Kit\",[[\"Kit.Root\"],[\"Kit.Since\",null,[],[[\"Deprecated\",\"property\"]]],
    [\"Kit.Version\",null,[],[],[[\"v5\",5],[\"v6\",6]]],
    [\"Kit.Box\",\"Kit.Root\",[[\"Kit.Since\",\x7b\"Introduced\":1,\"Deprecated\":5\x7d]],
    [[\"open\",\"method\",[[\"Kit.Since\",\x7b\"Introduced\":1,\"Deprecated\":6\x7d]]]]]]]"

/-- The text of settings that name the types of that platform. -/
def namesText : String :=
  "metadata: \x7broot_type: kit.root, attribute_type: Kit.Since, platform_type: Kit.Version,
    platform_prefix: v\x7d\n"

/-- The text of the project that declares and opens a crate. -/
def crateText : String :=
  "[\"Crates\",[[1,\"Root\",\"Kit.Root\",\"named_type\",\"Kit\"],
    [2,\"Box\",\"Kit.Box\",\"named_type\",\"Kit\",null,1],
    [3,\"open\",\"Kit.Root\",\"method\",\"Kit\",2],
    [4,\"Crate\",\"Kit.Root\",\"named_type\",\"App\",null,2],
    [5,\"open\",\"Kit.Root\",\"method\",\"App\",4,null,null,true],
    [6,\"crate\",\"Kit.Root\",\"local\",\"App\",null,null,4]],
    [[\"src/crate.x\",\"\",[[0,\"other\",0,0],[1,\"method_declaration\",0,0,null,5],
    [2,\"variable_declarator\",0,0,null,6],[3,\"member_access_expression\",0,0,null,null,3],
    [4,\"identifier_name\",0,0,3,null,3],[5,\"identifier_name\",0,0,0,null,null,[3]]]]]]"

/-- Texts by their paths: the platform, settings for it, also some with a malformed pattern, and
solutions with crates, with a shop, and with both. -/
def crateTexts : List (String × String) := [
  ("kit.json", boxText), ("kit.yaml", namesText),
  ("strict.yaml", "excluded_paths: ['[']\n" ++ namesText),
  ("crates", "[[" ++ crateText ++ "]]"), ("shop", "[[[\"Shop\"]]]"),
  ("both", "[[" ++ crateText ++ ",[\"Shop\"]]]")]

/-- Access to these texts, and to directories with some of the solutions. One of them has lost a
file. -/
def crateFiles : FileAccess Id where
  isFile path := (crateTexts.lookup path).isSome
  readText path :=
    match crateTexts.lookup path with
    | some text => .ok text
    | none => .error .notFound
  snapshots path :=
    match path with
    | "parts" => .ok ["crates", "shop"]
    | "torn" => .ok ["crates", "gone", "shop"]
    | "nothing" => .ok []
    | path => .ok [path]
  currentDirectory := "/"
  dataDirectory := none

-- The characters of a literal are at hand: `String.toList_ofList` gives them without a look at how
-- they are encoded, and that makes the texts below short enough to be read in a proof.

set_option maxRecDepth 8000 in
theorem readsAs_box :
    Session.ReadsAs crateFiles (Readers.standard.module? (.ofPath "kit.json")) "kit.json"
      boxModule := by
  refine ⟨boxText, rfl, ?_⟩
  have hformat : Format.ofPath "kit.json" = .json := by decide +kernel
  have htext : boxText.toList = _ := String.toList_ofList
  rw [Readers.standard_module?, hformat, Module.parse?, Json.parse?, htext]
  rfl

theorem readsAs_names :
    Session.ReadsAs crateFiles Readers.standard.settings? "kit.yaml" { names := boxNames } := by
  refine ⟨namesText, rfl, ?_⟩
  have htext : namesText.toList = _ := String.toList_ofList
  rw [Readers.standard_settings?, Settings.parse?, Yaml.Node.parse?, Yaml.tokens?, htext]
  decide +kernel

theorem readsAs_strict :
    Session.ReadsAs crateFiles Readers.standard.settings? "strict.yaml"
      { names := boxNames, excludedPaths := ["["] } := by
  refine ⟨"excluded_paths: ['[']\n" ++ namesText, rfl, ?_⟩
  have htext : namesText.toList = _ := String.toList_ofList
  rw [Readers.standard_settings?, Settings.parse?, Yaml.Node.parse?, Yaml.tokens?,
    String.toList_append, htext]
  decide +kernel

theorem readsAs_shop :
    Session.ReadsAs crateFiles Readers.standard.solution? "shop" (emptySolution "Shop") :=
  ⟨_, rfl, by decide +kernel⟩

set_option maxRecDepth 8000 in
theorem readsAs_crates :
    Session.ReadsAs crateFiles Readers.standard.solution? "crates" crateSolution := by
  refine ⟨"[[" ++ crateText ++ "]]", rfl, ?_⟩
  have htext : crateText.toList = _ := String.toList_ofList
  rw [Readers.standard_solution?, Solution.parse?, Json.parse?, String.toList_append,
    String.toList_append, htext]
  decide +kernel

/-- The command that asks for the solution at a path, with settings. -/
def crateCommand (config solution : String) : Command where
  reference := some "kit.json"
  config := some config
  solution := some solution

/-- With settings that name the types of the platform, nothing is missing. -/
theorem ready_crates {excludedPaths paths : List String} {config solution : String}
    (hconfig : Session.ReadsAs crateFiles Readers.standard.settings? config
      { names := boxNames, excludedPaths })
    (hpaths : crateFiles.snapshots solution = .ok paths) :
    Session.Ready .standard crateFiles (crateCommand config solution) {
      settings := { names := boxNames, excludedPaths }
      modulePath := "kit.json"
      target := boxTarget
      solutionPath := solution
      paths } where
  modulePath := rfl
  target := ⟨boxModule, readsAs_box, (rfl : Target.resolve boxModule boxNames none = _)⟩
  settings := ⟨hconfig, (by decide : ∀ field ∈ Settings.namedFields { names := boxNames }, _)⟩
  solutionPath := rfl
  paths := hpaths

end DeprecationLint
