import DeprecationLint.Proofs.Run
import DeprecationLint.Session

/-!
# What sessions write

A session is made of steps that write to the standard output, keep a log and look at files, and
any of them may stop it. No step looks at what was written before. So, with the files given, all
there is to say about a step is the text that it writes and the result it comes to:
`Session.Yields x out r`. The log is left open, since it never comes back.

Steps in sequence append their texts (`Yields.bind`), up to the first one that stops
(`Yields.bind_error`). That every step yields something (`Steady`) is seen from its parts. What the
files hold and how their texts are read stays open: a step that needs something from a file needs
that its text stands for something (`ReadsAs`).
-/

namespace DeprecationLint.Session

open Platform Snapshot

variable {α β : Type}

/-! ### Steps -/

/-- A step writes a text to the standard output and comes to a result, whatever was written and
logged before. -/
def Yields (x : SessionT Id α) (out : List UInt8) (r : Except Stop α) : Prop :=
  ∀ (w : List UInt8) (l : List LogEvent), ∃ l',
    x.run.run { out := { written := w }, log := l } =
      (r, { out := { written := w ++ out }, log := l' })

/-- A fault of the analysis stops a session. -/
def orStop : Except Fault α → Except Stop α
  | .ok a => .ok a
  | .error f => .error (.failed (.fault f))

theorem yields_pure (a : α) : Yields (pure a) [] (.ok a) := fun w l ↦ by
  refine ⟨l, ?_⟩
  rw [List.append_nil]
  rfl

theorem yields_throw (s : Stop) : Yields (throw s : SessionT Id α) [] (.error s) := fun w l ↦ by
  refine ⟨l, ?_⟩
  rw [List.append_nil]
  rfl

theorem yields_ask (x : Id α) : Yields (ask x) [] (.ok x.run) := fun w l ↦ by
  refine ⟨l, ?_⟩
  rw [List.append_nil]
  rfl

theorem yields_log (e : LogEvent) : Yields (log e) [] (.ok ()) := fun w l ↦ by
  refine ⟨l ++ [e], ?_⟩
  rw [List.append_nil]
  rfl

/-- An emission is run on the sink of the standard output. -/
theorem run_emit (x : Emit α) (c : Channels) :
    (emit x : SessionT Id α).run.run c =
      match x c.out with
      | .ok a out => (.ok a, { c with out })
      | .error f out => (.error (.failed (.fault f)), { c with out }) := by
  show (match x c.out with
    | .ok a out => _
    | .error f out => _ : SessionT Id α).run.run c = _
  cases x c.out <;> rfl

/-- **An emission writes to the standard output what it writes to any sink.** -/
theorem yields_emit {x : Emit α} {out : List UInt8} {r : Except Fault α}
    (h : Emit.Writes x out r) : Yields (emit x) out (orStop r) := by
  intro w l
  have hx := h { written := w } fun l h ↦ absurd h (by simp)
  refine ⟨l, ?_⟩
  rw [run_emit, hx, Sink.after_unlimited]
  cases r <;> rfl

theorem yields_notice (text : String) : Yields (notice text) (Emit.lineBytes text) (.ok ()) :=
  yields_emit (Emit.writes_putLine text)

/-- **Steps in sequence append their texts.** -/
theorem Yields.bind {x : SessionT Id α} {k : α → SessionT Id β} {out out' : List UInt8} {a : α}
    {r : Except Stop β} (hx : Yields x out (.ok a)) (hk : Yields (k a) out' r) :
    Yields (x >>= k) (out ++ out') r := by
  intro w l
  obtain ⟨l', hl'⟩ := hx w l
  obtain ⟨l'', hl''⟩ := hk (w ++ out) l'
  refine ⟨l'', ?_⟩
  rw [ExceptT.run_bind, StateT.run_bind, hl']
  rw [List.append_assoc] at hl''
  exact hl''

/-- What follows a step that stops is not reached. -/
theorem Yields.bind_error {x : SessionT Id α} {k : α → SessionT Id β} {out : List UInt8} {s : Stop}
    (hx : Yields x out (.error s)) : Yields (x >>= k) out (.error s) := by
  intro w l
  obtain ⟨l', hl'⟩ := hx w l
  refine ⟨l', ?_⟩
  rw [ExceptT.run_bind, StateT.run_bind, hl']
  rfl

/-- Of two steps that may be at fault, the second is reached if the first is not. -/
theorem Yields.bind_unlessFault {x : SessionT Id α} {k : α → SessionT Id β}
    {out out' : List UInt8} {o q : Option Fault} {a : α} {b : β}
    (hx : Yields x out (orStop (unlessFault o a)))
    (hk : Yields (k a) out' (orStop (unlessFault q b))) :
    Yields (x >>= k) (out ++ if o.isSome then [] else out') (orStop (unlessFault (o.or q) b)) := by
  cases o with
  | none => exact hx.bind hk
  | some f =>
    rw [Option.isSome_some, if_pos rfl, List.append_nil]
    exact hx.bind_error

/-- A step that writes nothing changes only the result. -/
theorem Yields.bind_silent {x : SessionT Id α} {k : α → SessionT Id β} {out : List UInt8}
    {o : Option Fault} {a : α} {b : β} (hx : Yields x out (orStop (unlessFault o a)))
    (hk : Yields (k a) [] (.ok b)) : Yields (x >>= k) out (orStop (unlessFault o b)) := by
  have hall := hx.bind_unlessFault (q := none) hk
  rwa [ite_self, List.append_nil, Option.or_none] at hall

/-! ### Files -/

/-- The file at a path can be read, and its text stands for something. -/
def ReadsAs (files : FileAccess Id) (parse? : String → Option α) (path : String) (a : α) : Prop :=
  ∃ text, files.readText path = .ok text ∧ parse? text = some a

section ReadsAs

variable {files : FileAccess Id} {parse? : String → Option α} {path : String}

theorem not_readsAs {reason : AccessFault} (h : files.readText path = .error reason) (a : α) :
    ¬ReadsAs files parse? path a := by
  rintro ⟨text, htext, -⟩
  cases h.symm.trans htext

theorem readsAs_iff {text : String} (h : files.readText path = .ok text) {a : α} :
    ReadsAs files parse? path a ↔ parse? text = some a := by
  constructor
  · rintro ⟨text', htext', ha⟩
    cases h.symm.trans htext'
    exact ha
  · exact fun ha ↦ ⟨text, h, ha⟩

end ReadsAs

/-! ### Steadiness -/

/-- A step that yields something: what it writes and what it comes to do not depend on what was
written before. -/
def Steady (x : SessionT Id α) : Prop :=
  ∃ out r, Yields x out r

theorem Yields.steady {x : SessionT Id α} {out : List UInt8} {r : Except Stop α}
    (h : Yields x out r) : Steady x :=
  ⟨out, r, h⟩

@[simp] theorem steady_pure (a : α) : Steady (pure a) :=
  (yields_pure a).steady

@[simp] theorem steady_refuse (complaint : String) (hinted : Bool) :
    Steady (refuse complaint hinted : SessionT Id α) :=
  (yields_throw _).steady

@[simp] theorem steady_ask (x : Id α) : Steady (ask x) :=
  (yields_ask x).steady

@[simp] theorem steady_log (e : LogEvent) : Steady (log e) :=
  (yields_log e).steady

@[simp] theorem steady_notice (text : String) : Steady (notice text) :=
  (yields_notice text).steady

theorem Steady.bind {x : SessionT Id α} {k : α → SessionT Id β} (hx : Steady x)
    (hk : ∀ a, Steady (k a)) : Steady (x >>= k) := by
  obtain ⟨out, r, hr⟩ := hx
  cases r with
  | error s => exact hr.bind_error.steady
  | ok a =>
    obtain ⟨out', r', hr'⟩ := hk a
    exact (hr.bind hr').steady

section Parts

variable (readers : Readers) (files : FileAccess Id) (command : Command) (settings : Settings)

theorem steady_readSettings (path : String) : Steady (readSettings readers files path) := by
  refine (steady_log _).bind fun _ ↦ (steady_ask _).bind fun read ↦ ?_
  split
  · simp
  · split
    · simp
    · split <;> simp

theorem steady_loadSettings : Steady (loadSettings readers files command) := by
  rw [loadSettings]
  split
  · exact steady_readSettings readers files _
  · refine (steady_ask _).bind fun found ↦ ?_
    split
    · exact steady_readSettings readers files _
    · simp

theorem steady_chooseModule : Steady (chooseModule files command settings) := by
  rw [chooseModule]
  split
  · simp
  · refine (steady_notice _).bind fun _ ↦ (steady_ask _).bind fun found ↦ ?_
    split
    · exact (steady_log _).bind fun _ ↦ steady_pure _
    · simp

theorem steady_loadModule (path : String) : Steady (loadModule readers files path) := by
  refine (steady_ask _).bind fun read ↦ ?_
  split
  · simp
  · split
    · simp
    · exact (steady_log _).bind fun _ ↦ steady_pure _

theorem steady_resolveTarget (module : Module) :
    Steady (resolveTarget module command settings) := by
  rw [resolveTarget]
  split
  · refine (steady_log _).bind fun _ ↦ ?_
    split
    · exact (steady_notice _).bind fun _ ↦ steady_pure _
    · simp
  · simp
  · simp

/-- **What comes before the solution does not look at what was written.** -/
theorem steady_prepare : Steady (prepare readers files command settings) := by
  have hrest : Steady (do
      let modulePath ← chooseModule files command settings
      let module ← loadModule readers files modulePath
      let target ← resolveTarget module command settings
      return { settings, modulePath, target : Preparation }) :=
    (steady_chooseModule files command settings).bind fun _ ↦
      (steady_loadModule readers files _).bind fun _ ↦
        (steady_resolveTarget command settings _).bind fun _ ↦ steady_pure _
  rw [prepare]
  split
  · exact (steady_log _).bind fun _ ↦ (steady_notice _).bind fun _ ↦ hrest
  · exact hrest

end Parts

end DeprecationLint.Session
