import DeprecationLint.Proofs.Scan
import DeprecationLint.Report.Output

/-!
# What emissions write

An emission is a function of the sink that it writes to, but all that reaches the sink is a text,
and all that comes back is a result or a fault: `Emit.Writes m out r` says that `m` writes `out`
and then comes to `r`, **whatever the sink held before and whatever its limit is**. Where a sink is
too small, the text is cut off at the limit and nothing else happens (`Sink.after`).

Emissions in sequence append their texts (`Emit.Writes.bind`), up to the first one that fails. For
a fold this gives a closed form (`Emit.writes_foldlM`): it writes what its steps write up to and
including the first one at fault (`writtenUntilFault`).
-/

namespace DeprecationLint

variable {α β σ : Type}

/-! ### Sinks -/

/-- Is what a sink holds within its limit? -/
def Sink.HasRoom (sink : Sink) : Prop :=
  ∀ l, sink.limit = some l → sink.written.length ≤ l.capacity

/-- A result, with the sink that goes with it. -/
def Sink.ending (sink : Sink) : Except Fault α → EStateM.Result Fault Sink α
  | .ok a => .ok a sink
  | .error f => .error f sink

/-- What comes of writing a text to a sink and then coming to a result: if the text does not fit,
only its start is written and the result is lost. -/
def Sink.after (sink : Sink) (out : List UInt8) (r : Except Fault α) :
    EStateM.Result Fault Sink α :=
  match sink.limit with
  | none => ending { sink with written := sink.written ++ out } r
  | some l =>
    if (sink.written ++ out).length ≤ l.capacity then
      ending { sink with written := sink.written ++ out } r
    else .error (.unwritable l.reason)
      { sink with written := (sink.written ++ out).take l.capacity }

/-- Writing nothing leaves the sink as it is. -/
theorem Sink.after_nil {sink : Sink} (h : sink.HasRoom) (r : Except Fault α) :
    sink.after [] r = sink.ending r := by
  rcases sink with ⟨w, - | l⟩
  · simp [after]
  · have hw : w.length ≤ l.capacity := h l rfl
    simp [after, hw]

/-- A sink without a limit takes all of a text. -/
theorem Sink.after_unlimited (w out : List UInt8) (r : Except Fault α) :
    Sink.after { written := w } out r = Sink.ending { written := w ++ out } r :=
  rfl

/-! ### Emissions -/

namespace Emit

/-- An emission writes a text and then comes to a result, to whatever sink it is applied. -/
def Writes (m : Emit α) (out : List UInt8) (r : Except Fault α) : Prop :=
  ∀ sink : Sink, sink.HasRoom → m sink = sink.after out r

theorem writes_pure (a : α) : Writes (pure a) [] (.ok a) := fun sink hroom ↦ by
  rw [Sink.after_nil hroom]
  rfl

theorem writes_ofExcept (r : Except Fault α) : Writes (ofExcept r) [] r := fun sink hroom ↦ by
  rw [Sink.after_nil hroom]
  cases r <;> rfl

theorem writes_putBytes (bs : List UInt8) : Writes (putBytes bs) bs (.ok ()) := fun sink _ ↦ by
  rw [putBytes, Sink.after]
  cases sink.limit <;> rfl

/-- The bytes of a line of text. -/
def lineBytes (text : String) : List UInt8 :=
  Text.bytes (text ++ "\n")

theorem writes_putLine (text : String) : Writes (putLine text) (lineBytes text) (.ok ()) :=
  writes_putBytes _

/-- **Emissions in sequence append their texts.** -/
theorem Writes.bind {m : Emit α} {k : α → Emit β} {out out' : List UInt8} {a : α}
    {r : Except Fault β} (hm : Writes m out (.ok a)) (hk : Writes (k a) out' r) :
    Writes (m >>= k) (out ++ out') r := by
  intro sink hroom
  show EStateM.bind m k sink = _
  rw [EStateM.bind, hm sink hroom]
  rcases sink with ⟨w, - | l⟩
  · have hrest := hk { written := w ++ out } fun l h ↦ absurd h (by simp)
    rw [Sink.after_unlimited, List.append_assoc] at hrest
    exact hrest
  · by_cases hfits : (w ++ out).length ≤ l.capacity
    · have hroom' : Sink.HasRoom { written := w ++ out, limit := some l } :=
        fun l' h ↦ Option.some.inj h ▸ hfits
      have hrest := hk _ hroom'
      simp only [Sink.after, List.append_assoc] at hrest ⊢
      rw [if_pos hfits]
      exact hrest
    · -- the second text is not reached, and would not have fitted either
      have hlonger : ¬(w ++ (out ++ out')).length ≤ l.capacity := by
        rw [← List.append_assoc, List.length_append]
        omega
      have htake : (w ++ (out ++ out')).take l.capacity = (w ++ out).take l.capacity := by
        rw [← List.append_assoc, List.take_append_of_le_length (by omega)]
      simp only [Sink.after, if_neg hfits, if_neg hlonger, htake]

/-- What follows a failing emission is not reached. -/
theorem Writes.bind_error {m : Emit α} {k : α → Emit β} {out : List UInt8} {f : Fault}
    (hm : Writes m out (.error f)) : Writes (m >>= k) out (.error f) := by
  intro sink hroom
  show EStateM.bind m k sink = _
  rw [EStateM.bind, hm sink hroom]
  rcases sink with ⟨w, - | l⟩
  · rfl
  · by_cases hfits : (w ++ out).length ≤ l.capacity
    · simp only [Sink.after, if_pos hfits, Sink.ending]
    · simp only [Sink.after, if_neg hfits]

/-- A pure step after an emission changes only its result. -/
theorem Writes.bind_pure {m : Emit α} {out : List UInt8} {o : Option Fault} {a : α}
    (hm : Writes m out (unlessFault o a)) (g : α → β) :
    Writes (m >>= fun x ↦ pure (g x)) out (unlessFault o (g a)) := by
  cases o with
  | some f => exact hm.bind_error
  | none =>
    have h : Writes (m >>= fun x ↦ pure (g x)) (out ++ []) (.ok (g a)) :=
      Writes.bind hm (writes_pure (g a))
    rwa [List.append_nil] at h

theorem writes_forM {f : β → Emit Unit} {out : β → List UInt8}
    (h : ∀ b, Writes (f b) (out b) (.ok ())) (l : List β) :
    Writes (l.forM f) (l.flatMap out) (.ok ()) := by
  induction l with
  | nil => exact writes_pure ()
  | cons b l ih =>
    rw [List.flatMap_cons]
    exact (h b).bind ih

end Emit

/-! ### Folds of emissions -/

/-- What is written by steps in sequence, each with its text and perhaps a fault, up to and
including the first step at fault. -/
def writtenUntilFault (fault? : β → Option Fault) (out : β → List UInt8) :
    List β → List UInt8
  | [] => []
  | b :: l => out b ++ if (fault? b).isSome then [] else writtenUntilFault fault? out l

section Fold

variable {fault? : β → Option Fault} {out : β → List UInt8}

/-- Without a fault, everything is written. -/
theorem writtenUntilFault_of_none {l : List β} (h : ∀ b ∈ l, fault? b = none) :
    writtenUntilFault fault? out l = l.flatMap out := by
  induction l with
  | nil => rfl
  | cons b l ih =>
    rw [writtenUntilFault, h b List.mem_cons_self, List.flatMap_cons,
      ih fun c hc ↦ h c (List.mem_cons_of_mem _ hc)]
    rfl

/-- With a fault, what comes after it is not written. -/
theorem writtenUntilFault_append_cons {before after : List β} {b : β}
    (hbefore : ∀ c ∈ before, fault? c = none) (hb : (fault? b).isSome) :
    writtenUntilFault fault? out (before ++ b :: after) = before.flatMap out ++ out b := by
  induction before with
  | nil => simp [writtenUntilFault, hb]
  | cons c before ih =>
    rw [List.cons_append, writtenUntilFault, hbefore c List.mem_cons_self, List.flatMap_cons,
      ih fun d hd ↦ hbefore d (List.mem_cons_of_mem _ hd), List.append_assoc]
    rfl

/-- What comes second is written only if what comes first has no fault. -/
theorem writtenUntilFault_append (fault? : β → Option Fault) (out : β → List UInt8)
    (l l' : List β) :
    writtenUntilFault fault? out (l ++ l') = writtenUntilFault fault? out l ++
      if (l.findSome? fault?).isSome then [] else writtenUntilFault fault? out l' := by
  induction l with
  | nil => rfl
  | cons b l ih =>
    rw [List.cons_append, writtenUntilFault, writtenUntilFault, List.findSome?_cons, ih]
    cases fault? b with
    | some f => simp
    | none => simp

/-- There is a fault exactly when some step has one and none before it has, and what is written
ends with that step. -/
theorem findSome?_and_written_iff (fault? : β → Option Fault) (out : β → List UInt8)
    {l : List β} {f : Fault} {w : List UInt8} :
    l.findSome? fault? = some f ∧ writtenUntilFault fault? out l = w ↔
      ∃ before b after, l = before ++ b :: after ∧ (∀ c ∈ before, fault? c = none) ∧
        fault? b = some f ∧ w = before.flatMap out ++ out b := by
  rw [List.findSome?_eq_some_iff]
  constructor
  · rintro ⟨⟨before, b, after, rfl, hb, hbefore⟩, rfl⟩
    exact ⟨before, b, after, rfl, hbefore, hb,
      writtenUntilFault_append_cons hbefore (Option.isSome_of_eq_some hb)⟩
  · rintro ⟨before, b, after, rfl, hbefore, hb, rfl⟩
    exact ⟨⟨before, b, after, rfl, hb, hbefore⟩,
      writtenUntilFault_append_cons hbefore (Option.isSome_of_eq_some hb)⟩

/-- **A fold of emissions stops at the first fault.** If each step writes its text, whatever the
state, and comes to the next state unless it is at fault, then the fold writes the texts up to the
first fault and comes to the last state unless there is one. -/
theorem Emit.writes_foldlM {step : σ → β → Emit σ} {next : σ → β → σ}
    (h : ∀ s b, Writes (step s b) (out b) (unlessFault (fault? b) (next s b))) (l : List β)
    (s : σ) :
    Writes (l.foldlM step s) (writtenUntilFault fault? out l)
      (unlessFault (l.findSome? fault?) (l.foldl next s)) := by
  induction l generalizing s with
  | nil => exact writes_pure s
  | cons b l ih =>
    rw [List.foldlM_cons, List.findSome?_cons, writtenUntilFault, List.foldl_cons]
    have hb := h s b
    cases hfault : fault? b with
    | none =>
      rw [hfault] at hb
      exact hb.bind (ih (next s b))
    | some f =>
      rw [hfault] at hb
      simpa using hb.bind_error

end Fold

end DeprecationLint
