import DeprecationLint.Proofs.Target
import DeprecationLint.Text.Bytes
import Mathlib.Data.String.Basic

/-!
# Texts of versions, there and back

A version has a name, such as `iOS_7_0`, and a text, such as `7.0`. Reading a text builds the name
and looks for it; writing a value looks for the value and takes the name apart. The two undo each
other for three reasons, which have little to do with one another.

* Texts that can be read are **grouped digits** (`Grouped`, against the scanner `isGrouped`), and no
  digit is a dot or an underscore. So exchanging the two loses nothing (`replaceChar_replaceChar`).
* The name of a version **starts with the marker**, so the cut after as many bytes as the marker has
  is a cut between characters and leaves what follows the marker (`dropBytes?_append`).
* Reading asks for a name that **no other version has**, writing takes the **first** version with a
  value. Where these are the same version, each finds what the other started from.

`parse_format_inverse` states both directions with exactly these conditions.
-/

namespace DeprecationLint.Platform

open Text

/-! ### Grouped digits -/

/-- One or more groups of decimal digits, none of them empty, joined by single separators. -/
inductive Grouped (separator : Char) : List Char → Prop
  /-- A single group. -/
  | group {g : List Char} (hne : g ≠ []) (hdigits : ∀ c ∈ g, isDecimalDigit c = true) :
      Grouped separator g
  /-- A group, a separator, and more groups. -/
  | more {g cs : List Char} (hne : g ≠ []) (hdigits : ∀ c ∈ g, isDecimalDigit c = true)
      (hmore : Grouped separator cs) : Grouped separator (g ++ separator :: cs)

/-- What is a digit differs from what is none. -/
theorem ne_of_isDecimalDigit {c d : Char} (hc : isDecimalDigit c = true)
    (hd : isDecimalDigit d = false) : c ≠ d := by
  intro h
  rw [h, hd] at hc
  exact absurd hc (by simp)

section Grouped

variable {separator : Char} {cs : List Char}

/-- Grouped digits are digits and separators. -/
theorem Grouped.digit_or_separator (h : Grouped separator cs) :
    ∀ c ∈ cs, isDecimalDigit c = true ∨ c = separator := by
  induction h with
  | group hne hdigits => exact fun c hc ↦ .inl (hdigits c hc)
  | more hne hdigits _ ih =>
    intro c hc
    rcases List.mem_append.1 hc with hg | hrest
    · exact .inl (hdigits c hg)
    · rcases List.mem_cons.1 hrest with hsep | hcs
      · exact .inr hsep
      · exact ih c hcs

/-- No other character occurs. -/
theorem Grouped.notMem {c : Char} (h : Grouped separator cs) (hdigit : isDecimalDigit c = false)
    (hne : c ≠ separator) : c ∉ cs := by
  intro hc
  rcases h.digit_or_separator c hc with hc | hc
  · exact ne_of_isDecimalDigit hc hdigit rfl
  · exact hne hc

/-- One more digit in front makes the first group longer. -/
theorem Grouped.cons {c : Char} (hc : isDecimalDigit c = true) (h : Grouped separator cs) :
    Grouped separator (c :: cs) := by
  have hlonger : ∀ {g : List Char}, (∀ d ∈ g, isDecimalDigit d = true) →
      ∀ d ∈ c :: g, isDecimalDigit d = true :=
    fun hg ↦ List.forall_mem_cons.2 ⟨hc, hg⟩
  cases h with
  | group hne hdigits => exact .group (List.cons_ne_nil c _) (hlonger hdigits)
  | @more g cs hne hdigits hmore =>
    exact .more (List.cons_ne_nil c g) (hlonger hdigits) hmore

/-- The scanner passes a group and then knows that it has seen a digit. -/
theorem isGroupedFrom_append (hsep : isDecimalDigit separator = false) {g : List Char}
    (hne : g ≠ []) (hdigits : ∀ c ∈ g, isDecimalDigit c = true) (started : Bool) :
    isGroupedFrom separator started (g ++ cs) = isGroupedFrom separator true cs := by
  induction g generalizing started with
  | nil => exact absurd rfl hne
  | cons c g ih =>
    obtain ⟨hc, hg⟩ := List.forall_mem_cons.1 hdigits
    rw [List.cons_append, isGroupedFrom, if_neg (ne_of_isDecimalDigit hc hsep), hc,
      Bool.true_and]
    rcases g with - | ⟨d, g⟩
    · rfl
    · exact ih (List.cons_ne_nil d g) hg true

theorem isGrouped_of_grouped (hsep : isDecimalDigit separator = false)
    (h : Grouped separator cs) : isGrouped separator cs = true := by
  induction h with
  | @group g hne hdigits =>
    have hrun : isGroupedFrom separator false (g ++ []) = isGroupedFrom separator true [] :=
      isGroupedFrom_append hsep hne hdigits false
    rwa [List.append_nil] at hrun
  | @more g cs hne hdigits _ ih =>
    rw [isGrouped, isGroupedFrom_append hsep hne hdigits, isGroupedFrom, if_pos rfl,
      Bool.true_and]
    exact ih

/-- What the scanner lets pass: from a group at hand on, the end, a separator and more groups, or
grouped digits; otherwise grouped digits only. -/
theorem grouped_of_isGroupedFrom {started : Bool}
    (h : isGroupedFrom separator started cs = true) :
    Grouped separator cs ∨
      started = true ∧ (cs = [] ∨ ∃ rest, cs = separator :: rest ∧ Grouped separator rest) := by
  induction cs generalizing started with
  | nil => exact .inr ⟨h, .inl rfl⟩
  | cons c rest ih =>
    rw [isGroupedFrom] at h
    split at h
    case isTrue hsep =>
      obtain ⟨hstarted, hrest⟩ := Bool.and_eq_true_iff.1 h
      have hgrouped := (ih hrest).resolve_right fun hfalse ↦ absurd hfalse.1 (by simp)
      exact .inr ⟨hstarted, .inr ⟨rest, by rw [hsep], hgrouped⟩⟩
    case isFalse =>
      obtain ⟨hc, hrest⟩ := Bool.and_eq_true_iff.1 h
      have hsingle : ∀ d ∈ [c], isDecimalDigit d = true := by simpa using hc
      rcases ih hrest with hgrouped | ⟨-, rfl | ⟨more, rfl, hmore⟩⟩
      · exact .inl (hgrouped.cons hc)
      · exact .inl (.group (List.cons_ne_nil c []) hsingle)
      · exact .inl (.more (List.cons_ne_nil c []) hsingle hmore)

/-- **The scanner accepts grouped digits and nothing else.** -/
theorem isGrouped_iff (hsep : isDecimalDigit separator = false) :
    isGrouped separator cs = true ↔ Grouped separator cs := by
  constructor
  · intro h
    exact (grouped_of_isGroupedFrom h).resolve_right fun hfalse ↦ absurd hfalse.1 (by simp)
  · exact isGrouped_of_grouped hsep

end Grouped

/-! ### One separator for another -/

theorem isDecimalDigit_dot : isDecimalDigit '.' = false := by
  decide

theorem isDecimalDigit_underscore : isDecimalDigit '_' = false := by
  decide

theorem toList_replaceChar (old new : Char) (s : String) :
    (replaceChar old new s).toList = s.toList.map fun c ↦ if c = old then new else c := by
  rw [replaceChar, String.toList_ofList]

/-- **Replacing a character by one that does not occur can be undone.** -/
theorem replaceChar_replaceChar {old new : Char} {s : String} (h : new ∉ s.toList) :
    replaceChar new old (replaceChar old new s) = s := by
  have hback : ∀ c ∈ s.toList,
      (if (if c = old then new else c) = new then old else if c = old then new else c) = c := by
    intro c hc
    have hnew : c ≠ new := fun hcn ↦ h (hcn ▸ hc)
    by_cases hold : c = old
    · simp [hold]
    · simp [hold, hnew]
  rw [← String.toList_inj, toList_replaceChar, toList_replaceChar, List.map_map]
  exact (List.map_congr_left hback).trans (List.map_id _)

/-- A group has no separator to replace. -/
theorem map_group {old new : Char} {g : List Char} (hold : isDecimalDigit old = false)
    (hdigits : ∀ c ∈ g, isDecimalDigit c = true) :
    g.map (fun c ↦ if c = old then new else c) = g := by
  have hsame : ∀ c ∈ g, (if c = old then new else c) = c := by
    intro c hc
    exact if_neg (ne_of_isDecimalDigit (hdigits c hc) hold)
  exact (List.map_congr_left hsame).trans (List.map_id g)

/-- Grouped digits stay grouped digits when another separator is put in. -/
theorem Grouped.map {old new : Char} {cs : List Char} (hold : isDecimalDigit old = false)
    (h : Grouped old cs) : Grouped new (cs.map fun c ↦ if c = old then new else c) := by
  induction h with
  | group hne hdigits =>
    rw [map_group hold hdigits]
    exact .group hne hdigits
  | more hne hdigits _ ih =>
    rw [List.map_append, List.map_cons, map_group hold hdigits, if_pos rfl]
    exact .more hne hdigits ih

/-! ### Cuts after a number of bytes -/

/-- Characters are cut after the bytes of the first of them. -/
theorem dropBytes?_utf8Len_append (taken rest : List Char) :
    dropBytes? (String.utf8Len taken) (taken ++ rest) = some rest := by
  induction taken with
  | nil => simp [dropBytes?]
  | cons c taken ih =>
    have hpos : 0 < c.utf8Size := c.utf8Size_pos
    obtain ⟨n, hn⟩ : ∃ n, String.utf8Len (c :: taken) = n + 1 :=
      ⟨_, (Nat.succ_pred_eq_of_pos (by rw [String.utf8Len_cons]; omega)).symm⟩
    have hrest : n + 1 - c.utf8Size = String.utf8Len taken := by
      rw [← hn, String.utf8Len_cons, Nat.add_sub_cancel]
    have hfits : c.utf8Size ≤ n + 1 := by
      rw [← hn, String.utf8Len_cons]
      omega
    rw [hn, List.cons_append, dropBytes?, if_pos hfits, hrest, ih]

/-- **A cut that succeeds lies between two characters**, after as many bytes as were asked for; and
every such cut succeeds. -/
theorem dropBytes?_eq_some_iff {n : Nat} {cs rest : List Char} :
    dropBytes? n cs = some rest ↔ ∃ taken, cs = taken ++ rest ∧ String.utf8Len taken = n := by
  constructor
  · intro h
    fun_induction dropBytes? n cs with
    | case1 cs => exact ⟨[], Option.some.inj h, rfl⟩
    | case2 n => exact absurd h (by simp)
    | case3 n c cs hfits ih =>
      obtain ⟨taken, rfl, hlen⟩ := ih h
      refine ⟨c :: taken, rfl, ?_⟩
      rw [String.utf8Len_cons, hlen, Nat.sub_add_cancel hfits]
    | case4 n c cs hlarge => exact absurd h (by simp)
  · intro h
    obtain ⟨taken, rfl, rfl⟩ := h
    exact dropBytes?_utf8Len_append taken rest

/-- A text is cut after the bytes of a text that it starts with. -/
theorem dropBytes?_append (s t : String) :
    dropBytes? s.utf8ByteSize (s ++ t).toList = some t.toList := by
  rw [String.toList_append, ← String.utf8Len_toList]
  exact dropBytes?_utf8Len_append s.toList t.toList

/-- **If the bytes of a text start with those of another, then so do its characters**: no byte
inside a character looks like the first byte of one. -/
theorem exists_append_of_bytes_prefix {s t : String} (h : bytes s <+: bytes t) :
    ∃ rest, t = s ++ rest := by
  obtain ⟨bs, hbs⟩ := h
  have hencode : s.toList.utf8Encode ++ ⟨bs.toArray⟩ = t.toList.utf8Encode := by
    rw [String.utf8Encode_toList, String.utf8Encode_toList]
    refine ByteArray.ext ?_
    rw [ByteArray.data_append, ← Array.toList_inj, Array.toList_append]
    exact hbs
  obtain ⟨cs, hcs⟩ := List.isPrefix_of_utf8Encode_append_eq_utf8Encode _ hencode
  refine ⟨String.ofList cs, ?_⟩
  rw [← String.toList_inj, String.toList_append, String.toList_ofList, hcs]

namespace Versions

variable {vs : Versions} {text : String}

/-! ### Names of versions -/

/-- A version is named by the marker, an ASCII digit and anything after it. -/
theorem isVersionName_iff {marker name : String} :
    isVersionName marker name = true ↔
      ∃ d rest, d.isDigit = true ∧ name = marker ++ String.ofList (d :: rest) := by
  have hsplit : ∀ cs, marker.toList.isPrefixOf? name.toList = some cs ↔
      name = marker ++ String.ofList cs := by
    intro cs
    rw [List.isPrefixOf?_eq_some_iff_append_eq, ← String.toList_inj, String.toList_append,
      String.toList_ofList, eq_comm]
  rw [isVersionName]
  constructor
  · intro h
    split at h
    case h_1 d rest hprefix => exact ⟨d, rest, h, (hsplit _).1 hprefix⟩
    case h_2 => exact absurd h (by simp)
  · intro h
    obtain ⟨d, rest, hd, hname⟩ := h
    rw [(hsplit _).2 hname]
    exact hd

theorem mem_versions_iff {e : Enumerant} :
    e ∈ vs.versions ↔ e ∈ vs.enumerants ∧
      ∃ d rest, d.isDigit = true ∧ e.name = vs.marker ++ String.ofList (d :: rest) := by
  rw [versions, List.mem_filter, isVersionName_iff]

/-- The text of an enumerant is what follows the marker in its name. -/
theorem textOf_of_append {e : Enumerant} {suffix : String} (h : e.name = vs.marker ++ suffix) :
    vs.textOf e = replaceChar '_' '.' suffix := by
  rw [textOf, h, dropBytes?_append, Option.getD_some, String.ofList_toList]

/-! ### Reading -/

/-- A text picks the version between others: it is made of grouped digits, makes the name of that
version, and no other version has the name. -/
structure Picks (vs : Versions) (text : String) (before : List Enumerant) (e : Enumerant)
    (after : List Enumerant) : Prop where
  /-- The text is groups of digits joined by dots. -/
  grouped : Grouped '.' text.toList
  /-- Where the version stands among all versions. -/
  place : vs.versions = before ++ e :: after
  /-- The version is named by the marker and the text, with underscores for dots. -/
  named : e.name = vs.marker ++ replaceChar '.' '_' text
  /-- No other version has that name. -/
  alone : ∀ other ∈ before ++ after, other.name ≠ e.name

/-- **A text is read as a value exactly when it picks a version with that value.** -/
theorem parse?_eq_some_iff {x : UInt64} :
    vs.parse? text = some x ↔ ∃ before e after, vs.Picks text before e after ∧ e.value = x := by
  rw [parse?]
  constructor
  · intro h
    split at h
    case isTrue hgrouped =>
      split at h
      case h_1 e he =>
        obtain ⟨before, after, hplace, hbefore, hname, hafter⟩ := List.filter_eq_cons_iff.1 he
        have hname := eq_of_beq hname
        refine ⟨before, e, after, ⟨(isGrouped_iff isDecimalDigit_dot).1 hgrouped, hplace, hname,
          fun other hother ↦ ?_⟩, Option.some.inj h⟩
        rw [hname]
        rcases List.mem_append.1 hother with hother | hother
        · simpa using hbefore other hother
        · simpa using List.filter_eq_nil_iff.1 hafter other hother
      case h_2 => exact absurd h (by simp)
    case isFalse => exact absurd h (by simp)
  · intro h
    obtain ⟨before, e, after, hpicks, rfl⟩ := h
    have hgrouped := (isGrouped_iff isDecimalDigit_dot).2 hpicks.grouped
    have hothers : ∀ other ∈ before ++ after, ¬(other.name == vs.nameOf text) = true := by
      intro other hother
      rw [beq_iff_eq, nameOf, ← hpicks.named]
      exact hpicks.alone other hother
    have hsole : vs.versions.filter (·.name == vs.nameOf text) = [e] := by
      rw [List.filter_eq_cons_iff]
      refine ⟨before, after, hpicks.place, fun other hother ↦ ?_, ?_, ?_⟩
      · exact hothers other (List.mem_append_left _ hother)
      · exact beq_iff_eq.2 hpicks.named
      · exact List.filter_eq_nil_iff.2 fun other hother ↦
          hothers other (List.mem_append_right _ hother)
    rw [if_pos hgrouped, hsole]

/-- There is no underscore in a text that picks a version. -/
theorem Picks.underscore_notMem {before after : List Enumerant} {e : Enumerant}
    (h : vs.Picks text before e after) : '_' ∉ text.toList :=
  h.grouped.notMem isDecimalDigit_underscore (by decide)

/-- **Two texts never pick the same version.** -/
theorem Picks.text_unique {text' : String} {before before' after after' : List Enumerant}
    {e : Enumerant} (h : vs.Picks text before e after) (h' : vs.Picks text' before' e after') :
    text = text' := by
  have hsame : replaceChar '.' '_' text = replaceChar '.' '_' text' := by
    have hnames := h.named.symm.trans h'.named
    rwa [String.append_right_inj] at hnames
  calc text = replaceChar '_' '.' (replaceChar '.' '_' text) :=
        (replaceChar_replaceChar h.underscore_notMem).symm
    _ = replaceChar '_' '.' (replaceChar '.' '_' text') := by rw [hsame]
    _ = text' := replaceChar_replaceChar h'.underscore_notMem

/-- What is read is at most the greatest version. -/
theorem exists_max?_of_parse? {x : UInt64} (h : vs.parse? text = some x) :
    ∃ m, vs.max? = some m ∧ x ≤ m := by
  obtain ⟨e, he, rfl⟩ := mem_of_parse? h
  exact exists_max?_of_mem he

/-! ### Writing -/

/-- **The first version with a value gives it its text.** -/
theorem format_of_first {before after : List Enumerant} {e : Enumerant}
    (hplace : vs.versions = before ++ e :: after) (hfirst : ∀ o ∈ before, o.value ≠ e.value) :
    vs.format e.value = vs.textOf e := by
  have hfind : vs.versions.find? (·.value == e.value) = some e := by
    rw [List.find?_eq_some_iff_append]
    refine ⟨beq_self_eq_true _, before, after, hplace, fun o ho ↦ ?_⟩
    simpa using hfirst o ho
  rw [format, List.find?_append, hfind]
  rfl

/-- The text of the value of a version is what follows the marker in the name of a version. -/
theorem exists_format_of_mem {vs : Versions} {e : Enumerant} (he : e ∈ vs.versions) :
    ∃ o ∈ vs.versions, o.value = e.value ∧ ∃ d rest, d.isDigit = true ∧
      o.name = vs.marker ++ String.ofList (d :: rest) ∧
      vs.format e.value = replaceChar '_' '.' (String.ofList (d :: rest)) ∧
      (vs.format e.value).toList.head? = some d := by
  have hfind : (vs.versions.find? (·.value == e.value)).isSome :=
    List.find?_isSome.2 ⟨e, he, beq_self_eq_true _⟩
  obtain ⟨o, ho⟩ := Option.isSome_iff_exists.1 hfind
  obtain ⟨hvalue, before, after, hplace, hfirst⟩ := List.find?_eq_some_iff_append.1 ho
  have hvalue : o.value = e.value := by simpa using hvalue
  have hmem : o ∈ vs.versions := by simp [hplace]
  obtain ⟨-, d, rest, hd, hname⟩ := mem_versions_iff.1 hmem
  have htext : vs.format e.value = replaceChar '_' '.' (String.ofList (d :: rest)) := by
    rw [← hvalue, format_of_first hplace, textOf_of_append hname]
    intro b hb
    simpa [hvalue] using hfirst b hb
  have hdigit : d ≠ '_' := by
    rintro rfl
    exact absurd hd (by decide)
  refine ⟨o, hmem, hvalue, d, rest, hd, hname, htext, ?_⟩
  rw [htext, toList_replaceChar, String.toList_ofList, List.map_cons, if_neg hdigit,
    List.head?_cons]

/-- **What is read is written as it was**, unless an earlier version has the same value. -/
theorem Picks.format_eq {before after : List Enumerant} {e : Enumerant}
    (h : vs.Picks text before e after) (hfirst : ∀ o ∈ before, o.value ≠ e.value) :
    vs.format e.value = text := by
  rw [format_of_first h.place hfirst, textOf_of_append h.named,
    replaceChar_replaceChar h.underscore_notMem]

/-- **What is written is read as it was**, for the first version with a value, if no other version
has its name and the name goes on after the marker with digits grouped by underscores. -/
theorem parse?_format {before after : List Enumerant} {e : Enumerant} {suffix : String}
    (hplace : vs.versions = before ++ e :: after) (hname : e.name = vs.marker ++ suffix)
    (hgrouped : Grouped '_' suffix.toList) (halone : ∀ o ∈ before ++ after, o.name ≠ e.name)
    (hfirst : ∀ o ∈ before, o.value ≠ e.value) :
    vs.parse? (vs.format e.value) = some e.value := by
  have hdot : '.' ∉ suffix.toList := hgrouped.notMem isDecimalDigit_dot (by decide)
  rw [format_of_first hplace hfirst, textOf_of_append hname, parse?_eq_some_iff]
  refine ⟨before, e, after, ⟨?_, hplace, ?_, halone⟩, rfl⟩
  · rw [toList_replaceChar]
    exact hgrouped.map isDecimalDigit_underscore
  · rw [replaceChar_replaceChar hdot, hname]

/-- A name is cut to a text: off come whole characters, which have as many bytes as the marker,
and what is left has dots for underscores. -/
def CutTo (vs : Versions) (name text : String) : Prop :=
  ∃ taken rest, name = taken ++ rest ∧ taken.utf8ByteSize = vs.marker.utf8ByteSize ∧
    text = replaceChar '_' '.' rest

/-- **The text of any enumerant is cut between characters**, and empty if there is no such cut. -/
theorem textOf_cutTo (vs : Versions) (e : Enumerant) :
    vs.CutTo e.name (vs.textOf e) ∨ (¬∃ text, vs.CutTo e.name text) ∧ vs.textOf e = "" := by
  have hcut : ∀ rest : String,
      dropBytes? vs.marker.utf8ByteSize e.name.toList = some rest.toList ↔
        ∃ taken, e.name = taken ++ rest ∧ taken.utf8ByteSize = vs.marker.utf8ByteSize := by
    intro rest
    rw [dropBytes?_eq_some_iff]
    constructor
    · intro h
      obtain ⟨taken, hname, hlen⟩ := h
      refine ⟨String.ofList taken, ?_, by rw [String.utf8ByteSize_ofList, hlen]⟩
      rw [← String.toList_inj, hname, String.toList_append, String.toList_ofList]
    · intro h
      obtain ⟨taken, hname, hlen⟩ := h
      exact ⟨taken.toList, by rw [hname, String.toList_append], by rw [String.utf8Len_toList, hlen]⟩
  rw [textOf]
  rcases hdrop : dropBytes? vs.marker.utf8ByteSize e.name.toList with - | rest
  · refine .inr ⟨?_, rfl⟩
    rintro ⟨text, taken, rest, hname, hlen, -⟩
    rw [(hcut rest).2 ⟨taken, hname, hlen⟩] at hdrop
    exact absurd hdrop (by simp)
  · rw [← String.toList_ofList (l := rest)] at hdrop
    obtain ⟨taken, hname, hlen⟩ := (hcut (String.ofList rest)).1 hdrop
    exact .inl ⟨taken, String.ofList rest, hname, hlen, rfl⟩

/-- A value is written as the text of an enumerant that has it, and as the bare number if none
has. -/
theorem format_eq_textOf_or (vs : Versions) (x : UInt64) :
    (∃ e ∈ vs.enumerants, e.value = x ∧ vs.format x = vs.textOf e) ∨
      (∀ e ∈ vs.enumerants, e.value ≠ x) ∧ vs.format x = toString x.toNat := by
  rcases hfind : (vs.versions ++ vs.enumerants).find? (·.value == x) with - | e
  · refine .inr ⟨fun e he ↦ ?_, by rw [format, hfind]⟩
    simpa using List.find?_eq_none.1 hfind e (List.mem_append_right _ he)
  · have hvalue : e.value = x := by simpa using List.find?_some hfind
    refine .inl ⟨e, ?_, hvalue, by rw [format, hfind]⟩
    rcases List.mem_append.1 (List.mem_of_find?_eq_some hfind) with he | he
    · exact (mem_versions_iff.1 he).1
    · exact he

end Versions

/-- **Reading and writing versions undo each other.** A text is read as a value exactly when it is
made of groups of digits joined by dots and makes the name of exactly one version, which has the
value; no two texts make the name of the same version, and the value is at most the greatest. It is
written as the same text, unless an earlier version has it. The other way round, the value of a
version is written as a text that is read as that value, if no other version has its name, the name
is digits grouped by underscores after the marker, and no earlier version has the value.

All cuts on the way are cuts between characters. A name whose bytes start with those of the marker
can be cut there; and the text of a value is a cut of some name, or empty where the name cannot be
cut, or else the number itself. -/
theorem parse_format_inverse (vs : Versions) :
    (∀ e, e ∈ vs.versions ↔ e ∈ vs.enumerants ∧
      ∃ d rest, d.isDigit = true ∧ e.name = vs.marker ++ String.ofList (d :: rest)) ∧
    (∀ text x, vs.parse? text = some x ↔
      ∃ before e after, vs.Picks text before e after ∧ e.value = x) ∧
    (∀ text text' before before' e after after', vs.Picks text before e after →
      vs.Picks text' before' e after' → text = text') ∧
    (∀ text x, vs.parse? text = some x → ∃ m, vs.max? = some m ∧ x ≤ m) ∧
    (∀ text before e after, vs.Picks text before e after →
      (∀ o ∈ before, o.value ≠ e.value) → vs.format e.value = text) ∧
    (∀ before e after suffix, vs.versions = before ++ e :: after →
      e.name = vs.marker ++ suffix → Grouped '_' suffix.toList →
      (∀ o ∈ before ++ after, o.name ≠ e.name) → (∀ o ∈ before, o.value ≠ e.value) →
      vs.parse? (vs.format e.value) = some e.value) ∧
    (∀ name, bytes vs.marker <+: bytes name → ∃ rest, name = vs.marker ++ rest ∧
      dropBytes? vs.marker.utf8ByteSize name.toList = some rest.toList) ∧
    ∀ x, (∃ e ∈ vs.enumerants, e.value = x ∧
        (vs.CutTo e.name (vs.format x) ∨ (¬∃ text, vs.CutTo e.name text) ∧ vs.format x = "")) ∨
      (∀ e ∈ vs.enumerants, e.value ≠ x) ∧ vs.format x = toString x.toNat := by
  refine ⟨fun _ ↦ Versions.mem_versions_iff, fun _ _ ↦ Versions.parse?_eq_some_iff,
    fun _ _ _ _ _ _ _ h h' ↦ h.text_unique h', fun _ _ ↦ Versions.exists_max?_of_parse?,
    fun _ _ _ _ h hfirst ↦ h.format_eq hfirst,
    fun _ _ _ _ hplace hname hgrouped halone hfirst ↦
      Versions.parse?_format hplace hname hgrouped halone hfirst,
    fun name hprefix ↦ ?_, fun x ↦ ?_⟩
  · obtain ⟨rest, rfl⟩ := exists_append_of_bytes_prefix hprefix
    exact ⟨rest, rfl, dropBytes?_append vs.marker rest⟩
  · rcases vs.format_eq_textOf_or x with ⟨e, he, hvalue, htext⟩ | hnone
    · refine .inl ⟨e, he, hvalue, ?_⟩
      rw [htext]
      exact vs.textOf_cutTo e
    · exact .inr hnone

/-- Versions among other enumerants, one of them with a second name for its value. -/
def mixedVersions : Versions where
  marker := "iOS_"
  enumerants :=
    [⟨"None", 0⟩, ⟨"iOS_6_1", 97⟩, ⟨"iOS_7_0", 112⟩, ⟨"iOS_7", 112⟩, ⟨"iOS_Arch32", 256⟩]

theorem parse_format_inverse_mixed :
    mixedVersions.Picks "7.0" [⟨"iOS_6_1", 97⟩] ⟨"iOS_7_0", 112⟩ [⟨"iOS_7", 112⟩] ∧
    mixedVersions.parse? "7.0" = some 112 ∧ mixedVersions.format 112 = "7.0" ∧
    mixedVersions.parse? (mixedVersions.format 112) = some 112 := by
  obtain ⟨-, hparse, -, -, hformat, hback, -⟩ := parse_format_inverse mixedVersions
  have hplace : mixedVersions.versions =
      [⟨"iOS_6_1", 97⟩] ++ ⟨"iOS_7_0", 112⟩ :: [⟨"iOS_7", 112⟩] := by decide
  have hpicks : mixedVersions.Picks "7.0" [⟨"iOS_6_1", 97⟩] ⟨"iOS_7_0", 112⟩ [⟨"iOS_7", 112⟩] :=
    ⟨(isGrouped_iff isDecimalDigit_dot).1 (by decide), hplace, by decide, by decide⟩
  have hsuffix : Grouped '_' "7_0".toList := (isGrouped_iff isDecimalDigit_underscore).1 (by decide)
  refine ⟨hpicks, (hparse "7.0" 112).2 ⟨_, _, _, hpicks, rfl⟩, ?_, ?_⟩
  · exact hformat "7.0" _ ⟨"iOS_7_0", 112⟩ _ hpicks (by decide)
  · exact hback _ ⟨"iOS_7_0", 112⟩ _ "7_0" hplace (by decide) hsuffix (by decide) (by decide)

end DeprecationLint.Platform
