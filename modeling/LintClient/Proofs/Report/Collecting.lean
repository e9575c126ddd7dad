import LintClient.Proofs.Json.Texts
import LintClient.Proofs.Run.Chunking
import LintClient.Report.Unchecked
import Mathlib.Data.List.TakeDrop
import Mathlib.Data.List.TakeWhile
import Mathlib.Logic.Function.Basic

/-!
# Collecting entries

What becomes of a report on which entries are put by hand and by any number of decoders, while it is
looked at and at last frozen. Entries are only ever put behind those of their kind, and none once
the report is frozen (`Collector.continues_after`). So whatever has been found in a report is found
there again later (`Collector.collected_entries_stay`).
-/

namespace LintClient

/-! ## Reports that go on -/

namespace Report

variable {δ ν : Type}

/-- One report goes on from another one: entries of each kind are only put behind those that are
there, and a frozen report stays as it is. -/
structure Continues (earlier later : Report δ ν) : Prop where
  errors : earlier.errors <+: later.errors
  warnings : earlier.warnings <+: later.warnings
  symbols : earlier.symbols <+: later.symbols
  frozen : earlier.frozen = true → later = earlier

/-- A report goes on from itself. -/
theorem Continues.refl (report : Report δ ν) : report.Continues report :=
  ⟨List.prefix_rfl, List.prefix_rfl, List.prefix_rfl, fun _ => rfl⟩

/-- What goes on from a report that goes on from a first one goes on from the first one. -/
theorem Continues.trans {first second third : Report δ ν} (earlier : first.Continues second)
    (later : second.Continues third) : first.Continues third where
  errors := earlier.errors.trans later.errors
  warnings := earlier.warnings.trans later.warnings
  symbols := earlier.symbols.trans later.symbols
  frozen ended := by
    have same := earlier.frozen ended
    rw [later.frozen (same ▸ ended), same]

/-- A report that is not frozen goes on with one more entry. -/
theorem continues_append {report : Report δ ν} (opened : report.frozen = false)
    (entry : Entry δ ν) : report.Continues (report.append entry) := by
  cases entry <;>
    exact ⟨by simp [append], by simp [append], by simp [append], by simp [opened]⟩

/-- A report goes on with more entries, unless it is frozen and there are any. -/
theorem continues_appendAll {report : Report δ ν} {entries : List (Entry δ ν)}
    (nothing : report.frozen = true → entries = []) :
    report.Continues (report.appendAll entries) where
  errors := List.prefix_append _ _
  warnings := List.prefix_append _ _
  symbols := List.prefix_append _ _
  frozen ended := by rw [nothing ended, appendAll_nil]

/-- To freeze a report twice is to freeze it once. -/
theorem freeze_of_frozen {report : Report δ ν} (ended : report.frozen = true) :
    report.freeze = report := by
  cases report
  cases ended
  rfl

/-- A report goes on by being frozen. -/
theorem continues_freeze (report : Report δ ν) : report.Continues report.freeze :=
  ⟨List.prefix_rfl, List.prefix_rfl, List.prefix_rfl, freeze_of_frozen⟩

end Report

/-! ## Decoders of a report -/

namespace Protocol

open Run (OutputCall)

/-- The entries of several findings put together are those of each, in order. -/
theorem Findings.entries_concat (parts : List Findings) :
    (concat parts).entries = parts.flatMap (·.entries) := by
  induction parts with
  | nil => rfl
  | cons part parts inductionHypothesis =>
      rw [List.flatMap_cons, ← inductionHypothesis]
      rfl

/-- What a call makes of an unfinished line: the state after it and the lines that it completes. -/
def Framing.call (framing : Framing) : OutputCall → Framing × List (List Char)
  | .feed chunk => framing.feed chunk
  | .close => framing.close

namespace Decoder

/-- Up to a refusal there are no entries. -/
theorem entries_upToRefusal (findings : List Findings) : (upToRefusal findings).1.entries = [] := by
  have before : (Findings.concat (findings.takeWhile (·.entries.isEmpty))).entries = [] := by
    rw [Findings.entries_concat, List.flatMap_eq_nil_iff]
    intro said among
    have silent := List.mem_takeWhile_imp (p := fun said : Findings => said.entries.isEmpty) among
    exact List.isEmpty_iff.mp silent
  simp only [upToRefusal, List.span_eq_takeWhile_dropWhile]
  split
  · exact before
  · rw [Findings.append, before]
    rfl

/-- Something is refused exactly if there is an entry. -/
theorem upToRefusal_refuses_iff (findings : List Findings) :
    (upToRefusal findings).2 = true ↔ (Findings.concat findings).entries ≠ [] := by
  have allSilent : (Findings.concat findings).entries = [] ↔
      findings.dropWhile (·.entries.isEmpty) = [] := by
    rw [Findings.entries_concat, List.flatMap_eq_nil_iff, List.dropWhile_eq_nil_iff]
    simp
  simp only [upToRefusal, List.span_eq_takeWhile_dropWhile]
  rw [ne_eq, allSilent]
  split
  · next none => simp [none]
  · next said rest behind => simp [behind]

section

variable (decoder : Decoder) (frozen : Bool) (framing : Framing) (lines : List (List Char))

/-- A frozen report is given no entries, and any other one those of the lines. -/
theorem entries_deliver : (decoder.deliver frozen framing lines).2.entries =
    if frozen then [] else (readLines (contentLines lines)).entries := by
  cases frozen with
  | false => rfl
  | true => exact entries_upToRefusal _

/-- An entry is refused exactly if the report is frozen and the lines have an entry. -/
theorem refused_deliver : (decoder.deliver frozen framing lines).2.refused = true ↔
    frozen = true ∧ (readLines (contentLines lines)).entries ≠ [] := by
  cases frozen with
  | false => exact ⟨nofun, fun both => nomatch both.1⟩
  | true => exact (upToRefusal_refuses_iff _).trans (iff_and_self.mpr fun _ => rfl)

end

/-- What a call on a decoder comes to. -/
def call (decoder : Decoder) (frozen : Bool) : OutputCall → Decoder × Delivery
  | .feed chunk => decoder.feed frozen chunk
  | .close => decoder.close frozen

/-- The entries that the lines of a call have. -/
def entriesOf (decoder : Decoder) (call : OutputCall) : List LintEntry :=
  (readLines (contentLines (decoder.framing.call call).2)).entries

/-- The entries of a call are those of its lines, and a frozen report gets none of them. -/
theorem entries_call (decoder : Decoder) (frozen : Bool) (call : OutputCall) :
    (decoder.call frozen call).2.entries = if frozen then [] else decoder.entriesOf call := by
  cases call <;> exact entries_deliver _ _ _ _

/-- A call is refused when it brings entries to a frozen report. -/
theorem refused_call (decoder : Decoder) (frozen : Bool) (call : OutputCall) :
    (decoder.call frozen call).2.refused = true ↔
      frozen = true ∧ decoder.entriesOf call ≠ [] := by
  cases call <;> exact refused_deliver _ _ _ _

end Decoder

end Protocol

/-! ## Collectors -/

namespace Unchecked

open Json (Misuse)
open Protocol (Decoder contentLines readLines)
open Run (OutputCall)
open Text (Source)

/-- Something that is done with a report. Decoders are told apart by their names. -/
inductive Operation where
  /-- An entry is put into the report. -/
  | add (entry : Entry Diagnostic Variable)
  | freeze
  /-- A variable is looked up by its name. -/
  | find (name : Json)
  /-- The report is asked for as an object. -/
  | describe
  /-- The report is asked for in a few words. -/
  | summarize
  /-- A decoder that writes into the report is called. -/
  | decode (decoder : String) (call : OutputCall)

/-- What an operation answers. -/
inductive Answer where
  | done
  /-- An entry was refused. -/
  | refused
  | found (result : Except Misuse (Option Variable))
  | described (result : Except Misuse Json)
  | summarized (words : String)

/-- A report with the decoders that write into it. -/
structure Collector where
  report : Report
  decoders : String → Decoder

namespace Collector

/-- Perform an operation. -/
def perform (collector : Collector) : Operation → Collector × Answer
  | .add entry =>
    match collector.report.add entry with
    | .ok report => ({ collector with report }, .done)
    | .error .frozen => (collector, .refused)
  | .freeze => ({ collector with report := collector.report.freeze }, .done)
  | .find name => (collector, .found (Report.variableNamed? collector.report name))
  | .describe => (collector, .described (Report.toJson collector.report))
  | .summarize => (collector, .summarized collector.report.summary)
  | .decode name call =>
    let (decoder, delivery) := (collector.decoders name).call collector.report.frozen call
    (⟨collector.report.appendAll
        (delivery.entries.map (Entry.map Diagnostic.ofChecked Variable.ofChecked)),
      Function.update collector.decoders name decoder⟩,
      if delivery.refused then .refused else .done)

/-- The collector after some operations. -/
def after (collector : Collector) (operations : List Operation) : Collector :=
  operations.foldl (fun current operation => (current.perform operation).1) collector

/-- To perform operations and then others is to perform them all. -/
theorem after_append (collector : Collector) (earlier later : List Operation) :
    collector.after (earlier ++ later) = (collector.after earlier).after later :=
  List.foldl_append

variable (collector : Collector)

/-! ## Operations -/

/-- An entry is added to a report that is not frozen. -/
theorem perform_add_of_open (opened : collector.report.frozen = false)
    (entry : Entry Diagnostic Variable) : collector.perform (.add entry) =
      ({ collector with report := collector.report.append entry }, .done) := by
  simp [perform, LintClient.Report.add, opened]

/-- A frozen report refuses an entry, and the collector stays as it is. -/
theorem perform_add_of_frozen (ended : collector.report.frozen = true)
    (entry : Entry Diagnostic Variable) :
    collector.perform (.add entry) = (collector, .refused) := by
  simp [perform, LintClient.Report.add, ended]

/-- To freeze a frozen report changes nothing. -/
theorem perform_freeze_of_frozen (ended : collector.report.frozen = true) :
    collector.perform .freeze = (collector, .done) := by
  rw [perform, Report.freeze_of_frozen ended]

/-- A decoder puts the entries of its lines behind the others, unless the report is frozen. -/
theorem report_perform_decode (name : String) (call : OutputCall) :
    (collector.perform (.decode name call)).1.report =
      collector.report.appendAll (if collector.report.frozen then [] else
        ((collector.decoders name).entriesOf call).map
          (Entry.map Diagnostic.ofChecked Variable.ofChecked)) := by
  simp only [perform, Decoder.entries_call]
  split <;> rfl

/-- A decoder is refused exactly when the report is frozen and the call brings entries. -/
theorem answer_perform_decode (name : String) (call : OutputCall) :
    (collector.perform (.decode name call)).2 = .refused ↔
      collector.report.frozen = true ∧ (collector.decoders name).entriesOf call ≠ [] := by
  rw [← Decoder.refused_call]
  simp only [perform]
  split <;> simp_all

/-- As long as the report is open a decoder is refused nothing. -/
theorem answer_perform_decode_of_open (opened : collector.report.frozen = false) (name : String)
    (call : OutputCall) : (collector.perform (.decode name call)).2 = .done := by
  have accepted :
      ((collector.decoders name).call collector.report.frozen call).2.refused = false := by
    rw [Bool.eq_false_iff, ne_eq, Decoder.refused_call, opened]
    exact fun both => nomatch both.1
  simp [perform, accepted]

/-- With every operation a report goes on. -/
theorem continues_perform (operation : Operation) :
    collector.report.Continues (collector.perform operation).1.report := by
  cases operation with
  | add entry =>
      cases state : collector.report.frozen with
      | false =>
          rw [perform_add_of_open collector state]
          exact Report.continues_append state entry
      | true =>
          rw [perform_add_of_frozen collector state]
          exact .refl _
  | freeze => exact Report.continues_freeze _
  | decode name call =>
      rw [report_perform_decode]
      exact Report.continues_appendAll fun ended => by simp [ended]
  | find name => exact .refl _
  | describe => exact .refl _
  | summarize => exact .refl _

/-- In the course of operations a report goes on. -/
theorem continues_after (operations : List Operation) :
    collector.report.Continues (collector.after operations).report := by
  induction operations generalizing collector with
  | nil => exact .refl _
  | cons operation later inductionHypothesis =>
      exact (collector.continues_perform operation).trans (inductionHypothesis _)

/-- A report is frozen by the operation of that name alone. -/
theorem frozen_perform (operation : Operation) :
    (collector.perform operation).1.report.frozen = true ↔
      collector.report.frozen = true ∨ operation = .freeze := by
  cases operation with
  | add entry =>
      cases state : collector.report.frozen with
      | false =>
          rw [perform_add_of_open collector state]
          cases entry <;> simpa [LintClient.Report.append] using state
      | true =>
          rw [perform_add_of_frozen collector state]
          simpa using state
  | freeze => simp [perform, LintClient.Report.freeze]
  | decode name call =>
      rw [report_perform_decode]
      simp [LintClient.Report.appendAll]
  | find name => simp [perform]
  | describe => simp [perform]
  | summarize => simp [perform]

/-- A report is frozen after operations when it was frozen before or one of them freezes it. -/
theorem frozen_after (operations : List Operation) :
    (collector.after operations).report.frozen = true ↔
      collector.report.frozen = true ∨ .freeze ∈ operations := by
  induction operations generalizing collector with
  | nil => simp [after]
  | cons operation later inductionHypothesis =>
      have step : collector.after (operation :: later) =
          (collector.perform operation).1.after later := rfl
      rw [step, inductionHypothesis, frozen_perform, List.mem_cons, or_assoc,
        eq_comm (a := operation)]

/-- From the moment at which it is frozen a report stays as it is. -/
theorem report_after_freeze (before rest : List Operation) :
    (collector.after (before ++ .freeze :: rest)).report =
      (collector.after before).report.freeze := by
  rw [after_append]
  exact (continues_after _ rest).frozen rfl

end Collector

/-! ## Lookups -/

namespace Report

/-- A variable is the first one with a name, where case does not matter. -/
inductive IsFirst (name : Source) (entry : Variable) : List Variable → Prop where
  | here {entries : List Variable} (named : entry.ident = .ok name.lower) :
      IsFirst name entry (entry :: entries)
  | behind {other : Variable} {entries : List Variable} {ident : Source}
      (known : other.ident = .ok ident) (different : ident ≠ name.lower)
      (later : IsFirst name entry entries) : IsFirst name entry (other :: entries)

/-- The first variable with a name stays the first one when others are put behind. -/
theorem IsFirst.append {name : Source} {entry : Variable} {entries : List Variable}
    (first : IsFirst name entry entries) (others : List Variable) :
    IsFirst name entry (entries ++ others) := by
  induction first with
  | here named => exact .here named
  | behind known different _ inductionHypothesis =>
    exact .behind known different inductionHypothesis

/-- A variable whose name is no text is not found, and nothing behind it is. -/
theorem not_isFirst_of_error {name : Source} {entry other : Variable} {entries : List Variable}
    {cause : Misuse} (unknown : other.ident = .error cause) :
    ¬ IsFirst name entry (other :: entries) := by
  intro first
  cases first with
  | here named => cases unknown.symm.trans named
  | behind known _ _ => cases unknown.symm.trans known

/-- The first variable with a name is the one in front if it has the name, or else the first one
behind it. -/
theorem isFirst_cons_iff {name ident : Source} {entry other : Variable} {entries : List Variable}
    (known : other.ident = .ok ident) : IsFirst name entry (other :: entries) ↔
      if ident = name.lower then other = entry else IsFirst name entry entries := by
  split
  · next same =>
    constructor
    · intro first
      cases first with
      | here named => rfl
      | behind alsoKnown different _ =>
          exact absurd ((Except.ok.inj (alsoKnown.symm.trans known)).trans same) different
    · rintro rfl
      exact .here (same ▸ known)
  · next different =>
    constructor
    · intro first
      cases first with
      | here named => exact absurd (Except.ok.inj (known.symm.trans named)) different
      | behind _ _ later => exact later
    · exact .behind known different

/-- Variables are looked through for a name in order. -/
theorem lookThrough_eq_ok_some_iff {name : Source} {entry : Variable} {entries : List Variable} :
    variableNamed?.go name.lower entries = .ok (some entry) ↔ IsFirst name entry entries := by
  induction entries with
  | nil =>
      constructor
      · intro found
        cases found
      · intro first
        cases first
  | cons other entries inductionHypothesis =>
      rw [variableNamed?.go]
      cases known : other.ident with
      | error cause => simp [bind, Except.bind, not_isFirst_of_error known]
      | ok ident =>
          rw [isFirst_cons_iff known]
          simp only [bind, Except.bind, pure, Except.pure, beq_iff_eq]
          split
          · simp
          · exact inductionHypothesis

/-- What a text as a name finds is the first variable with that name. -/
theorem variableNamed?_ofSource_eq_ok_some_iff {report : Report} {name : Source}
    {entry : Variable} :
    variableNamed? report (.ofSource name) = .ok (some entry) ↔
      IsFirst name entry report.symbols := by
  have looksThrough : variableNamed? report (.ofSource name) =
      variableNamed?.go name.lower report.symbols := by
    rw [variableNamed?, Json.lowered_ofSource]
    rfl
  rw [looksThrough]
  exact lookThrough_eq_ok_some_iff

/-- A lookup gives a variable exactly if it is the first one with the name. Nothing is found by what
is not a text. -/
theorem variableNamed?_eq_ok_some_iff {report : Report} {name : Json} {entry : Variable} :
    variableNamed? report name = .ok (some entry) ↔
      ∃ text, name = .ofSource text ∧ IsFirst text entry report.symbols := by
  constructor
  · intro found
    obtain ⟨text, rfl⟩ : ∃ text, name = .ofSource text := by
      obtain ⟨_, lowered, _⟩ := bind_eq_ok.mp found
      exact Json.isText_of_lowered lowered
    exact ⟨text, rfl, variableNamed?_ofSource_eq_ok_some_iff.mp found⟩
  · rintro ⟨text, rfl, first⟩
    exact variableNamed?_ofSource_eq_ok_some_iff.mpr first

/-- What is found in a report is found again when the report has gone on. -/
theorem variableNamed?_of_continues {earlier later : Report} (continues : earlier.Continues later)
    {name : Json} {entry : Variable} (found : variableNamed? earlier name = .ok (some entry)) :
    variableNamed? later name = .ok (some entry) := by
  rw [variableNamed?_eq_ok_some_iff] at found ⊢
  obtain ⟨text, isText, first⟩ := found
  obtain ⟨others, grown⟩ := continues.symbols
  refine ⟨text, isText, ?_⟩
  rw [← grown]
  exact first.append others

end Report

/-- What has been put into a report stays there, in its place, whatever is done with the report
between two moments. Entries are only put behind those of their kind: by hand exactly the one that
is given, by a decoder those of its lines. The report is frozen exactly if it was so or a freeze
came between. From then on it stays as it is, every entry is refused without a trace, and another
freeze does nothing. Neither the object nor the words for a report tell whether it is frozen. What a
lookup finds is the first variable with that name, and it is found again at every later moment. -/
theorem Collector.collected_entries_stay (collector : Collector) (operations : List Operation) :
    collector.report.Continues (collector.after operations).report ∧
    ((collector.after operations).report.frozen = true ↔
      collector.report.frozen = true ∨ .freeze ∈ operations) ∧
    (∀ before rest, operations = before ++ .freeze :: rest →
      (collector.after operations).report = (collector.after before).report.freeze) ∧
    (collector.report.frozen = false →
      (∀ entry, collector.perform (.add entry) =
        ({ collector with report := collector.report.append entry }, .done)) ∧
      ∀ name call, (collector.perform (.decode name call)).2 = .done ∧
        (collector.perform (.decode name call)).1.report = collector.report.appendAll
          (((collector.decoders name).entriesOf call).map
            (Entry.map Diagnostic.ofChecked Variable.ofChecked))) ∧
    (collector.report.frozen = true →
      (∀ entry, collector.perform (.add entry) = (collector, .refused)) ∧
      collector.perform .freeze = (collector, .done) ∧
      ∀ name call, (collector.perform (.decode name call)).1.report = collector.report ∧
        ((collector.perform (.decode name call)).2 = .refused ↔
          (collector.decoders name).entriesOf call ≠ [])) ∧
    (Report.toJson collector.report.freeze = Report.toJson collector.report ∧
      collector.report.freeze.summary = collector.report.summary) ∧
    ∀ name entry, (Report.variableNamed? collector.report name = .ok (some entry) ↔
        ∃ text, name = .ofSource text ∧ Report.IsFirst text entry collector.report.symbols) ∧
      (Report.variableNamed? collector.report name = .ok (some entry) →
        Report.variableNamed? (collector.after operations).report name = .ok (some entry)) := by
  refine ⟨collector.continues_after operations, collector.frozen_after operations, ?freeze, ?opened,
    ?frozen, ⟨rfl, rfl⟩, ?lookup⟩
  case freeze =>
    rintro before rest rfl
    exact collector.report_after_freeze before rest
  case opened =>
    intro opened
    refine ⟨collector.perform_add_of_open opened, fun name call => ⟨?_, ?_⟩⟩
    · exact collector.answer_perform_decode_of_open opened name call
    · rw [report_perform_decode]
      simp [opened]
  case frozen =>
    intro ended
    refine ⟨collector.perform_add_of_frozen ended, collector.perform_freeze_of_frozen ended,
      fun name call => ⟨?_, ?_⟩⟩
    · exact (collector.continues_perform (.decode name call)).frozen ended
    · rw [answer_perform_decode]
      exact and_iff_right ended
  case lookup =>
    intro name entry
    exact ⟨Report.variableNamed?_eq_ok_some_iff,
      Report.variableNamed?_of_continues (collector.continues_after operations)⟩

end Unchecked

end LintClient
