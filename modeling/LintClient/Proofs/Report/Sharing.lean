import LintClient.Proofs.Report.Collecting
import Mathlib

/-!
# Decoders of one report

Several decoders may write into the same report, in whatever order they are called. Nothing of a
decoder passes through the report to another one: each stands where it would stand alone, and the
report holds the entries that each would have given alone, in an order that keeps theirs
(`Collector.decoders_do_not_interfere`).
-/

namespace LintClient

/-! ## Interleaved lists -/

/-- A list interleaves the lists of a family: every item of it is the next one of the list of some
owner, and in the end nothing is left of any of them. -/
inductive Interleaves {ι α : Type} [DecidableEq ι] : (ι → List α) → List α → Prop where
  | done : Interleaves (fun _ => []) []
  | take {parts : ι → List α} {whole : List α} (owner : ι) (item : α)
      (others : Interleaves parts whole) :
      Interleaves (Function.update parts owner (item :: parts owner)) (item :: whole)

/-- What is picked out of owned items interleaves what is picked out of the items of each owner. -/
theorem interleaves_filterMap {ι α β : Type} [DecidableEq ι] (pick : α → Option β)
    (owned : List (ι × α)) :
    Interleaves (fun owner => ((owned.filter (·.1 = owner)).map Prod.snd).filterMap pick)
      ((owned.map Prod.snd).filterMap pick) := by
  induction owned with
  | nil => exact .done
  | cons pair owned inductionHypothesis =>
      obtain ⟨owner, item⟩ := pair
      cases picked : pick item with
      | none =>
          have same : ∀ other,
              ((((owner, item) :: owned).filter (·.1 = other)).map Prod.snd).filterMap pick =
                ((owned.filter (·.1 = other)).map Prod.snd).filterMap pick := by
            intro other
            by_cases isOwner : owner = other <;> simp [isOwner, picked]
          simpa only [same, List.map_cons, List.filterMap_cons_none picked]
            using inductionHypothesis
      | some value =>
          have taken : (fun other =>
              ((((owner, item) :: owned).filter (·.1 = other)).map Prod.snd).filterMap pick) =
              Function.update
                (fun other => ((owned.filter (·.1 = other)).map Prod.snd).filterMap pick) owner
                (value :: ((owned.filter (·.1 = owner)).map Prod.snd).filterMap pick) := by
            funext other
            by_cases isOwner : other = owner
            · subst isOwner
              simp [picked]
            · simp [isOwner, Ne.symm isOwner]
          rw [taken, List.map_cons, List.filterMap_cons_some picked]
          exact .take owner value inductionHypothesis

namespace Unchecked

open Protocol (Decoder)
open Run (OutputCall)

namespace Collector

/-- A call on the decoder of a name. -/
abbrev NamedCall := String × OutputCall

/-- The collector after calls on its decoders. -/
def afterCalls (collector : Collector) (calls : List NamedCall) : Collector :=
  collector.after (calls.map fun call => .decode call.1 call.2)

/-- The calls on the decoder of a name. -/
def callsOn (name : String) (calls : List NamedCall) : List NamedCall :=
  calls.filter (·.1 = name)

/-- A decoder after a call for an open report. -/
def stepped (decoder : Decoder) (call : OutputCall) : Decoder :=
  (decoder.call false call).1

/-- The entries of calls, each with the name of its decoder. -/
def entriesOf (decoders : String → Decoder) :
    List NamedCall → List (String × Entry Diagnostic Variable)
  | [] => []
  | (name, call) :: calls =>
    ((decoders name).entriesOf call).map
        (fun entry => (name, entry.map Diagnostic.ofChecked Variable.ofChecked)) ++
      entriesOf (Function.update decoders name (stepped (decoders name) call)) calls

/-- The first call of a decoder comes before the others. -/
theorem afterCalls_cons (collector : Collector) (name : String) (call : OutputCall)
    (calls : List NamedCall) : collector.afterCalls ((name, call) :: calls) =
      (collector.perform (.decode name call)).1.afterCalls calls := rfl

variable {collector : Collector}

section

variable (opened : collector.report.frozen = false)

include opened

/-- A call on a decoder of an open report puts its entries into the report and moves the decoder. -/
theorem perform_decode_of_open (name : String) (call : OutputCall) :
    (collector.perform (.decode name call)).1 =
      ⟨collector.report.appendAll (((collector.decoders name).entriesOf call).map
          (Entry.map Diagnostic.ofChecked Variable.ofChecked)),
        Function.update collector.decoders name (stepped (collector.decoders name) call)⟩ := by
  simp only [perform, opened, Decoder.entries_call, stepped]
  rfl

/-- Calls put their entries into the report, in the order in which they are made. -/
theorem report_afterCalls (calls : List NamedCall) :
    (collector.afterCalls calls).report =
      collector.report.appendAll ((entriesOf collector.decoders calls).map Prod.snd) := by
  induction calls generalizing collector with
  | nil => exact (Report.appendAll_nil _).symm
  | cons first calls inductionHypothesis =>
      obtain ⟨name, call⟩ := first
      rw [afterCalls_cons, perform_decode_of_open opened, inductionHypothesis (by exact opened),
        entriesOf, List.map_append, Report.appendAll_append, List.map_map]
      rfl

/-- A decoder stands where its own calls have brought it. -/
theorem decoders_afterCalls (calls : List NamedCall) (name : String) :
    (collector.afterCalls calls).decoders name =
      (callsOn name calls).foldl (fun decoder call => stepped decoder call.2)
        (collector.decoders name) := by
  induction calls generalizing collector with
  | nil => rfl
  | cons first calls inductionHypothesis =>
      obtain ⟨other, call⟩ := first
      rw [afterCalls_cons, perform_decode_of_open opened, inductionHypothesis (by exact opened)]
      by_cases same : other = name
      · subst same
        simp [callsOn]
      · simp [callsOn, same, Ne.symm same]

end

/-- The entries of a decoder are those of its own calls, whatever the other decoders are. -/
theorem filter_entriesOf {decoders own : String → Decoder} {name : String}
    (same : own name = decoders name) (calls : List NamedCall) :
    (entriesOf decoders calls).filter (·.1 = name) = entriesOf own (callsOn name calls) := by
  induction calls generalizing decoders own with
  | nil => rfl
  | cons first calls inductionHypothesis =>
      obtain ⟨other, call⟩ := first
      by_cases isOwn : other = name
      · subst isOwn
        have moved : Function.update own other (stepped (own other) call) other =
            Function.update decoders other (stepped (decoders other) call) other := by
          simp [same]
        have kept :
            callsOn other ((other, call) :: calls) = (other, call) :: callsOn other calls := by
          simp [callsOn]
        rw [entriesOf, List.filter_append, inductionHypothesis moved, kept, entriesOf, same]
        congr 1
        rw [List.filter_eq_self]
        simp
      · have unmoved : own name =
            Function.update decoders other (stepped (decoders other) call) name := by
          simp [Ne.symm isOwn, same]
        have dropped : callsOn name ((other, call) :: calls) = callsOn name calls := by
          simp [callsOn, isOwn]
        rw [entriesOf, List.filter_append, inductionHypothesis unmoved, dropped]
        have others : (((decoders other).entriesOf call).map fun entry =>
            (other, entry.map Diagnostic.ofChecked Variable.ofChecked)).filter (·.1 = name) =
              [] := by
          rw [List.filter_eq_nil_iff]
          simp [isOwn]
        rw [others, List.nil_append]

section

variable (opened : collector.report.frozen = false) (calls : List NamedCall)

include opened

/-- What entries of one kind are put into a shared report interleaves what each decoder would have
put into an empty report of its own. -/
theorem interleaves_part {β : Type} (part : Report → List β)
    (pick : Entry Diagnostic Variable → Option β) (fresh : part .empty = [])
    (grows : ∀ (report : Report) entries,
      part (report.appendAll entries) = part report ++ entries.filterMap pick) :
    ∃ more, part (collector.afterCalls calls).report = part collector.report ++ more ∧
      Interleaves
        (fun name =>
          part ((Collector.mk .empty collector.decoders).afterCalls (callsOn name calls)).report)
        more := by
  refine ⟨((entriesOf collector.decoders calls).map Prod.snd).filterMap pick, ?shared, ?alone⟩
  case shared => rw [report_afterCalls opened, grows]
  case alone =>
    have own : ∀ name,
        part ((Collector.mk .empty collector.decoders).afterCalls (callsOn name calls)).report =
          (((entriesOf collector.decoders calls).filter
            (·.1 = name)).map Prod.snd).filterMap pick := by
      intro name
      rw [report_afterCalls rfl, grows, fresh, filter_entriesOf rfl, List.nil_append]
    simp only [own]
    exact interleaves_filterMap pick (entriesOf collector.decoders calls)

/-- A decoder of a shared report stands where its own calls alone would have brought it. -/
theorem decoders_afterCalls_callsOn (name : String) :
    (collector.afterCalls calls).decoders name =
      ((Collector.mk .empty collector.decoders).afterCalls (callsOn name calls)).decoders name := by
  have own : callsOn name (callsOn name calls) = callsOn name calls := by
    simp [callsOn]
  rw [decoders_afterCalls opened, decoders_afterCalls rfl, own]

end

/-- Decoders that write into one open report do not interfere, however many there are and in
whatever order they are called. Each of them stands where its own calls alone would have brought it,
with the same counts and the same unfinished line. What is put into the report of errors, of
warnings and of variables interleaves what each decoder would have put into an empty report of its
own. -/
theorem decoders_do_not_interfere (collector : Collector) (opened : collector.report.frozen = false)
    (calls : List NamedCall) :
    let shared := collector.afterCalls calls
    let alone :=
      fun name => (Collector.mk .empty collector.decoders).afterCalls (callsOn name calls)
    (∀ name, shared.decoders name = (alone name).decoders name) ∧
    (∃ errors, shared.report.errors = collector.report.errors ++ errors ∧
      Interleaves (fun name => (alone name).report.errors) errors) ∧
    (∃ warnings, shared.report.warnings = collector.report.warnings ++ warnings ∧
      Interleaves (fun name => (alone name).report.warnings) warnings) ∧
    ∃ symbols, shared.report.symbols = collector.report.symbols ++ symbols ∧
      Interleaves (fun name => (alone name).report.symbols) symbols :=
  ⟨decoders_afterCalls_callsOn opened calls,
    interleaves_part opened calls (·.errors) _ rfl fun _ _ => rfl,
    interleaves_part opened calls (·.warnings) _ rfl fun _ _ => rfl,
    interleaves_part opened calls (·.symbols) _ rfl fun _ _ => rfl⟩

/-- An empty report, with decoders at the start of their streams. -/
def fresh : Collector := ⟨.empty, fun _ => .start⟩

/-- Calls on two decoders: a record for the one is cut in two by a whole one for the other. -/
def cutRecord : List NamedCall :=
  [("left", .feed (Text.Utf8.encode "\x7b\"type\":\"error\",".toList)),
    ("right", .feed (Text.Utf8.encode "\x7b\"type\":\"warning\"\x7d\n".toList)),
    ("left", .feed (Text.Utf8.encode "\"error\":\"x\"\x7d\n".toList))]

/-- Two decoders of one report: the left one completes a record that is cut between its calls,
whatever the right one is fed meanwhile. -/
theorem decoders_do_not_interfere_cutRecord : fresh.report.frozen = false ∧
    (fresh.afterCalls cutRecord).decoders "left" =
      (fresh.afterCalls (callsOn "left" cutRecord)).decoders "left" ∧
    ((fresh.afterCalls (callsOn "left" cutRecord)).decoders "left").tally = ⟨1, 0, 0, 0⟩ :=
  ⟨rfl, (decoders_do_not_interfere fresh rfl cutRecord).1 "left", by cbv⟩

end Collector

end Unchecked

end LintClient
