import MarkdownView.Proofs.Trace
set_option autoImplicit false

namespace MarkdownView.Event

open Traced (IsRemark)

def isReport : Event → Bool
  | .unmodelled _ => true
  | .repaired _ => true
  | _ => false

def reports (events : List Event) : List Event := events.filter isReport

theorem reports_append (events later : List Event) :
    reports (events ++ later) = reports events ++ reports later :=
  List.filter_append ..

theorem reports_eq_nil {events : List Event} (quiet : ∀ event ∈ events, event.isReport = false) :
    reports events = [] :=
  List.filter_eq_nil_iff.mpr fun event member => by simp [quiet event member]

theorem is_report_of_remark (event : Event) (remark : IsRemark event) : event.isReport = false := by
  obtain ⟨level, message, rfl, _⟩ := remark
  rfl

theorem reports_of_remarks {events : List Event} (remarks : ∀ event ∈ events, IsRemark event) :
    reports events = [] :=
  reports_eq_nil fun event member => is_report_of_remark event (remarks event member)

theorem unmodelled_kinds_append (events later : List Event) :
    unmodelledKinds (events ++ later) = unmodelledKinds events ++ unmodelledKinds later :=
  List.filterMap_append

theorem warnings_append (events later : List Event) :
    warnings (events ++ later) = warnings events ++ warnings later :=
  List.filterMap_append

theorem calls_append (events later : List Event) :
    calls (events ++ later) = calls events ++ calls later :=
  List.filterMap_append

theorem unmodelled_kinds_reports (events : List Event) :
    unmodelledKinds (reports events) = unmodelledKinds events := by
  rw [unmodelledKinds, reports, List.filterMap_filter]
  congr 1
  funext event
  cases event <;> rfl

theorem warnings_reports (events : List Event) : warnings (reports events) = warnings events := by
  rw [warnings, reports, List.filterMap_filter]
  congr 1
  funext event
  cases event <;> rfl

theorem unmodelled_kinds_of_quiet {events : List Event} (quiet : reports events = []) :
    unmodelledKinds events = [] := by
  rw [← unmodelled_kinds_reports, quiet]
  rfl

theorem warnings_of_quiet {events : List Event} (quiet : reports events = []) :
    warnings events = [] := by
  rw [← warnings_reports, quiet]
  rfl

theorem diagnostics_eq_of_reports {events others : List Event}
    (same : reports events = reports others) : diagnostics events = diagnostics others := by
  rw [diagnostics, ← unmodelled_kinds_reports, same, unmodelled_kinds_reports, diagnostics]

theorem warnings_eq_of_reports {events others : List Event}
    (same : reports events = reports others) : warnings events = warnings others := by
  rw [← warnings_reports, same, warnings_reports]

end MarkdownView.Event
