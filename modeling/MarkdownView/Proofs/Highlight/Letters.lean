import Mathlib.Data.List.SplitBy
import MarkdownView.Proofs.Highlight
set_option autoImplicit false

namespace MarkdownView

theorem span_text_cons (span : Span) (spans : List Span) :
    spanText (span :: spans) = span.text ++ spanText spans := by
  rw [spanText, List.map_cons, String.join_cons, spanText]

namespace Span

def prepend (span : Span) (spans : List Span) : List Span :=
  if span.text = "" then spans else
    match spans with
    | next :: rest =>
      if span.looks = next.looks then { span with text := span.text ++ next.text } :: rest
      else span :: spans
    | [] => [span]

def join : List Span → List Span
  | [] => []
  | span :: spans => prepend span (join spans)

abbrev Letter := Char × Looks

def letters (span : Span) : List Letter := span.text.toList.map fun letter => (letter, span.looks)

def lettersOf (spans : List Span) : List Letter := spans.flatMap letters

theorem letters_of_cons (span : Span) (spans : List Span) :
    lettersOf (span :: spans) = span.letters ++ lettersOf spans :=
  List.flatMap_cons

structure Settled (spans : List Span) : Prop where
  present : ∀ span ∈ spans, span.text ≠ ""
  apart : spans.IsChain fun span next => span.looks ≠ next.looks

theorem letters_of_empty {span : Span} (empty : span.text = "") : span.letters = [] := by
  rw [letters, empty]
  rfl

theorem letters_append {span next : Span} (same : span.looks = next.looks) :
    letters { span with text := span.text ++ next.text } = span.letters ++ next.letters := by
  have kept : looks { span with text := span.text ++ next.text } = span.looks := rfl
  rw [letters, kept, String.toList_append, List.map_append, letters, letters, same]

theorem letters_of_prepend (span : Span) (spans : List Span) :
    lettersOf (span.prepend spans) = span.letters ++ lettersOf spans := by
  rw [prepend.eq_def]
  by_cases empty : span.text = ""
  · rw [if_pos empty, letters_of_empty empty, List.nil_append]
  · rw [if_neg empty]
    cases spans with
    | nil => rfl
    | cons next rest =>
      by_cases same : span.looks = next.looks
      · simp only [if_pos same]
        rw [letters_of_cons, letters_append same, letters_of_cons,
          List.append_assoc]
      · simp only [if_neg same]
        exact letters_of_cons span (next :: rest)

theorem letters_of_join (spans : List Span) : lettersOf (join spans) = lettersOf spans := by
  induction spans with
  | nil => rfl
  | cons span spans ih =>
    rw [join, letters_of_prepend, ih, letters_of_cons]

theorem settled_prepend (span : Span) {spans : List Span} (settled : Settled spans) :
    Settled (span.prepend spans) := by
  rw [prepend.eq_def]
  by_cases empty : span.text = ""
  · rwa [if_pos empty]
  · rw [if_neg empty]
    cases spans with
    | nil => exact ⟨List.forall_mem_singleton.mpr empty, List.isChain_singleton span⟩
    | cons next rest =>
      by_cases same : span.looks = next.looks
      · simp only [if_pos same]
        have longer : span.text ++ next.text ≠ "" := by simp [empty]
        have restPresent := (List.forall_mem_cons.mp settled.present).2
        refine ⟨List.forall_mem_cons.mpr ⟨longer, restPresent⟩, ?_⟩
        have apart := settled.apart
        rw [List.isChain_cons] at apart ⊢
        -- The longer span looks like the one that it was put in front of.
        rw [← same] at apart
        exact apart
      · simp only [if_neg same]
        refine ⟨List.forall_mem_cons.mpr ⟨empty, settled.present⟩, ?_⟩
        exact List.isChain_cons_cons.mpr ⟨same, settled.apart⟩

theorem settled_join (spans : List Span) : Settled (join spans) := by
  induction spans with
  | nil => exact ⟨nofun, List.isChain_nil⟩
  | cons span spans ih => exact settled_prepend span ih

def ofLetters : List Letter → Span
  | [] => plain ""
  | (letter, looks) :: rest => ⟨String.ofList (letter :: rest.map Prod.fst), looks⟩

theorem to_list_span_text (spans : List Span) :
    (spanText spans).toList = (lettersOf spans).map Prod.fst := by
  induction spans with
  | nil => rfl
  | cons span spans ih =>
    have read : span.letters.map Prod.fst = span.text.toList := by simp [letters, Function.comp_def]
    rw [span_text_cons, String.toList_append, ih, letters_of_cons, List.map_append, read]

theorem span_text_eq_of_letters {spans others : List Span} (same : lettersOf spans = lettersOf others) :
    spanText spans = spanText others := by
  rw [← String.toList_inj, to_list_span_text, same, to_list_span_text]

end Span

end MarkdownView
