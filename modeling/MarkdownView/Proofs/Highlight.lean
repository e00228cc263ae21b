import MarkdownView.Highlight
import MarkdownView.Proofs.Failures
import MarkdownView.Proofs.Reports
set_option autoImplicit false

namespace MarkdownView

open Traced (IsRemark)

theorem span_text_singleton (span : Span) : spanText [span] = span.text := by
  rw [spanText, List.map_singleton, String.join_cons, String.join_nil, String.append_empty]

theorem mismatch_span_text {isStrict : Bool} {source language complaint : String} {spans : List Span}
    {past events : List Event}
    (yields : (mismatch isStrict source language complaint).Yields past spans events) :
    spanText spans = source := by
  cases isStrict with
  | true => simp [mismatch] at yields
  | false =>
    simp only [mismatch, Bool.false_eq_true, if_false, Traced.yields_bind_iff,
      Traced.yields_pure_iff] at yields
    obtain ⟨_, _, _, _, ⟨rfl, _⟩, _⟩ := yields
    exact span_text_singleton _

theorem settle_span_text {isStrict : Bool} {source language : String} {items : List Item}
    {spans : List Span} {past events : List Event}
    (yields : (settle isStrict source language items).Yields past spans events) :
    spanText spans = source := by
  rw [settle] at yields
  split at yields
  · exact mismatch_span_text yields
  · obtain ⟨joined, _, _, _, yields, _⟩ := Traced.yields_bind_iff.mp yields
    split at yields
    case isTrue rebuilt =>
      obtain ⟨rfl, _⟩ := Traced.yields_pure_iff.mp yields
      exact rebuilt
    case isFalse => exact mismatch_span_text yields

theorem plain_span_text {level : Level} {message source : String} {spans : List Span}
    {past events : List Event}
    (yields : (Traced.note level message >>= fun _ => pure [Span.plain source]).Yields past spans
      events) : spanText spans = source := by
  simp only [Traced.yields_bind_iff, Traced.yields_pure_iff] at yields
  obtain ⟨_, _, _, _, ⟨rfl, _⟩, _⟩ := yields
  exact span_text_singleton _

theorem highlight_span_text {highlighter : Highlighter} {isStrict : Bool} {source : String}
    {language : Option String} {spans : List Span} {past events : List Event}
    (yields : (highlight highlighter isStrict source language).Yields past spans events) :
    spanText spans = source := by
  simp only [highlight] at yields
  split at yields
  case isTrue empty =>
    obtain ⟨rfl, _⟩ := Traced.yields_pure_iff.mp yields
    exact empty.symm
  case isFalse =>
    split at yields
    · exact plain_span_text yields
    · obtain ⟨outcome, _, _, _, answered, _⟩ := Traced.yields_resume_iff.mp yields
      cases outcome with
      | ok items => exact settle_span_text answered
      | error failure =>
        cases lookup : failure.isLookup with
        | true =>
          simp only [lookup, if_true] at answered
          exact plain_span_text answered
        | false => simp [lookup] at answered

theorem about_language_is_other {level : Level} {first : Char} {front : String}
    (begins : BeginsWith first front) (other : 'U' ≠ first) (language rest : String) :
    (LogLine.mk level (front ++ language ++ rest)).warnsOfTheme = false :=
  LogLine.warns_of_theme_of_first ((begins.append language).append rest) other

theorem settle_emits {allowed : List Event → Event → Prop}
    (remarks : ∀ past event, IsRemark event → allowed past event)
    (isStrict : Bool) (source language : String) (items : List Item) :
    (settle isStrict source language items).Emits allowed := by
  have mismatchEmits {complaint : String}
      (other : (LogLine.mk .warning complaint).warnsOfTheme = false) :
      (mismatch isStrict source language complaint).Emits allowed := by
    rw [mismatch]
    split
    · exact Traced.emits_fail _
    · exact Traced.emits_bind (Traced.note_emits remarks other) fun _ => Traced.emits_pure _
  rw [settle]
  split
  · have begins : BeginsWith 'H' "Highlighter returned malformed spans for language '" := rfl
    exact mismatchEmits (about_language_is_other begins (by decide) language _)
  · refine Traced.emits_bind (Traced.emits_of_except _) fun spans => ?_
    split
    · exact Traced.emits_pure _
    · have begins : BeginsWith 'H' "Highlighter spans for language '" := rfl
      exact mismatchEmits (about_language_is_other begins (by decide) language _)

theorem plain_emits {allowed : List Event → Event → Prop}
    (remarks : ∀ past event, IsRemark event → allowed past event)
    {level : Level} {message : String} (other : (LogLine.mk level message).warnsOfTheme = false)
    (source : String) :
    (Traced.note level message >>= fun _ => pure [Span.plain source]).Emits allowed :=
  Traced.emits_bind (Traced.note_emits remarks other) fun _ => Traced.emits_pure _

theorem highlight_emits {allowed : List Event → Event → Prop}
    (remarks : ∀ past event, IsRemark event → allowed past event)
    {highlighter : Highlighter} {source : String}
    (calls : ∀ language past, language ≠ "" →
      allowed past (.called source language ((highlighter source language).after past).events))
    (isStrict : Bool) (language : Option String) :
    (highlight highlighter isStrict source language).Emits allowed := by
  simp only [highlight]
  split
  · exact Traced.emits_pure _
  · split
    case isTrue => exact plain_emits remarks rfl source
    case isFalse named =>
      refine Traced.emits_resume ?_ fun outcome => ?_
      · exact fun past => ⟨calls _ past named, trivial⟩
      · cases outcome with
        | ok items => exact settle_emits remarks isStrict source _ items
        | error failure =>
          cases lookup : failure.isLookup with
          | true =>
            simp only [lookup, if_true]
            have begins : BeginsWith 'C' "Could not find syntax highlighting for language '" := rfl
            exact plain_emits remarks (about_language_is_other begins (by decide) _ _) source
          | false =>
            simp only [lookup]
            exact Traced.emits_fail _

theorem highlight_quiet {highlighter : Highlighter} {isStrict : Bool} {source : String}
    {language : Option String} {past events : List Event} {spans : List Span}
    (yields : (highlight highlighter isStrict source language).Yields past spans events) :
    Event.reports events = [] := by
  have emits : (highlight highlighter isStrict source language).Emits fun _ event =>
      event.isReport = false :=
    highlight_emits (fun _ => Event.is_report_of_remark) (fun _ _ _ => rfl) isStrict language
  exact Event.reports_eq_nil (emits.of_yields yields)

theorem plain_raises_only {allowed : Failure → Prop} (level : Level) (message source : String) :
    (Traced.note level message >>= fun _ => pure [Span.plain source]).RaisesOnly allowed :=
  Traced.raises_only_bind (Traced.raises_only_note _ _) fun _ => Traced.raises_only_pure _

inductive Failure.IsMistyped : Failure → Prop where
  | notAdded (left right : String) : IsMistyped (.notAdded left right)
  | notJoined (index : Nat) (typeName : String) : IsMistyped (.notJoined index typeName)
  | wideNumber : IsMistyped .wideNumber

theorem Json.add_raises_only (a b : Json) : RaisesOnly Failure.IsMistyped (a.add b) := by
  rw [Json.add.eq_def]
  split
  · exact raises_only_ok _
  · exact raises_only_ok _
  · split
    · exact raises_only_ok _
    · split
      · exact raises_only_error (.notAdded _ _)
      · split
        · exact raises_only_error .wideNumber
        · exact raises_only_ok _

namespace Draft

theorem join_after_raises_only (last : Draft) (drafts : List Draft) :
    RaisesOnly Failure.IsMistyped (joinAfter last drafts) := by
  induction drafts generalizing last with
  | nil => exact raises_only_ok _
  | cons draft drafts ih =>
    rw [joinAfter]
    split
    · exact ih last
    · split
      · exact raises_only_bind (Json.add_raises_only _ _) fun _ => ih _
      · exact raises_only_bind (ih draft) fun _ => raises_only_ok _

theorem join_raises_only (drafts : List Draft) : RaisesOnly Failure.IsMistyped (join drafts) := by
  induction drafts with
  | nil => exact raises_only_ok _
  | cons draft drafts ih =>
    rw [join]
    split
    · exact join_after_raises_only draft drafts
    · exact ih

theorem spans_from_raises_only (index : Nat) (drafts : List Draft) :
    RaisesOnly Failure.IsMistyped (spansFrom index drafts) := by
  induction drafts generalizing index with
  | nil => exact raises_only_ok _
  | cons draft drafts ih =>
    rw [spansFrom.eq_def]
    split
    · exact raises_only_ok _
    · next same =>
      obtain ⟨rfl, rfl⟩ := List.cons.inj same
      exact raises_only_bind (ih _) fun _ => raises_only_ok _
    · exact raises_only_error (.notJoined _ _)

theorem spans_raises_only (drafts : List Draft) : RaisesOnly Failure.IsMistyped (spans drafts) :=
  raises_only_bind (join_raises_only drafts) fun _ => spans_from_raises_only 0 _

end Draft

theorem settle_raises_only {allowed : Failure → Prop}
    (breaches : ∀ language, allowed (.highlightContract language)) (isStrict : Bool)
    (source language : String) {items : List Item}
    (mistyped : ∀ drafts, Item.drafts? items = some drafts → RaisesOnly allowed (Draft.spans drafts)) :
    (settle isStrict source language items).RaisesOnly allowed := by
  have mismatchRaises (complaint : String) :
      (mismatch isStrict source language complaint).RaisesOnly allowed := by
    rw [mismatch]
    split
    · exact Traced.raises_only_fail (breaches _)
    · exact plain_raises_only _ _ _
  rw [settle]
  split
  · exact mismatchRaises _
  · next drafts coerced =>
    refine Traced.raises_only_bind (Traced.raises_only_of_except (mistyped drafts coerced)) fun spans => ?_
    split
    · exact Traced.raises_only_pure _
    · exact mismatchRaises _

theorem highlight_raises_only {allowed : Failure → Prop}
    (breaches : ∀ language, allowed (.highlightContract language)) {highlighter : Highlighter}
    (mistyped : ∀ source language past items drafts,
      ((highlighter source language).after past).outcome = .ok items →
      Item.drafts? items = some drafts → RaisesOnly allowed (Draft.spans drafts))
    (raises : ∀ source language, (highlighter source language).RaisesOnly fun failure =>
      failure.isLookup = true ∨ allowed failure) (isStrict : Bool) (source : String)
    (language : Option String) : (highlight highlighter isStrict source language).RaisesOnly allowed := by
  simp only [highlight]
  split
  · exact Traced.raises_only_pure _
  · split
    · exact plain_raises_only _ _ _
    · refine Traced.raises_only_resume fun past => ?_
      cases ended : ((highlighter source (language.getD "")).after past).outcome with
      | ok items =>
        simp only [Traced.call, ended]
        exact settle_raises_only breaches isStrict source _ fun drafts => mistyped _ _ past items drafts ended
      | error failure =>
        simp only [Traced.call, ended]
        split
        case isTrue => exact plain_raises_only _ _ _
        case isFalse known =>
          have ofHighlighter := raises _ _ past failure ended
          exact Traced.raises_only_fail (ofHighlighter.resolve_left known)

end MarkdownView
