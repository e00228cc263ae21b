import MarkdownView.Proofs.Highlight
import MarkdownView.Proofs.Picture
set_option autoImplicit false

namespace MarkdownView

namespace Traced

variable {α β : Type}

def Alike (first second : Traced α) : Prop :=
  ∀ past other, (first.after past).outcome = (second.after other).outcome ∧
    Event.reports (first.after past).events = Event.reports (second.after other).events

theorem alike_steady (ending : Ending α) : (steady ending).Alike (steady ending) :=
  fun _ _ => ⟨rfl, rfl⟩

theorem alike_resume {first second : Traced α} {next follow : Except Failure α → Traced β}
    (start : first.Alike second) (rest : ∀ outcome, (next outcome).Alike (follow outcome)) :
    (first.resume next).Alike (second.resume follow) := by
  intro past other
  obtain ⟨sameOutcome, sameReports⟩ := start past other
  simp only [after_resume, sameOutcome, Event.reports_append, sameReports]
  have afterStart := rest (second.after other).outcome
    ((first.after past).events.reverseAux past) ((second.after other).events.reverseAux other)
  exact ⟨afterStart.1, by rw [afterStart.2]⟩

theorem alike_bind {first second : Traced α} {next follow : α → Traced β}
    (start : first.Alike second) (rest : ∀ value, (next value).Alike (follow value)) :
    (first >>= next).Alike (second >>= follow) := by
  change (first.andThen next).Alike (second.andThen follow)
  refine alike_resume start fun outcome => ?_
  cases outcome with
  | error failure => exact alike_steady _
  | ok value => exact rest value

theorem alike_map_failure (change : Failure → Failure) {first second : Traced α}
    (inside : first.Alike second) : (first.mapFailure change).Alike (second.mapFailure change) := by
  intro past other
  obtain ⟨sameOutcome, sameReports⟩ := inside past other
  exact ⟨congrArg (Except.mapError change) sameOutcome, sameReports⟩

theorem alike_call (source language : String) {first second : Traced α}
    (answers : ∀ past other, (first.after past).outcome = (second.after other).outcome) :
    (call source language first).Alike (call source language second) :=
  fun past other => ⟨answers past other, rfl⟩

inductive SameEnd (related : α → β → Prop) : Except Failure α → Except Failure β → Prop where
  | ok {value : α} {other : β} (valuesRelated : related value other) :
      SameEnd related (.ok value) (.ok other)
  | error (failure : Failure) : SameEnd related (.error failure) (.error failure)

def AlikeUpTo (related : α → β → Prop) (first : Traced α) (second : Traced β) : Prop :=
  ∀ past other, SameEnd related (first.after past).outcome (second.after other).outcome ∧
    Event.reports (first.after past).events = Event.reports (second.after other).events

theorem alike_up_to_of_alike {related : α → α → Prop} (reflexive : ∀ value, related value value)
    {first second : Traced α} (alike : first.Alike second) : first.AlikeUpTo related second := by
  intro past other
  obtain ⟨sameOutcome, sameReports⟩ := alike past other
  refine ⟨?_, sameReports⟩
  rw [sameOutcome]
  cases (second.after other).outcome with
  | error failure => exact .error failure
  | ok value => exact .ok (reflexive value)

theorem alike_of_up_to {first second : Traced α} (alike : first.AlikeUpTo Eq second) :
    first.Alike second := by
  intro past other
  obtain ⟨sameEnd, sameReports⟩ := alike past other
  refine ⟨?_, sameReports⟩
  generalize (first.after past).outcome = outcome at sameEnd ⊢
  generalize (second.after other).outcome = otherOutcome at sameEnd ⊢
  cases sameEnd with
  | ok equal => rw [equal]
  | error failure => rfl

theorem alike_up_to_pure {related : α → β → Prop} {value : α} {other : β}
    (valuesRelated : related value other) :
    (pure value : Traced α).AlikeUpTo related (pure other) :=
  fun _ _ => ⟨.ok valuesRelated, rfl⟩

theorem alike_up_to_fail (related : α → β → Prop) (failure : Failure) :
    (fail failure : Traced α).AlikeUpTo related (fail failure : Traced β) :=
  fun _ _ => ⟨.error failure, rfl⟩

theorem alike_up_to_map (outcome : Except Failure α) (change : α → β) :
    (ofExcept outcome).AlikeUpTo (fun value other => other = change value)
      (ofExcept (outcome.map change)) := by
  intro past other
  refine ⟨?_, rfl⟩
  cases outcome with
  | error failure => exact .error failure
  | ok value => exact .ok rfl

theorem alike_up_to_bind {γ δ : Type} {related : α → β → Prop} {resultsRelated : γ → δ → Prop}
    {first : Traced α} {second : Traced β} {next : α → Traced γ} {follow : β → Traced δ}
    (start : first.AlikeUpTo related second)
    (rest : ∀ value other, related value other →
      (next value).AlikeUpTo resultsRelated (follow other)) :
    (first >>= next).AlikeUpTo resultsRelated (second >>= follow) := by
  intro past other
  obtain ⟨sameEnd, sameReports⟩ := start past other
  rcases firstEnded : first.after past with ⟨outcome, events⟩
  rcases secondEnded : second.after other with ⟨otherOutcome, otherEvents⟩
  rw [firstEnded, secondEnded] at sameEnd sameReports
  cases sameEnd with
  | error failure =>
    rw [after_bind_of_fails firstEnded, after_bind_of_fails secondEnded]
    exact ⟨.error failure, sameReports⟩
  | @ok value otherValue valuesRelated =>
    rw [after_bind_of_yields firstEnded, after_bind_of_yields secondEnded]
    obtain ⟨restEnd, restReports⟩ :=
      rest value otherValue valuesRelated (events.reverseAux past) (otherEvents.reverseAux other)
    refine ⟨restEnd, ?_⟩
    rw [Event.reports_append, Event.reports_append, sameReports, restReports]

theorem alike_bind_up_to {γ : Type} {related : α → β → Prop} {first : Traced α} {second : Traced β}
    {next : α → Traced γ} {follow : β → Traced γ} (start : first.AlikeUpTo related second)
    (rest : ∀ value other, related value other → (next value).Alike (follow other)) :
    (first >>= next).Alike (second >>= follow) :=
  alike_of_up_to (alike_up_to_bind start fun value other valuesRelated =>
    alike_up_to_of_alike Eq.refl (rest value other valuesRelated))

end Traced

open Traced (alike_steady alike_bind)

def Highlighter.Agrees (first second : Highlighter) : Prop :=
  ∀ source language past other, ((first source language).after past).outcome =
    ((second source language).after other).outcome

-- What the highlighter answers is a function of source and language.
def Highlighter.IsPure (highlighter : Highlighter) : Prop := highlighter.Agrees highlighter

theorem mismatch_alike (isStrict : Bool) (source language complaint : String) :
    (mismatch isStrict source language complaint).Alike
      (mismatch isStrict source language complaint) := by
  rw [mismatch]
  split
  · exact alike_steady _
  · exact alike_bind (alike_steady _) fun _ => alike_steady _

theorem settle_alike (isStrict : Bool) (source language : String) (items : List Item) :
    (settle isStrict source language items).Alike (settle isStrict source language items) := by
  rw [settle]
  split
  · exact mismatch_alike _ _ _ _
  · refine alike_bind (alike_steady _) fun spans => ?_
    split
    · exact alike_steady _
    · exact mismatch_alike _ _ _ _

theorem highlight_alike {first second : Highlighter} (agree : first.Agrees second) (isStrict : Bool)
    (source : String) (language : Option String) :
    (highlight first isStrict source language).Alike (highlight second isStrict source language) := by
  have plainAlike (level : Level) (message : String) :
      (Traced.note level message >>= fun _ => pure [Span.plain source]).Alike
        (Traced.note level message >>= fun _ => pure [Span.plain source]) :=
    alike_bind (alike_steady _) fun _ => alike_steady _
  simp only [highlight]
  split
  · exact alike_steady _
  · split
    · exact plainAlike _ _
    · refine Traced.alike_resume (Traced.alike_call source _ (agree source _)) fun outcome => ?_
      cases outcome with
      | ok items => exact settle_alike isStrict source _ items
      | error failure =>
        cases lookup : failure.isLookup with
        | true =>
          simp only [lookup, if_true]
          exact plainAlike _ _
        | false =>
          simp only [lookup]
          exact alike_steady _

namespace Picture

theorem probe_alike (files : Files) (installation : Installation) (path : String) :
    (probe files installation path).Alike (probe files installation path) := by
  refine alike_bind (alike_steady _) fun _ => ?_
  split
  · exact alike_steady _
  · split
    · exact alike_bind (alike_steady _) fun _ => alike_steady _
    · split
      · exact alike_steady _
      · exact alike_steady _

theorem dimensions_alike (files : Files) (installation : Installation) (path : String)
    (width height : Option Int) :
    (dimensions files installation path width height).Alike
      (dimensions files installation path width height) := by
  rw [dimensions]
  split
  · exact alike_steady _
  · exact alike_bind (probe_alike files installation path) fun _ => alike_steady _

theorem load_alike (files : Files) (installation : Installation) (base : Option Path)
    (url alt : String) (title : Option String) (width height : Option Int) :
    (load files installation base url alt title width height).Alike
      (load files installation base url alt title width height) := by
  refine alike_bind (alike_steady _) fun path => ?_
  refine alike_bind (alike_steady _) fun _ => ?_
  refine alike_bind (alike_steady _) fun _ => ?_
  exact alike_bind (dimensions_alike files installation path width height) fun _ => alike_steady _

end Picture

end MarkdownView
