import MarkdownView.Proofs.Compile.Failures
import MarkdownView.Proofs.Highlight.Drafts
set_option autoImplicit false

namespace MarkdownView

inductive Failure.IsFinding : Failure → Prop where
  | uneven (row expected actual : Int) : IsFinding (.malformedTable row expected actual none)
  | deep (container : String) (depth limit : Int) : IsFinding (.depthExceeded container depth limit)
  | misplaced (kind context : String) : IsFinding (.contract kind context)
  | unfaithful (language : Option String) : IsFinding (.highlightContract language)

theorem in_compilation_of_finding {failure : Failure} (finding : failure.IsFinding) :
    failure.inCompilation = failure := by
  cases finding <;> rfl

namespace Highlighter

def Mistypes (highlighter : Highlighter) : Prop :=
  ∃ source language past items, ((highlighter source language).after past).outcome = .ok items ∧
    (∀ item ∈ items, item.draft? ≠ none) ∧ items.any Item.isMistyped = true

def Foresees (highlighter : Highlighter) (failure : Failure) : Prop :=
  failure.IsFinding ∨ highlighter.Mistypes ∧ failure.IsMistyped

def Reports (highlighter : Highlighter) (reported : Failure) : Prop :=
  reported.IsFinding ∨ highlighter.Mistypes ∧
    ∃ failure : Failure, reported = failure.inCompilation ∧ failure.IsMistyped

theorem Foresees.reports {highlighter : Highlighter} {failure : Failure}
    (foreseen : highlighter.Foresees failure) : highlighter.Reports failure.inCompilation := by
  rcases foreseen with finding | ⟨mistypes, mistyped⟩
  · rw [in_compilation_of_finding finding]
    exact .inl finding
  · exact .inr ⟨mistypes, failure, rfl, mistyped⟩

end Highlighter

end MarkdownView
