import MarkdownView.Proofs.Highlight.Drafts
set_option autoImplicit false

namespace MarkdownView

-- What an answer of the highlighter comes to.
inductive Settles (isStrict : Bool) (source named : String) :
    Except Failure (List Item) → Except Failure (List Span) → Prop where
  | unknown {failure : Failure} (lookup : failure.isLookup = true) :
      Settles isStrict source named (.error failure) (.ok [Span.plain source])
  | failed {failure : Failure} (other : failure.isLookup = false) :
      Settles isStrict source named (.error failure) (.error failure)
  | joined {items : List Item} (coerced : ∀ item ∈ items, item.draft? ≠ none)
      (typed : items.any Item.isMistyped = false)
      (rebuilt : spanText (items.filterMap Item.span?) = source) :
      Settles isStrict source named (.ok items) (.ok (Span.join (items.filterMap Item.span?)))
  | broken {items : List Item} (broken : Item.IsBroken source items)
      (noticed : ¬ Item.Escapes source items) :
      Settles isStrict source named (.ok items)
        (if isStrict then .error (.highlightContract (some named)) else .ok [Span.plain source])
  | mistyped {items : List Item} {failure : Failure} (escapes : Item.Escapes source items)
      (mistyped : items.any Item.isMistyped = true) (ofType : failure.IsMistyped) :
      Settles isStrict source named (.ok items) (.error failure)

inductive Highlights (isStrict : Bool) (source named : String) :
    Except Failure (List Item) → Except Failure (List Span) → Prop where
  | empty {answer : Except Failure (List Item)} (empty : source = "") :
      Highlights isStrict source named answer (.ok [])
  | unnamed {answer : Except Failure (List Item)} (present : source ≠ "") (unnamed : named = "") :
      Highlights isStrict source named answer (.ok [Span.plain source])
  | asked {answer : Except Failure (List Item)} {outcome : Except Failure (List Span)}
      (present : source ≠ "") (asked : named ≠ "") (settles : Settles isStrict source named answer outcome) :
      Highlights isStrict source named answer outcome

section

variable {isStrict : Bool} {source named : String} {answer : Except Failure (List Item)}
  {items : List Item} {outcome : Except Failure (List Span)}

theorem plain_settled (present : source ≠ "") :
    spanText [Span.plain source] = source ∧ Span.Settled [Span.plain source] :=
  ⟨span_text_singleton _, List.forall_mem_singleton.mpr present, List.isChain_singleton _⟩

namespace Settles

theorem settled (settles : Settles isStrict source named answer outcome) (present : source ≠ "")
    {spans : List Span} (returned : outcome = .ok spans) : spanText spans = source ∧ Span.Settled spans := by
  cases settles with
  | unknown =>
    cases returned
    exact plain_settled present
  | failed => cases returned
  | joined _ _ rebuilt =>
    cases returned
    exact ⟨(Span.span_text_eq_of_letters (Span.letters_of_join _)).trans rebuilt, Span.settled_join _⟩
  | broken =>
    cases isStrict with
    | true => cases returned
    | false =>
      cases returned
      exact plain_settled present
  | mistyped => cases returned

end Settles

namespace Highlights

theorem settled (highlights : Highlights isStrict source named answer outcome) {spans : List Span}
    (returned : outcome = .ok spans) : spanText spans = source ∧ Span.Settled spans := by
  cases highlights with
  | empty empty =>
    cases returned
    exact ⟨empty.symm, nofun, List.isChain_nil⟩
  | unnamed present =>
    cases returned
    exact plain_settled present
  | asked present _ settles => exact settles.settled present returned

end Highlights

end

end MarkdownView
