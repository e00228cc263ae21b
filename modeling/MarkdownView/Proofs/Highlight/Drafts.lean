import MarkdownView.Proofs.Highlight.Letters
set_option autoImplicit false

namespace MarkdownView

namespace Draft

def ofSpan (span : Span) : Draft := ⟨.text span.text, span.looks⟩

def span? : Draft → Option Span
  | ⟨.text text, looks⟩ => some ⟨text, looks⟩
  | _ => none

def isMistyped (draft : Draft) : Bool := draft.span?.isNone && draft.text.holds

theorem eq_of_span {draft : Draft} {span : Span} (isSpan : draft.span? = some span) :
    draft = ofSpan span := by
  obtain ⟨text, looks⟩ := draft
  cases text with
  | text text =>
    cases isSpan
    rfl
  | _ => cases isSpan

theorem holds_of_span (span : Span) : (ofSpan span).text.holds = true ↔ span.text ≠ "" := by
  simp [ofSpan, Json.holds]

theorem join_after_of_empty {last draft : Draft} (empty : draft.text.holds = false) (drafts : List Draft) :
    joinAfter last (draft :: drafts) = joinAfter last drafts := by
  rw [joinAfter, empty]
  rfl

theorem join_after_of_same {last draft : Draft} (holds : draft.text.holds = true)
    (same : last.looks = draft.looks) (drafts : List Draft) :
    joinAfter last (draft :: drafts) =
      last.text.add draft.text >>= fun text => joinAfter ⟨text, last.looks⟩ drafts := by
  rw [joinAfter, holds, if_pos same]
  rfl

theorem join_after_of_apart {last draft : Draft} (holds : draft.text.holds = true)
    (apart : last.looks ≠ draft.looks) (drafts : List Draft) :
    joinAfter last (draft :: drafts) =
      joinAfter draft drafts >>= fun rest => .ok (last :: rest) := by
  rw [joinAfter, holds, if_neg apart]
  rfl

theorem prepend_prepend {span next : Span} (present : span.text ≠ "") (nextPresent : next.text ≠ "")
    (same : span.looks = next.looks) (spans : List Span) :
    span.prepend (next.prepend spans) =
      Span.prepend { span with text := span.text ++ next.text } spans := by
  have longer : span.text ++ next.text ≠ "" := by simp [present]
  cases spans with
  | nil => simp [Span.prepend, present, nextPresent, same]
  | cons third rest =>
    by_cases joined : next.looks = third.looks
    · simp [Span.prepend, present, nextPresent, same, joined, String.append_assoc]
    · simp [Span.prepend, present, nextPresent, same, joined]

theorem prepend_begins {span : Span} (present : span.text ≠ "") (spans : List Span) :
    ∃ text rest, span.prepend spans = ⟨text, span.looks⟩ :: rest := by
  rw [Span.prepend.eq_def, if_neg present]
  cases spans with
  | nil => exact ⟨span.text, [], rfl⟩
  | cons next rest =>
    by_cases same : span.looks = next.looks
    · exact ⟨span.text ++ next.text, rest, if_pos same⟩
    · exact ⟨span.text, next :: rest, if_neg same⟩

theorem prepend_apart {span next : Span} (present : span.text ≠ "") (nextPresent : next.text ≠ "")
    (apart : span.looks ≠ next.looks) (spans : List Span) :
    span.prepend (next.prepend spans) = span :: next.prepend spans := by
  obtain ⟨text, rest, begins⟩ := prepend_begins nextPresent spans
  rw [begins, Span.prepend, if_neg present, if_neg apart]

theorem hollow_of_typed {draft : Draft} (typed : draft.isMistyped = false) (foreign : draft.span? = none) :
    draft.text.holds = false := by
  simpa [isMistyped, foreign] using typed

theorem join_after_of_typed {span : Span} (present : span.text ≠ "") {drafts : List Draft}
    (typed : ∀ draft ∈ drafts, draft.isMistyped = false) :
    joinAfter (ofSpan span) drafts =
      .ok ((span.prepend (Span.join (drafts.filterMap span?))).map ofSpan) := by
  induction drafts generalizing span with
  | nil => simp [joinAfter, Span.join, Span.prepend, present]
  | cons draft drafts ih =>
    obtain ⟨draftTyped, typed⟩ := List.forall_mem_cons.mp typed
    cases isSpan : draft.span? with
    | none =>
      rw [join_after_of_empty (hollow_of_typed draftTyped isSpan), ih present typed,
        List.filterMap_cons_none isSpan]
    | some next =>
      rw [List.filterMap_cons_some isSpan, Span.join, eq_of_span isSpan]
      by_cases empty : next.text = ""
      · have leftOut (spans : List Span) : next.prepend spans = spans := if_pos empty
        have hollow : (ofSpan next).text.holds = false := by simp [ofSpan, Json.holds, empty]
        rw [join_after_of_empty hollow, ih present typed, leftOut]
      · have holds := (holds_of_span next).mpr empty
        by_cases same : span.looks = next.looks
        · have longer : span.text ++ next.text ≠ "" := by simp [present]
          rw [join_after_of_same holds same, prepend_prepend present empty same]
          exact @ih { span with text := span.text ++ next.text } longer typed
        · rw [join_after_of_apart holds same, ih empty typed, prepend_apart present empty same]
          rfl

theorem join_of_typed {drafts : List Draft} (typed : ∀ draft ∈ drafts, draft.isMistyped = false) :
    join drafts = .ok ((Span.join (drafts.filterMap span?)).map ofSpan) := by
  induction drafts with
  | nil => rfl
  | cons draft drafts ih =>
    obtain ⟨draftTyped, typed⟩ := List.forall_mem_cons.mp typed
    rw [join]
    cases isSpan : draft.span? with
    | none => rw [hollow_of_typed draftTyped isSpan, List.filterMap_cons_none isSpan]; exact ih typed
    | some span =>
      rw [List.filterMap_cons_some isSpan, Span.join, eq_of_span isSpan]
      by_cases empty : span.text = ""
      · have leftOut (spans : List Span) : span.prepend spans = spans := if_pos empty
        have hollow : (ofSpan span).text.holds ≠ true := fun holds => (holds_of_span span).mp holds empty
        rw [if_neg hollow, ih typed, leftOut]
      · rw [if_pos ((holds_of_span span).mpr empty)]
        exact join_after_of_typed empty typed

theorem spans_from_of_spans (index : Nat) (spans : List Span) :
    spansFrom index (spans.map ofSpan) = .ok spans := by
  induction spans generalizing index with
  | nil => rfl
  | cons span spans ih =>
    rw [List.map_cons, ofSpan, spansFrom, ih]
    rfl

theorem spans_of_typed {drafts : List Draft} (typed : ∀ draft ∈ drafts, draft.isMistyped = false) :
    spans drafts = .ok (Span.join (drafts.filterMap span?)) := by
  rw [spans, join_of_typed typed]
  exact spans_from_of_spans 0 _

theorem add_eq_text {a b : Json} {text : String} (added : a.add b = .ok (.text text)) :
    (∃ front, a = .text front) ∧ ∃ back, b = .text back := by
  rw [Json.add.eq_def] at added
  split at added
  · next front back => exact ⟨⟨front, rfl⟩, back, rfl⟩
  · cases added
  · split at added
    · cases added
    · split at added
      · cases added
      · split at added <;> cases added

theorem typed_of_span (span : Span) : (ofSpan span).isMistyped = false := rfl

theorem typed_of_hollow {draft : Draft} (hollow : draft.text.holds = false) :
    draft.isMistyped = false := by
  rw [isMistyped, hollow, Bool.and_false]

theorem eq_of_span_of_text {draft : Draft} {text : String} (isText : draft.text = .text text) :
    draft = ofSpan ⟨text, draft.looks⟩ := by
  obtain ⟨_, looks⟩ := draft
  subst isText
  rfl

theorem typed_of_join_after {last : Draft} {drafts : List Draft} {spans : List Span}
    (joined : joinAfter last drafts = .ok (spans.map ofSpan)) :
    (∃ span, last = ofSpan span) ∧ ∀ draft ∈ drafts, draft.isMistyped = false := by
  induction drafts generalizing last spans with
  | nil =>
    obtain ⟨span, _, _, isSpan, _⟩ := List.map_eq_cons_iff.mp (Except.ok.inj joined).symm
    exact ⟨⟨span, isSpan.symm⟩, nofun⟩
  | cons draft drafts ih =>
    cases holds : draft.text.holds with
    | false =>
      rw [join_after_of_empty holds] at joined
      obtain ⟨isSpan, typed⟩ := ih joined
      exact ⟨isSpan, List.forall_mem_cons.mpr ⟨typed_of_hollow holds, typed⟩⟩
    | true =>
      by_cases same : last.looks = draft.looks
      · rw [join_after_of_same holds same] at joined
        obtain ⟨sum, added, joined⟩ := bind_eq_ok_iff.mp joined
        obtain ⟨⟨span, isSpan⟩, typed⟩ := ih joined
        obtain rfl : sum = .text span.text := congrArg Draft.text isSpan
        obtain ⟨⟨front, frontText⟩, back, backText⟩ := add_eq_text added
        rw [eq_of_span_of_text backText]
        exact ⟨⟨_, eq_of_span_of_text frontText⟩, List.forall_mem_cons.mpr ⟨typed_of_span _, typed⟩⟩
      · rw [join_after_of_apart holds same] at joined
        obtain ⟨rest, restJoined, joined⟩ := bind_eq_ok_iff.mp joined
        obtain ⟨span, spans, rfl, isSpan, rfl⟩ := List.map_eq_cons_iff.mp (Except.ok.inj joined).symm
        obtain ⟨⟨next, rfl⟩, typed⟩ := ih restJoined
        exact ⟨⟨span, isSpan.symm⟩, List.forall_mem_cons.mpr ⟨typed_of_span next, typed⟩⟩

theorem typed_of_join {drafts : List Draft} {spans : List Span}
    (joined : join drafts = .ok (spans.map ofSpan)) : ∀ draft ∈ drafts, draft.isMistyped = false := by
  induction drafts with
  | nil => exact nofun
  | cons draft drafts ih =>
    rw [join] at joined
    cases holds : draft.text.holds with
    | false =>
      rw [holds] at joined
      exact List.forall_mem_cons.mpr ⟨typed_of_hollow holds, ih joined⟩
    | true =>
      rw [if_pos holds] at joined
      obtain ⟨⟨span, rfl⟩, typed⟩ := typed_of_join_after joined
      exact List.forall_mem_cons.mpr ⟨typed_of_span span, typed⟩

theorem eq_of_spans_from {index : Nat} {drafts : List Draft} {spans : List Span}
    (read : spansFrom index drafts = .ok spans) : drafts = spans.map ofSpan := by
  induction drafts generalizing index spans with
  | nil =>
    cases read
    rfl
  | cons draft drafts ih =>
    rw [spansFrom.eq_def] at read
    split at read
    · next none => cases none
    · next same =>
      obtain ⟨rfl, rfl⟩ := List.cons.inj same
      obtain ⟨rest, restRead, read⟩ := bind_eq_ok_iff.mp read
      cases read
      rw [ih restRead]
      rfl
    · cases read

theorem spans_answers (drafts : List Draft) :
    (drafts.any isMistyped = false ∧ spans drafts = .ok (Span.join (drafts.filterMap span?))) ∨
    (drafts.any isMistyped = true ∧
      ∃ failure, spans drafts = .error failure ∧ failure.IsMistyped) := by
  cases mistyped : drafts.any isMistyped with
  | false => exact .inl ⟨rfl, spans_of_typed (by simpa using mistyped)⟩
  | true =>
    refine .inr ⟨rfl, ?_⟩
    cases ended : spans drafts with
    | error failure => exact ⟨failure, rfl, spans_raises_only drafts failure ended⟩
    | ok joined =>
      obtain ⟨between, betweenJoined, read⟩ := bind_eq_ok_iff.mp ended
      rw [eq_of_spans_from read] at betweenJoined
      have typed := typed_of_join betweenJoined
      obtain ⟨draft, member, isMistyped⟩ := List.any_eq_true.mp mistyped
      exact absurd isMistyped (Bool.eq_false_iff.mp (typed draft member))

end Draft

namespace Item

variable {source : String} {items : List Item} {drafts : List Draft} {raw : List Span}

def span? (item : Item) : Option Span := item.draft?.bind Draft.span?

def isMistyped (item : Item) : Bool := item.draft?.any Draft.isMistyped

def IsBroken (source : String) (items : List Item) : Prop :=
  (∃ item ∈ items, item.span? = none) ∨ spanText (items.filterMap span?) ≠ source

def Escapes (source : String) (items : List Item) : Prop :=
  (∃ item ∈ items, item.span? = none) ∧ (∀ item ∈ items, item.draft? ≠ none) ∧
    (items.any isMistyped = true ∨ spanText (items.filterMap span?) = source)

theorem drafts?_eq_none_iff : drafts? items = none ↔ ∃ item ∈ items, item.draft? = none := by
  induction items with
  | nil => simp [drafts?]
  | cons item items ih =>
    rw [drafts?]
    cases coerced : item.draft? <;> simp [coerced, ih]

theorem drafts?_eq_some_iff : drafts? items = some drafts ↔ items.map draft? = drafts.map some := by
  induction items generalizing drafts with
  | nil => simp [drafts?, List.nil_eq, List.map_eq_nil_iff]
  | cons item items ih =>
    rw [drafts?, List.map_cons]
    cases coerced : item.draft? with
    | none => cases drafts <;> simp
    | some draft =>
      cases drafts with
      | nil => simp
      | cons first rest => simp [ih, and_comm]

theorem filter_map_span? (coerced : drafts? items = some drafts) :
    items.filterMap span? = drafts.filterMap Draft.span? := by
  have behind (items : List Item) :
      items.filterMap span? = (items.map draft?).filterMap (·.bind Draft.span?) := by
    rw [List.filterMap_map]
    rfl
  rw [behind, drafts?_eq_some_iff.mp coerced, List.filterMap_map]
  rfl

theorem any_mistyped (coerced : drafts? items = some drafts) :
    items.any isMistyped = drafts.any Draft.isMistyped := by
  have behind (items : List Item) :
      items.any isMistyped = (items.map draft?).any (·.any Draft.isMistyped) := by
    rw [List.any_map]
    rfl
  rw [behind, drafts?_eq_some_iff.mp coerced, List.any_map]
  rfl

theorem span?_of_mistyped {item : Item} (mistyped : item.isMistyped = true) : item.span? = none := by
  rw [isMistyped] at mistyped
  rw [span?]
  cases coerced : item.draft? with
  | none => rfl
  | some draft =>
    rw [coerced, Option.any_some, Draft.isMistyped, Bool.and_eq_true] at mistyped
    exact Option.isNone_iff_eq_none.mp mistyped.1

theorem span?_of_foreign {item : Item} (foreign : item.draft? = none) : item.span? = none := by
  rw [span?, foreign]
  rfl

theorem spans_of_well_formed (wellFormed : items.map span? = raw.map some) :
    (∀ item ∈ items, item.draft? ≠ none) ∧ items.any isMistyped = false ∧
      items.filterMap span? = raw := by
  have isSpan : ∀ item ∈ items, item.span? ≠ none := by
    intro item member
    obtain ⟨span, _, isSpan⟩ := List.mem_map.mp (wellFormed ▸ List.mem_map_of_mem member)
    simp [← isSpan]
  refine ⟨fun item member foreign => isSpan item member (span?_of_foreign foreign), ?_, ?_⟩
  · refine Bool.eq_false_iff.mpr fun mistyped => ?_
    obtain ⟨item, member, itemMistyped⟩ := List.any_eq_true.mp mistyped
    exact isSpan item member (span?_of_mistyped itemMistyped)
  · have kept : (items.map span?).filterMap id = raw := by
      rw [wellFormed, List.filterMap_map]
      exact List.filterMap_some
    rwa [List.filterMap_map] at kept

end Item

theorem mismatch_ends (isStrict : Bool) (source language complaint : String) (past : List Event) :
    ((mismatch isStrict source language complaint).after past).outcome =
      if isStrict then .error (.highlightContract (some language)) else .ok [Span.plain source] := by
  cases isStrict <;> rfl

section

variable {source : String} {items : List Item}

theorem settle_of_coerced (isStrict : Bool) (language : String) (past : List Event)
    (coerced : ∀ item ∈ items, item.draft? ≠ none) :
    (items.any Item.isMistyped = true ∧
      ∃ failure, ((settle isStrict source language items).after past).outcome = .error failure ∧
        failure.IsMistyped) ∨
    (items.any Item.isMistyped = false ∧
      ((settle isStrict source language items).after past).outcome =
        if spanText (items.filterMap Item.span?) = source then
          .ok (Span.join (items.filterMap Item.span?))
        else if isStrict then .error (.highlightContract (some language))
        else .ok [Span.plain source]) := by
  cases all : Item.drafts? items with
  | none =>
    obtain ⟨item, member, foreign⟩ := Item.drafts?_eq_none_iff.mp all
    exact absurd foreign (coerced item member)
  | some drafts =>
    rw [Item.any_mistyped all, Item.filter_map_span? all, settle, all]
    rcases Draft.spans_answers drafts with ⟨typed, joined⟩ | ⟨mistyped, failure, failed, ofType⟩
    · refine .inr ⟨typed, ?_⟩
      simp only [joined, Traced.of_except_ok_bind]
      have sameText : spanText (Span.join (drafts.filterMap Draft.span?)) =
          spanText (drafts.filterMap Draft.span?) :=
        Span.span_text_eq_of_letters (Span.letters_of_join _)
      rw [sameText]
      split
      · rfl
      · exact mismatch_ends isStrict source language _ past
    · refine .inl ⟨mistyped, failure, ?_, ofType⟩
      simp only [failed]
      rfl

theorem settle_of_rebuilt {raw : List Span} (isStrict : Bool) (language : String) (past : List Event)
    (wellFormed : items.map Item.span? = raw.map some) (rebuilt : spanText raw = source) :
    ((settle isStrict source language items).after past).outcome = .ok (Span.join raw) := by
  obtain ⟨coerced, typed, kept⟩ := Item.spans_of_well_formed wellFormed
  rcases settle_of_coerced isStrict language past coerced with ⟨mistyped, _⟩ | ⟨_, joined⟩
  · exact absurd mistyped (Bool.eq_false_iff.mp typed)
  · rw [joined, kept, if_pos rebuilt]

end

def Highlighter.Rebuilds (highlighter : Highlighter) : Prop :=
  ∀ source language past,
    (∃ items raw, ((highlighter source language).after past).outcome = .ok items ∧
        items.map Item.span? = raw.map some ∧ spanText raw = source) ∨
      ∃ failure, ((highlighter source language).after past).outcome = .error failure ∧
        failure.isLookup = true

theorem highlight_of_rebuilds {allowed : Failure → Prop} {highlighter : Highlighter}
    (rebuilds : highlighter.Rebuilds) (isStrict : Bool) (source : String) (language : Option String) :
    (highlight highlighter isStrict source language).RaisesOnly allowed := by
  simp only [highlight]
  split
  · exact Traced.raises_only_pure _
  · split
    · exact plain_raises_only _ _ _
    · refine Traced.raises_only_resume fun past => ?_
      rcases rebuilds source (language.getD "") past with
        ⟨items, raw, answered, wellFormed, rebuilt⟩ | ⟨failure, answered, lookup⟩
      · simp only [Traced.call, answered]
        intro past failure failed
        rw [settle_of_rebuilt isStrict _ past wellFormed rebuilt] at failed
        cases failed
      · simp only [Traced.call, answered, lookup, if_true]
        exact plain_raises_only _ _ _

end MarkdownView
