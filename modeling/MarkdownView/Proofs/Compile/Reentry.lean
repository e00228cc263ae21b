import MarkdownView.Compile.Session
import MarkdownView.Proofs.Compile.Calls
import MarkdownView.Proofs.Compile.Failures
import MarkdownView.Proofs.Compile.Siblings
set_option autoImplicit false

namespace MarkdownView

open Traced (alike_steady)

inductive Ending.Tracks {α : Type} (failure? : Option Failure) (first second : Ending α) : Prop where
  | along (sameOutcome : first.outcome = second.outcome)
      (sameReports : Event.reports first.events = Event.reports second.events)
      (sameCalls : Event.calls first.events = Event.calls second.events)
      (uncalled : failure?.isSome = true → Event.calls first.events = [])
  | stops {failure : Failure} {call : String × String} {later : List (String × String)}
      (fails : failure? = some failure) (calls : Event.calls first.events = call :: later)
      (called : Event.calls second.events = [call]) (failed : second.outcome = .error failure)

structure Failure.Passes (failure : Failure) : Prop where
  known : failure.isLookup = false
  inSequence : failure.inSequence = failure
  inCompilation : failure.inCompilation = failure

namespace Traced

variable {α β : Type} {failure? : Option Failure}

def Tracks (failure? : Option Failure) (first second : Traced α) : Prop :=
  ∀ past other, (first.after past).Tracks failure? (second.after other)

theorem tracks_of_alike {first second : Traced α} (alike : first.Alike second)
    (firstSilent : first.Emits fun _ => Walk.IsSilent) (secondSilent : second.Emits fun _ => Walk.IsSilent) :
    first.Tracks failure? second := by
  intro past other
  have firstUncalled := Walk.calls_of_silent (firstSilent.all past)
  have secondUncalled := Walk.calls_of_silent (secondSilent.all other)
  exact .along (alike past other).1 (alike past other).2 (firstUncalled.trans secondUncalled.symm)
    fun _ => firstUncalled

theorem tracks_pure (value : α) : (pure value : Traced α).Tracks failure? (pure value) :=
  tracks_of_alike (alike_steady _) (emits_pure _) (emits_pure _)

theorem tracks_of_except (outcome : Except Failure α) :
    (ofExcept outcome).Tracks failure? (ofExcept outcome) :=
  tracks_of_alike (alike_steady _) (emits_of_except _) (emits_of_except _)

theorem tracks_fail (failure : Failure) : (fail failure : Traced α).Tracks failure? (fail failure) :=
  tracks_of_alike (alike_steady _) (emits_fail _) (emits_fail _)

theorem calls_bind_prefix (first : Traced α) (next : α → Traced β) (past : List Event) :
    ∃ more, Event.calls ((first >>= next).after past).events =
      Event.calls (first.after past).events ++ more := by
  rcases yields_or_fails first past with ⟨value, events, yields⟩ | ⟨failure, events, fails⟩
  · rw [after_bind_of_yields yields, Event.calls_append, yields]
    exact ⟨_, rfl⟩
  · rw [after_bind_of_fails fails, fails]
    exact ⟨[], (List.append_nil _).symm⟩

theorem tracks_bind {first second : Traced α} {next follow : α → Traced β}
    (start : first.Tracks failure? second) (rest : ∀ value, (next value).Tracks failure? (follow value)) :
    (first >>= next).Tracks failure? (second >>= follow) := by
  intro past other
  cases start past other with
  | stops fails calls called failed =>
    have secondFails : second.Fails other _ _ := congrArg (Ending.mk · (second.after other).events) failed
    obtain ⟨more, whole⟩ := calls_bind_prefix first next past
    rw [calls, List.cons_append] at whole
    refine .stops fails whole ?_ ?_
    · rw [after_bind_of_fails secondFails]
      exact called
    · rw [after_bind_of_fails secondFails]
  | along sameOutcome sameReports sameCalls uncalled =>
    rcases second.yields_or_fails other with ⟨value, events, yields⟩ | ⟨failure, events, fails⟩
    · have secondEnded := yields
      rw [Yields] at secondEnded
      rw [secondEnded] at sameOutcome sameReports sameCalls
      have firstYields := yields_of_outcome sameOutcome
      rw [after_bind_of_yields firstYields, after_bind_of_yields yields]
      cases rest value ((first.after past).events.reverseAux past) (events.reverseAux other) with
      | along restOutcome restReports restCalls restUncalled =>
        refine .along restOutcome ?_ ?_ fun failing => ?_
        · rw [Event.reports_append, Event.reports_append, sameReports, restReports]
        · rw [Event.calls_append, Event.calls_append, sameCalls, restCalls]
        · rw [Event.calls_append, uncalled failing, restUncalled failing, List.append_nil]
      | stops restFails restCalls restCalled restFailed =>
        have beforeUncalled := uncalled (by rw [restFails]; rfl)
        rw [beforeUncalled] at sameCalls
        have firstCalls := Event.calls_append (first.after past).events
          ((next value).after ((first.after past).events.reverseAux past)).events
        have secondCalls := Event.calls_append events
          ((follow value).after (events.reverseAux other)).events
        rw [beforeUncalled, List.nil_append, restCalls] at firstCalls
        rw [← sameCalls, List.nil_append, restCalled] at secondCalls
        exact .stops restFails firstCalls secondCalls restFailed
    · have secondEnded := fails
      rw [Fails] at secondEnded
      rw [secondEnded] at sameOutcome sameReports sameCalls
      have firstFails : first.Fails past failure (first.after past).events :=
        congrArg (Ending.mk · (first.after past).events) sameOutcome
      rw [after_bind_of_fails firstFails, after_bind_of_fails fails]
      exact .along rfl sameReports sameCalls uncalled

theorem tracks_map_failure {first second : Traced α} {change : Failure → Failure}
    (unchanged : ∀ failure ∈ failure?, change failure = failure) (inside : first.Tracks failure? second) :
    (first.mapFailure change).Tracks failure? (second.mapFailure change) := by
  intro past other
  cases inside past other with
  | along sameOutcome sameReports sameCalls uncalled =>
    exact .along (congrArg (Except.mapError change) sameOutcome) sameReports sameCalls uncalled
  | @stops failure _ _ fails calls called failed =>
    refine .stops fails calls called ?_
    refine (congrArg (Except.mapError change) failed).trans ?_
    exact congrArg Except.error (unchanged failure fails)

end Traced

open Traced (tracks_bind tracks_fail tracks_map_failure tracks_of_except tracks_of_alike tracks_pure)

def Highlighter.Tracks (failure? : Option Failure) (first second : Highlighter) : Prop :=
  match failure? with
  | none => first.Agrees second
  | some failure => ∀ source language past,
      ((second source language).after past).outcome = .error failure

theorem highlight_of_failing {highlighter : Highlighter} {failure : Failure}
    (known : failure.isLookup = false)
    (fails : ∀ source language past, ((highlighter source language).after past).outcome = .error failure)
    (isStrict : Bool) {source : String} {language : Option String}
    (called : ¬(source = "" ∨ language.getD "" = "")) (past : List Event) :
    ((highlight highlighter isStrict source language).after past).outcome = .error failure := by
  obtain ⟨someSource, named⟩ := not_or.mp called
  have answered : ((Traced.call source (language.getD "") (highlighter source (language.getD ""))).after
      past).outcome = .error failure := fails source _ past
  simp only [highlight, if_neg someSource, if_neg named, Traced.after_resume, answered, known]
  rfl

theorem highlight_of_uncalled (first second : Highlighter) (isStrict : Bool) {source : String}
    {language : Option String} (uncalled : source = "" ∨ language.getD "" = "") :
    highlight first isStrict source language = highlight second isStrict source language := by
  rcases uncalled with rfl | unnamed
  · simp only [highlight, if_true]
  · simp only [highlight, unnamed, if_true]

theorem highlight_tracks {failure? : Option Failure} (passes : ∀ failure ∈ failure?, failure.Passes)
    {first second : Highlighter} (answers : first.Tracks failure? second) (isStrict : Bool)
    (source : String) (language : Option String) :
    (highlight first isStrict source language).Tracks failure?
      (highlight second isStrict source language) := by
  intro past other
  have firstCalls := Walk.calls_highlight first isStrict source language past
  have secondCalls := Walk.calls_highlight second isStrict source language other
  cases failure? with
  | none =>
    obtain ⟨sameOutcome, sameReports⟩ := highlight_alike answers isStrict source language past other
    exact .along sameOutcome sameReports (firstCalls.trans secondCalls.symm) nofun
  | some failure =>
    by_cases uncalled : source = "" ∨ language.getD "" = ""
    · rw [if_pos uncalled] at firstCalls secondCalls
      have quietPure : Highlighter.IsPure fun _ _ => pure [] := fun _ _ _ _ => rfl
      have alike := highlight_alike quietPure isStrict source language past other
      rw [highlight_of_uncalled first _ isStrict uncalled] at firstCalls ⊢
      rw [highlight_of_uncalled second _ isStrict uncalled] at secondCalls ⊢
      exact .along alike.1 alike.2 (firstCalls.trans secondCalls.symm) fun _ => firstCalls
    · rw [if_neg uncalled] at firstCalls secondCalls
      have failed := highlight_of_failing (passes failure rfl).known answers isStrict uncalled other
      exact .stops rfl firstCalls secondCalls failed

namespace Walk

def under (walk : Walk) (highlighter : Highlighter) : Walk := { walk with highlighter := highlighter }

section

variable (walk : Walk) (highlighter : Highlighter)

theorem fit_all_under (width index : Nat) (rows : List (List TableCell)) :
    (walk.under highlighter).fitAll width index rows = walk.fitAll width index rows := by
  induction rows generalizing index with
  | nil => rfl
  | cons cells rows ih =>
    rw [fitAll, fitAll, ih]
    rfl

theorem cells_under (row : List (Option TableCell)) :
    (walk.under highlighter).cells row = walk.cells row := by
  induction row with
  | nil => rfl
  | cons entry row ih =>
    cases entry with
    | none => rw [Walk.cells, Walk.cells, ih]
    | some cell =>
      rw [Walk.cells, Walk.cells, ih]
      rfl

theorem rows_under (rows : List (List (Option TableCell))) :
    (walk.under highlighter).rows rows = walk.rows rows := by
  induction rows with
  | nil => rfl
  | cons row rows ih => rw [Walk.rows, Walk.rows, ih, cells_under]

theorem table_under (header : Option Node) (rows : List Node) (alignments : List (Option String)) :
    (walk.under highlighter).table header rows alignments = walk.table header rows alignments := by
  have headerUnder (cells : Option (List TableCell)) :
      (walk.under highlighter).headerCells cells = walk.headerCells cells := by
    cases cells with
    | none => rfl
    | some cells => rw [Walk.headerCells, Walk.headerCells, cells_under]
  simp only [table, fit_all_under, rows_under, headerUnder]

end

theorem leaf_under (walk : Walk) (first second : Highlighter) (quotes lists : Int) {node : Node}
    (leaf : isLeaf node = true) :
    (walk.under first).block quotes lists node = (walk.under second).block quotes lists node := by
  cases node with
  | document => cases leaf
  | codeBlock => cases leaf
  | quote => cases leaf
  | list => cases leaf
  | table header rows alignments metadata => simp only [block, Walk.leaf, table_under]
  | _ => rfl

theorem leaf_tracks {failure? : Option Failure} (walk : Walk) (first second : Highlighter)
    (quotes lists : Int) {node : Node} (leaf : isLeaf node = true) :
    ((walk.under first).block quotes lists node).Tracks failure?
      ((walk.under second).block quotes lists node) := by
  have quietPure : (walk.under fun _ _ => pure []).highlighter.IsPure := fun _ _ _ _ => rfl
  have steady := block_alike (alike_self quietPure) quotes lists node
  rw [leaf_under walk first _ quotes lists leaf, leaf_under walk second _ quotes lists leaf]
  exact tracks_of_alike steady (leaf_emits admits_silent quotes lists leaf)
    (leaf_emits admits_silent quotes lists leaf)

mutual

theorem block_tracks {failure? : Option Failure} (passes : ∀ failure ∈ failure?, failure.Passes)
    {first second : Highlighter} (answers : first.Tracks failure? second) (walk : Walk)
    (quotes lists : Int) (node : Node) :
    ((walk.under first).block quotes lists node).Tracks failure?
      ((walk.under second).block quotes lists node) := by
  cases node with
  | document children metadata =>
    exact tracks_bind (blocks_track passes answers walk quotes lists children) fun _ => tracks_pure _
  | codeBlock content language metadata =>
    have codeTracks : ((walk.under first).code content language).Tracks failure?
        ((walk.under second).code content language) :=
      tracks_bind (highlight_tracks passes answers true content _) fun _ => tracks_pure _
    exact tracks_bind codeTracks fun _ => tracks_pure _
  | quote children metadata =>
    refine tracks_bind (tracks_of_except _) fun _ => ?_
    refine tracks_bind (blocks_track passes answers walk (quotes + 1) lists children) fun _ => ?_
    exact tracks_bind (tracks_of_except _) fun _ => tracks_pure _
  | list ordered items start tight metadata =>
    refine tracks_bind (tracks_of_except _) fun _ => ?_
    exact tracks_bind (items_track passes answers walk quotes (lists + 1) items) fun _ => tracks_pure _
  | _ => exact leaf_tracks walk first second quotes lists rfl
termination_by structural node

theorem blocks_track {failure? : Option Failure} (passes : ∀ failure ∈ failure?, failure.Passes)
    {first second : Highlighter} (answers : first.Tracks failure? second) (walk : Walk)
    (quotes lists : Int) (nodes : List Node) :
    ((walk.under first).blocks quotes lists nodes).Tracks failure?
      ((walk.under second).blocks quotes lists nodes) := by
  cases nodes with
  | nil => exact tracks_pure _
  | cons node nodes =>
    have firstTracks := block_tracks passes answers walk quotes lists node
    have inSequence : ∀ failure ∈ failure?, failure.inSequence = failure :=
      fun failure member => (passes failure member).inSequence
    refine tracks_bind (tracks_map_failure inSequence firstTracks) fun _ => ?_
    exact tracks_bind (blocks_track passes answers walk quotes lists nodes) fun _ => tracks_pure _
termination_by structural nodes

theorem item_tracks {failure? : Option Failure} (passes : ∀ failure ∈ failure?, failure.Passes)
    {first second : Highlighter} (answers : first.Tracks failure? second) (walk : Walk)
    (quotes lists : Int) (node : Node) :
    ((walk.under first).item quotes lists node).Tracks failure?
      ((walk.under second).item quotes lists node) := by
  cases node with
  | item children status metadata =>
    exact tracks_bind (blocks_track passes answers walk quotes lists children) fun _ => tracks_pure _
  | _ => exact tracks_fail _
termination_by structural node

theorem items_track {failure? : Option Failure} (passes : ∀ failure ∈ failure?, failure.Passes)
    {first second : Highlighter} (answers : first.Tracks failure? second) (walk : Walk)
    (quotes lists : Int) (nodes : List Node) :
    ((walk.under first).items quotes lists nodes).Tracks failure?
      ((walk.under second).items quotes lists nodes) := by
  cases nodes with
  | nil => exact tracks_pure _
  | cons node nodes =>
    refine tracks_bind (item_tracks passes answers walk quotes lists node) fun _ => ?_
    exact tracks_bind (items_track passes answers walk quotes lists nodes) fun _ => tracks_pure _
termination_by structural nodes

end

theorem tree_tracks {failure? : Option Failure} (passes : ∀ failure ∈ failure?, failure.Passes)
    {first second : Highlighter} (answers : first.Tracks failure? second) (walk : Walk)
    (children : List Node) :
    ((walk.under first).tree children).Tracks failure? ((walk.under second).tree children) := by
  rw [tree_eq, tree_eq]
  exact tracks_bind (blocks_track passes answers walk 0 0 children) fun _ => tracks_pure _

end Walk

theorem events_of_walk (walked : Traced Tree) (past : List Event) :
    ∃ notes, ((Compiled.ofWalk walked).after past).events = (walked.after past).events ++ notes ∧
      Event.reports notes = [] ∧ Event.calls notes = [] := by
  rw [Compiled.ofWalk]
  cases ended : (walked.after past).outcome with
  | error failure =>
    simp only [ended]
    exact ⟨[], (List.append_nil _).symm, rfl, rfl⟩
  | ok tree =>
    simp only [ended]
    exact ⟨[.note .debug "Compiling visual tree completed in <t>s"], rfl, rfl, rfl⟩

theorem reports_of_walk (walked : Traced Tree) (past : List Event) :
    Event.reports ((Compiled.ofWalk walked).after past).events =
      Event.reports (walked.after past).events := by
  obtain ⟨notes, whole, unreported, _⟩ := events_of_walk walked past
  rw [whole, Event.reports_append, unreported, List.append_nil]

theorem calls_of_walk (walked : Traced Tree) (past : List Event) :
    Event.calls ((Compiled.ofWalk walked).after past).events =
      Event.calls (walked.after past).events := by
  obtain ⟨notes, whole, _, uncalled⟩ := events_of_walk walked past
  rw [whole, Event.calls_append, uncalled, List.append_nil]

theorem of_walk_tracks {failure? : Option Failure} (passes : ∀ failure ∈ failure?, failure.Passes)
    {first second : Traced Tree} (tracks : first.Tracks failure? second) :
    (Compiled.ofWalk first).Tracks failure? (Compiled.ofWalk second) := by
  intro past other
  have firstCalls := calls_of_walk first past
  have secondCalls := calls_of_walk second other
  cases tracks past other with
  | along sameOutcome sameReports sameCalls uncalled =>
    have compiledReports := (reports_of_walk first past).trans
      (sameReports.trans (reports_of_walk second other).symm)
    have compiledCalls := firstCalls.trans (sameCalls.trans secondCalls.symm)
    exact .along (of_walk_outcome sameOutcome sameReports) compiledReports compiledCalls
      fun failing => firstCalls.trans (uncalled failing)
  | @stops failure _ _ fails calls called failed =>
    have secondFails : second.Fails other failure (second.after other).events :=
      congrArg (Ending.mk · (second.after other).events) failed
    have passed := (passes failure fails).inCompilation
    exact .stops fails (firstCalls.trans calls) (secondCalls.trans called)
      ((of_walk_of_fails secondFails).trans (congrArg Except.error passed))

theorem compile_tracks {failure? : Option Failure} (passes : ∀ failure ∈ failure?, failure.Passes)
    {first second : Highlighter} (answers : first.Tracks failure? second) (walk : Walk)
    (document : Option Node) :
    (compile (walk.under first) document).Tracks failure? (compile (walk.under second) document) := by
  cases document with
  | none => exact tracks_pure _
  | some node =>
    cases node with
    | document children metadata =>
      exact of_walk_tracks passes (Walk.tree_tracks passes answers walk children)
    | _ => exact tracks_fail _

namespace Failure

-- Files know nothing of failures of rendering. One that was a lookup failure too would end the inner
-- compilation and yet be taken for an unknown language by the outer one.
def RendersOnly (failure : Failure) : Prop := failure.isRender = true → failure.families = [.rendering]

theorem passes_of_families {failure : Failure} {family : Family} (single : failure.families = [family])
    (own : family = .rendering ∨ family = .exit) : failure.Passes := by
  have isAIff (other : Family) : failure.isA other = [family].contains other := by rw [isA, single]
  have outward : (failure.isRender || failure.isExit) = true := by
    rw [isRender, isExit, single, isAIff]
    rcases own with rfl | rfl <;> rfl
  refine ⟨?_, if_neg ?_, if_pos outward⟩
  · rw [isLookup, isAIff]
    rcases own with rfl | rfl <;> rfl
  · rw [isAIff]
    rcases own with rfl | rfl <;> exact Bool.false_ne_true

theorem renders_only_in_sequence (failure : Failure) (single : failure.RendersOnly) :
    failure.inSequence.RendersOnly := by
  rw [inSequence]
  split
  · exact nofun
  · exact single

theorem passes_in_compilation {failure : Failure} (single : failure.RendersOnly) :
    failure.inCompilation.Passes := by
  rw [inCompilation]
  split
  case isTrue own =>
    rcases Bool.or_eq_true_iff.mp own with render | exit
    · exact passes_of_families (single render) (.inl rfl)
    · exact passes_of_families (beq_iff_eq.mp exit) (.inr rfl)
  case isFalse => exact passes_of_families rfl (.inl rfl)

end Failure

theorem compile_of_uncalled {walk : Walk} {document : Option Node} {first : Highlighter}
    {past : List Event}
    (uncalled : Event.calls ((compile (walk.under first) document).after past).events = [])
    (second : Highlighter) (other : List Event) :
    ((compile (walk.under second) document).after other).outcome =
      ((compile (walk.under first) document).after past).outcome := by
  have passes : ∀ failure ∈ some (Failure.contract "code" "text"), failure.Passes := by
    rintro _ ⟨⟩
    exact Failure.passes_of_families rfl (.inl rfl)
  have failing (highlighter : Highlighter) : highlighter.Tracks (some (.contract "code" "text"))
      fun _ _ => Traced.fail (.contract "code" "text") := fun _ _ _ => rfl
  cases compile_tracks passes (failing first) walk document past past with
  | stops fails calls => exact nomatch uncalled.symm.trans calls
  | along firstOutcome _ firstCalls _ =>
    cases compile_tracks passes (failing second) walk document other past with
    | stops fails calls called =>
      have noneCalled := firstCalls.symm.trans uncalled
      exact nomatch noneCalled.symm.trans called
    | along secondOutcome => exact secondOutcome.trans firstOutcome.symm

theorem Walk.quiet_renders_only (walk : Walk) (single : walk.files.RaisesOnly Failure.RendersOnly) :
    (walk.under fun _ _ => pure []).Allows Failure.RendersOnly where
  refusals _ := nofun
  dependencies _ _ _ _ _ := nofun
  unavailables _ _ _ _ := rfl
  answers := single
  inSequence := Failure.renders_only_in_sequence
  rows _ _ _ _ _ := rfl
  depths _ _ _ _ := rfl
  breaches _ _ := rfl
  mistyped _ mistyped := by cases mistyped <;> nofun
  highlighter _ _ := Traced.raises_only_pure _

theorem compile_raises_passing {walk : Walk} (single : walk.files.RaisesOnly Failure.RendersOnly)
    (document : Option Node) :
    (compile (walk.under fun _ _ => pure []) document).RaisesOnly Failure.Passes := by
  cases document with
  | none => exact Traced.raises_only_pure _
  | some node =>
    cases node with
    | document children metadata =>
      intro past failure failed
      rcases ((walk.under fun _ _ => pure []).tree children).yields_or_fails past with
        ⟨tree, events, yields⟩ | ⟨inside, events, fails⟩
      · rw [compile, of_walk_of_yields yields] at failed
        cases failed
      · rw [compile, of_walk_of_fails fails] at failed
        cases failed
        have raised := Walk.tree_raises_only (walk.quiet_renders_only single).grants (.inr fun _ isRender => absurd isRender Bool.false_ne_true)
          (.inr fun _ _ _ => rfl) past inside (by rw [fails])
        exact Failure.passes_in_compilation raised
    | _ => exact Traced.raises_only_fail (Failure.passes_of_families rfl (.inl rfl))

def echo : Highlighter := fun source _ => pure [.ofSpan (Span.tagged source "text")]

def Event.Encloses (result? : Option Compiled) (event : Event) : Prop :=
  ∀ source language events, event = .called source language events →
    ∃ inside, events = [.inner inside result?]

theorem results_of_enclosing {result? : Option Compiled} {events : List Event}
    (enclosing : ∀ event ∈ events, event.Encloses result?) :
    Event.results events = (Event.calls events).flatMap fun _ => result?.toList := by
  induction events with
  | nil => rfl
  | cons event events ih =>
    obtain ⟨firstEncloses, restEnclose⟩ := List.forall_mem_cons.mp enclosing
    have restResults := ih restEnclose
    cases event with
    | called source language during =>
      obtain ⟨inside, rfl⟩ := firstEncloses source language during rfl
      have firstResult : [Event.inner inside result?].filterMap Event.result? = result?.toList := by
        cases result? <;> rfl
      change [Event.inner inside result?].filterMap Event.result? ++ Event.results events =
        result?.toList ++ (Event.calls events).flatMap fun _ => result?.toList
      rw [firstResult, restResults]
    | _ => exact restResults

section

variable {walk : Walk} {inner : Option Node} {own : Except Failure Compiled}
  (steady : ∀ highlighter past, ((compile (walk.under highlighter) inner).after past).outcome = own)

include steady

theorem reentrant_answers (depth : Nat) (source language : String) (past : List Event) :
    ∃ events, (reentrant walk.under (.ok inner) (depth + 1) source language).after past =
      ⟨own.map fun _ => [.ofSpan (Span.tagged source "text")], [.inner events own.toOption]⟩ := by
  have compiled := steady (reentrant walk.under (.ok inner) depth) past
  have answer : reentrant walk.under (.ok inner) (depth + 1) source language =
      Traced.enclose (compile (walk.under (reentrant walk.under (.ok inner) depth)) inner) >>= fun _ =>
        pure [.ofSpan (Span.tagged source "text")] := Traced.pure_bind_value _ _
  refine ⟨((compile (walk.under (reentrant walk.under (.ok inner) depth)) inner).after past).events, ?_⟩
  rw [answer]
  generalize compile (walk.under (reentrant walk.under (.ok inner) depth)) inner = compilation at compiled
  rw [← compiled]
  cases ended : (compilation.after past).outcome with
  | ok result =>
    have yields : (Traced.enclose compilation).Yields past result
        [.inner (compilation.after past).events (some result)] := by
      simp only [Traced.Yields, Traced.enclose, ended, Except.toOption]
    rw [Traced.after_bind_of_yields yields]
    rfl
  | error failure =>
    have fails : (Traced.enclose compilation).Fails past failure
        [.inner (compilation.after past).events none] := by
      simp only [Traced.Fails, Traced.enclose, ended, Except.toOption]
    rw [Traced.after_bind_of_fails fails]
    rfl

theorem reentrant_results (depth : Nat) (document : Option Node) (past : List Event) :
    Event.results ((compile (walk.under (reentrant walk.under (.ok inner) (depth + 1))) document).after
        past).events =
      (Event.calls ((compile (walk.under (reentrant walk.under (.ok inner) (depth + 1))) document).after
        past).events).flatMap fun _ => own.toOption.toList := by
  have remarks (event : Event) (remark : Traced.IsRemark event) : event.Encloses own.toOption := by
    obtain ⟨level, message, rfl, _⟩ := remark
    exact fun _ _ _ => nofun
  have calls (source language : String) (past : List Event) : Event.Encloses own.toOption
      (.called source language ((reentrant walk.under (.ok inner) (depth + 1) source language).after
        past).events) := by
    obtain ⟨events, answered⟩ := reentrant_answers steady depth source language past
    rintro _ _ _ ⟨⟩
    rw [answered]
    exact ⟨events, rfl⟩
  have permits : (walk.under (reentrant walk.under (.ok inner) (depth + 1))).Permits
      (fun _ => Event.Encloses own.toOption) :=
    { remarks := fun _ => remarks, kinds := fun _ _ _ _ _ => nofun,
      repairs := fun _ _ _ _ _ _ _ => nofun,
      calls := fun source language past _ => calls source language past }
  exact results_of_enclosing ((compile_emits permits document).all past)

theorem reentrant_agrees {result : Compiled} (returned : own = .ok result) (depth : Nat) :
    echo.Agrees (reentrant walk.under (.ok inner) (depth + 1)) := by
  intro source language past other
  obtain ⟨events, answered⟩ := reentrant_answers steady depth source language other
  rw [answered, returned]
  rfl

theorem reentrant_fails {failure : Failure} (failed : own = .error failure) (depth : Nat)
    (source language : String) (past : List Event) :
    ((reentrant walk.under (.ok inner) (depth + 1) source language).after past).outcome =
      .error failure := by
  obtain ⟨events, answered⟩ := reentrant_answers steady depth source language past
  rw [answered, failed]
  rfl

end

-- What becomes of a compilation whose calls compile another document, set against that document on its
-- own and against the compilation without them. If the document comes to a result, nothing else changes,
-- and each call comes to that result. If it fails, the first call is the last, and fails with the same.
structure Reentry (own outer echoed : Ending Compiled) : Prop where
  returns : ∀ result, own.outcome = .ok result →
    outer.outcome = echoed.outcome ∧ Event.calls outer.events = Event.calls echoed.events ∧
      Event.results outer.events = List.replicate (Event.calls outer.events).length result
  fails : ∀ failure, own.outcome = .error failure → Event.results outer.events = [] ∧
    (Event.calls echoed.events = [] →
      outer.outcome = echoed.outcome ∧ Event.calls outer.events = []) ∧
    ∀ call later, Event.calls echoed.events = call :: later →
      outer.outcome = .error failure ∧ Event.calls outer.events = [call]

theorem reentry_of_steady {walk : Walk} (single : walk.files.RaisesOnly Failure.RendersOnly)
    {inner : Option Node} {own : Ending Compiled}
    (steady : ∀ highlighter past,
      ((compile (walk.under highlighter) inner).after past).outcome = own.outcome)
    (depth : Nat) (document : Option Node) (past : List Event) :
    Reentry own
      ((compile (walk.under (reentrant walk.under (.ok inner) (depth + 1))) document).after past)
      ((compile (walk.under echo) document).after past) := by
  have results := reentrant_results steady depth document past
  constructor
  case returns =>
    intro result returned
    have agrees : Highlighter.Tracks none echo _ := reentrant_agrees steady returned depth
    have noFailurePasses : ∀ failure ∈ (none : Option Failure), failure.Passes := by
      rintro _ ⟨⟩
    cases compile_tracks noFailurePasses agrees walk document past past with
    | stops fails => cases fails
    | along sameOutcome _ sameCalls _ =>
      refine ⟨sameOutcome.symm, sameCalls.symm, results.trans ?_⟩
      rw [returned]
      exact List.map_eq_flatMap.symm.trans List.map_const'
  case fails =>
    intro failure failed
    have fails : Highlighter.Tracks (some failure) echo _ := reentrant_fails steady failed depth
    have passes : ∀ raised ∈ some failure, raised.Passes := by
      rintro _ ⟨⟩
      exact compile_raises_passing single inner [] failure ((steady _ []).trans failed)
    have noResult := results.trans (List.flatMap_eq_nil_iff.mpr fun _ _ => by rw [failed]; rfl)
    refine ⟨noResult, ?_⟩
    cases compile_tracks passes fails walk document past past with
    | along sameOutcome _ sameCalls uncalled =>
      have echoUncalled := uncalled rfl
      refine ⟨fun _ => ⟨sameOutcome.symm, sameCalls.symm.trans echoUncalled⟩, ?_⟩
      exact fun call later called => nomatch echoUncalled.symm.trans called
    | @stops stopping call later isFailure calls called stopped =>
      obtain rfl : failure = stopping := Option.some.inj isFailure
      refine ⟨fun uncalled => ?_, fun first rest firstCalled => ?_⟩
      · exact nomatch calls.symm.trans uncalled
      · obtain rfl : call = first := (List.cons.inj (calls.symm.trans firstCalled)).1
        exact ⟨stopped, called⟩

namespace Session

-- A session whose highlighter compiles a document in every call, and one whose highlighter does not.
def reentering (options : RenderOptions) (inner : Option Node) : Session :=
  ⟨options, .reentrant (.ok inner)⟩

def echoing (options : RenderOptions) : Session := ⟨options, .given echo⟩

def ends (session : Session) (environment : Environment) (document : Option Node)
    (past : List Event) : Ending Compiled :=
  (session.compile environment document).1.after past

end Session

-- Compiled on its own, the inner document calls for nothing, so it comes to the same wherever it is
-- compiled.
theorem compile_reentrant (options : RenderOptions) (environment : Environment)
    (single : environment.files.RaisesOnly Failure.RendersOnly) (inner : Option Node)
    (uncalled :
      Event.calls ((Session.reentering options inner).ends environment inner []).events = [])
    (document : Option Node) (past : List Event) :
    Reentry ((Session.reentering options inner).ends environment inner [])
      ((Session.reentering options inner).ends environment document past)
      ((Session.echoing options).ends environment document past) := by
  let walk : Walk := ⟨options, environment.files, environment.installation, echo⟩
  have steady : ∀ highlighter past, ((compile (walk.under highlighter) inner).after past).outcome =
      ((Session.reentering options inner).ends environment inner []).outcome :=
    compile_of_uncalled uncalled
  exact reentry_of_steady single steady 99 document past

def Environment.bare : Environment := ⟨⟨fun _ => none, []⟩, ⟨"/", []⟩, ⟨[], []⟩⟩

theorem Environment.bare_single : bare.files.RaisesOnly Failure.RendersOnly :=
  fun _ => ⟨raises_only_ok _, raises_only_ok _, raises_only_ok _, raises_only_error nofun⟩

def unnamedCode (behind : List Node) : Node :=
  .document [.quote [.document [.quote [.codeBlock "inside" none []] []] [], .mathBlock "m" []] [],
    .list false behind none true []] []

def namedCode : Node :=
  .document [.quote [.mathBlock "x" [], .document [.codeBlock "a" (some "py") []] [], .htmlBlock "y" []] [],
    .codeBlock "b" (some "js") []] []

theorem compile_reentrant_named_code :
    Environment.bare.files.RaisesOnly Failure.RendersOnly ∧
    (Event.calls ((Session.reentering RenderOptions.default (some (unnamedCode []))).ends Environment.bare
        (some (unnamedCode [])) []).events = [] ∧
      ∃ result,
        ((Session.reentering RenderOptions.default (some (unnamedCode []))).ends Environment.bare
          (some (unnamedCode [])) []).outcome = .ok result ∧
        Event.results ((Session.reentering RenderOptions.default (some (unnamedCode []))).ends
          Environment.bare (some namedCode) []).events = [result, result]) ∧
    (Event.calls ((Session.reentering RenderOptions.default (some (unnamedCode [.text "t" []]))).ends
        Environment.bare (some (unnamedCode [.text "t" []])) []).events = [] ∧
      ((Session.reentering RenderOptions.default (some (unnamedCode [.text "t" []]))).ends
        Environment.bare (some namedCode) []).outcome = .error (.contract "text" "list")) := by
  refine ⟨Environment.bare_single, ⟨rfl, ?_⟩, rfl, ?_⟩
  · have reentry := compile_reentrant RenderOptions.default Environment.bare Environment.bare_single
      (some (unnamedCode [])) rfl (some namedCode) []
    obtain ⟨_, sameCalls, results⟩ := reentry.returns _ rfl
    rw [sameCalls] at results
    exact ⟨_, rfl, results⟩
  · have reentry := compile_reentrant RenderOptions.default Environment.bare Environment.bare_single
      (some (unnamedCode [.text "t" []])) rfl (some namedCode) []
    exact ((reentry.fails _ rfl).2.2 _ _ rfl).1

end MarkdownView
