import MarkdownView.Proofs.Compile.Alike
import MarkdownView.Proofs.Compile.Derivation
import MarkdownView.Proofs.Compile.Events
import MarkdownView.Proofs.Failures
set_option autoImplicit false

namespace MarkdownView

def Ending.failure? {α : Type} (ending : Ending α) : Option Failure :=
  match ending.outcome with
  | .ok _ => none
  | .error failure => some failure

structure Station where
  setting : Setting
  quotes : Int
  lists : Int
  node : Node

namespace Node

mutual

def stations (setting : Setting) (quotes lists : Int) : Node → List Station
  | .document children metadata =>
    ⟨setting, quotes, lists, .document children metadata⟩ :: stationsOf .block quotes lists children
  | .quote children metadata =>
    ⟨setting, quotes, lists, .quote children metadata⟩ :: stationsOf .block (quotes + 1) lists children
  | .list ordered items start tight metadata =>
    ⟨setting, quotes, lists, .list ordered items start tight metadata⟩ ::
      stationsOf .item quotes (lists + 1) items
  | .item children status metadata =>
    ⟨setting, quotes, lists, .item children status metadata⟩ :: stationsOf .block quotes lists children
  | node => [⟨setting, quotes, lists, node⟩]
termination_by structural node => node

def stationsOf (setting : Setting) (quotes lists : Int) : List Node → List Station
  | [] => []
  | node :: nodes => stations setting quotes lists node ++ stationsOf setting quotes lists nodes
termination_by structural nodes => nodes

end

def alone : Node → Node
  | .document _ metadata => .document [] metadata
  | .quote _ metadata => .quote [] metadata
  | .list ordered _ start tight metadata => .list ordered [] start tight metadata
  | .item _ status metadata => .item [] status metadata
  | node => node

end Node

namespace Walk

def Visit.failure? {α : Type} (ending : Ending (Visit α)) : Option Failure :=
  match ending.outcome with
  | .ok ⟨.ok _, _⟩ => none
  | .ok ⟨.error failure, _⟩ => some failure
  | .error failure => some failure

def ownFailure? (walk : Walk) (station : Station) (past : List Event) : Option Failure :=
  let depths : Depths := ⟨station.quotes, station.lists⟩
  match station.setting with
  | .block => Visit.failure? ((walk.visit depths station.node.alone).after past)
  | .item => Visit.failure? ((walk.visitItem depths station.node.alone).after past)

theorem failure?_still {α : Type} (depths : Depths) (traced : Traced α) (past : List Event) :
    Visit.failure? ((Visit.still depths traced).after past) = (traced.after past).failure? := by
  rcases ended : traced.after past with ⟨outcome, events⟩
  simp only [Visit.still, Traced.after_resume, ended]
  cases outcome <;> rfl

theorem own_failure?_block (walk : Walk) (quotes lists : Int) (node : Node) (past : List Event) :
    walk.ownFailure? ⟨.block, quotes, lists, node⟩ past =
      ((walk.block quotes lists node.alone).after past).failure? := by
  simp only [ownFailure?, visit_restores, failure?_still]

def call? (walk : Walk) : Node → Option (String × String)
  | .codeBlock content stated _ =>
    let language := (walk.language stated).getD ""
    if content = "" ∨ language = "" then none else some (content, language)
  | _ => none

def callsAt (walk : Walk) (stations : List Station) : List (String × String) :=
  stations.filterMap fun station => walk.call? station.node

theorem calls_at_cons (walk : Walk) (station : Station) (stations : List Station) :
    walk.callsAt (station :: stations) = (walk.call? station.node).toList ++ walk.callsAt stations := by
  rw [callsAt, List.filterMap_cons]
  cases walk.call? station.node <;> rfl

-- Of the stations up to this one, it is the only one that fails by itself, whatever happened before.
structure FailsFirst (walk : Walk) (before : List Station) (station : Station) (own : Failure) : Prop where
  pass : ∀ earlier ∈ before, ∀ past, walk.ownFailure? earlier past = none
  stops : ∀ past, walk.ownFailure? station past = some own

inductive GoesAlong (walk : Walk) :
    List Station → Option Failure → List (String × String) → Prop where
  | nothing : GoesAlong walk [] none []
  | passes {station : Station} {stations : List Station} {own? : Option Failure}
      {calls : List (String × String)} (passes : ∀ past, walk.ownFailure? station past = none)
      (more : GoesAlong walk stations own? calls) :
      GoesAlong walk (station :: stations) own? ((walk.call? station.node).toList ++ calls)
  | stops {station : Station} {stations : List Station} {own : Failure} {made : List (String × String)}
      (stops : ∀ past, walk.ownFailure? station past = some own)
      (atMost : made <+: (walk.call? station.node).toList) :
      GoesAlong walk (station :: stations) (some own) made

def Covers {α : Type} (walk : Walk) (stations : List Station) (traced : Traced α) : Prop :=
  ∀ past, ∃ own?, GoesAlong walk stations own? (Event.calls (traced.after past).events) ∧
    (traced.after past).failure?.map Failure.inSequence = own?.map Failure.inSequence

end Walk

theorem in_sequence_in_sequence (failure : Failure) : failure.inSequence.inSequence = failure.inSequence := by
  by_cases stop : failure.isA .exhaustion
  · have changed : failure.inSequence = .outside "RuntimeError" "generator raised StopIteration" [] :=
      if_pos stop
    rw [changed]
    rfl
  · have kept : failure.inSequence = failure := if_neg stop
    rw [kept, kept]

namespace Walk

variable {α β : Type} {walk : Walk} {stations others : List Station}

namespace GoesAlong

variable {calls later : List (String × String)}

theorem append_stopped {own : Failure} (along : GoesAlong walk stations (some own) calls)
    (others : List Station) : GoesAlong walk (stations ++ others) (some own) calls := by
  generalize stopped : some own = own? at along
  induction along with
  | nothing => cases stopped
  | passes passes _ ih => exact .passes passes (ih stopped)
  | stops stops atMost => exact .stops stops atMost

theorem append_passed {own? : Option Failure} (along : GoesAlong walk stations none calls)
    (more : GoesAlong walk others own? later) :
    GoesAlong walk (stations ++ others) own? (calls ++ later) := by
  generalize passed : none = none? at along
  induction along with
  | nothing => exact more
  | passes passes _ ih =>
    rw [List.cons_append, List.append_assoc]
    exact .passes passes (ih passed)
  | stops stops atMost => cases passed

theorem calls_of_none (along : GoesAlong walk stations none calls) : calls = walk.callsAt stations := by
  generalize passed : none = none? at along
  induction along with
  | nothing => rfl
  | passes _ _ ih => rw [ih passed, calls_at_cons]
  | stops stops atMost => cases passed

theorem calls_of_some {own : Failure} (along : GoesAlong walk stations (some own) calls) :
    ∃ before station after made, stations = before ++ station :: after ∧ walk.FailsFirst before station own ∧
      calls = walk.callsAt before ++ made ∧ made <+: walk.callsAt [station] := by
  generalize stopped : some own = own? at along
  induction along with
  | nothing => cases stopped
  | @passes first _ _ _ firstPasses _ ih =>
    obtain ⟨before, station, after, made, rfl, failsFirst, rfl, atMost⟩ := ih stopped
    have allPass := List.forall_mem_cons.mpr ⟨firstPasses, failsFirst.pass⟩
    refine ⟨first :: before, station, after, made, rfl, ⟨allPass, failsFirst.stops⟩, ?_, atMost⟩
    rw [calls_at_cons, List.append_assoc]
  | @stops station after _ made stationStops atMost =>
    cases stopped
    refine ⟨[], station, after, made, rfl, ⟨nofun, stationStops⟩, rfl, ?_⟩
    rwa [calls_at_cons, callsAt, List.filterMap_nil, List.append_nil]

theorem calls_prefix {own? : Option Failure} (along : GoesAlong walk stations own? calls) :
    calls <+: walk.callsAt stations := by
  induction along with
  | nothing => exact List.prefix_refl _
  | passes _ _ ih =>
    rw [calls_at_cons]
    exact (List.prefix_append_right_inj _).mpr ih
  | stops _ atMost =>
    rw [calls_at_cons]
    exact atMost.trans (List.prefix_append _ _)

end GoesAlong

theorem covers_bind {first : Traced α} {next : α → Traced β} (firstCovers : walk.Covers stations first)
    (nextCovers : ∀ value, walk.Covers others (next value)) :
    walk.Covers (stations ++ others) (first >>= next) := by
  intro past
  obtain ⟨own?, along, same⟩ := firstCovers past
  rcases first.yields_or_fails past with ⟨value, events, yields⟩ | ⟨failure, events, fails⟩
  · rw [yields] at along same
    obtain rfl : own? = none := by simpa [Ending.failure?, eq_comm] using same
    obtain ⟨later?, more, laterSame⟩ := nextCovers value (events.reverseAux past)
    rw [Traced.after_bind_of_yields yields, Event.calls_append]
    exact ⟨later?, along.append_passed more, laterSame⟩
  · rw [fails] at along same
    rw [Traced.after_bind_of_fails fails]
    cases own? with
    | none => cases same
    | some own => exact ⟨some own, along.append_stopped others, same⟩

theorem covers_pure (value : α) : walk.Covers [] (pure value) :=
  fun _ => ⟨none, .nothing, rfl⟩

theorem covers_bind_pure {first : Traced α} (firstCovers : walk.Covers stations first)
    (change : α → β) : walk.Covers stations (first >>= fun value => pure (change value)) := by
  have both := covers_bind firstCovers fun value => covers_pure (change value)
  rwa [List.append_nil] at both

theorem covers_map_failure {traced : Traced α} (covers : walk.Covers stations traced) :
    walk.Covers stations (traced.mapFailure Failure.inSequence) := by
  intro past
  obtain ⟨own?, along, same⟩ := covers past
  refine ⟨own?, along, ?_⟩
  rw [← same]
  cases ended : (traced.after past).outcome with
  | ok value =>
    simp only [Traced.mapFailure, Ending.failure?, ended]
    rfl
  | error failure =>
    simp only [Traced.mapFailure, Ending.failure?, ended]
    exact congrArg some (in_sequence_in_sequence failure)

theorem covers_station {station : Station} {traced : Traced α} (alike : traced.Alike traced)
    (own : ∀ past, walk.ownFailure? station past = (traced.after past).failure?)
    (calls : ∀ past, Event.calls (traced.after past).events = (walk.call? station.node).toList) :
    walk.Covers [station] traced := by
  intro past
  have sameFailure (other : List Event) :
      walk.ownFailure? station other = (traced.after past).failure? := by
    rw [own other, Ending.failure?, Ending.failure?, (alike other past).1]
  refine ⟨(traced.after past).failure?, ?_, rfl⟩
  rw [calls past]
  cases ended : (traced.after past).failure? with
  | none =>
    rw [ended] at sameFailure
    have along := GoesAlong.passes sameFailure .nothing
    rwa [List.append_nil] at along
  | some failure =>
    rw [ended] at sameFailure
    exact .stops sameFailure (List.prefix_refl _)

theorem covers_fail {station : Station} {failure : Failure}
    (own : ∀ past, walk.ownFailure? station past = some failure) (inside : List Station) :
    walk.Covers (station :: inside) (Traced.fail failure : Traced α) :=
  fun _ => ⟨some failure, .stops own List.nil_prefix, rfl⟩

def IsSilent (event : Event) : Prop :=
  ∀ source language events, event ≠ .called source language events

theorem calls_of_silent {events : List Event} (silent : ∀ event ∈ events, IsSilent event) :
    Event.calls events = [] := by
  refine List.filterMap_eq_nil_iff.mpr fun event member => ?_
  cases event with
  | called source language events => exact absurd rfl (silent _ member source language events)
  | _ => rfl

theorem silent_of_remark (event : Event) (remark : Traced.IsRemark event) : IsSilent event := by
  obtain ⟨level, message, rfl, _⟩ := remark
  exact fun _ _ _ => nofun

theorem admits_silent : Admits fun _ => IsSilent :=
  ⟨fun _ => silent_of_remark, fun _ _ _ _ _ => nofun, fun _ _ _ _ _ _ _ => nofun⟩

theorem calls_resume {first : Traced α} {next : Except Failure α → Traced β}
    (silent : ∀ outcome, (next outcome).Emits fun _ => IsSilent) (past : List Event) :
    Event.calls ((first.resume next).after past).events = Event.calls (first.after past).events := by
  rw [Traced.after_resume, Event.calls_append, calls_of_silent ((silent _).all _), List.append_nil]

theorem calls_highlight (highlighter : Highlighter) (isStrict : Bool) (source : String)
    (language : Option String) (past : List Event) :
    Event.calls ((highlight highlighter isStrict source language).after past).events =
      if source = "" ∨ language.getD "" = "" then [] else [(source, language.getD "")] := by
  have plainSilent (level : Level) (message : String) :
      (Traced.note level message >>= fun _ => pure [Span.plain source]).Emits fun _ => IsSilent :=
    Traced.emits_bind (Traced.emits_emit fun _ _ _ _ => nofun) fun _ => Traced.emits_pure _
  simp only [highlight]
  by_cases empty : source = ""
  · rw [if_pos empty, if_pos (.inl empty)]
    rfl
  · by_cases unnamed : language.getD "" = ""
    · rw [if_neg empty, if_pos unnamed, if_pos (.inr unnamed)]
      exact calls_of_silent ((plainSilent _ _).all past)
    · rw [if_neg empty, if_neg unnamed, if_neg (not_or.mpr ⟨empty, unnamed⟩)]
      refine (calls_resume (fun outcome => ?_) past).trans rfl
      cases outcome with
      | ok items => exact settle_emits (fun _ => silent_of_remark) isStrict source _ items
      | error failure =>
        cases lookup : failure.isLookup with
        | true =>
          simp only [lookup, if_true]
          exact plainSilent _ _
        | false =>
          simp only [lookup]
          exact Traced.emits_fail _

theorem calls_code (content : String) (stated : Option String) (metadata : Metadata) (past : List Event) :
    Event.calls ((walk.code content stated).after past).events =
      (walk.call? (.codeBlock content stated metadata)).toList := by
  rw [code, Traced.events_bind_pure, calls_highlight, call?]
  by_cases unwanted : content = "" ∨ (walk.language stated).getD "" = ""
  · simp only [if_pos unwanted, Option.toList_none]
  · simp only [if_neg unwanted, Option.toList_some]

theorem covers_leaf (highlighterPure : walk.highlighter.IsPure) {quotes lists : Int} {node : Node}
    (leaf : isLeaf node = true)
    (single : node.stations .block quotes lists = [⟨.block, quotes, lists, node⟩])
    (plain : node.alone = node) (uncalled : walk.call? node = none) :
    walk.Covers (node.stations .block quotes lists) (walk.block quotes lists node) := by
  rw [single]
  refine covers_station (block_alike (alike_self highlighterPure) quotes lists node) ?_ ?_
  · intro past
    rw [own_failure?_block, plain]
  · intro past
    have silent : (walk.block quotes lists node).Emits fun _ => IsSilent :=
      leaf_emits admits_silent quotes lists leaf
    rw [calls_of_silent (silent.all past), uncalled]
    rfl

theorem covers_code (highlighterPure : walk.highlighter.IsPure) (quotes lists : Int) (content : String)
    (stated : Option String) (metadata : Metadata) :
    walk.Covers [⟨.block, quotes, lists, .codeBlock content stated metadata⟩]
      (walk.block quotes lists (.codeBlock content stated metadata)) := by
  have alike := block_alike (alike_self highlighterPure) quotes lists (.codeBlock content stated metadata)
  refine covers_station alike (fun _ => own_failure?_block walk quotes lists _ _) fun past => ?_
  rw [← calls_code content stated metadata past]
  exact congrArg Event.calls (Traced.events_bind_pure _ _ past)

theorem quote?_eq_ok {quotes : Int} (inside : 0 ≤ quotes) (visuals : List Visual) :
    Visual.quote? (quotes + 1) visuals = .ok (.quote (quotes + 1) visuals) :=
  quote?_eq_ok_iff.mpr ⟨by omega, rfl⟩

theorem own_failure?_quote {quotes : Int} (inside : 0 ≤ quotes) (lists : Int) (children : List Node)
    (metadata : Metadata) (past : List Event) :
    walk.ownFailure? ⟨.block, quotes, lists, .quote children metadata⟩ past =
      ((Traced.ofExcept (checkDepth "quote" (quotes + 1) walk.options.maxQuoteDepth)).after
        past).failure? := by
  simp only [own_failure?_block, Node.alone, block, blocks, quote?_eq_ok inside]
  cases checkDepth "quote" (quotes + 1) walk.options.maxQuoteDepth with
  | ok _ => rfl
  | error failure => rfl

theorem own_failure?_list (quotes lists : Int) (ordered : Bool) (items : List Node) (start : Option Int)
    (tight : Bool) (metadata : Metadata) (past : List Event) :
    walk.ownFailure? ⟨.block, quotes, lists, .list ordered items start tight metadata⟩ past =
      ((Traced.ofExcept (checkDepth "list" (lists + 1) walk.options.maxListDepth)).after
        past).failure? := by
  simp only [own_failure?_block, Node.alone, block, Walk.items]
  cases checkDepth "list" (lists + 1) walk.options.maxListDepth with
  | ok _ => rfl
  | error failure => rfl

theorem covers_check {station : Station} {check : Except Failure Unit} (uncalled : walk.call? station.node = none)
    (own : ∀ past, walk.ownFailure? station past = ((Traced.ofExcept check).after past).failure?) :
    walk.Covers [station] (Traced.ofExcept check) := by
  refine covers_station (Traced.alike_steady _) own fun past => ?_
  rw [uncalled]
  rfl

theorem covers_passed {station : Station} {traced : Traced α} (uncalled : walk.call? station.node = none)
    (passes : ∀ past, walk.ownFailure? station past = none) (covers : walk.Covers stations traced) :
    walk.Covers (station :: stations) traced := by
  intro past
  obtain ⟨own?, along, same⟩ := covers past
  have withStation := GoesAlong.passes passes along
  rw [uncalled] at withStation
  exact ⟨own?, withStation, same⟩

mutual

theorem block_covers {walk : Walk} (highlighterPure : walk.highlighter.IsPure) {quotes : Int}
    (inside : 0 ≤ quotes) (lists : Int) (node : Node) :
    walk.Covers (node.stations .block quotes lists) (walk.block quotes lists node) := by
  cases node with
  | codeBlock content stated metadata =>
    exact covers_code highlighterPure quotes lists content stated metadata
  | quote children metadata =>
    have deeper : 0 ≤ quotes + 1 := by omega
    have tooDeep (past : List Event) :
        walk.ownFailure? ⟨.block, quotes, lists, .quote children metadata⟩ past = _ :=
      own_failure?_quote inside lists children metadata past
    have childrenCover := blocks_cover highlighterPure deeper lists children
    refine covers_bind (covers_check rfl tooDeep) fun _ => ?_
    simp only [quote?_eq_ok inside]
    exact covers_bind_pure childrenCover _
  | list ordered items start tight metadata =>
    have tooDeep (past : List Event) :
        walk.ownFailure? ⟨.block, quotes, lists, .list ordered items start tight metadata⟩ past = _ :=
      own_failure?_list quotes lists ordered items start tight metadata past
    have items_cover := items_cover highlighterPure inside (lists + 1) items
    exact covers_bind (covers_check rfl tooDeep) fun _ => covers_bind_pure items_cover _
  | item children status metadata => exact covers_fail (fun _ => rfl) _
  | document children metadata =>
    have childrenCover := blocks_cover highlighterPure inside lists children
    exact covers_passed rfl (fun _ => rfl) (covers_bind_pure childrenCover _)
  | _ => exact covers_leaf highlighterPure rfl rfl rfl rfl
termination_by structural node

theorem blocks_cover {walk : Walk} (highlighterPure : walk.highlighter.IsPure) {quotes : Int}
    (inside : 0 ≤ quotes) (lists : Int) (nodes : List Node) :
    walk.Covers (Node.stationsOf .block quotes lists nodes) (walk.blocks quotes lists nodes) := by
  cases nodes with
  | nil => exact covers_pure _
  | cons node nodes =>
    have firstCovers := covers_map_failure (block_covers highlighterPure inside lists node)
    have restCover := blocks_cover highlighterPure inside lists nodes
    exact covers_bind firstCovers fun _ => covers_bind_pure restCover _
termination_by structural nodes

theorem item_covers {walk : Walk} (highlighterPure : walk.highlighter.IsPure) {quotes : Int}
    (inside : 0 ≤ quotes) (lists : Int) (node : Node) :
    walk.Covers (node.stations .item quotes lists) (walk.item quotes lists node) := by
  cases node with
  | item children status metadata =>
    have childrenCover := blocks_cover highlighterPure inside lists children
    exact covers_passed rfl (fun _ => rfl) (covers_bind_pure childrenCover _)
  | _ => exact covers_fail (fun _ => rfl) _
termination_by structural node

theorem items_cover {walk : Walk} (highlighterPure : walk.highlighter.IsPure) {quotes : Int}
    (inside : 0 ≤ quotes) (lists : Int) (nodes : List Node) :
    walk.Covers (Node.stationsOf .item quotes lists nodes) (walk.items quotes lists nodes) := by
  cases nodes with
  | nil => exact covers_pure _
  | cons node nodes =>
    have firstCovers := item_covers highlighterPure inside lists node
    have restCover := items_cover highlighterPure inside lists nodes
    exact covers_bind firstCovers fun _ => covers_bind_pure restCover _
termination_by structural nodes

end

theorem blocks_raise_in_sequence (quotes lists : Int) (nodes : List Node) :
    (walk.blocks quotes lists nodes).RaisesOnly fun failure => failure.inSequence = failure := by
  induction nodes with
  | nil =>
    rw [blocks]
    exact Traced.raises_only_pure _
  | cons node nodes ih =>
    have anyFailure : (walk.block quotes lists node).RaisesOnly fun _ => True := fun _ _ _ => trivial
    rw [blocks]
    refine Traced.raises_only_bind ?_ fun _ => Traced.raises_only_bind ih fun _ => Traced.raises_only_pure _
    exact Traced.raises_only_map_failure (fun failure _ => in_sequence_in_sequence failure) anyFailure

end Walk

theorem compile_of_yields {walk : Walk} {children : List Node} {visuals : List Visual}
    {past events : List Event} (yields : (walk.blocks 0 0 children).Yields past visuals events)
    (metadata : Metadata) :
    (compile walk (some (.document children metadata))).after past =
      ⟨.ok ⟨⟨visuals⟩, Event.diagnostics events, Event.warnings events⟩,
        events ++ [.note .debug "Compiling visual tree completed in <t>s"]⟩ := by
  have treeYields : (walk.tree children).Yields past ⟨visuals⟩ events := by
    rw [Walk.tree_eq]
    exact Traced.yields_bind_iff.mpr ⟨visuals, events, [], yields, rfl, (List.append_nil _).symm⟩
  rw [Traced.Yields] at treeYields
  simp only [compile, Compiled.ofWalk, treeYields]

theorem compile_of_fails {walk : Walk} {children : List Node} {failure : Failure}
    {past events : List Event} (fails : (walk.blocks 0 0 children).Fails past failure events)
    (metadata : Metadata) :
    (compile walk (some (.document children metadata))).after past =
      ⟨.error failure.inCompilation, events⟩ := by
  have treeFails : (walk.tree children).after past = ⟨.error failure, events⟩ := by
    rw [Walk.tree_eq]
    exact Traced.after_bind_of_fails fails _
  simp only [compile, Compiled.ofWalk, treeFails]

-- A compilation that comes to a result has called for all the code there is, in document order. One that
-- fails has called for the code before the first node that fails by itself, and for this node at most;
-- what it reports is the failure of this node.
theorem compile_calls {walk : Walk} (highlighterPure : walk.highlighter.IsPure) (children : List Node)
    (metadata : Metadata) (past : List Event) :
    (∀ compiled, ((compile walk (some (.document children metadata))).after past).outcome =
        .ok compiled →
      Event.calls ((compile walk (some (.document children metadata))).after past).events =
        walk.callsAt (Node.stationsOf .block 0 0 children)) ∧
    ∀ failure, ((compile walk (some (.document children metadata))).after past).outcome =
        .error failure →
      Event.calls ((compile walk (some (.document children metadata))).after past).events <+:
        walk.callsAt (Node.stationsOf .block 0 0 children) ∧
      ∃ before station after made own,
        Node.stationsOf .block 0 0 children = before ++ station :: after ∧
        walk.FailsFirst before station own ∧ failure = own.inSequence.inCompilation ∧
        Event.calls ((compile walk (some (.document children metadata))).after past).events =
          walk.callsAt before ++ made ∧ made <+: walk.callsAt [station] := by
  obtain ⟨own?, along, same⟩ := Walk.blocks_cover highlighterPure (Int.le_refl 0) 0 children past
  rcases (walk.blocks 0 0 children).yields_or_fails past with
    ⟨visuals, events, yields⟩ | ⟨ownOut, events, fails⟩
  · rw [yields] at along same
    obtain rfl : own? = none := by simpa [Ending.failure?, eq_comm] using same
    rw [compile_of_yields yields metadata, Event.calls_append]
    exact ⟨fun _ _ => (List.append_nil _).trans along.calls_of_none, nofun⟩
  · have inSequence : ownOut.inSequence = ownOut :=
      Walk.blocks_raise_in_sequence 0 0 children past ownOut (by rw [fails])
    rw [fails] at along same
    cases own? with
    | none => cases same
    | some own =>
      have changed : ownOut = own.inSequence := inSequence.symm.trans (Option.some.inj same)
      obtain ⟨before, station, after, made, visited, failsFirst, calls, atMost⟩ := along.calls_of_some
      rw [compile_of_fails fails metadata]
      refine ⟨nofun, ?_⟩
      rintro _ ⟨⟩
      rw [changed]
      exact ⟨along.calls_prefix, before, station, after, made, own, visited, failsFirst, rfl, calls,
        atMost⟩

-- A walk that takes quotes one deep and code without a language for text, with a highlighter that tells
-- no two tokens apart.
def Walk.echoing : Walk :=
  { Walk.bare with
    options := { RenderOptions.default with codeLanguage := some "text", maxQuoteDepth := some 1 }
    highlighter := fun source _ => pure [.ofSpan (Span.plain source)] }

def scatteredCode (listed : List Node) : List Node :=
  [.codeBlock "a" (some "py") [],
    .quote [.codeBlock "" (some "py") [], .footnoteDefinition "f" [.codeBlock "f" (some "py") []] [],
      .list false [.item (listed ++ [.codeBlock "b" none []]) none []] none true []] [],
    .document [.codeBlock "c" (some "js") []] []]

theorem compile_calls_scattered_code :
    Walk.echoing.highlighter.IsPure ∧
    (∃ compiled, ((compile Walk.echoing (some (.document (scatteredCode []) []))).after []).outcome =
        .ok compiled ∧
      Event.calls ((compile Walk.echoing (some (.document (scatteredCode []) []))).after []).events =
        [("a", "py"), ("b", "text"), ("c", "js")]) ∧
    ((compile Walk.echoing (some (.document (scatteredCode [.quote [] []]) []))).after []).outcome =
        .error (.depthExceeded "quote" 2 1) ∧
      Event.calls ((compile Walk.echoing (some (.document (scatteredCode [.quote [] []]) []))).after
        []).events <+: [("a", "py"), ("b", "text"), ("c", "js")] := by
  have echoingPure : Walk.echoing.highlighter.IsPure := fun _ _ _ _ => rfl
  refine ⟨echoingPure, ?_, ?_⟩
  · cases ended : ((compile Walk.echoing (some (.document (scatteredCode []) []))).after []).outcome with
    | ok compiled =>
      have allCalled := (compile_calls echoingPure (scatteredCode []) [] []).1 compiled ended
      exact ⟨compiled, rfl, allCalled⟩
    | error failure => cases ended
  · have failed : ((compile Walk.echoing (some (.document (scatteredCode [.quote [] []]) []))).after
        []).outcome = .error (.depthExceeded "quote" 2 1) := rfl
    have calledBefore := (compile_calls echoingPure (scatteredCode [.quote [] []]) [] []).2 _ failed
    exact ⟨failed, calledBefore.1⟩

end MarkdownView
