import MarkdownView.Proofs.Compile.Derivation
set_option autoImplicit false

namespace MarkdownView

inductive ContainerKind where
  | quote
  | list
deriving DecidableEq

-- A quote or a list, by the number of its kind that it stands in, itself included.
structure Container where
  kind : ContainerKind
  depth : Int
deriving DecidableEq

inductive Checkpoint where
  | container (entered : Container)
  | row (index expected actual : Nat)
deriving DecidableEq

namespace Node

def rowCheckpoints (header : Option Node) (rows : List Node) (alignments : List (Option String)) :
    List Checkpoint :=
  (rows.map cellCount).zipIdx.map fun entry =>
    .row entry.2 (tableWidth header rows alignments) entry.1

mutual

def checkpoints (quotes lists : Int) : Node → List Checkpoint
  | .document children _ => checkpointsOf quotes lists children
  | .quote children _ =>
    .container ⟨.quote, quotes + 1⟩ :: checkpointsOf (quotes + 1) lists children
  | .list _ items _ _ _ => .container ⟨.list, lists + 1⟩ :: checkpointsOf quotes (lists + 1) items
  | .item children _ _ => checkpointsOf quotes lists children
  | .table header rows alignments _ => rowCheckpoints header rows alignments
  | _ => []
termination_by structural node => node

def checkpointsOf (quotes lists : Int) : List Node → List Checkpoint
  | [] => []
  | node :: nodes => checkpoints quotes lists node ++ checkpointsOf quotes lists nodes
termination_by structural nodes => nodes

end

theorem checkpoints_of_unmodelled {node : Node} (unmodelled : node.isModelled = false)
    (quotes lists : Int) : node.checkpoints quotes lists = [] := by
  cases node <;> simp_all [isModelled, checkpoints]

theorem checkpoints_of_singleton (quotes lists : Int) (node : Node) :
    checkpointsOf quotes lists [node] = checkpoints quotes lists node :=
  List.append_nil _

end Node

namespace Traced

variable {α β : Type}

structure Guards (verdict : Option Failure) (guarded free : Traced α) : Prop where
  sound : ∀ past value events, guarded.Yields past value events → free.Yields past value events
  passes : verdict = none →
    ∀ past value events, free.Yields past value events → guarded.Yields past value events
  stops : ∀ failure ∈ verdict, ∀ past value events, free.Yields past value events →
    ∃ before, guarded.Fails past failure before

theorem guards_refl (traced : Traced α) : Guards none traced traced :=
  ⟨fun _ _ _ => id, fun _ _ _ _ => id, nofun⟩

theorem guards_fail (verdict : Option Failure) (failure : Failure) :
    Guards verdict (fail failure : Traced α) (fail failure) where
  sound _ _ _ := id
  passes _ _ _ _ := id
  stops _ _ past value events yields := absurd yields (by simp)

theorem guards_of_fail (failure : Failure) (free : Traced α) :
    Guards (some failure) (fail failure) free where
  sound past value events yields := absurd yields (by simp)
  passes := nofun
  stops other decided past value events _ := by
    obtain rfl : failure = other := Option.some.inj decided
    exact ⟨[], rfl⟩

theorem guards_bind {verdict later : Option Failure} {guarded free : Traced α}
    {next follow : α → Traced β} (start : Guards verdict guarded free)
    (rest : ∀ past value events, free.Yields past value events →
      Guards later (next value) (follow value)) :
    Guards (verdict.or later) (guarded >>= next) (free >>= follow) where
  sound past result events yields := by
    obtain ⟨value, before, after, firstYields, nextYields, rfl⟩ := yields_bind_iff.mp yields
    have freeYields := start.sound past value before firstYields
    have follow_yields := (rest past value before freeYields).sound _ result after nextYields
    exact yields_bind_iff.mpr ⟨value, before, after, freeYields, follow_yields, rfl⟩
  passes clear past result events yields := by
    obtain ⟨noVerdict, nothingLater⟩ := Option.or_eq_none_iff.mp clear
    obtain ⟨value, before, after, freeYields, follow_yields, rfl⟩ := yields_bind_iff.mp yields
    have firstYields := start.passes noVerdict past value before freeYields
    have nextYields :=
      (rest past value before freeYields).passes nothingLater _ result after follow_yields
    exact yields_bind_iff.mpr ⟨value, before, after, firstYields, nextYields, rfl⟩
  stops failure decided past result events yields := by
    obtain ⟨value, before, after, freeYields, follow_yields, rfl⟩ := yields_bind_iff.mp yields
    cases verdict with
    | some earlier =>
      obtain rfl : earlier = failure := Option.some.inj decided
      obtain ⟨happened, fails⟩ := start.stops earlier rfl past value before freeYields
      exact ⟨happened, after_bind_of_fails fails next⟩
    | none =>
      have firstYields := start.passes rfl past value before freeYields
      obtain ⟨happened, fails⟩ :=
        (rest past value before freeYields).stops failure decided _ result after follow_yields
      refine ⟨before ++ happened, ?_⟩
      rw [Fails, after_bind_of_yields firstYields, fails]

theorem guards_after {later : Option Failure} (first : Traced α) {next follow : α → Traced β}
    (rest : ∀ past value events, first.Yields past value events →
      Guards later (next value) (follow value)) :
    Guards later (first >>= next) (first >>= follow) := by
  have both := guards_bind (guards_refl first) rest
  rwa [Option.none_or] at both

theorem guards_then {verdict : Option Failure} {guarded free : Traced α} (start : Guards verdict guarded free)
    (next : α → Traced β) : Guards verdict (guarded >>= next) (free >>= next) := by
  have both := guards_bind start fun _ value _ _ => guards_refl (next value)
  rwa [Option.or_none] at both

theorem guards_map_failure {verdict : Option Failure} {guarded free : Traced α}
    {change : Failure → Failure} (kept : ∀ failure ∈ verdict, change failure = failure)
    (inside : Guards verdict guarded free) :
    Guards verdict (guarded.mapFailure change) (free.mapFailure change) where
  sound past value events yields := by
    rw [yields_map_failure_iff] at yields ⊢
    exact inside.sound past value events yields
  passes clear past value events yields := by
    rw [yields_map_failure_iff] at yields ⊢
    exact inside.passes clear past value events yields
  stops failure decided past value events yields := by
    obtain ⟨before, fails⟩ :=
      inside.stops failure decided past value events (yields_map_failure_iff.mp yields)
    have renamed := fails.map_failure change
    rw [kept failure decided] at renamed
    exact ⟨before, renamed⟩

end Traced

open Traced (guards_refl guards_bind guards_after guards_then guards_map_failure)

def verdict (check : Checkpoint → Option Failure) (checkpoints : List Checkpoint) : Option Failure :=
  checkpoints.findSome? check

theorem verdict_cons (check : Checkpoint → Option Failure) (checkpoint : Checkpoint)
    (rest : List Checkpoint) :
    verdict check (checkpoint :: rest) = (check checkpoint).or (verdict check rest) := by
  rw [verdict, List.findSome?_cons]
  cases check checkpoint <;> rfl

theorem verdict_append (check : Checkpoint → Option Failure) (checkpoints rest : List Checkpoint) :
    verdict check (checkpoints ++ rest) = (verdict check checkpoints).or (verdict check rest) :=
  List.findSome?_append

theorem of_verdict {check : Checkpoint → Option Failure} {holds : Failure → Prop}
    (each : ∀ checkpoint, ∀ failure ∈ check checkpoint, holds failure) (checkpoints : List Checkpoint) :
    ∀ failure ∈ verdict check checkpoints, holds failure := by
  intro failure decided
  obtain ⟨checkpoint, _, refused⟩ := List.exists_of_findSome?_eq_some decided
  exact each checkpoint failure refused

namespace Walk

structure Guards (guarded : Walk) (check : Checkpoint → Option Failure) (free : Walk) : Prop where
  inline : ∀ content, guarded.inline content = free.inline content
  code : ∀ content language, guarded.code content language = free.code content language
  picture : ∀ url alt title width height,
    guarded.picture url alt title width height = free.picture url alt title width height
  quote : ∀ depth, Traced.Guards (check (.container ⟨.quote, depth⟩))
    (Traced.ofExcept (checkDepth "quote" depth guarded.options.maxQuoteDepth))
    (Traced.ofExcept (checkDepth "quote" depth free.options.maxQuoteDepth))
  list : ∀ depth, Traced.Guards (check (.container ⟨.list, depth⟩))
    (Traced.ofExcept (checkDepth "list" depth guarded.options.maxListDepth))
    (Traced.ofExcept (checkDepth "list" depth free.options.maxListDepth))
  row : ∀ width index cells, Traced.Guards (check (.row index width cells.length))
    (guarded.fit width index cells) (free.fit width index cells)
  inSequence : ∀ checkpoint, ∀ failure ∈ check checkpoint, failure.inSequence = failure
  inCompilation : ∀ checkpoint, ∀ failure ∈ check checkpoint, failure.inCompilation = failure

section

variable {check : Checkpoint → Option Failure} {guarded free : Walk}
  (guards : guarded.Guards check free)

include guards

theorem cells_guarded (row : List (Option TableCell)) : guarded.cells row = free.cells row := by
  induction row with
  | nil => rfl
  | cons entry row ih =>
    cases entry with
    | none => rw [Walk.cells, Walk.cells, ih]
    | some cell => rw [Walk.cells, Walk.cells, ih, guards.inline]

theorem rows_guarded (rows : List (List (Option TableCell))) : guarded.rows rows = free.rows rows := by
  induction rows with
  | nil => rfl
  | cons row rows ih => rw [Walk.rows, Walk.rows, ih, cells_guarded guards]

theorem header_cells_guarded (header : Option (List TableCell)) :
    guarded.headerCells header = free.headerCells header := by
  cases header with
  | none => rfl
  | some cells => rw [Walk.headerCells, Walk.headerCells, cells_guarded guards]

theorem fit_all_guarded (width index : Nat) (rows : List (List TableCell)) :
    Traced.Guards
      (verdict check (((rows.map List.length).zipIdx index).map fun entry => .row entry.2 width entry.1))
      (guarded.fitAll width index rows) (free.fitAll width index rows) := by
  induction rows generalizing index with
  | nil => exact guards_refl _
  | cons cells rows ih =>
    rw [List.map_cons, List.zipIdx_cons, List.map_cons, verdict_cons]
    exact guards_bind (guards.row width index cells) fun _ _ _ _ => guards_then (ih (index + 1)) _

theorem table_guarded (header : Option Node) (rows : List Node) (alignments : List (Option String)) :
    Traced.Guards (verdict check (Node.rowCheckpoints header rows alignments))
      (guarded.table header rows alignments) (free.table header rows alignments) := by
  refine guards_after _ fun _ headerRow _ headerYields => ?_
  refine guards_after _ fun _ bodyRows _ bodyYields => ?_
  obtain ⟨headerRead, _⟩ := Traced.yields_of_except_iff.mp headerYields
  obtain ⟨bodyRead, _⟩ := Traced.yields_of_except_iff.mp bodyYields
  rw [Node.rowCheckpoints, ← width_of_read headerRead bodyRead, ← lengths_of_read bodyRead,
    header_cells_guarded guards]
  simp only [rows_guarded guards]
  exact guards_then (fit_all_guarded guards _ 0 bodyRows) _

end

mutual

theorem block_guarded {check : Checkpoint → Option Failure} {guarded free : Walk}
    (guards : guarded.Guards check free) (quotes lists : Int) (node : Node) :
    Traced.Guards (verdict check (node.checkpoints quotes lists)) (guarded.block quotes lists node)
      (free.block quotes lists node) := by
  cases node with
  | heading level content metadata =>
    simp only [block, leaf, guards.inline]
    exact guards_refl _
  | paragraph content metadata =>
    simp only [block, leaf, guards.inline]
    exact guards_refl _
  | codeBlock content language metadata =>
    simp only [block, leaf, guards.code]
    exact guards_refl _
  | quote children metadata =>
    rw [Node.checkpoints, verdict_cons]
    refine guards_bind (guards.quote (quotes + 1)) fun _ _ _ _ => ?_
    exact guards_then (blocks_guarded guards (quotes + 1) lists children) _
  | list ordered items start tight metadata =>
    rw [Node.checkpoints, verdict_cons]
    refine guards_bind (guards.list (lists + 1)) fun _ _ _ _ => ?_
    exact guards_then (items_guarded guards quotes (lists + 1) items) _
  | table header rows alignments metadata =>
    exact guards_then (table_guarded guards header rows alignments) _
  | image url alt title width height metadata =>
    simp only [block, leaf, guards.picture]
    exact guards_refl _
  | document children metadata => exact guards_then (blocks_guarded guards quotes lists children) _
  | item children status metadata => exact Traced.guards_fail _ _
  | _ => exact guards_refl _
termination_by structural node

theorem blocks_guarded {check : Checkpoint → Option Failure} {guarded free : Walk}
    (guards : guarded.Guards check free) (quotes lists : Int) (nodes : List Node) :
    Traced.Guards (verdict check (Node.checkpointsOf quotes lists nodes))
      (guarded.blocks quotes lists nodes) (free.blocks quotes lists nodes) := by
  cases nodes with
  | nil => exact guards_refl _
  | cons node nodes =>
    rw [Node.checkpointsOf, verdict_append]
    have kept := of_verdict guards.inSequence (node.checkpoints quotes lists)
    have first := guards_map_failure kept (block_guarded guards quotes lists node)
    refine guards_bind first fun _ _ _ _ => ?_
    exact guards_then (blocks_guarded guards quotes lists nodes) _
termination_by structural nodes

theorem item_guarded {check : Checkpoint → Option Failure} {guarded free : Walk}
    (guards : guarded.Guards check free) (quotes lists : Int) (node : Node) :
    Traced.Guards (verdict check (node.checkpoints quotes lists)) (guarded.item quotes lists node)
      (free.item quotes lists node) := by
  cases node with
  | item children status metadata => exact guards_then (blocks_guarded guards quotes lists children) _
  | _ => exact Traced.guards_fail _ _
termination_by structural node

theorem items_guarded {check : Checkpoint → Option Failure} {guarded free : Walk}
    (guards : guarded.Guards check free) (quotes lists : Int) (nodes : List Node) :
    Traced.Guards (verdict check (Node.checkpointsOf quotes lists nodes))
      (guarded.items quotes lists nodes) (free.items quotes lists nodes) := by
  cases nodes with
  | nil => exact guards_refl _
  | cons node nodes =>
    rw [Node.checkpointsOf, verdict_append]
    refine guards_bind (item_guarded guards quotes lists node) fun _ _ _ _ => ?_
    exact guards_then (items_guarded guards quotes lists nodes) _
termination_by structural nodes

end

end Walk

theorem of_walk_guarded {verdict : Option Failure} {guarded free : Traced Tree}
    (inside : Traced.Guards verdict guarded free)
    (kept : ∀ failure ∈ verdict, failure.inCompilation = failure) {past : List Event}
    {compiled : Compiled} (returned : ((Compiled.ofWalk free).after past).outcome = .ok compiled) :
    ((Compiled.ofWalk guarded).after past).outcome = verdict.elim (.ok compiled) .error := by
  obtain ⟨tree, events, yields, rfl⟩ := of_walk_eq_ok returned
  cases verdict with
  | none => exact of_walk_of_yields (inside.passes rfl past tree events yields)
  | some failure =>
    obtain ⟨before, fails⟩ := inside.stops failure rfl past tree events yields
    rw [of_walk_of_fails fails, kept failure rfl]
    rfl

theorem of_walk_of_guarded {verdict : Option Failure} {guarded free : Traced Tree}
    (inside : Traced.Guards verdict guarded free) {past : List Event} {compiled : Compiled}
    (returned : ((Compiled.ofWalk guarded).after past).outcome = .ok compiled) :
    ((Compiled.ofWalk free).after past).outcome = .ok compiled := by
  obtain ⟨tree, events, yields, rfl⟩ := of_walk_eq_ok returned
  exact of_walk_of_yields (inside.sound past tree events yields)

def checkpointsIn (document : Option Node) : List Checkpoint := Node.checkpointsOf 0 0 document.toList

section

variable {check : Checkpoint → Option Failure} {guarded free : Walk}
  (guards : guarded.Guards check free)

include guards

theorem tree_guarded (children : List Node) (metadata : Metadata) :
    Traced.Guards (verdict check (checkpointsIn (some (.document children metadata))))
      (guarded.tree children) (free.tree children) := by
  have inside := guards_then (Walk.blocks_guarded guards 0 0 children) fun children =>
    pure (⟨children⟩ : Tree)
  have checkpoints : checkpointsIn (some (.document children metadata)) =
      Node.checkpointsOf 0 0 children := List.append_nil _
  rw [checkpoints, Walk.tree_eq, Walk.tree_eq]
  exact inside

theorem compile_guarded {document : Option Node} {past : List Event} {compiled : Compiled}
    (returned : ((compile free document).after past).outcome = .ok compiled) :
    ((compile guarded document).after past).outcome =
      (verdict check (checkpointsIn document)).elim (.ok compiled) .error := by
  cases document with
  | none => exact returned
  | some node =>
    cases node with
    | document children metadata =>
      have kept := of_verdict guards.inCompilation (checkpointsIn (some (.document children metadata)))
      exact of_walk_guarded (tree_guarded guards children metadata) kept returned
    | _ => simp [compile, Traced.fail, Traced.steady] at returned

theorem compile_of_guarded {document : Option Node} {past : List Event} {compiled : Compiled}
    (returned : ((compile guarded document).after past).outcome = .ok compiled) :
    ((compile free document).after past).outcome = .ok compiled := by
  cases document with
  | none => exact returned
  | some node =>
    cases node with
    | document children metadata => exact of_walk_of_guarded (tree_guarded guards children metadata) returned
    | _ => simp [compile, Traced.fail, Traced.steady] at returned

end

end MarkdownView
