import MarkdownView.Proofs.Compile.Content
import MarkdownView.Proofs.Compile.Guards
import MarkdownView.Proofs.Highlight
set_option autoImplicit false

namespace MarkdownView

open Traced (guards_of_fail guards_refl)

structure UnevenRow where
  index : Nat
  expected : Nat
  actual : Nat
deriving DecidableEq

def UnevenRow.repair (row : UnevenRow) : String := Walk.repair row.index row.expected row.actual

def UnevenRow.failure (row : UnevenRow) : Failure :=
  .malformedTable row.index row.expected row.actual none

def Checkpoint.uneven? : Checkpoint → Option UnevenRow
  | .row index expected actual => if actual = expected then none else some ⟨index, expected, actual⟩
  | .container _ => none

-- The uneven rows of all tables in document order, each counted inside its own table.
def unevenRows (document : Option Node) : List UnevenRow :=
  (checkpointsIn document).filterMap Checkpoint.uneven?

namespace Walk

theorem reads_repair_nothing {walk : Walk} {leaves : List Leaf} {pieces : List Piece}
    {events : List Event} (reads : Reads walk.embed leaves pieces events) :
    Event.warnings events = [] := by
  induction reads with
  | nil => rfl
  | text _ ih => exact ih
  | embedded _ inserts _ ih =>
    rw [Event.warnings_append, ih, List.append_nil]
    rcases embed_yields inserts with ⟨quiet, _⟩ | ⟨_, rfl⟩
    · exact Event.warnings_of_quiet quiet
    · rfl

theorem inline_repairs_nothing {walk : Walk} {content : List Node} {children : List Inline}
    {past events : List Event} (yields : (walk.inline content).Yields past children events) :
    Event.warnings events = [] := by
  obtain ⟨pieces, reads, _⟩ := inline_reads yields
  exact reads_repair_nothing reads

theorem rows_repair_nothing {walk : Walk} {rows : List (List (Option TableCell))}
    {result : List (List Cell)} {events : List Event}
    (compiles : CompilesRows walk rows result events) : Event.warnings events = [] := by
  have rowRepairsNothing {row : List (Option TableCell)} {cells : List Cell} {events : List Event}
      (compiles : CompilesRow walk row cells events) : Event.warnings events = [] := by
    induction compiles with
    | nil => rfl
    | padding _ ih => exact ih
    | cell first _ ih => rw [Event.warnings_append, ih, inline_repairs_nothing first, List.append_nil]
  induction compiles with
  | nil => rfl
  | cons first _ ih => rw [Event.warnings_append, ih, rowRepairsNothing first, List.append_nil]

theorem warnings_repairs (width index : Nat) (rows : List (List TableCell)) :
    Event.warnings (repairs width index rows) =
      ((((rows.map List.length).zipIdx index).map fun entry =>
        Checkpoint.row entry.2 width entry.1).filterMap Checkpoint.uneven?).map UnevenRow.repair := by
  induction rows generalizing index with
  | nil => rfl
  | cons cells rows ih =>
    rw [repairs, Event.warnings_append, ih, List.map_cons, List.zipIdx_cons, List.map_cons,
      List.filterMap_cons]
    by_cases wide : cells.length = width
    · simp [Checkpoint.uneven?, wide, Event.warnings]
    · simp [Checkpoint.uneven?, wide, Event.warnings, UnevenRow.repair]

theorem Compiles.warnings {walk : Walk} {setting : Setting} {quotes lists : Int} {nodes : List Node}
    {visuals : List Visual} {events : List Event}
    (compiles : Compiles walk setting quotes lists nodes visuals events) :
    Event.warnings events =
      ((Node.checkpointsOf quotes lists nodes).filterMap Checkpoint.uneven?).map UnevenRow.repair := by
  induction compiles with
  | nil => rfl
  | cons _ _ firstIh restIh =>
    rw [Node.checkpoints_of_singleton] at firstIh
    rw [Event.warnings_append, firstIh, restIh, Node.checkpointsOf, List.filterMap_append,
      List.map_append]
  | heading _ contentYields => exact inline_repairs_nothing contentYields
  | paragraph contentYields => exact inline_repairs_nothing contentYields
  | code highlighted => exact Event.warnings_of_quiet (highlight_quiet highlighted)
  | quote _ _ _ ih =>
    rw [Node.checkpoints_of_singleton, Node.checkpoints, List.filterMap_cons]
    exact ih
  | list _ _ ih =>
    rw [Node.checkpoints_of_singleton, Node.checkpoints, List.filterMap_cons]
    exact ih
  | item _ ih =>
    rw [Node.checkpoints_of_singleton]
    exact ih
  | document _ ih =>
    rw [Node.checkpoints_of_singleton]
    exact ih
  | table headerRead bodyRead table =>
    have cellsRepairNothing := rows_repair_nothing (table.headerCompiles.append table.rowsCompile)
    rw [Event.warnings_append, cellsRepairNothing, List.append_nil, warnings_repairs,
      width_of_read headerRead bodyRead, lengths_of_read bodyRead, Node.checkpoints_of_singleton]
    rfl
  | thematicBreak => rfl
  | image pictured => exact Event.warnings_of_quiet (picture_quiet pictured)
  | unmodelled _ unmodelled =>
    rw [Node.checkpoints_of_singleton, Node.checkpoints_of_unmodelled unmodelled]
    rfl

end Walk

theorem compile_warnings {walk : Walk} {document : Option Node} {past : List Event}
    {compiled : Compiled} (returned : ((compile walk document).after past).outcome = .ok compiled) :
    compiled.warnings = (unevenRows document).map UnevenRow.repair := by
  rcases compile_eq_ok returned with ⟨rfl, rfl⟩ | ⟨children, metadata, visuals, events, rfl, compiles, rfl⟩
  · rfl
  · have whole : checkpointsIn (some (.document children metadata)) =
        Node.checkpointsOf 0 0 children := List.append_nil _
    rw [unevenRows, whole]
    exact compiles.warnings

namespace Walk

def strict (walk : Walk) : Walk := { walk with options := { walk.options with isStrict := true } }

def lenient (walk : Walk) : Walk := { walk with options := { walk.options with isStrict := false } }

theorem strict_guards (walk : Walk) :
    walk.strict.Guards (fun checkpoint => checkpoint.uneven?.map UnevenRow.failure) walk.lenient where
  inline _ := rfl
  code _ _ := rfl
  picture _ _ _ _ _ := rfl
  quote _ := guards_refl _
  list _ := guards_refl _
  row width index cells := by
    by_cases wide : cells.length = width
    · simp only [Checkpoint.uneven?, fit, if_pos wide]
      exact guards_refl _
    · simp only [Checkpoint.uneven?, fit, if_neg wide]
      exact guards_of_fail _ _
  inSequence checkpoint failure refused := by
    obtain ⟨row, _, rfl⟩ := Option.map_eq_some_iff.mp refused
    rfl
  inCompilation checkpoint failure refused := by
    obtain ⟨row, _, rfl⟩ := Option.map_eq_some_iff.mp refused
    rfl

end Walk

theorem verdict_uneven_rows (document : Option Node) :
    verdict (fun checkpoint => checkpoint.uneven?.map UnevenRow.failure) (checkpointsIn document) =
      (unevenRows document).head?.map UnevenRow.failure := by
  rw [unevenRows, List.head?_filterMap, List.map_findSome?]
  rfl

-- The two agree on every document without an uneven row; where the lenient compilation repairs
-- some, the strict one fails for the first of them.
theorem compile_strict_lenient (walk : Walk) (document : Option Node) (past : List Event)
    (compiled : Compiled) :
    (((compile walk.strict document).after past).outcome = .ok compiled ↔
      ((compile walk.lenient document).after past).outcome = .ok compiled ∧ compiled.warnings = []) ∧
    (((compile walk.lenient document).after past).outcome = .ok compiled → compiled.warnings ≠ [] →
      ∃ row, (unevenRows document).head? = some row ∧ compiled.warnings.head? = some row.repair ∧
        ((compile walk.strict document).after past).outcome =
          .error (.malformedTable row.index row.expected row.actual none)) := by
  have guards := walk.strict_guards
  constructor
  · constructor
    · intro returned
      have lenientReturned := compile_of_guarded guards returned
      have decided := compile_guarded guards lenientReturned
      rw [returned, verdict_uneven_rows] at decided
      refine ⟨lenientReturned, ?_⟩
      rw [compile_warnings lenientReturned]
      cases rows : unevenRows document with
      | nil => rfl
      | cons row rest => simp [rows] at decided
    · rintro ⟨lenientReturned, unrepaired⟩
      rw [compile_warnings lenientReturned, List.map_eq_nil_iff] at unrepaired
      rw [compile_guarded guards lenientReturned, verdict_uneven_rows, unrepaired]
      rfl
  · intro lenientReturned repaired
    rw [compile_warnings lenientReturned, Ne, List.map_eq_nil_iff] at repaired
    rw [compile_guarded guards lenientReturned, verdict_uneven_rows, compile_warnings lenientReturned]
    cases rows : unevenRows document with
    | nil => exact absurd rows repaired
    | cons row rest => exact ⟨row, rfl, rfl, rfl⟩

def quotedTable (lastRow : List Node) : Node :=
  .document [.quote [.document [.table none
    [.row [.cell [.text "a" []] none [], .cell [] none []] false [], .row lastRow false []] [] []]
      []] []] []

theorem compile_strict_lenient_quoted_table :
    (∃ compiled, ((compile Walk.bare.strict (some (quotedTable [.cell [] none [],
        .cell [.mathInline "x" []] none []]))).after []).outcome = .ok compiled ∧
      compiled.warnings = []) ∧
    ∃ compiled, ((compile Walk.bare.lenient (some (quotedTable [.cell [] none []]))).after
        []).outcome = .ok compiled ∧ compiled.warnings = [Walk.repair 1 2 1] ∧
      ((compile Walk.bare.strict (some (quotedTable [.cell [] none []]))).after []).outcome =
        .error (.malformedTable 1 2 1 none) := by
  constructor
  · refine ⟨⟨⟨[.quote 1 [.tree [.table [none, none]
      [[[.run ⟨"a", false, false, false, false, none⟩], []], [[], [.placeholder "inline_math"]]] none]]]⟩,
      [("inline_math", 1)], []⟩, ?_, rfl⟩
    exact (compile_strict_lenient Walk.bare _ [] _).1.mpr ⟨rfl, rfl⟩
  · refine ⟨⟨⟨[.quote 1 [.tree [.table [none, none]
      [[[.run ⟨"a", false, false, false, false, none⟩], []], [[], []]] none]]]⟩, [],
      [Walk.repair 1 2 1]⟩, ?lenient_returns, rfl, ?_⟩
    · rfl
    · obtain ⟨row, first, _, raised⟩ :=
        (compile_strict_lenient Walk.bare _ [] _).2 ?lenient_returns (List.cons_ne_nil _ _)
      obtain rfl : (⟨1, 2, 1⟩ : UnevenRow) = row := Option.some.inj first
      exact raised

end MarkdownView
