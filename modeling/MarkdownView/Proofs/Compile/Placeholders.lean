import MarkdownView.Proofs.Census
import MarkdownView.Proofs.Compile.Content
import MarkdownView.Proofs.Compile.Derivation
import MarkdownView.Proofs.Highlight
set_option autoImplicit false

namespace MarkdownView

def Inline.placeholder? : Inline → Option String
  | .placeholder kind => some kind
  | _ => none

def placeholdersIn (content : List Inline) : List String := content.filterMap Inline.placeholder?

namespace Visual

mutual

def placeholders : Visual → List String
  | .inline content => placeholdersIn [content]
  | .passage _ children => placeholdersIn children
  | .code .. => []
  | .quote _ children => placeholdersOf children
  | .item children _ => placeholdersOf children
  | .list _ items _ _ => placeholdersOf items
  | .table _ rows header => (header.toList ++ rows).flatMap fun cells => cells.flatMap placeholdersIn
  | .thematicBreak => []
  | .tree children => placeholdersOf children
termination_by structural visual => visual

def placeholdersOf : List Visual → List String
  | [] => []
  | visual :: visuals => placeholders visual ++ placeholdersOf visuals
termination_by structural visuals => visuals

end

theorem placeholders_of_append (visuals others : List Visual) :
    placeholdersOf (visuals ++ others) = placeholdersOf visuals ++ placeholdersOf others := by
  induction visuals with
  | nil => rfl
  | cons visual visuals ih =>
    rw [List.cons_append, placeholdersOf, ih, placeholdersOf, List.append_assoc]

theorem placeholders_of_singleton (visual : Visual) : placeholdersOf [visual] = placeholders visual :=
  List.append_nil _

end Visual

def Tree.placeholders (tree : Tree) : List String := Visual.placeholdersOf tree.children

namespace Walk

theorem placeholders_in_of_picture {inserted : Option Inline}
    (picture : ∀ content ∈ inserted, ∃ picture, content = .picture picture) :
    placeholdersIn inserted.toList = [] := by
  cases inserted with
  | none => rfl
  | some content =>
    obtain ⟨picture, rfl⟩ := picture content rfl
    rfl

theorem reads_placeholders {walk : Walk} {leaves : List Leaf} {pieces : List Piece}
    {events : List Event} (reads : Reads walk.embed leaves pieces events) :
    placeholdersIn (pieces.map Piece.inline) = Event.unmodelledKinds events := by
  induction reads with
  | nil => rfl
  | text _ ih => exact ih
  | @embedded node inserted _ _ _ events _ _ inserts _ ih =>
    -- A placeholder is reported in the same step that makes it; a picture comes with remarks alone.
    have insertedPlaceholders : placeholdersIn inserted.toList = Event.unmodelledKinds events := by
      rcases embed_yields inserts with ⟨quiet, picture⟩ | ⟨rfl, rfl⟩
      · rw [placeholders_in_of_picture picture, Event.unmodelled_kinds_of_quiet quiet]
      · rfl
    rw [List.map_append, Piece.inline_visuals, Event.unmodelled_kinds_append, ← ih, ← insertedPlaceholders]
    exact List.filterMap_append

theorem inline_placeholders {walk : Walk} {content : List Node} {children : List Inline}
    {past events : List Event} (yields : (walk.inline content).Yields past children events) :
    placeholdersIn children = Event.unmodelledKinds events := by
  obtain ⟨pieces, reads, rfl⟩ := inline_reads yields
  rw [← reads_placeholders reads, placeholdersIn,
    filter_map_relabel walk _ (fun _ => rfl) (fun _ => rfl), Piece.filter_map_runs _ fun _ => rfl]
  rfl

theorem row_placeholders {walk : Walk} {row : List (Option TableCell)} {cells : List Cell}
    {events : List Event} (compiles : CompilesRow walk row cells events) :
    cells.flatMap placeholdersIn = Event.unmodelledKinds events := by
  induction compiles with
  | nil => rfl
  | padding _ ih => exact ih
  | cell first _ ih =>
    rw [List.flatMap_cons, ih, inline_placeholders first, Event.unmodelled_kinds_append]

theorem rows_placeholders {walk : Walk} {rows : List (List (Option TableCell))}
    {result : List (List Cell)} {events : List Event}
    (compiles : CompilesRows walk rows result events) :
    (result.flatMap fun cells => cells.flatMap placeholdersIn) = Event.unmodelledKinds events := by
  induction compiles with
  | nil => rfl
  | cons first _ ih =>
    rw [List.flatMap_cons, ih, row_placeholders first, Event.unmodelled_kinds_append]

theorem unmodelled_kinds_repairs (width index : Nat) (rows : List (List TableCell)) :
    Event.unmodelledKinds (repairs width index rows) = [] := by
  induction rows generalizing index with
  | nil => rfl
  | cons cells rows ih =>
    rw [repairs, Event.unmodelled_kinds_append, ih, List.append_nil]
    split <;> rfl

theorem Compiles.placeholders {walk : Walk} {setting : Setting} {quotes lists : Int}
    {nodes : List Node} {visuals : List Visual} {events : List Event}
    (compiles : Compiles walk setting quotes lists nodes visuals events) :
    Visual.placeholdersOf visuals = Event.unmodelledKinds events := by
  induction compiles with
  | nil => rfl
  | cons _ _ firstIh restIh =>
    rw [Visual.placeholders_of_append, firstIh, restIh, Event.unmodelled_kinds_append]
  | heading _ contentYields =>
    rw [Visual.placeholders_of_singleton]
    exact inline_placeholders contentYields
  | paragraph contentYields =>
    rw [Visual.placeholders_of_singleton]
    exact inline_placeholders contentYields
  | code highlighted => exact (Event.unmodelled_kinds_of_quiet (highlight_quiet highlighted)).symm
  | quote _ _ _ ih =>
    rw [Visual.placeholders_of_singleton]
    exact ih
  | list _ _ ih =>
    rw [Visual.placeholders_of_singleton]
    exact ih
  | item _ ih =>
    rw [Visual.placeholders_of_singleton]
    exact ih
  | table _ _ table =>
    rw [Visual.placeholders_of_singleton, Event.unmodelled_kinds_append, unmodelled_kinds_repairs,
      List.nil_append]
    exact rows_placeholders (table.headerCompiles.append table.rowsCompile)
  | document _ ih =>
    rw [Visual.placeholders_of_singleton]
    exact ih
  | thematicBreak => rfl
  | @image _ _ _ _ _ _ _ _ inserted _ _ pictured =>
    rw [Event.unmodelled_kinds_of_quiet (picture_quiet pictured)]
    have noneInserted := placeholders_in_of_picture (picture_inserts pictured)
    cases inserted with
    | none => rfl
    | some content => exact (Visual.placeholders_of_singleton _).trans noneInserted
  | unmodelled => rfl

end Walk

-- The diagnostics of a compilation are the census of the placeholders in its tree.
theorem compile_diagnostics {walk : Walk} {document : Option Node} {past : List Event}
    {compiled : Compiled} (returned : ((compile walk document).after past).outcome = .ok compiled) :
    compiled.diagnostics = census compiled.tree.placeholders ∧
      (compiled.diagnostics.map Prod.fst).Nodup ∧ (∀ entry ∈ compiled.diagnostics, 0 < entry.2) ∧
      (compiled.hasUnmodelled = true ↔ compiled.tree.placeholders ≠ []) := by
  have counted : compiled.diagnostics = census compiled.tree.placeholders := by
    rcases compile_eq_ok returned with ⟨_, rfl⟩ | ⟨_, _, visuals, events, _, compiles, rfl⟩
    · rfl
    · exact (Event.tally_eq_census _).trans (congrArg census compiles.placeholders.symm)
  refine ⟨counted, ?_, ?_, ?_⟩
  · rw [counted, map_fst_census]
    exact erase_dups_nodup _
  · rw [counted]
    exact census_positive _
  · rw [Compiled.hasUnmodelled, counted, Bool.not_eq_true', List.isEmpty_eq_false_iff, Ne,
      census_eq_nil_iff]

theorem compile_diagnostics_nested :
    ∃ compiled, ((compile Walk.bare (some (.document
        [.quote [.mathBlock "x" []] [], .table (some (.row [.cell [.htmlInline "b" []] none []] true []))
          [.row [.cell [.emphasis [.htmlInline "i" []] []] none []] false []] [] []] []))).after
          []).outcome = .ok compiled ∧
      compiled.diagnostics = [("math", 1), ("inline_html", 2)] ∧
      compiled.diagnostics = census compiled.tree.placeholders := by
  refine ⟨⟨⟨[.quote 1 [.inline (.placeholder "math")],
    .table [none] [[[.placeholder "inline_html"]]] (some [[.placeholder "inline_html"]])]⟩,
    [("math", 1), ("inline_html", 2)], []⟩, ?returned, rfl, (compile_diagnostics ?returned).1⟩
  rfl

end MarkdownView
