import MarkdownView.Proofs.Compile.Restoration
import MarkdownView.Proofs.Inline.Alike
set_option autoImplicit false

namespace MarkdownView

open Traced (alike_steady alike_bind alike_map_failure)

namespace Walk

structure Alike (first second : Walk) : Prop where
  options : first.options = second.options
  pictures : ∀ url alt title width height,
    (first.picture url alt title width height).Alike (second.picture url alt title width height)
  highlighters : first.highlighter.Agrees second.highlighter

theorem picture_alike (walk : Walk) (url alt : String) (title : Option String)
    (width height : Option Int) :
    (walk.picture url alt title width height).Alike (walk.picture url alt title width height) := by
  rw [picture]
  split
  · exact alike_bind (alike_steady _) fun _ => alike_steady _
  · exact alike_bind (Picture.load_alike _ _ _ _ _ _ _ _) fun _ => alike_steady _

theorem alike_self {walk : Walk} (highlighterPure : walk.highlighter.IsPure) : walk.Alike walk :=
  ⟨rfl, picture_alike walk, highlighterPure⟩

theorem placeholder_alike (kind : String) :
    (unmodelled kind >>= fun placeholder => pure (some (Visual.inline placeholder))).Alike
      (unmodelled kind >>= fun placeholder => pure (some (Visual.inline placeholder))) := by
  refine alike_bind ?_ fun _ => alike_steady _
  exact alike_bind (alike_steady _) fun _ => alike_steady _

theorem fit_alike {first second : Walk}
    (sameStrictness : first.options.isStrict = second.options.isStrict) (width index : Nat)
    (cells : List TableCell) : (first.fit width index cells).Alike (second.fit width index cells) := by
  rw [fit, fit, sameStrictness]
  split
  · exact alike_steady _
  · split
    · exact alike_steady _
    · exact alike_bind (alike_steady _) fun _ => alike_steady _

theorem fit_all_alike {first second : Walk}
    (sameStrictness : first.options.isStrict = second.options.isStrict) (width index : Nat)
    (rows : List (List TableCell)) :
    (first.fitAll width index rows).Alike (second.fitAll width index rows) := by
  induction rows generalizing index with
  | nil => exact alike_steady _
  | cons cells rows ih =>
    refine alike_bind (fit_alike sameStrictness width index cells) fun _ => ?_
    exact alike_bind (ih (index + 1)) fun _ => alike_steady _

section

variable {first second : Walk} (alike : first.Alike second)

include alike

theorem embed_alike (node : Node) : (first.embed node).Alike (second.embed node) := by
  cases node with
  | image url alt title width height metadata => exact alike.pictures url alt title width height
  | _ =>
    refine alike_bind ?_ fun _ => alike_steady _
    exact alike_bind (alike_steady _) fun _ => alike_steady _

theorem inline_alike (content : List Node) : (first.inline content).Alike (second.inline content) := by
  rw [Walk.inline, Walk.inline, resolve_eq_pieces, resolve_eq_pieces, alike.options]
  have pieces := Node.pieces_of_alike (embed_alike alike) Style.plain 0 content
  exact alike_bind (alike_bind pieces fun _ => alike_steady _) fun _ => alike_steady _

theorem code_alike (content : String) (language : Option String) :
    (first.code content language).Alike (second.code content language) := by
  have sameLanguage : first.language language = second.language language := by
    simp only [Walk.language, alike.options]
  rw [Walk.code, Walk.code, sameLanguage]
  exact alike_bind (highlight_alike alike.highlighters true content _) fun _ => alike_steady _

theorem cells_alike (row : List (Option TableCell)) :
    (first.cells row).Alike (second.cells row) := by
  induction row with
  | nil => exact alike_steady _
  | cons entry row ih =>
    cases entry with
    | none => exact alike_bind ih fun _ => alike_steady _
    | some cell =>
      refine alike_bind (alike_map_failure _ (inline_alike alike cell.content)) fun _ => ?_
      exact alike_bind ih fun _ => alike_steady _

theorem rows_alike (rows : List (List (Option TableCell))) :
    (first.rows rows).Alike (second.rows rows) := by
  induction rows with
  | nil => exact alike_steady _
  | cons row rows ih =>
    refine alike_bind (cells_alike alike row) fun _ => ?_
    exact alike_bind ih fun _ => alike_steady _

theorem header_cells_alike (header : Option (List TableCell)) :
    (first.headerCells header).Alike (second.headerCells header) := by
  cases header with
  | none => exact alike_steady _
  | some cells => exact alike_bind (cells_alike alike _) fun _ => alike_steady _

theorem table_alike (header : Option Node) (rows : List Node) (alignments : List (Option String)) :
    (first.table header rows alignments).Alike (second.table header rows alignments) := by
  refine alike_bind (alike_steady _) fun header => ?_
  refine alike_bind (alike_steady _) fun body => ?_
  have sameStrictness : first.options.isStrict = second.options.isStrict := by rw [alike.options]
  refine alike_bind (fit_all_alike sameStrictness _ 0 body) fun fitted => ?_
  refine alike_bind (header_cells_alike alike header) fun headerCells => ?_
  exact alike_bind (rows_alike alike fitted) fun cells => alike_steady _

end

mutual

theorem block_alike {first second : Walk} (alike : first.Alike second) (quotes lists : Int)
    (node : Node) : (first.block quotes lists node).Alike (second.block quotes lists node) := by
  cases node with
  | document children metadata =>
    exact alike_bind (blocks_alike alike quotes lists children) fun _ => alike_steady _
  | heading level content metadata =>
    refine alike_bind (inline_alike alike content) fun _ => ?_
    exact alike_bind (alike_steady _) fun _ => alike_steady _
  | paragraph content metadata =>
    refine alike_bind (inline_alike alike content) fun _ => ?_
    exact alike_bind (alike_steady _) fun _ => alike_steady _
  | codeBlock content language metadata =>
    exact alike_bind (code_alike alike content language) fun _ => alike_steady _
  | quote children metadata =>
    rw [block, block, alike.options]
    refine alike_bind (alike_steady _) fun _ => ?_
    refine alike_bind (blocks_alike alike (quotes + 1) lists children) fun _ => ?_
    exact alike_bind (alike_steady _) fun _ => alike_steady _
  | list ordered items start tight metadata =>
    rw [block, block, alike.options]
    refine alike_bind (alike_steady _) fun _ => ?_
    exact alike_bind (items_alike alike quotes (lists + 1) items) fun _ => alike_steady _
  | table header rows alignments metadata =>
    exact alike_bind (table_alike alike header rows alignments) fun _ => alike_steady _
  | image url alt title width height metadata =>
    exact alike_bind (alike.pictures url alt title width height) fun _ => alike_steady _
  | htmlBlock content metadata => exact placeholder_alike _
  | htmlInline content metadata => exact placeholder_alike _
  | mathBlock content metadata => exact placeholder_alike _
  | mathInline content metadata => exact placeholder_alike _
  | footnoteReference identifier metadata => exact placeholder_alike _
  | footnoteDefinition identifier content metadata => exact placeholder_alike _
  | extension tag isInline children raw metadata => exact placeholder_alike _
  | _ => exact alike_steady _
termination_by structural node

theorem blocks_alike {first second : Walk} (alike : first.Alike second) (quotes lists : Int)
    (nodes : List Node) : (first.blocks quotes lists nodes).Alike (second.blocks quotes lists nodes) := by
  cases nodes with
  | nil => exact alike_steady _
  | cons node nodes =>
    refine alike_bind (alike_map_failure _ (block_alike alike quotes lists node)) fun _ => ?_
    exact alike_bind (blocks_alike alike quotes lists nodes) fun _ => alike_steady _
termination_by structural nodes

theorem item_alike {first second : Walk} (alike : first.Alike second) (quotes lists : Int)
    (node : Node) : (first.item quotes lists node).Alike (second.item quotes lists node) := by
  cases node with
  | item children status metadata =>
    exact alike_bind (blocks_alike alike quotes lists children) fun _ => alike_steady _
  | _ => exact alike_steady _
termination_by structural node

theorem items_alike {first second : Walk} (alike : first.Alike second) (quotes lists : Int)
    (nodes : List Node) : (first.items quotes lists nodes).Alike (second.items quotes lists nodes) := by
  cases nodes with
  | nil => exact alike_steady _
  | cons node nodes =>
    refine alike_bind (item_alike alike quotes lists node) fun _ => ?_
    exact alike_bind (items_alike alike quotes lists nodes) fun _ => alike_steady _
termination_by structural nodes

end

theorem tree_alike {first second : Walk} (alike : first.Alike second) (children : List Node) :
    (first.tree children).Alike (second.tree children) := by
  rw [tree_eq, tree_eq]
  exact alike_bind (blocks_alike alike 0 0 children) fun _ => alike_steady _

end Walk

end MarkdownView
