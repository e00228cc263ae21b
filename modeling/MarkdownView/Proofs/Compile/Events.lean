import MarkdownView.Proofs.Compile.Content
import MarkdownView.Proofs.Compile.Restoration
import MarkdownView.Proofs.Highlight
import MarkdownView.Proofs.Inline.Resolver
set_option autoImplicit false

namespace MarkdownView

open Traced (IsRemark emits_bind emits_emit emits_fail emits_map_failure emits_of_except emits_pure)

namespace Node

variable {allowed : List Event → Event → Prop} {embed : Embed}

theorem embedded_pieces_emit (answers : ∀ node, (embed node).Emits allowed) (links : Nat)
    (node : Node) : (embeddedPieces embed links node).Emits allowed :=
  emits_bind (answers node) fun _ => emits_pure _

mutual

theorem pieces_emit (answers : ∀ node, (embed node).Emits allowed) (style : Style) (links : Nat)
    (node : Node) : (pieces embed style links node).Emits allowed := by
  cases node with
  | text content metadata => exact emits_pure _
  | code content metadata => exact emits_pure _
  | lineBreak soft metadata => exact emits_pure _
  | emphasis content metadata => exact pieces_of_emit answers _ links content
  | strong content metadata => exact pieces_of_emit answers _ links content
  | strike content metadata => exact pieces_of_emit answers _ links content
  | link url content title metadata =>
    cases content with
    | nil => exact emits_pure _
    | cons node nodes => exact pieces_of_emit answers _ (links + 1) (node :: nodes)
  | image url alt title width height metadata => exact embedded_pieces_emit answers links _
  | htmlBlock content metadata => exact embedded_pieces_emit answers links _
  | htmlInline content metadata => exact embedded_pieces_emit answers links _
  | mathBlock content metadata => exact embedded_pieces_emit answers links _
  | mathInline content metadata => exact embedded_pieces_emit answers links _
  | footnoteReference identifier metadata => exact embedded_pieces_emit answers links _
  | footnoteDefinition identifier content metadata => exact embedded_pieces_emit answers links _
  | extension tag isInline children raw metadata => exact embedded_pieces_emit answers links _
  | _ => exact emits_fail _
termination_by structural node

theorem pieces_of_emit (answers : ∀ node, (embed node).Emits allowed) (style : Style) (links : Nat)
    (nodes : List Node) : (piecesOf embed style links nodes).Emits allowed := by
  cases nodes with
  | nil => exact emits_pure _
  | cons node nodes =>
    refine emits_bind (pieces_emit answers style links node) fun first => ?_
    exact emits_bind (pieces_of_emit answers style first.2 nodes) fun _ => emits_pure _
termination_by structural nodes

end

end Node

namespace Walk

structure Admits (allowed : List Event → Event → Prop) : Prop where
  remarks : ∀ past event, IsRemark event → allowed past event
  kinds : ∀ past kind, allowed past (.unmodelled kind)
  repairs : ∀ past index width actual, allowed past (.repaired (repair index width actual))

structure Permits (walk : Walk) (allowed : List Event → Event → Prop) : Prop extends Admits allowed where
  calls : ∀ source language past, language ≠ "" →
    allowed past (.called source language ((walk.highlighter source language).after past).events)

theorem code_emits {walk : Walk} {allowed : List Event → Event → Prop} (permits : walk.Permits allowed)
    (content : String) (language : Option String) : (walk.code content language).Emits allowed := by
  have highlighted := highlight_emits permits.remarks (permits.calls content) true
    (walk.language language)
  exact emits_bind highlighted fun _ => emits_pure _

section

variable {walk : Walk} {allowed : List Event → Event → Prop} (admits : Admits allowed)

include admits

theorem unmodelled_emits (kind : String) : (unmodelled kind).Emits allowed :=
  emits_bind (emits_emit fun past => admits.kinds past kind) fun _ => emits_pure _

theorem picture_admitted (url alt : String) (title : Option String) (width height : Option Int) :
    (walk.picture url alt title width height).Emits allowed := by
  intro past
  have remarks := (picture_emits walk url alt title width height).all past
  exact Traced.follow_of_all fun past event member => admits.remarks past event (remarks event member)

theorem embed_emits (node : Node) : (walk.embed node).Emits allowed := by
  cases node with
  | image url alt title width height metadata =>
    exact picture_admitted admits url alt title width height
  | _ => exact emits_bind (unmodelled_emits admits _) fun _ => emits_pure _

theorem inline_emits (content : List Node) : (walk.inline content).Emits allowed := by
  have answers (node : Node) : (walk.embed node).Emits allowed := embed_emits admits node
  have pieces := Node.pieces_of_emit answers Style.plain 0 content
  rw [Walk.inline, resolve_eq_pieces]
  exact emits_bind (emits_bind pieces fun _ => emits_pure _) fun _ => emits_pure _

theorem fit_emits (width index : Nat) (cells : List TableCell) :
    (walk.fit width index cells).Emits allowed := by
  rw [fit]
  split
  · exact emits_pure _
  · split
    · exact emits_fail _
    · exact emits_bind (emits_emit fun past => admits.repairs past _ _ _) fun _ => emits_pure _

theorem fit_all_emits (width index : Nat) (rows : List (List TableCell)) :
    (walk.fitAll width index rows).Emits allowed := by
  induction rows generalizing index with
  | nil => exact emits_pure _
  | cons cells rows ih =>
    refine emits_bind (fit_emits admits width index cells) fun _ => ?_
    exact emits_bind (ih (index + 1)) fun _ => emits_pure _

theorem cells_emit (row : List (Option TableCell)) : (walk.cells row).Emits allowed := by
  induction row with
  | nil => exact emits_pure _
  | cons entry row ih =>
    cases entry with
    | none => exact emits_bind ih fun _ => emits_pure _
    | some cell =>
      have contentEmits : (walk.inline cell.content).Emits allowed := inline_emits admits cell.content
      refine emits_bind (emits_map_failure _ contentEmits) fun _ => ?_
      exact emits_bind ih fun _ => emits_pure _

theorem rows_emit (rows : List (List (Option TableCell))) : (walk.rows rows).Emits allowed := by
  induction rows with
  | nil => exact emits_pure _
  | cons row rows ih =>
    refine emits_bind (cells_emit admits row) fun _ => ?_
    exact emits_bind ih fun _ => emits_pure _

theorem header_cells_emit (header : Option (List TableCell)) :
    (walk.headerCells header).Emits allowed := by
  cases header with
  | none => exact emits_pure _
  | some cells => exact emits_bind (cells_emit admits _) fun _ => emits_pure _

theorem table_emits (header : Option Node) (rows : List Node) (alignments : List (Option String)) :
    (walk.table header rows alignments).Emits allowed := by
  refine emits_bind (emits_of_except _) fun header => ?_
  refine emits_bind (emits_of_except _) fun body => ?_
  refine emits_bind (fit_all_emits admits _ 0 body) fun fitted => ?_
  refine emits_bind (header_cells_emit admits header) fun _ => ?_
  exact emits_bind (rows_emit admits fitted) fun _ => emits_of_except _

theorem placeholder_emits (kind : String) :
    (unmodelled kind >>= fun placeholder => pure (some (Visual.inline placeholder))).Emits allowed :=
  emits_bind (unmodelled_emits admits kind) fun _ => emits_pure _

end

def isLeaf : Node → Bool
  | .document .. => false
  | .codeBlock .. => false
  | .quote .. => false
  | .list .. => false
  | _ => true

theorem leaf_emits {walk : Walk} {allowed : List Event → Event → Prop} (admits : Admits allowed) (quotes lists : Int)
    {node : Node} (leaf : isLeaf node = true) : (walk.block quotes lists node).Emits allowed := by
  cases node with
  | document children metadata => cases leaf
  | heading level content metadata =>
    refine emits_bind (inline_emits admits content) fun _ => ?_
    exact emits_bind (emits_of_except _) fun _ => emits_pure _
  | paragraph content metadata =>
    refine emits_bind (inline_emits admits content) fun _ => ?_
    exact emits_bind (emits_of_except _) fun _ => emits_pure _
  | codeBlock content language metadata => cases leaf
  | quote children metadata => cases leaf
  | list ordered items start tight metadata => cases leaf
  | table header rows alignments metadata =>
    exact emits_bind (table_emits admits header rows alignments) fun _ => emits_pure _
  | thematicBreak metadata => exact emits_pure _
  | image url alt title width height metadata =>
    exact emits_bind (picture_admitted admits url alt title width height) fun _ => emits_pure _
  | htmlBlock content metadata => exact placeholder_emits admits _
  | htmlInline content metadata => exact placeholder_emits admits _
  | mathBlock content metadata => exact placeholder_emits admits _
  | mathInline content metadata => exact placeholder_emits admits _
  | footnoteReference identifier metadata => exact placeholder_emits admits _
  | footnoteDefinition identifier content metadata => exact placeholder_emits admits _
  | extension tag isInline children raw metadata => exact placeholder_emits admits _
  | _ => exact emits_fail _

mutual

theorem block_emits {walk : Walk} {allowed : List Event → Event → Prop} (permits : walk.Permits allowed)
    (quotes lists : Int) (node : Node) : (walk.block quotes lists node).Emits allowed := by
  cases node with
  | document children metadata =>
    exact emits_bind (blocks_emit permits quotes lists children) fun _ => emits_pure _
  | codeBlock content language metadata =>
    exact emits_bind (code_emits permits content language) fun _ => emits_pure _
  | quote children metadata =>
    refine emits_bind (emits_of_except _) fun _ => ?_
    refine emits_bind (blocks_emit permits (quotes + 1) lists children) fun _ => ?_
    exact emits_bind (emits_of_except _) fun _ => emits_pure _
  | list ordered items start tight metadata =>
    refine emits_bind (emits_of_except _) fun _ => ?_
    exact emits_bind (items_emit permits quotes (lists + 1) items) fun _ => emits_pure _
  | _ => exact leaf_emits permits.toAdmits quotes lists rfl
termination_by structural node

theorem blocks_emit {walk : Walk} {allowed : List Event → Event → Prop} (permits : walk.Permits allowed)
    (quotes lists : Int) (nodes : List Node) : (walk.blocks quotes lists nodes).Emits allowed := by
  cases nodes with
  | nil => exact emits_pure _
  | cons node nodes =>
    have firstEmits := block_emits permits quotes lists node
    refine emits_bind (emits_map_failure _ firstEmits) fun _ => ?_
    exact emits_bind (blocks_emit permits quotes lists nodes) fun _ => emits_pure _
termination_by structural nodes

theorem item_emits {walk : Walk} {allowed : List Event → Event → Prop} (permits : walk.Permits allowed)
    (quotes lists : Int) (node : Node) : (walk.item quotes lists node).Emits allowed := by
  cases node with
  | item children status metadata =>
    exact emits_bind (blocks_emit permits quotes lists children) fun _ => emits_pure _
  | _ => exact emits_fail _
termination_by structural node

theorem items_emit {walk : Walk} {allowed : List Event → Event → Prop} (permits : walk.Permits allowed)
    (quotes lists : Int) (nodes : List Node) : (walk.items quotes lists nodes).Emits allowed := by
  cases nodes with
  | nil => exact emits_pure _
  | cons node nodes =>
    refine emits_bind (item_emits permits quotes lists node) fun _ => ?_
    exact emits_bind (items_emit permits quotes lists nodes) fun _ => emits_pure _
termination_by structural nodes

end

end Walk

theorem of_walk_emits {allowed : List Event → Event → Prop} (remarks : ∀ past event, IsRemark event → allowed past event)
    {walked : Traced Tree} (emits : walked.Emits allowed) :
    (Compiled.ofWalk walked).Emits allowed := by
  intro past
  simp only [Compiled.ofWalk]
  cases (walked.after past).outcome with
  | error failure => exact emits past
  | ok tree =>
    exact Traced.follow_append (emits past) ⟨remarks _ _ ⟨_, _, rfl, rfl⟩, trivial⟩

theorem compile_emits {walk : Walk} {allowed : List Event → Event → Prop} (permits : walk.Permits allowed)
    (document : Option Node) : (compile walk document).Emits allowed := by
  cases document with
  | none => exact emits_pure _
  | some node =>
    cases node with
    | document children metadata =>
      have blocksEmit := Walk.blocks_emit permits 0 0 children
      rw [compile, Walk.tree_eq]
      exact of_walk_emits permits.remarks (emits_bind blocksEmit fun _ => emits_pure _)
    | _ => exact emits_fail _

end MarkdownView
