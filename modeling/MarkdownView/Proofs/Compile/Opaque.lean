import MarkdownView.Proofs.Compile.Derivation
import MarkdownView.Proofs.Inline.Resolver
set_option autoImplicit false

namespace MarkdownView

namespace Node

mutual

-- A node without what no walk reads: what is inside nodes without counterpart, metadata, whether a list
-- is tight and whether a row says that it is a header.
def erased : Node → Node
  | .document children _ => .document (erasedEach children) []
  | .heading level content _ => .heading level (erasedEach content) []
  | .paragraph content _ => .paragraph (erasedEach content) []
  | .codeBlock content language _ => .codeBlock content language []
  | .quote children _ => .quote (erasedEach children) []
  | .list ordered items start _ _ => .list ordered (erasedEach items) start false []
  | .item children status _ => .item (erasedEach children) status []
  | .table header rows alignments _ =>
    .table (erasedHeader header) (erasedEach rows) alignments []
  | .row cells _ _ => .row (erasedEach cells) false []
  | .cell content alignment _ => .cell (erasedEach content) alignment []
  | .thematicBreak _ => .thematicBreak []
  | .text content _ => .text content []
  | .emphasis content _ => .emphasis (erasedEach content) []
  | .strong content _ => .strong (erasedEach content) []
  | .strike content _ => .strike (erasedEach content) []
  | .code content _ => .code content []
  | .link url content title _ => .link url (erasedEach content) title []
  | .image url alt title width height _ => .image url alt title width height []
  | .lineBreak soft _ => .lineBreak soft []
  | .htmlBlock _ _ => .htmlBlock "" []
  | .htmlInline _ _ => .htmlInline "" []
  | .mathBlock _ _ => .mathBlock "" []
  | .mathInline _ _ => .mathInline "" []
  | .footnoteReference _ _ => .footnoteReference "" []
  | .footnoteDefinition _ _ _ => .footnoteDefinition "" [] []
  | .extension tag _ _ _ _ => .extension tag false [] "" []
  | .foreign typeName => .foreign typeName
termination_by structural node => node

def erasedEach : List Node → List Node
  | [] => []
  | node :: nodes => erased node :: erasedEach nodes
termination_by structural nodes => nodes

def erasedHeader : Option Node → Option Node
  | none => none
  | some header => some (erased header)
termination_by structural header => header

end

theorem erased_each_eq_map (nodes : List Node) : erasedEach nodes = nodes.map erased := by
  induction nodes with
  | nil => rfl
  | cons node nodes ih => rw [erasedEach, ih, List.map_cons]

theorem erased_header_eq_map (header : Option Node) : erasedHeader header = header.map erased := by
  cases header <;> rfl

theorem embedded_pieces_erased {embed : Embed} (opaqueNodes : ∀ node, embed node.erased = embed node)
    (links : Nat) (node : Node) :
    embeddedPieces embed links node.erased = embeddedPieces embed links node := by
  rw [embeddedPieces, opaqueNodes, embeddedPieces]

mutual

theorem pieces_erased {embed : Embed} (opaqueNodes : ∀ node, embed node.erased = embed node)
    (style : Style) (links : Nat) (node : Node) :
    pieces embed style links node.erased = pieces embed style links node := by
  cases node with
  | emphasis content metadata => exact pieces_of_erased opaqueNodes _ links content
  | strong content metadata => exact pieces_of_erased opaqueNodes _ links content
  | strike content metadata => exact pieces_of_erased opaqueNodes _ links content
  | link url content title metadata =>
    cases content with
    | nil => rfl
    | cons node nodes => exact pieces_of_erased opaqueNodes _ (links + 1) (node :: nodes)
  | htmlBlock content metadata => exact embedded_pieces_erased opaqueNodes links _
  | htmlInline content metadata => exact embedded_pieces_erased opaqueNodes links _
  | mathBlock content metadata => exact embedded_pieces_erased opaqueNodes links _
  | mathInline content metadata => exact embedded_pieces_erased opaqueNodes links _
  | footnoteReference identifier metadata => exact embedded_pieces_erased opaqueNodes links _
  | footnoteDefinition identifier content metadata =>
    exact embedded_pieces_erased opaqueNodes links _
  | extension tag isInline children raw metadata => exact embedded_pieces_erased opaqueNodes links _
  | image url alt title width height metadata => exact embedded_pieces_erased opaqueNodes links _
  | _ => rfl
termination_by structural node

theorem pieces_of_erased {embed : Embed} (opaqueNodes : ∀ node, embed node.erased = embed node)
    (style : Style) (links : Nat) (nodes : List Node) :
    piecesOf embed style links (erasedEach nodes) = piecesOf embed style links nodes := by
  cases nodes with
  | nil => rfl
  | cons node nodes =>
    have restErased (links : Nat) :
        piecesOf embed style links (erasedEach nodes) = piecesOf embed style links nodes :=
      pieces_of_erased opaqueNodes style links nodes
    simp only [erasedEach, piecesOf, pieces_erased opaqueNodes style links node, restErased]
termination_by structural nodes

end

end Node

namespace Walk

open Node (erased erasedEach erasedHeader)

theorem embed_erased (walk : Walk) (node : Node) : walk.embed node.erased = walk.embed node := by
  cases node <;> rfl

theorem inline_erased (walk : Walk) (content : List Node) :
    walk.inline (erasedEach content) = walk.inline content := by
  rw [inline, inline, resolve_eq_pieces, resolve_eq_pieces,
    Node.pieces_of_erased (embed_erased walk)]

theorem cell_of_erased (node : Node) :
    cellOf node.erased = (cellOf node).map (TableCell.rewritten erasedEach) := by
  cases node <;> rfl

theorem cells_of_erased (context : String) (node : Node) :
    cellsOf context node.erased =
      (cellsOf context node).map (List.map (TableCell.rewritten erasedEach)) := by
  cases node with
  | row cells isHeader metadata =>
    rw [erased, cellsOf, Node.erased_each_eq_map]
    exact map_m_map_of_each cell_of_erased cells
  | _ => rfl

theorem cells_erased (walk : Walk) (row : List (Option TableCell)) :
    walk.cells (row.map (Option.map (TableCell.rewritten erasedEach))) = walk.cells row := by
  induction row with
  | nil => rfl
  | cons entry row ih =>
    cases entry with
    | none => simp only [List.map_cons, Option.map_none, cells, ih]
    | some cell =>
      simp only [List.map_cons, Option.map_some, cells, ih, TableCell.rewritten, inline_erased]

theorem rows_erased (walk : Walk) (rows : List (List (Option TableCell))) :
    walk.rows (rows.map (List.map (Option.map (TableCell.rewritten erasedEach)))) =
      walk.rows rows := by
  induction rows with
  | nil => rfl
  | cons row rows ih => simp only [List.map_cons, Walk.rows, cells_erased, ih]

theorem header_cells_erased (walk : Walk) (header : Option (List TableCell)) :
    walk.headerCells (header.map (List.map (TableCell.rewritten erasedEach))) =
      walk.headerCells header := by
  cases header with
  | none => rfl
  | some cells =>
    have sameRow : (cells.map (TableCell.rewritten erasedEach)).map some =
        (cells.map some).map (Option.map (TableCell.rewritten erasedEach)) := by
      rw [List.map_map, List.map_map]
      rfl
    rw [Option.map_some, headerCells, headerCells, sameRow, cells_erased]

theorem table_erased (walk : Walk) (header : Option Node) (rows : List Node)
    (alignments : List (Option String)) :
    walk.table (erasedHeader header) (erasedEach rows) alignments =
      walk.table header rows alignments := by
  rw [table, table, Node.erased_header_eq_map, Node.erased_each_eq_map,
    header_of_map (cells_of_erased "table header"), map_m_map_of_each (cells_of_erased "table")]
  simp only [Traced.of_except_map, bind_map_left, width_rewritten, column_rewritten,
    fit_all_rewritten, header_cells_erased, rows_erased]

mutual

theorem block_erased (walk : Walk) (quotes lists : Int) (node : Node) :
    walk.block quotes lists node.erased = walk.block quotes lists node := by
  cases node with
  | document children metadata => simp only [erased, block, blocks_erased walk quotes lists children]
  | heading level content metadata => simp only [erased, block, leaf, inline_erased]
  | paragraph content metadata => simp only [erased, block, leaf, inline_erased]
  | quote children metadata =>
    simp only [erased, block, blocks_erased walk (quotes + 1) lists children]
  | list ordered items start tight metadata =>
    simp only [erased, block, items_erased walk quotes (lists + 1) items]
  | table header rows alignments metadata => simp only [erased, block, leaf, table_erased]
  | _ => rfl
termination_by structural node

theorem blocks_erased (walk : Walk) (quotes lists : Int) (nodes : List Node) :
    walk.blocks quotes lists (erasedEach nodes) = walk.blocks quotes lists nodes := by
  cases nodes with
  | nil => rfl
  | cons node nodes =>
    simp only [erasedEach, blocks, block_erased walk quotes lists node,
      blocks_erased walk quotes lists nodes]
termination_by structural nodes

theorem item_erased (walk : Walk) (quotes lists : Int) (node : Node) :
    walk.item quotes lists node.erased = walk.item quotes lists node := by
  cases node with
  | item children status metadata =>
    simp only [erased, item, blocks_erased walk quotes lists children]
  | _ => rfl
termination_by structural node

theorem items_erased (walk : Walk) (quotes lists : Int) (nodes : List Node) :
    walk.items quotes lists (erasedEach nodes) = walk.items quotes lists nodes := by
  cases nodes with
  | nil => rfl
  | cons node nodes =>
    simp only [erasedEach, items, item_erased walk quotes lists node,
      items_erased walk quotes lists nodes]
termination_by structural nodes

end

end Walk

theorem compile_erased (walk : Walk) (document : Option Node) :
    compile walk (document.map Node.erased) = compile walk document := by
  cases document with
  | none => rfl
  | some node =>
    cases node with
    | document children metadata =>
      simp only [Option.map_some, Node.erased, compile, Walk.tree_eq, Walk.blocks_erased]
    | _ => rfl

-- What is inside nodes without counterpart decides nothing, nor do metadata: the same is done, whatever
-- the options, the files and the highlighter are.
theorem compile_opaque (walk : Walk) {first second : Option Node}
    (same : first.map Node.erased = second.map Node.erased) :
    compile walk first = compile walk second := by
  rw [← compile_erased walk first, same, compile_erased]

def Node.annotated (note : List Node) (text : String) (flag : Bool) (metadata : Metadata) : Node :=
  .document
    [.quote [.document [.footnoteDefinition text note metadata] metadata] metadata,
      .list false [.item [.extension "aside" flag note text []] none metadata] none flag [],
      .table (some (.row [.cell [.htmlInline text metadata, .text "t" []] none []] flag [])) [] []
        metadata] metadata

def Node.spoiled : Node :=
  .annotated
    [.row [.foreign "int"] true [], .quote [.quote [] []] [], .image "lost.png" "" none none none []]
    "<script>" true [("origin", .null)]

theorem compile_opaque_annotated :
    (some (Node.annotated [] "" false [])).map Node.erased = (some Node.spoiled).map Node.erased ∧
      compile Walk.shallow (some (.annotated [] "" false [])) =
        compile Walk.shallow (some Node.spoiled) ∧
      ((compile Walk.shallow (some Node.spoiled)).after []).outcome =
        .ok ⟨⟨[.quote 1 [.tree [.inline (.placeholder "footnote_definition")]],
          .list false [.item [.inline (.placeholder "aside")] none] none 1,
          .table [none] [] (some [[.placeholder "inline_html",
            .run ⟨"t", false, false, false, false, none⟩]])]⟩,
          [("footnote_definition", 1), ("aside", 1), ("inline_html", 1)], []⟩ := by
  have same : (some (Node.annotated [] "" false [])).map Node.erased =
      (some Node.spoiled).map Node.erased := rfl
  exact ⟨same, compile_opaque Walk.shallow same, rfl⟩

end MarkdownView
