import MarkdownView.Proofs.Compile.Content
import MarkdownView.Proofs.Compile.Derivation
import MarkdownView.Proofs.Highlight
set_option autoImplicit false

namespace MarkdownView

namespace Node

mutual

-- The text that a node shows, in document order; pictures, breaks and unmodelled nodes show none.
def visibleText : Node → String
  | .document children _ => visibleTextOf children
  | .heading _ content _ => visibleTextOf content
  | .paragraph content _ => visibleTextOf content
  | .codeBlock content _ _ => content
  | .quote children _ => visibleTextOf children
  | .list _ items _ _ _ => visibleTextOf items
  | .item children _ _ => visibleTextOf children
  | .table header rows _ _ => headerText header ++ visibleTextOf rows
  | .row cells _ _ => visibleTextOf cells
  | .cell content _ _ => visibleTextOf content
  | .text content _ => content
  | .emphasis content _ => visibleTextOf content
  | .strong content _ => visibleTextOf content
  | .strike content _ => visibleTextOf content
  | .code content _ => content
  | .link url content title _ =>
    if content.isEmpty then linkText url title else visibleTextOf content
  | .lineBreak soft _ => breakText soft
  | _ => ""
termination_by structural node => node

def visibleTextOf : List Node → String
  | [] => ""
  | node :: nodes => visibleText node ++ visibleTextOf nodes
termination_by structural nodes => nodes

def headerText : Option Node → String
  | none => ""
  | some header => visibleText header
termination_by structural header => header

end

theorem visible_text_embedded {node : Node} (embedded : node.isEmbedded = true) :
    visibleText node = "" := by
  cases node with
  | image => rfl
  | htmlBlock => rfl
  | htmlInline => rfl
  | mathBlock => rfl
  | mathInline => rfl
  | footnoteReference => rfl
  | footnoteDefinition => rfl
  | extension => rfl
  | _ => simp [isEmbedded, isModelled] at embedded

end Node

namespace Visual

mutual

def visibleText : Visual → String
  | .inline content => content.text
  | .passage _ children => plainText children
  | .code spans _ => spanText spans
  | .quote _ children => visibleTextOf children
  | .item children _ => visibleTextOf children
  | .list _ items _ _ => visibleTextOf items
  | .table _ rows header => String.join ((header.toList ++ rows).flatMap fun cells => cells.map plainText)
  | .thematicBreak => ""
  | .tree children => visibleTextOf children
termination_by structural visual => visual

def visibleTextOf : List Visual → String
  | [] => ""
  | visual :: visuals => visibleText visual ++ visibleTextOf visuals
termination_by structural visuals => visuals

end

theorem visible_text_of_append (visuals others : List Visual) :
    visibleTextOf (visuals ++ others) = visibleTextOf visuals ++ visibleTextOf others := by
  induction visuals with
  | nil => exact (String.empty_append).symm
  | cons visual visuals ih =>
    rw [List.cons_append, visibleTextOf, ih, visibleTextOf, String.append_assoc]

theorem visible_text_of_singleton (visual : Visual) : visibleTextOf [visual] = visibleText visual :=
  String.append_empty

end Visual

def Tree.visibleText (tree : Tree) : String := Visual.visibleTextOf tree.children

def Leaf.shown : Leaf → String
  | .text content => content
  | .embedded node => node.visibleText

namespace Node

theorem visible_text_of_append (nodes others : List Node) :
    visibleTextOf (nodes ++ others) = visibleTextOf nodes ++ visibleTextOf others := by
  induction nodes with
  | nil => exact (String.empty_append).symm
  | cons node nodes ih => rw [List.cons_append, visibleTextOf, ih, visibleTextOf, String.append_assoc]

theorem visible_text_of_singleton (node : Node) : visibleTextOf [node] = visibleText node :=
  String.append_empty

theorem join_shown_singleton (leaf : Leaf) : String.join ([leaf].map Leaf.shown) = leaf.shown := by
  rw [List.map_singleton, String.join_cons, String.join_nil, String.append_empty]

mutual

theorem join_shown_leaves (node : Node) :
    String.join ((leaves node).map Leaf.shown) = visibleText node := by
  cases node with
  | emphasis content metadata => exact join_shown_leaves_of content
  | strong content metadata => exact join_shown_leaves_of content
  | strike content metadata => exact join_shown_leaves_of content
  | link url content title metadata =>
    cases content with
    | nil => exact join_shown_singleton _
    | cons node nodes => exact join_shown_leaves_of (node :: nodes)
  | _ => exact join_shown_singleton _
termination_by structural node

theorem join_shown_leaves_of (nodes : List Node) :
    String.join ((leavesOf nodes).map Leaf.shown) = visibleTextOf nodes := by
  cases nodes with
  | nil => rfl
  | cons node nodes =>
    rw [leavesOf, List.map_append, String.join_append, join_shown_leaves node,
      join_shown_leaves_of nodes, visibleTextOf]
termination_by structural nodes

end

end Node

theorem Reads.shown {embed : Embed} {leaves : List Leaf} {pieces : List Piece} {events : List Event}
    (reads : Reads embed leaves pieces events)
    (silent : ∀ node inserted past later, .embedded node ∈ leaves →
      (embed node).Yields past (some inserted) later → inserted.text = "") :
    plainText (pieces.map Piece.inline) = String.join (leaves.map Leaf.shown) := by
  induction reads with
  | nil => rfl
  | text _ ih =>
    have restShown := ih fun node inserted past later member =>
      silent node inserted past later (List.mem_cons_of_mem _ member)
    rw [List.map_cons, List.map_cons, Piece.plain_text_cons, String.join_cons, restShown]
    rfl
  | @embedded node inserted _ _ past events _ embedded inserts _ ih =>
    have restShown := ih fun node inserted past later member =>
      silent node inserted past later (List.mem_cons_of_mem _ member)
    have insertedText : plainText ((inserted.toList.map Piece.visual).map Piece.inline) = "" := by
      cases inserted with
      | none => rfl
      | some content =>
        rw [Piece.inline_visuals, Option.toList_some, Piece.plain_text_cons,
          silent node content past events List.mem_cons_self inserts]
        rfl
    rw [List.map_append, Piece.plain_text_append, insertedText, restShown, List.map_cons,
      String.join_cons, Leaf.shown, Node.visible_text_embedded embedded]

theorem resolve_of_texts (embed : Embed) (style : Style) {content : List Node}
    (texts : ∀ leaf ∈ Node.leavesOf content, ∃ text, leaf = .text text) :
    ∃ runs, (∀ past, (resolve embed style content).Yields past runs []) ∧
      plainText runs = Node.visibleTextOf content := by
  obtain ⟨⟨pieces, count⟩, read⟩ := Node.pieces_of_of_texts embed style 0 content texts
  have yields : (Node.piecesOf embed style 0 content).Yields [] (pieces, count) [] := by
    rw [read]
    exact Traced.yields_pure_iff.mpr ⟨rfl, rfl⟩
  have reads := Node.pieces_of_reads yields
  refine ⟨Piece.runs pieces, fun past => ?_, ?_⟩
  · rw [resolve_eq_pieces, read, pure_bind]
    exact Traced.yields_pure_iff.mpr ⟨rfl, rfl⟩
  · rw [Piece.plain_text_runs, reads.shown, Node.join_shown_leaves_of]
    intro node inserted past later member _
    obtain ⟨text, same⟩ := texts _ member
    cases same

namespace Walk

theorem reads_text {walk : Walk} {leaves : List Leaf} {pieces : List Piece} {events : List Event}
    (reads : Reads walk.embed leaves pieces events) :
    plainText (pieces.map Piece.inline) = String.join (leaves.map Leaf.shown) := by
  -- What a walk puts in is a picture or a placeholder, neither of which shows a text.
  refine reads.shown fun node inserted past later _ inserts => ?_
  rcases embed_yields inserts with ⟨_, picture⟩ | ⟨same, _⟩
  · obtain ⟨picture, rfl⟩ := picture inserted rfl
    rfl
  · cases same
    rfl

theorem inline_text {walk : Walk} {content : List Node} {children : List Inline}
    {past events : List Event} (yields : (walk.inline content).Yields past children events) :
    plainText children = Node.visibleTextOf content := by
  obtain ⟨pieces, reads, rfl⟩ := inline_reads yields
  rw [plain_text_relabel, Piece.plain_text_runs, reads_text reads, Node.join_shown_leaves_of]

def cellsText (cells : List TableCell) : String :=
  String.join (cells.map fun cell => Node.visibleTextOf cell.content)

theorem row_text {walk : Walk} {row : List TableCell} {cells : List Cell} {events : List Event}
    (compiles : CompilesRow walk (row.map some) cells events) :
    String.join (cells.map plainText) = cellsText row := by
  induction row generalizing cells events with
  | nil =>
    cases compiles
    rfl
  | cons cell row ih =>
    cases compiles with
    | cell first rest =>
      rw [cellsText, List.map_cons, List.map_cons, String.join_cons, String.join_cons,
        inline_text first, ih rest, cellsText]

theorem rows_text {walk : Walk} {rows : List (List TableCell)} {result : List (List Cell)}
    {events : List Event} (compiles : CompilesRows walk (rows.map (List.map some)) result events) :
    String.join (result.flatMap fun cells => cells.map plainText) =
      String.join (rows.map cellsText) := by
  induction rows generalizing result events with
  | nil =>
    cases compiles
    rfl
  | cons row rows ih =>
    cases compiles with
    | cons first rest =>
      rw [List.flatMap_cons, List.map_cons, String.join_append, String.join_cons, row_text first,
        ih rest]

theorem cell_nodes_text {nodes : List Node} {cells : List TableCell}
    (read : List.Forall₂ (fun node cell => cellOf node = .ok cell) nodes cells) :
    Node.visibleTextOf nodes = cellsText cells := by
  induction read with
  | nil => rfl
  | cons first _ ih =>
    obtain ⟨metadata, rfl⟩ := cell_of_eq_ok_iff.mp first
    rw [Node.visibleTextOf, ih, cellsText, cellsText, List.map_cons, String.join_cons]
    rfl

theorem row_nodes_text {context : String} {nodes : List Node} {rows : List (List TableCell)}
    (read : List.Forall₂ (fun node row => cellsOf context node = .ok row) nodes rows) :
    Node.visibleTextOf nodes = String.join (rows.map cellsText) := by
  induction read with
  | nil => rfl
  | cons first _ ih =>
    obtain ⟨cells, isHeader, metadata, rfl, cellsRead⟩ := cells_of_eq_ok_iff.mp first
    rw [Node.visibleTextOf, ih, List.map_cons, String.join_cons, ← cell_nodes_text cellsRead]
    rfl

theorem header_text_eq (header : Option Node) :
    Node.headerText header = Node.visibleTextOf header.toList := by
  cases header with
  | none => rfl
  | some node => exact (Node.visible_text_of_singleton node).symm

theorem table_text {walk : Walk} (strict : walk.options.isStrict = true) {header : Option Node}
    {body : List Node} {headerRow : Option (List TableCell)} {bodyRows : List (List TableCell)}
    {width : Nat} {headerCells : Option (List Cell)} {rows : List (List Cell)}
    {headerEvents rowEvents : List Event} (headerRead : headerOf header = .ok headerRow)
    (bodyRead : body.mapM (cellsOf "table") = .ok bodyRows)
    (compiles : CompilesTable walk headerRow bodyRows width headerCells rows headerEvents rowEvents) :
    String.join ((headerCells.toList ++ rows).flatMap fun cells => cells.map plainText) =
      Node.headerText header ++ Node.visibleTextOf body := by
  rw [List.flatMap_append, String.join_append, rows_text compiles.headerCompiles,
    rows_text (compiles.rows_whole strict), header_text_eq, row_nodes_text (header_of_eq_ok_iff.mp headerRead),
    row_nodes_text (map_m_eq_ok_iff.mp bodyRead)]

theorem Compiles.visible_text {walk : Walk} (strict : walk.options.isStrict = true)
    {setting : Setting} {quotes lists : Int} {nodes : List Node} {visuals : List Visual}
    {events : List Event} (compiles : Compiles walk setting quotes lists nodes visuals events) :
    Visual.visibleTextOf visuals = Node.visibleTextOf nodes := by
  induction compiles with
  | nil => rfl
  | cons _ _ firstIh restIh =>
    rw [Visual.visible_text_of_append, firstIh, restIh, Node.visible_text_of_singleton,
      Node.visibleTextOf]
  | heading _ contentYields =>
    rw [Visual.visible_text_of_singleton, Node.visible_text_of_singleton]
    exact inline_text contentYields
  | paragraph contentYields =>
    rw [Visual.visible_text_of_singleton, Node.visible_text_of_singleton]
    exact inline_text contentYields
  | code highlighted =>
    rw [Visual.visible_text_of_singleton, Node.visible_text_of_singleton]
    exact highlight_span_text highlighted
  | quote _ _ _ ih =>
    rw [Visual.visible_text_of_singleton, Node.visible_text_of_singleton]
    exact ih
  | list _ _ ih =>
    rw [Visual.visible_text_of_singleton, Node.visible_text_of_singleton]
    exact ih
  | item _ ih =>
    rw [Visual.visible_text_of_singleton, Node.visible_text_of_singleton]
    exact ih
  | table headerRead bodyRead table =>
    rw [Visual.visible_text_of_singleton, Node.visible_text_of_singleton]
    exact table_text strict headerRead bodyRead table
  | document _ ih =>
    rw [Visual.visible_text_of_singleton, Node.visible_text_of_singleton]
    exact ih
  | thematicBreak => rfl
  | @image _ _ _ _ _ _ _ _ inserted _ _ pictured =>
    cases inserted with
    | none => rfl
    | some content =>
      obtain ⟨picture, rfl⟩ := picture_inserts pictured content rfl
      rfl
  | @unmodelled _ _ node embedded _ =>
    rw [Node.visible_text_of_singleton, Node.visible_text_embedded embedded]
    rfl

end Walk

-- Where rows have to be as wide as their table, no text is lost, shown twice or moved.
theorem compile_visible_text {walk : Walk} (strict : walk.options.isStrict = true)
    {document : Option Node} {past : List Event} {compiled : Compiled}
    (returned : ((compile walk document).after past).outcome = .ok compiled) :
    compiled.tree.visibleText = Node.visibleTextOf document.toList := by
  rcases compile_eq_ok returned with ⟨rfl, rfl⟩ | ⟨children, metadata, visuals, events, rfl, compiles, rfl⟩
  · rfl
  · calc
      Visual.visibleTextOf visuals = Node.visibleTextOf children := compiles.visible_text strict
      _ = Node.visibleTextOf [.document children metadata] :=
        (Node.visible_text_of_singleton (.document children metadata)).symm

theorem compile_visible_text_nested :
    Walk.bare.options.isStrict = true ∧
      ∃ compiled, ((compile Walk.bare (some (.document
          [.heading 1 [.link "u" [] none []] [], .quote [.document [.codeBlock "c" none []] []] [],
            .table (some (.row [.cell [.code "h" []] none []] true []))
              [.row [.cell [.text "a" [], .lineBreak true [], .mathInline "m" []] none []] false []]
              [] []] []))).after []).outcome = .ok compiled ∧
        compiled.tree.visibleText = "ucha " := by
  refine ⟨rfl, ⟨⟨[.passage 1 [.run ⟨"u", false, false, false, false, some "u"⟩],
    .quote 1 [.tree [.code [Span.plain "c"] none]], .table [none]
      [[[.run ⟨"a ", false, false, false, false, none⟩, .placeholder "inline_math"]]]
      (some [[.code "h"]])]⟩, [("inline_math", 1)], []⟩, ?returned, ?shown⟩
  · rfl
  · exact compile_visible_text rfl ?returned

end MarkdownView
