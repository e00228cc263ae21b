import MarkdownView.Proofs.Compile.Placeholders
import MarkdownView.Proofs.Visual.Contents
set_option autoImplicit false

namespace MarkdownView

def Leaf.unmodelled? : Leaf → Option String
  | .text _ => none
  | .embedded node => if node.isModelled then none else some node.kind

namespace Node

mutual

def blockLeaves : Node → List Leaf
  | .document children _ => blockLeavesOf children
  | .heading _ content _ => leavesOf content
  | .paragraph content _ => leavesOf content
  | .quote children _ => blockLeavesOf children
  | .list _ items _ _ _ => blockLeavesOf items
  | .item children _ _ => blockLeavesOf children
  | .table header rows _ _ => headerLeaves header ++ blockLeavesOf rows
  | .row cells _ _ => blockLeavesOf cells
  | .cell content _ _ => leavesOf content
  | node => [.embedded node]
termination_by structural node => node

def blockLeavesOf : List Node → List Leaf
  | [] => []
  | node :: nodes => blockLeaves node ++ blockLeavesOf nodes
termination_by structural nodes => nodes

def headerLeaves : Option Node → List Leaf
  | none => []
  | some header => blockLeaves header
termination_by structural header => header

end

def unmodelledIn (nodes : List Node) : List String :=
  (blockLeavesOf nodes).filterMap Leaf.unmodelled?

theorem block_leaves_of_append (nodes others : List Node) :
    blockLeavesOf (nodes ++ others) = blockLeavesOf nodes ++ blockLeavesOf others := by
  induction nodes with
  | nil => rfl
  | cons node nodes ih => rw [List.cons_append, blockLeavesOf, blockLeavesOf, ih, List.append_assoc]

theorem block_leaves_of_singleton (node : Node) : blockLeavesOf [node] = blockLeaves node :=
  List.append_nil _

theorem header_leaves_eq (header : Option Node) :
    headerLeaves header = blockLeavesOf header.toList := by
  cases header with
  | none => rfl
  | some header => exact (block_leaves_of_singleton header).symm

theorem unmodelled_in_append (nodes others : List Node) :
    unmodelledIn (nodes ++ others) = unmodelledIn nodes ++ unmodelledIn others := by
  rw [unmodelledIn, block_leaves_of_append, List.filterMap_append, unmodelledIn, unmodelledIn]

theorem unmodelled_in_singleton (node : Node) :
    unmodelledIn [node] = (blockLeaves node).filterMap Leaf.unmodelled? := by
  rw [unmodelledIn, block_leaves_of_singleton]

theorem block_leaves_of_unmodelled {node : Node} (unmodelled : node.isModelled = false) :
    blockLeaves node = [.embedded node] := by
  cases node <;> simp_all [isModelled, blockLeaves]

theorem unmodelled_in_of_unmodelled {node : Node} (unmodelled : node.isModelled = false) :
    unmodelledIn [node] = [node.kind] := by
  rw [unmodelled_in_singleton, block_leaves_of_unmodelled unmodelled]
  simp [Leaf.unmodelled?, unmodelled]

end Node

namespace Walk

theorem embed_reports {walk : Walk} {node : Node} {inserted : Option Inline} {past events : List Event}
    (embedded : node.isEmbedded = true)
    (inserts : (walk.embed node).Yields past inserted events) :
    Event.unmodelledKinds events = [Leaf.embedded node].filterMap Leaf.unmodelled? := by
  cases node with
  | image url alt title width height metadata =>
    exact Event.unmodelled_kinds_of_quiet (picture_quiet inserts)
  | _ =>
    simp only [embed, unmodelled, Traced.yields_bind_iff, Traced.yields_emit_iff,
      Traced.yields_pure_iff] at inserts
    obtain ⟨_, _, _, ⟨_, _, _, rfl, ⟨_, rfl⟩, rfl⟩, ⟨_, rfl⟩, rfl⟩ := inserts
    simp_all [Node.isEmbedded, Node.isModelled, Leaf.unmodelled?, Event.unmodelledKinds]

theorem reads_reports {walk : Walk} {leaves : List Leaf} {pieces : List Piece} {events : List Event}
    (reads : Reads walk.embed leaves pieces events) :
    Event.unmodelledKinds events = leaves.filterMap Leaf.unmodelled? := by
  induction reads with
  | nil => rfl
  | text _ ih => exact ih
  | embedded embedded inserts _ ih =>
    rw [Event.unmodelled_kinds_append, embed_reports embedded inserts, ih, ← List.filterMap_append,
      List.singleton_append]

theorem inline_reports {walk : Walk} {content : List Node} {children : List Inline}
    {past events : List Event} (yields : (walk.inline content).Yields past children events) :
    Event.unmodelledKinds events = (Node.leavesOf content).filterMap Leaf.unmodelled? := by
  obtain ⟨pieces, reads, _⟩ := inline_reads yields
  exact reads_reports reads

def cellLeaves (cells : List TableCell) : List Leaf :=
  cells.flatMap fun cell => Node.leavesOf cell.content

theorem cell_nodes_leaves {nodes : List Node} {cells : List TableCell}
    (read : List.Forall₂ (fun node cell => cellOf node = .ok cell) nodes cells) :
    Node.blockLeavesOf nodes = cellLeaves cells := by
  induction read with
  | nil => rfl
  | cons first _ ih =>
    obtain ⟨metadata, rfl⟩ := cell_of_eq_ok_iff.mp first
    rw [Node.blockLeavesOf, ih, cellLeaves, cellLeaves, List.flatMap_cons]
    rfl

theorem row_nodes_leaves {context : String} {nodes : List Node} {rows : List (List TableCell)}
    (read : List.Forall₂ (fun node row => cellsOf context node = .ok row) nodes rows) :
    Node.blockLeavesOf nodes = rows.flatMap cellLeaves := by
  induction read with
  | nil => rfl
  | cons first _ ih =>
    obtain ⟨cells, isHeader, metadata, rfl, cellsRead⟩ := cells_of_eq_ok_iff.mp first
    rw [Node.blockLeavesOf, ih, List.flatMap_cons, ← cell_nodes_leaves cellsRead]
    rfl

structure Carries (walk : Walk) (rel : List Leaf → List Inline → List Event → Prop) : Prop where
  nothing : rel [] [] []
  append {leaves others : List Leaf} {content more : List Inline} {events later : List Event} :
    rel leaves content events → rel others more later →
      rel (leaves ++ others) (content ++ more) (events ++ later)
  inline {content : List Node} {children : List Inline} {past events : List Event} :
    (walk.inline content).Yields past children events → rel (Node.leavesOf content) children events
  code {content : String} {language : Option String} {metadata : Metadata} {spans : List Span}
    {past events : List Event} :
    (highlight walk.highlighter true content (walk.language language)).Yields past spans events →
      rel [.embedded (.codeBlock content language metadata)] [] events
  thematicBreak (metadata : Metadata) : rel [.embedded (.thematicBreak metadata)] [] []
  image {url alt : String} {title : Option String} {width height : Option Int} {metadata : Metadata}
    {inserted : Option Inline} {past events : List Event} :
    (walk.picture url alt title width height).Yields past inserted events →
      rel [.embedded (.image url alt title width height metadata)] inserted.toList events
  unmodelled {node : Node} : node.isModelled = false →
    rel [.embedded node] [.placeholder node.kind] [.unmodelled node.kind]

section

variable {walk : Walk} {rel : List Leaf → List Inline → List Event → Prop} (carries : walk.Carries rel)

include carries

theorem Carries.row {row : List TableCell} {cells : List Cell} {events : List Event}
    (compiles : CompilesRow walk (row.map some) cells events) :
    rel (cellLeaves row) cells.flatten events := by
  induction row generalizing cells events with
  | nil =>
    cases compiles
    exact carries.nothing
  | cons cell row ih =>
    cases compiles with
    | cell first rest => exact carries.append (carries.inline first) (ih rest)

theorem Carries.rows {rows : List (List TableCell)} {result : List (List Cell)} {events : List Event}
    (compiles : CompilesRows walk (rows.map (List.map some)) result events) :
    rel (rows.flatMap cellLeaves) result.flatten.flatten events := by
  induction rows generalizing result events with
  | nil =>
    cases compiles
    exact carries.nothing
  | cons row rows ih =>
    cases compiles with
    | cons first rest =>
      rw [List.flatMap_cons, List.flatten_cons, List.flatten_append]
      exact carries.append (carries.row first) (ih rest)

theorem Carries.passage {content : List Node} {children : List Inline} {level : Int}
    {past events : List Event} (yields : (walk.inline content).Yields past children events) :
    rel (Node.leavesOf content) (Visual.contentsOf [.passage level children]).flatten events := by
  rw [Visual.contents_of_singleton, Visual.contents, List.flatten_singleton]
  exact carries.inline yields

variable (strict : walk.options.isStrict = true)

include strict

theorem Carries.table {header : Option Node} {body : List Node} {headerRow : Option (List TableCell)}
    {bodyRows : List (List TableCell)} {width : Nat} {headerCells : Option (List Cell)}
    {rows : List (List Cell)} {headerEvents rowEvents : List Event}
    (headerRead : headerOf header = .ok headerRow)
    (bodyRead : body.mapM (cellsOf "table") = .ok bodyRows)
    (compiles : CompilesTable walk headerRow bodyRows width headerCells rows headerEvents rowEvents) :
    rel (Node.blockLeavesOf (header.toList ++ body)) (headerCells.toList ++ rows).flatten.flatten
      (headerEvents ++ rowEvents) := by
  rw [Node.block_leaves_of_append, row_nodes_leaves (header_of_eq_ok_iff.mp headerRead),
    row_nodes_leaves (map_m_eq_ok_iff.mp bodyRead), List.flatten_append, List.flatten_append]
  exact carries.append (carries.rows compiles.headerCompiles)
    (carries.rows (compiles.rows_whole strict))

theorem Carries.blocks {setting : Setting} {quotes lists : Int} {nodes : List Node}
    {visuals : List Visual} {events : List Event}
    (compiles : Compiles walk setting quotes lists nodes visuals events) :
    rel (Node.blockLeavesOf nodes) (Visual.contentsOf visuals).flatten events := by
  induction compiles with
  | nil => exact carries.nothing
  | @cons _ _ _ node nodes _ _ _ _ _ _ firstIh restIh =>
    rw [Visual.contents_of_append, List.flatten_append, ← List.singleton_append,
      Node.block_leaves_of_append]
    exact carries.append firstIh restIh
  | heading _ contentYields =>
    rw [Node.block_leaves_of_singleton]
    exact carries.passage contentYields
  | paragraph contentYields =>
    rw [Node.block_leaves_of_singleton]
    exact carries.passage contentYields
  | code highlighted => exact carries.code highlighted
  | quote _ _ _ ih =>
    rw [Node.block_leaves_of_singleton, Visual.contents_of_singleton]
    exact ih
  | list _ _ ih =>
    rw [Node.block_leaves_of_singleton, Visual.contents_of_singleton]
    exact ih
  | item _ ih =>
    rw [Node.block_leaves_of_singleton, Visual.contents_of_singleton]
    exact ih
  | table headerRead bodyRead table =>
    rw [repairs_of_wide (table.strictWide strict), List.nil_append, Node.block_leaves_of_singleton,
      Node.blockLeaves, Node.header_leaves_eq, ← Node.block_leaves_of_append,
      Visual.contents_of_singleton, Visual.contents]
    exact carries.table strict headerRead bodyRead table
  | document _ ih =>
    rw [Node.block_leaves_of_singleton, Visual.contents_of_singleton]
    exact ih
  | thematicBreak => exact carries.thematicBreak _
  | @image _ _ _ _ _ _ _ _ inserted _ _ pictured =>
    have shown : (Visual.contentsOf (inserted.map Visual.inline).toList).flatten = inserted.toList := by
      cases inserted <;> rfl
    rw [Node.block_leaves_of_singleton, shown]
    exact carries.image pictured
  | unmodelled _ unmodelled =>
    rw [Node.block_leaves_of_singleton, Node.block_leaves_of_unmodelled unmodelled]
    exact carries.unmodelled unmodelled

end

theorem carries_reports (walk : Walk) :
    walk.Carries fun leaves _ events =>
      Event.unmodelledKinds events = leaves.filterMap Leaf.unmodelled? where
  nothing := rfl
  append := by
    intro _ _ _ _ _ _ first rest
    rw [Event.unmodelled_kinds_append, first, rest, List.filterMap_append]
  inline := inline_reports
  code highlighted := Event.unmodelled_kinds_of_quiet (highlight_quiet highlighted)
  thematicBreak _ := rfl
  image pictured := Event.unmodelled_kinds_of_quiet (picture_quiet pictured)
  unmodelled := by
    intro node unmodelled
    simp [Leaf.unmodelled?, unmodelled, Event.unmodelledKinds]

end Walk

theorem diagnostics_of_leaves {walk : Walk} (strict : walk.options.isStrict = true)
    {children : List Node} {metadata : Metadata} {past : List Event} {compiled : Compiled}
    (returned : ((compile walk (some (.document children metadata))).after past).outcome = .ok compiled) :
    compiled.diagnostics = census (Node.unmodelledIn children) := by
  rcases compile_eq_ok returned with ⟨impossible, _⟩ | ⟨_, _, visuals, events, same, compiles, rfl⟩
  · cases impossible
  · obtain ⟨rfl, _⟩ := Node.document.inj (Option.some.inj same)
    exact (Event.tally_eq_census _).trans (congrArg census (walk.carries_reports.blocks strict compiles))

end MarkdownView
