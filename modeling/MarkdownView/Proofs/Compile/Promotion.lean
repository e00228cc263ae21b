import MarkdownView.Proofs.Compile.Content
import MarkdownView.Proofs.Compile.Derivation
import MarkdownView.Proofs.Inline.Anchors
import MarkdownView.Proofs.Inline.Stretches
import MarkdownView.Proofs.Visual.Contents
set_option autoImplicit false

namespace MarkdownView

-- The same text as inline code, where all that a run says of it is that it is code.
def Inline.promoted : Inline → Inline
  | .run ⟨text, false, false, false, true, none⟩ => .code text
  | content => content

namespace Visual

mutual

-- The visual with the inline content of its passages and cells promoted.
def promoted : Visual → Visual
  | .inline content => .inline content
  | .passage level children => .passage level (children.map Inline.promoted)
  | .code spans language => .code spans language
  | .quote depth children => .quote depth (promotedOf children)
  | .item children checked => .item (promotedOf children) checked
  | .list ordered items start depth => .list ordered (promotedOf items) start depth
  | .table columns rows header =>
    .table columns (rows.map (List.map (List.map Inline.promoted)))
      (header.map (List.map (List.map Inline.promoted)))
  | .thematicBreak => .thematicBreak
  | .tree children => .tree (promotedOf children)
termination_by structural visual => visual

def promotedOf : List Visual → List Visual
  | [] => []
  | visual :: visuals => promoted visual :: promotedOf visuals
termination_by structural visuals => visuals

end

theorem promoted_of_eq_map (visuals : List Visual) : promotedOf visuals = visuals.map promoted := by
  induction visuals with
  | nil => rfl
  | cons visual visuals ih => rw [promotedOf, ih, List.map_cons]

theorem ragged_row?_promoted (width index : Nat) (rows : List (List Cell)) :
    raggedRow? width index (rows.map (List.map (List.map Inline.promoted))) =
      raggedRow? width index rows := by
  induction rows generalizing index with
  | nil => rfl
  | cons row rows ih => rw [List.map_cons, raggedRow?, raggedRow?, List.length_map, ih]

theorem table?_promoted (columns : List (Option String)) (rows : List (List Cell))
    (header : Option (List Cell)) :
    table? columns (rows.map (List.map (List.map Inline.promoted)))
        (header.map (List.map (List.map Inline.promoted))) =
      (table? columns rows header).map promoted := by
  simp only [table?, ragged_row?_promoted]
  cases header with
  | none => cases raggedRow? columns.length 0 rows <;> rfl
  | some cells =>
    simp only [Option.map_some, List.length_map]
    split
    · cases raggedRow? columns.length 0 rows <;> rfl
    · rfl

theorem passage?_promoted (level : Int) (children : List Inline) :
    passage? level (children.map Inline.promoted) = (passage? level children).map promoted := by
  rw [passage?, passage?]
  split <;> rfl

theorem quote?_promoted (depth : Int) (children : List Visual) :
    quote? depth (promotedOf children) = (quote? depth children).map promoted := by
  rw [quote?, quote?]
  split <;> rfl

end Visual

def Tree.promoted (tree : Tree) : Tree := ⟨Visual.promotedOf tree.children⟩

def Compiled.promoted (compiled : Compiled) : Compiled :=
  ⟨compiled.tree.promoted, compiled.diagnostics, compiled.warnings⟩

namespace Walk

open Traced (of_except_map map_failure_map)

def promoting (walk : Walk) (promotes : Bool) : Walk :=
  { walk with options := { walk.options with promotesCode := promotes } }

theorem promote_eq_promoted : promote = Inline.promoted := by
  funext content
  cases content with
  | run content =>
    rcases content with ⟨text, bold, italic, strike, code, target⟩
    cases bold <;> cases italic <;> cases strike <;> cases code <;> cases target <;> rfl
  | _ => rfl

theorem inline_promoting (walk : Walk) (content : List Node) :
    (walk.promoting true).inline content =
      List.map Inline.promoted <$> (walk.promoting false).inline content := by
  have sameEmbed : (walk.promoting true).embed = (walk.promoting false).embed := rfl
  rw [inline, inline, sameEmbed, promote_eq_promoted, map_bind]
  rfl

theorem cells_promoting (walk : Walk) (row : List (Option TableCell)) :
    (walk.promoting true).cells row =
      List.map (List.map Inline.promoted) <$> (walk.promoting false).cells row := by
  induction row with
  | nil => simp only [cells, map_pure, List.map_nil]
  | cons entry row ih =>
    cases entry with
    | none => simp only [cells, ih, map_bind, bind_map_left, map_pure, List.map_cons, List.map_nil]
    | some cell =>
      simp only [cells, ih, inline_promoting, map_failure_map, map_bind, bind_map_left, map_pure,
        List.map_cons]

theorem rows_promoting (walk : Walk) (rows : List (List (Option TableCell))) :
    (walk.promoting true).rows rows =
      List.map (List.map (List.map Inline.promoted)) <$> (walk.promoting false).rows rows := by
  induction rows with
  | nil => simp only [Walk.rows, map_pure, List.map_nil]
  | cons row rows ih =>
    simp only [Walk.rows, cells_promoting, ih, map_bind, bind_map_left, map_pure, List.map_cons]

theorem header_cells_promoting (walk : Walk) (header : Option (List TableCell)) :
    (walk.promoting true).headerCells header =
      Option.map (List.map (List.map Inline.promoted)) <$>
        (walk.promoting false).headerCells header := by
  cases header with
  | none => simp only [headerCells, map_pure, Option.map_none]
  | some cells =>
    simp only [headerCells, cells_promoting, map_bind, bind_map_left, map_pure, Option.map_some]

theorem fit_all_promoting (walk : Walk) (width index : Nat) (rows : List (List TableCell)) :
    (walk.promoting true).fitAll width index rows =
      (walk.promoting false).fitAll width index rows := by
  induction rows generalizing index with
  | nil => rfl
  | cons cells rows ih =>
    rw [fitAll, fitAll, ih]
    rfl

theorem table_promoting (walk : Walk) (header : Option Node) (rows : List Node)
    (alignments : List (Option String)) :
    (walk.promoting true).table header rows alignments =
      Visual.promoted <$> (walk.promoting false).table header rows alignments := by
  simp only [table, fit_all_promoting, header_cells_promoting, rows_promoting, map_bind, bind_map_left,
    Visual.table?_promoted, of_except_map]

theorem placeholder_promoting (kind : String) :
    (unmodelled kind >>= fun placeholder => pure (some (Visual.inline placeholder))) =
      Option.map Visual.promoted <$>
        (unmodelled kind >>= fun placeholder => pure (some (Visual.inline placeholder))) := by
  simp only [map_bind, map_pure, Option.map_some, Visual.promoted]

mutual

theorem block_promoting (walk : Walk) (quotes lists : Int) (node : Node) :
    (walk.promoting true).block quotes lists node =
      Option.map Visual.promoted <$> (walk.promoting false).block quotes lists node := by
  cases node with
  | document children metadata =>
    simp only [block, blocks_promoting walk quotes lists children, map_bind, bind_map_left, map_pure,
      ← Visual.promoted_of_eq_map, Option.map_some]
    rfl
  | heading level content metadata =>
    simp only [block, leaf, inline_promoting, map_bind, bind_map_left, map_pure, Visual.passage?_promoted,
      of_except_map, Option.map_some]
  | paragraph content metadata =>
    simp only [block, leaf, inline_promoting, map_bind, bind_map_left, map_pure, Visual.passage?_promoted,
      of_except_map, Option.map_some]
  | codeBlock content language metadata =>
    simp only [block, leaf, code, bind_assoc, pure_bind, map_bind, map_pure]
    rfl
  | quote children metadata =>
    simp only [block, blocks_promoting walk (quotes + 1) lists children, map_bind, bind_map_left,
      map_pure, ← Visual.promoted_of_eq_map, Visual.quote?_promoted, of_except_map, Option.map_some]
    rfl
  | list ordered items start tight metadata =>
    simp only [block, items_promoting walk quotes (lists + 1) items, map_bind, bind_map_left, map_pure,
      ← Visual.promoted_of_eq_map, Option.map_some]
    rfl
  | table header rows alignments metadata =>
    simp only [block, leaf, table_promoting, map_bind, bind_map_left, map_pure, Option.map_some]
  | thematicBreak metadata => simp only [block, leaf, map_pure, Option.map_some, Visual.promoted]
  | image url alt title width height metadata =>
    have sameVisual (inserted : Option Inline) :
        Option.map Visual.promoted (inserted.map .inline) = inserted.map .inline := by
      cases inserted <;> rfl
    simp only [block, leaf, map_bind, map_pure, sameVisual]
    rfl
  | htmlBlock content metadata => exact placeholder_promoting _
  | htmlInline content metadata => exact placeholder_promoting _
  | mathBlock content metadata => exact placeholder_promoting _
  | mathInline content metadata => exact placeholder_promoting _
  | footnoteReference identifier metadata => exact placeholder_promoting _
  | footnoteDefinition identifier content metadata => exact placeholder_promoting _
  | extension tag isInline children raw metadata => exact placeholder_promoting _
  | _ => rfl
termination_by structural node

theorem blocks_promoting (walk : Walk) (quotes lists : Int) (nodes : List Node) :
    (walk.promoting true).blocks quotes lists nodes =
      List.map Visual.promoted <$> (walk.promoting false).blocks quotes lists nodes := by
  cases nodes with
  | nil => simp only [blocks, map_pure, List.map_nil]
  | cons node nodes =>
    have shown (first : Option Visual) :
        (first.map Visual.promoted).toList = first.toList.map Visual.promoted := by
      cases first <;> rfl
    simp only [blocks, block_promoting walk quotes lists node,
      blocks_promoting walk quotes lists nodes, map_failure_map, map_bind, bind_map_left, map_pure,
      List.map_append, shown]
termination_by structural nodes

theorem item_promoting (walk : Walk) (quotes lists : Int) (node : Node) :
    (walk.promoting true).item quotes lists node =
      Visual.promoted <$> (walk.promoting false).item quotes lists node := by
  cases node with
  | item children status metadata =>
    simp only [item, blocks_promoting walk quotes lists children, map_bind, bind_map_left, map_pure,
      ← Visual.promoted_of_eq_map]
    rfl
  | _ => rfl
termination_by structural node

theorem items_promoting (walk : Walk) (quotes lists : Int) (nodes : List Node) :
    (walk.promoting true).items quotes lists nodes =
      List.map Visual.promoted <$> (walk.promoting false).items quotes lists nodes := by
  cases nodes with
  | nil => simp only [items, map_pure, List.map_nil]
  | cons node nodes =>
    simp only [items, item_promoting walk quotes lists node,
      items_promoting walk quotes lists nodes, map_bind, bind_map_left, map_pure, List.map_cons]
termination_by structural nodes

end

theorem tree_promoting (walk : Walk) (children : List Node) :
    (walk.promoting true).tree children = Tree.promoted <$> (walk.promoting false).tree children := by
  simp only [tree_eq, blocks_promoting, map_bind, bind_map_left, map_pure, Tree.promoted,
    Visual.promoted_of_eq_map]

end Walk

theorem of_walk_promoted (walked : Traced Tree) :
    Compiled.ofWalk (Tree.promoted <$> walked) = Compiled.promoted <$> Compiled.ofWalk walked := by
  apply Traced.ext_after
  intro past
  simp only [Compiled.ofWalk, Traced.after_map]
  cases (walked.after past).outcome <;> rfl

theorem compile_promoted (walk : Walk) (document : Option Node) :
    compile (walk.promoting true) document =
      Compiled.promoted <$> compile (walk.promoting false) document := by
  cases document with
  | none => simp only [compile, map_pure, Compiled.promoted, Compiled.empty, Tree.promoted,
      Visual.promotedOf]
  | some node =>
    cases node with
    | document children metadata =>
      rw [compile, compile, Walk.tree_promoting, of_walk_promoted]
    | _ => rfl

def Inline.isCode : Inline → Bool
  | .code _ => true
  | _ => false

def Inline.Apart (first second : Inline) : Prop := ¬ (first.isCode = true ∧ second.isCode = true)

theorem Inline.is_code_promoted_run (run : Run) :
    (promoted (.run run)).isCode = run.isPlainCode := by
  rcases run with ⟨text, bold, italic, strike, code, target⟩
  cases bold <;> cases italic <;> cases strike <;> cases code <;> cases target <;> rfl

namespace Piece

structure Promotable (piece : Piece) : Prop where
  anchored : piece.Anchored
  visual : ∀ inserted, piece = .visual inserted → inserted.promoted.isCode = false

theorem Promotable.eq_text {piece : Piece} (promotable : piece.Promotable)
    (isCode : piece.inline.promoted.isCode = true) :
    ∃ content, piece = .text Style.plainCode content := by
  cases piece with
  | visual inserted =>
    have notCode : inserted.promoted.isCode = false := promotable.visual inserted rfl
    exact absurd isCode (by simp [inline, notCode])
  | text style content =>
    rw [inline, Inline.is_code_promoted_run] at isCode
    have same : style = Style.plainCode := Style.eq_plain_code promotable.anchored isCode
    exact ⟨content, by rw [same]⟩

theorem runs_apart {pieces : List Piece} (promotable : ∀ piece ∈ pieces, piece.Promotable) :
    ((runs pieces).map Inline.promoted).IsChain Inline.Apart := by
  have joinedPromotable : ∀ piece ∈ join pieces, piece.Promotable := by
    refine forall_join ?_ promotable
    intro style content more textPromotable
    exact ⟨textPromotable.anchored, nofun⟩
  rw [runs, List.map_map, List.isChain_map]
  refine (settled_join pieces).apart.imp_of_mem_imp ?_
  intro piece next pieceMember nextMember apart both
  obtain ⟨content, rfl⟩ := (joinedPromotable piece pieceMember).eq_text both.1
  obtain ⟨more, rfl⟩ := (joinedPromotable next nextMember).eq_text both.2
  exact apart rfl

end Piece

namespace Walk

theorem relabel_promoting {walk : Walk} (promotes : walk.options.promotesCode = true) :
    walk.relabel = Inline.promoted := by
  rw [relabel, if_pos promotes, promote_eq_promoted]

theorem inline_apart {walk : Walk} (promotes : walk.options.promotesCode = true)
    {content : List Node} {children : List Inline} {past events : List Event}
    (named : Node.everyOf Node.namesLink content = true)
    (yields : (walk.inline content).Yields past children events) : children.IsChain Inline.Apart := by
  obtain ⟨pieces, count, piecesYield, rfl⟩ := inline_pieces yields
  rw [relabel_promoting promotes]
  apply Piece.runs_apart
  intro piece member
  refine ⟨Node.pieces_of_anchored named Style.plain_anchored piecesYield piece member, ?_⟩
  rintro inserted rfl
  obtain ⟨node, past, events, inserts⟩ := (Node.pieces_of_reads piecesYield).visual_inserted member
  rcases embed_yields inserts with ⟨_, pictured⟩ | ⟨placed, _⟩
  · obtain ⟨picture, rfl⟩ := pictured inserted rfl
    rfl
  · cases placed
    rfl

def NamesLinks (row : List TableCell) : Prop :=
  ∀ cell ∈ row, Node.everyOf Node.namesLink cell.content = true

theorem cells_name_links {nodes : List Node} {row : List TableCell}
    (read : List.Forall₂ (fun node cell => cellOf node = .ok cell) nodes row)
    (named : Node.everyOf Node.namesLink nodes = true) : NamesLinks row := by
  induction read with
  | nil => exact List.forall_mem_nil _
  | cons first _ ih =>
    obtain ⟨firstNamed, restNamed⟩ := Bool.and_eq_true_iff.mp named
    obtain ⟨metadata, rfl⟩ := cell_of_eq_ok_iff.mp first
    exact List.forall_mem_cons.mpr ⟨firstNamed, ih restNamed⟩

theorem rows_name_links {context : String} {nodes : List Node} {rows : List (List TableCell)}
    (read : List.Forall₂ (fun node row => cellsOf context node = .ok row) nodes rows)
    (named : Node.everyOf Node.namesLink nodes = true) : ∀ row ∈ rows, NamesLinks row := by
  induction read with
  | nil => exact List.forall_mem_nil _
  | cons first _ ih =>
    obtain ⟨firstNamed, restNamed⟩ := Bool.and_eq_true_iff.mp named
    obtain ⟨cells, isHeader, metadata, rfl, cellsRead⟩ := cells_of_eq_ok_iff.mp first
    exact List.forall_mem_cons.mpr ⟨cells_name_links cellsRead firstNamed, ih restNamed⟩

theorem CompilesRow.apart {walk : Walk} (promotes : walk.options.promotesCode = true)
    {row : List (Option TableCell)} {cells : List Cell} {events : List Event}
    (named : ∀ cell, some cell ∈ row → Node.everyOf Node.namesLink cell.content = true)
    (compiles : CompilesRow walk row cells events) : ∀ cell ∈ cells, cell.IsChain Inline.Apart := by
  induction compiles with
  | nil => exact List.forall_mem_nil _
  | padding _ ih =>
    have restNamed := ih fun cell member => named cell (List.mem_cons_of_mem _ member)
    exact List.forall_mem_cons.mpr ⟨List.isChain_nil, restNamed⟩
  | cell first _ ih =>
    have restNamed := ih fun cell member => named cell (List.mem_cons_of_mem _ member)
    exact List.forall_mem_cons.mpr ⟨inline_apart promotes (named _ List.mem_cons_self) first, restNamed⟩

theorem CompilesRows.apart {walk : Walk} (promotes : walk.options.promotesCode = true)
    {rows : List (List (Option TableCell))} {result : List (List Cell)} {events : List Event}
    (named : ∀ row ∈ rows, ∀ cell, some cell ∈ row → Node.everyOf Node.namesLink cell.content = true)
    (compiles : CompilesRows walk rows result events) :
    ∀ cell ∈ result.flatten, cell.IsChain Inline.Apart := by
  induction compiles with
  | nil => exact List.forall_mem_nil _
  | cons first _ ih =>
    obtain ⟨firstNamed, restNamed⟩ := List.forall_mem_cons.mp named
    exact List.forall_mem_append.mpr ⟨first.apart promotes firstNamed, ih restNamed⟩

theorem CompilesTable.apart {walk : Walk} (promotes : walk.options.promotesCode = true)
    {header : Option (List TableCell)} {body : List (List TableCell)} {width : Nat}
    {headerCells : Option (List Cell)} {rows : List (List Cell)} {headerEvents rowEvents : List Event}
    (headerNamed : ∀ row ∈ header.toList, NamesLinks row) (bodyNamed : ∀ row ∈ body, NamesLinks row)
    (compiles : CompilesTable walk header body width headerCells rows headerEvents rowEvents) :
    ∀ cell ∈ (headerCells.toList ++ rows).flatten, cell.IsChain Inline.Apart := by
  rw [List.flatten_append]
  refine List.forall_mem_append.mpr
    ⟨compiles.headerCompiles.apart promotes ?header, compiles.rowsCompile.apart promotes ?body⟩
  case header =>
    intro row member cell cellMember
    obtain ⟨cells, cellsMember, rfl⟩ := List.mem_map.mp member
    obtain ⟨_, found, ⟨⟩⟩ := List.mem_map.mp cellMember
    exact headerNamed cells cellsMember cell found
  case body =>
    intro row member cell cellMember
    obtain ⟨cells, cellsMember, rfl⟩ := List.mem_map.mp member
    exact bodyNamed cells cellsMember cell (List.mem_of_mem_take (mem_of_mem_fitted cellMember))

theorem Compiles.apart {walk : Walk} (promotes : walk.options.promotesCode = true)
    {setting : Setting} {quotes lists : Int} {nodes : List Node} {visuals : List Visual}
    {events : List Event} (named : Node.everyOf Node.namesLink nodes = true)
    (compiles : Compiles walk setting quotes lists nodes visuals events) :
    ∀ content ∈ Visual.contentsOf visuals, content.IsChain Inline.Apart := by
  have alone (content : Inline) :
      ∀ found ∈ Visual.contentsOf [.inline content], found.IsChain Inline.Apart :=
    List.forall_mem_singleton.mpr (List.isChain_singleton content)
  induction compiles with
  | nil => exact List.forall_mem_nil _
  | cons _ _ firstIh restIh =>
    obtain ⟨firstNamed, restNamed⟩ := Bool.and_eq_true_iff.mp named
    rw [Visual.contents_of_append]
    exact List.forall_mem_append.mpr
      ⟨firstIh ((Node.every_of_singleton _ _).trans firstNamed), restIh restNamed⟩
  | heading _ contentYields =>
    rw [Node.every_of_singleton] at named
    exact List.forall_mem_singleton.mpr (inline_apart promotes named contentYields)
  | paragraph contentYields =>
    rw [Node.every_of_singleton] at named
    exact List.forall_mem_singleton.mpr (inline_apart promotes named contentYields)
  | code _ => exact List.forall_mem_nil _
  | document _ ih =>
    rw [Node.every_of_singleton] at named
    rw [Visual.contents_of_singleton]
    exact ih named
  | quote _ _ _ ih =>
    rw [Node.every_of_singleton] at named
    rw [Visual.contents_of_singleton]
    exact ih named
  | list _ _ ih =>
    rw [Node.every_of_singleton] at named
    rw [Visual.contents_of_singleton]
    exact ih named
  | item _ ih =>
    rw [Node.every_of_singleton] at named
    rw [Visual.contents_of_singleton]
    exact ih named
  | table headerRead bodyRead table =>
    rw [Node.every_of_singleton] at named
    obtain ⟨headerNamed, bodyNamed⟩ := Bool.and_eq_true_iff.mp (Bool.and_eq_true_iff.mp named).2
    rw [Visual.contents_of_singleton, Visual.contents]
    refine table.apart promotes (rows_name_links (header_of_eq_ok_iff.mp headerRead) ?_)
      (rows_name_links (map_m_eq_ok_iff.mp bodyRead) bodyNamed)
    rwa [Node.every_of_to_list]
  | thematicBreak => exact List.forall_mem_nil _
  | @image _ _ _ _ _ _ _ _ inserted _ _ _ =>
    cases inserted with
    | none => exact List.forall_mem_nil _
    | some content => exact alone content
  | unmodelled _ _ => exact alone _

end Walk

theorem compile_apart {walk : Walk} (promotes : walk.options.promotesCode = true)
    {document : Option Node} (named : Node.everyOf Node.namesLink document.toList = true)
    {past : List Event} {compiled : Compiled}
    (returned : ((compile walk document).after past).outcome = .ok compiled) :
    ∀ content ∈ compiled.tree.contents, content.IsChain Inline.Apart := by
  rcases compile_eq_ok returned with ⟨_, rfl⟩ | ⟨_, _, _, _, rfl, compiles, rfl⟩
  · exact List.forall_mem_nil _
  · rw [Option.toList_some, Node.every_of_singleton] at named
    exact compiles.apart promotes named

-- Promotion renames plain code in the outcome and does nothing else, and in a promoted tree no two
-- neighbours are inline code, unless a link leads nowhere.
theorem compile_promoting (walk : Walk) (document : Option Node) (past : List Event) :
    ((compile (walk.promoting true) document).after past).outcome =
        ((compile (walk.promoting false) document).after past).outcome.map Compiled.promoted ∧
      (Node.everyOf Node.namesLink document.toList = true →
        ∀ compiled, ((compile (walk.promoting true) document).after past).outcome = .ok compiled →
          ∀ content ∈ compiled.tree.contents, content.IsChain Inline.Apart) := by
  constructor
  · rw [compile_promoted, Traced.after_map]
  · intro named compiled returned
    exact compile_apart rfl named returned

def Node.coded : Node :=
  .document
    [.list false [.item [.heading 2 [.code "a" [], .code "b" [], .link "u" [.code "c" []] none [],
      .code "d" [], .strong [.code "e" []] []] []] none []] none true [],
      .table (some (.row [.cell [.code "f" [], .text "g" []] none []] true [])) [] [] []] []

theorem compile_promoting_coded :
    ∃ compiled, ((compile (Walk.bare.promoting true) (some Node.coded)).after []).outcome =
        .ok compiled ∧
      compiled.tree.contents =
        [[.code "ab", .run ⟨"c", false, false, false, true, some "u"⟩, .code "d",
          .run ⟨"e", true, false, false, true, none⟩],
         [.code "f", .run ⟨"g", false, false, false, false, none⟩]] ∧
      ∀ content ∈ compiled.tree.contents, content.IsChain Inline.Apart := by
  have promoted := compile_promoting Walk.bare (some Node.coded) []
  -- The tree is compared by its contents, which are decidably equal where trees are not.
  have shown : (((compile (Walk.bare.promoting false) (some Node.coded)).after []).outcome.map
        Compiled.promoted).toOption.map (·.tree.contents) =
      some [[.code "ab", .run ⟨"c", false, false, false, true, some "u"⟩, .code "d",
          .run ⟨"e", true, false, false, true, none⟩],
        [.code "f", .run ⟨"g", false, false, false, false, none⟩]] := by decide +kernel
  rw [← promoted.1] at shown
  cases returned : ((compile (Walk.bare.promoting true) (some Node.coded)).after []).outcome with
  | error failure =>
    rw [returned] at shown
    cases shown
  | ok compiled =>
    rw [returned] at shown
    exact ⟨compiled, rfl, Option.some.inj shown, promoted.2 rfl compiled returned⟩

end MarkdownView
