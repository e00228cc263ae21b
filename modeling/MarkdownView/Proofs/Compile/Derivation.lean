import MarkdownView.Proofs.Compile.Restoration
import MarkdownView.Proofs.Compile.Tables
set_option autoImplicit false

namespace MarkdownView

inductive Setting where
  | block
  | item

namespace Walk

inductive CompilesRow (walk : Walk) : List (Option TableCell) → List Cell → List Event → Prop where
  | nil : CompilesRow walk [] [] []
  | padding {row : List (Option TableCell)} {cells : List Cell} {events : List Event}
      (rest : CompilesRow walk row cells events) :
      CompilesRow walk (none :: row) ([] :: cells) events
  | cell {cell : TableCell} {content : List Inline} {row : List (Option TableCell)}
      {cells : List Cell} {past events later : List Event}
      (first : (walk.inline cell.content).Yields past content events)
      (rest : CompilesRow walk row cells later) :
      CompilesRow walk (some cell :: row) (content :: cells) (events ++ later)

inductive CompilesRows (walk : Walk) :
    List (List (Option TableCell)) → List (List Cell) → List Event → Prop where
  | nil : CompilesRows walk [] [] []
  | cons {row : List (Option TableCell)} {cells : List Cell}
      {rows : List (List (Option TableCell))} {others : List (List Cell)}
      {events later : List Event} (first : CompilesRow walk row cells events)
      (rest : CompilesRows walk rows others later) :
      CompilesRows walk (row :: rows) (cells :: others) (events ++ later)

structure CompilesTable (walk : Walk) (header : Option (List TableCell))
    (body : List (List TableCell)) (width : Nat) (headerCells : Option (List Cell))
    (rows : List (List Cell)) (headerEvents rowEvents : List Event) : Prop where
  strictWide : walk.options.isStrict = true → ∀ cells ∈ body, cells.length = width
  headerCompiles :
    CompilesRows walk (header.toList.map (List.map some)) headerCells.toList headerEvents
  rowsCompile : CompilesRows walk (body.map (fitted width)) rows rowEvents

theorem CompilesTable.rows_whole {walk : Walk} (strict : walk.options.isStrict = true)
    {header : Option (List TableCell)} {body : List (List TableCell)} {width : Nat}
    {headerCells : Option (List Cell)} {rows : List (List Cell)} {headerEvents rowEvents : List Event}
    (compiles : CompilesTable walk header body width headerCells rows headerEvents rowEvents) :
    CompilesRows walk (body.map (List.map some)) rows rowEvents := by
  have whole : body.map (fitted width) = body.map (List.map some) :=
    List.map_congr_left fun cells member => fitted_of_width (compiles.strictWide strict cells member)
  rw [← whole]
  exact compiles.rowsCompile

inductive Compiles (walk : Walk) :
    Setting → Int → Int → List Node → List Visual → List Event → Prop where
  | nil {setting : Setting} {quotes lists : Int} : Compiles walk setting quotes lists [] [] []
  | cons {setting : Setting} {quotes lists : Int} {node : Node} {nodes : List Node}
      {visuals others : List Visual} {events later : List Event}
      (first : Compiles walk setting quotes lists [node] visuals events)
      (rest : Compiles walk setting quotes lists nodes others later) :
      Compiles walk setting quotes lists (node :: nodes) (visuals ++ others) (events ++ later)
  | document {quotes lists : Int} {children : List Node} {metadata : Metadata}
      {visuals : List Visual} {events : List Event}
      (childrenCompile : Compiles walk .block quotes lists children visuals events) :
      Compiles walk .block quotes lists [.document children metadata] [.tree visuals] events
  | heading {quotes lists level : Int} {content : List Node} {metadata : Metadata}
      {children : List Inline} {past events : List Event} (inRange : 0 ≤ level ∧ level ≤ 6)
      (contentYields : (walk.inline content).Yields past children events) :
      Compiles walk .block quotes lists [.heading level content metadata]
        [.passage level children] events
  | paragraph {quotes lists : Int} {content : List Node} {metadata : Metadata}
      {children : List Inline} {past events : List Event}
      (contentYields : (walk.inline content).Yields past children events) :
      Compiles walk .block quotes lists [.paragraph content metadata] [.passage 0 children] events
  | code {quotes lists : Int} {content : String} {language : Option String} {metadata : Metadata}
      {spans : List Span} {past events : List Event}
      (highlighted : (highlight walk.highlighter true content (walk.language language)).Yields past
        spans events) :
      Compiles walk .block quotes lists [.codeBlock content language metadata]
        [.code spans (walk.language language)] events
  | quote {quotes lists : Int} {children : List Node} {metadata : Metadata}
      {visuals : List Visual} {events : List Event}
      (within : ∀ limit ∈ walk.options.maxQuoteDepth, quotes + 1 ≤ limit) (inside : 1 ≤ quotes + 1)
      (childrenCompile : Compiles walk .block (quotes + 1) lists children visuals events) :
      Compiles walk .block quotes lists [.quote children metadata] [.quote (quotes + 1) visuals]
        events
  | list {quotes lists : Int} {ordered : Bool} {items : List Node} {start : Option Int} {tight : Bool}
      {metadata : Metadata} {visuals : List Visual} {events : List Event}
      (within : ∀ limit ∈ walk.options.maxListDepth, lists + 1 ≤ limit)
      (itemsCompile : Compiles walk .item quotes (lists + 1) items visuals events) :
      Compiles walk .block quotes lists [.list ordered items start tight metadata]
        [.list ordered visuals (if ordered then start else none) (lists + 1)] events
  | item {quotes lists : Int} {children : List Node} {status : Option TaskStatus}
      {metadata : Metadata} {visuals : List Visual} {events : List Event}
      (childrenCompile : Compiles walk .block quotes lists children visuals events) :
      Compiles walk .item quotes lists [.item children status metadata]
        [.item visuals (status.map (· == .checked))] events
  | table {quotes lists : Int} {header : Option Node} {body : List Node}
      {alignments : List (Option String)} {metadata : Metadata}
      {headerRow : Option (List TableCell)} {bodyRows : List (List TableCell)}
      {headerCells : Option (List Cell)} {rows : List (List Cell)}
      {headerEvents rowEvents : List Event} (headerRead : headerOf header = .ok headerRow)
      (bodyRead : body.mapM (cellsOf "table") = .ok bodyRows)
      (compiles : CompilesTable walk headerRow bodyRows (width headerRow alignments bodyRows)
        headerCells rows headerEvents rowEvents) :
      Compiles walk .block quotes lists [.table header body alignments metadata]
        [.table ((List.range (width headerRow alignments bodyRows)).map (column headerRow alignments))
          rows headerCells]
        (repairs (width headerRow alignments bodyRows) 0 bodyRows ++ (headerEvents ++ rowEvents))
  | thematicBreak {quotes lists : Int} {metadata : Metadata} :
      Compiles walk .block quotes lists [.thematicBreak metadata] [.thematicBreak] []
  | image {quotes lists : Int} {url alt : String} {title : Option String} {width height : Option Int}
      {metadata : Metadata} {inserted : Option Inline} {past events : List Event}
      (pictured : (walk.picture url alt title width height).Yields past inserted events) :
      Compiles walk .block quotes lists [.image url alt title width height metadata]
        (inserted.map Visual.inline).toList events
  | unmodelled {quotes lists : Int} {node : Node} (embedded : node.isEmbedded = true)
      (unmodelled : node.isModelled = false) :
      Compiles walk .block quotes lists [node] [.inline (.placeholder node.kind)]
        [.unmodelled node.kind]

theorem CompilesRows.append {walk : Walk} {rows more : List (List (Option TableCell))}
    {cells others : List (List Cell)} {events later : List Event}
    (first : CompilesRows walk rows cells events) (second : CompilesRows walk more others later) :
    CompilesRows walk (rows ++ more) (cells ++ others) (events ++ later) := by
  induction first with
  | nil => exact second
  | cons row _ ih =>
    rw [List.append_assoc]
    exact .cons row ih

theorem cells_compile {walk : Walk} {row : List (Option TableCell)} {cells : List Cell}
    {past events : List Event} (yields : (walk.cells row).Yields past cells events) :
    CompilesRow walk row cells events := by
  induction row generalizing cells past events with
  | nil =>
    obtain ⟨rfl, rfl⟩ := Traced.yields_pure_iff.mp yields
    exact .nil
  | cons entry row ih =>
    cases entry with
    | none =>
      simp only [Walk.cells, Traced.yields_bind_iff, Traced.yields_pure_iff] at yields
      obtain ⟨rest, events, _, restYields, ⟨rfl, rfl⟩, rfl⟩ := yields
      rw [List.append_nil]
      exact .padding (ih restYields)
    | some cell =>
      simp only [Walk.cells, Traced.yields_bind_iff, Traced.yields_pure_iff,
        Traced.yields_map_failure_iff] at yields
      obtain ⟨first, events, _, firstYields, ⟨rest, later, _, restYields, ⟨rfl, rfl⟩, rfl⟩, rfl⟩ :=
        yields
      rw [List.append_nil]
      exact .cell firstYields (ih restYields)

theorem rows_compile {walk : Walk} {rows : List (List (Option TableCell))}
    {result : List (List Cell)} {past events : List Event}
    (yields : (walk.rows rows).Yields past result events) : CompilesRows walk rows result events := by
  induction rows generalizing result past events with
  | nil =>
    obtain ⟨rfl, rfl⟩ := Traced.yields_pure_iff.mp yields
    exact .nil
  | cons row rows ih =>
    simp only [Walk.rows, Traced.yields_bind_iff, Traced.yields_pure_iff] at yields
    obtain ⟨first, events, _, firstYields, ⟨rest, later, _, restYields, ⟨rfl, rfl⟩, rfl⟩, rfl⟩ :=
      yields
    rw [List.append_nil]
    exact .cons (cells_compile firstYields) (ih restYields)

theorem header_cells_compile {walk : Walk} {header : Option (List TableCell)}
    {result : Option (List Cell)} {past events : List Event}
    (yields : (walk.headerCells header).Yields past result events) :
    CompilesRows walk (header.toList.map (List.map some)) result.toList events := by
  cases header with
  | none =>
    obtain ⟨rfl, rfl⟩ := Traced.yields_pure_iff.mp yields
    exact .nil
  | some cells =>
    simp only [Walk.headerCells, Traced.yields_bind_iff, Traced.yields_pure_iff] at yields
    obtain ⟨compiled, events, _, cellsYield, ⟨rfl, rfl⟩, rfl⟩ := yields
    exact .cons (cells_compile cellsYield) .nil

theorem table?_eq_ok {columns : List (Option String)} {rows : List (List Cell)}
    {header : Option (List Cell)} {visual : Visual}
    (accepted : Visual.table? columns rows header = .ok visual) :
    visual = .table columns rows header := by
  simp only [Visual.table?] at accepted
  grind

theorem table_compiles {walk : Walk} {quotes lists : Int} {header : Option Node} {body : List Node}
    {alignments : List (Option String)} {metadata : Metadata} {visual : Visual}
    {past events : List Event} (yields : (walk.table header body alignments).Yields past visual events) :
    Compiles walk .block quotes lists [.table header body alignments metadata] [visual] events := by
  simp only [Walk.table, Traced.yields_bind_iff, Traced.yields_of_except_iff, fit_all_yields_iff]
    at yields
  obtain ⟨headerRow, _, _, ⟨headerRead, rfl⟩, ⟨bodyRows, _, _, ⟨bodyRead, rfl⟩, ⟨_, _, _,
    ⟨rfl, rfl, strictWide⟩, ⟨headerCells, headerEvents, _, headerYields, ⟨rows, rowEvents, _,
      rowsYield, ⟨accepted, rfl⟩, rfl⟩, rfl⟩, rfl⟩, rfl⟩, rfl⟩ := yields
  rw [table?_eq_ok accepted, List.append_nil]
  exact .table headerRead bodyRead
    ⟨strictWide, header_cells_compile headerYields, rows_compile rowsYield⟩

theorem check_depth_eq_ok_iff {container : String} {depth : Int} {limit : Option Int} {checked : Unit} :
    checkDepth container depth limit = .ok checked ↔ ∀ limit' ∈ limit, depth ≤ limit' := by
  cases limit with
  | none => simp [checkDepth]
  | some limit =>
    by_cases exceeds : limit < depth
    · simp [checkDepth, exceeds]
    · simp [checkDepth, exceeds, Int.not_lt.mp exceeds]

theorem passage?_eq_ok_iff {level : Int} {children : List Inline} {visual : Visual} :
    Visual.passage? level children = .ok visual ↔
      (0 ≤ level ∧ level ≤ 6) ∧ visual = .passage level children := by
  by_cases inRange : 0 ≤ level ∧ level ≤ 6 <;> simp [Visual.passage?, inRange, eq_comm]

theorem quote?_eq_ok_iff {depth : Int} {children : List Visual} {visual : Visual} :
    Visual.quote? depth children = .ok visual ↔ 1 ≤ depth ∧ visual = .quote depth children := by
  by_cases shallow : depth < 1
  · simp [Visual.quote?, shallow, Int.not_le.mpr shallow]
  · simp [Visual.quote?, shallow, Int.not_lt.mp shallow, eq_comm]

theorem embedded_compiles {walk : Walk} {quotes lists : Int} {node : Node} {visual : Option Visual}
    {past events : List Event} (embedded : node.isEmbedded = true) (unmodelled : node.isModelled = false)
    (yields : (Walk.unmodelled node.kind >>= fun placeholder =>
      pure (some (Visual.inline placeholder))).Yields past visual events) :
    Compiles walk .block quotes lists [node] visual.toList events := by
  simp only [Walk.unmodelled, Traced.yields_bind_iff, Traced.yields_emit_iff,
    Traced.yields_pure_iff] at yields
  obtain ⟨_, _, _, ⟨_, _, _, rfl, ⟨rfl, rfl⟩, rfl⟩, ⟨rfl, rfl⟩, rfl⟩ := yields
  exact .unmodelled embedded unmodelled

mutual

theorem block_compiles {walk : Walk} {quotes lists : Int} {node : Node} {visual : Option Visual}
    {past events : List Event} (yields : (walk.block quotes lists node).Yields past visual events) :
    Compiles walk .block quotes lists [node] visual.toList events := by
  cases node with
  | document children metadata =>
    simp only [block, Traced.yields_bind_iff, Traced.yields_pure_iff] at yields
    obtain ⟨visuals, events, _, childrenYield, ⟨rfl, rfl⟩, rfl⟩ := yields
    rw [List.append_nil]
    exact .document (blocks_compiles childrenYield)
  | heading level content metadata =>
    simp only [block, leaf, Traced.yields_bind_iff, Traced.yields_of_except_iff, passage?_eq_ok_iff,
      Traced.yields_pure_iff] at yields
    obtain ⟨children, events, _, contentYields, ⟨_, _, _, ⟨⟨inRange, rfl⟩, rfl⟩, ⟨rfl, rfl⟩, rfl⟩,
      rfl⟩ := yields
    rw [List.append_nil, List.append_nil]
    exact .heading inRange contentYields
  | paragraph content metadata =>
    simp only [block, leaf, Traced.yields_bind_iff, Traced.yields_of_except_iff, passage?_eq_ok_iff,
      Traced.yields_pure_iff] at yields
    obtain ⟨children, events, _, contentYields, ⟨_, _, _, ⟨⟨_, rfl⟩, rfl⟩, ⟨rfl, rfl⟩, rfl⟩, rfl⟩ :=
      yields
    rw [List.append_nil, List.append_nil]
    exact .paragraph contentYields
  | codeBlock content language metadata =>
    simp only [block, leaf, Walk.code, Traced.yields_bind_iff, Traced.yields_pure_iff] at yields
    obtain ⟨_, _, _, ⟨spans, events, _, highlighted, ⟨rfl, rfl⟩, rfl⟩, ⟨rfl, rfl⟩, rfl⟩ := yields
    rw [List.append_nil, List.append_nil]
    exact .code highlighted
  | quote children metadata =>
    simp only [block, Traced.yields_bind_iff, Traced.yields_of_except_iff, check_depth_eq_ok_iff,
      quote?_eq_ok_iff, Traced.yields_pure_iff] at yields
    obtain ⟨_, _, _, ⟨within, rfl⟩, ⟨visuals, events, _, childrenYield, ⟨_, _, _,
      ⟨⟨inside, rfl⟩, rfl⟩, ⟨rfl, rfl⟩, rfl⟩, rfl⟩, rfl⟩ := yields
    rw [List.append_nil, List.append_nil, List.nil_append]
    exact .quote within inside (blocks_compiles childrenYield)
  | list ordered items start tight metadata =>
    simp only [block, Traced.yields_bind_iff, Traced.yields_of_except_iff, check_depth_eq_ok_iff,
      Traced.yields_pure_iff] at yields
    obtain ⟨_, _, _, ⟨within, rfl⟩, ⟨visuals, events, _, itemsYield, ⟨rfl, rfl⟩, rfl⟩, rfl⟩ := yields
    rw [List.append_nil, List.nil_append]
    exact .list within (items_compile itemsYield)
  | table header rows alignments metadata =>
    simp only [block, leaf, Traced.yields_bind_iff, Traced.yields_pure_iff] at yields
    obtain ⟨visual, events, _, tableYields, ⟨rfl, rfl⟩, rfl⟩ := yields
    rw [List.append_nil]
    exact table_compiles tableYields
  | thematicBreak metadata =>
    obtain ⟨rfl, rfl⟩ := Traced.yields_pure_iff.mp yields
    exact .thematicBreak
  | image url alt title width height metadata =>
    simp only [block, leaf, Traced.yields_bind_iff, Traced.yields_pure_iff] at yields
    obtain ⟨inserted, events, _, pictured, ⟨rfl, rfl⟩, rfl⟩ := yields
    rw [List.append_nil]
    exact .image pictured
  | htmlBlock content metadata => exact embedded_compiles rfl rfl yields
  | htmlInline content metadata => exact embedded_compiles rfl rfl yields
  | mathBlock content metadata => exact embedded_compiles rfl rfl yields
  | mathInline content metadata => exact embedded_compiles rfl rfl yields
  | footnoteReference identifier metadata => exact embedded_compiles rfl rfl yields
  | footnoteDefinition identifier content metadata => exact embedded_compiles rfl rfl yields
  | extension tag isInline children raw metadata => exact embedded_compiles rfl rfl yields
  | _ => exact absurd yields (by simp [block, leaf, Node.misplaced, Node.isEmbedded, Node.isModelled])
termination_by structural node

theorem blocks_compiles {walk : Walk} {quotes lists : Int} {nodes : List Node} {visuals : List Visual}
    {past events : List Event} (yields : (walk.blocks quotes lists nodes).Yields past visuals events) :
    Compiles walk .block quotes lists nodes visuals events := by
  cases nodes with
  | nil =>
    obtain ⟨rfl, rfl⟩ := Traced.yields_pure_iff.mp yields
    exact .nil
  | cons node nodes =>
    simp only [blocks, Traced.yields_bind_iff, Traced.yields_map_failure_iff,
      Traced.yields_pure_iff] at yields
    obtain ⟨first, events, _, firstYields, ⟨rest, later, _, restYield, ⟨rfl, rfl⟩, rfl⟩, rfl⟩ :=
      yields
    rw [List.append_nil]
    exact .cons (block_compiles firstYields) (blocks_compiles restYield)
termination_by structural nodes

theorem item_compiles {walk : Walk} {quotes lists : Int} {node : Node} {visual : Visual}
    {past events : List Event} (yields : (walk.item quotes lists node).Yields past visual events) :
    Compiles walk .item quotes lists [node] [visual] events := by
  cases node with
  | item children status metadata =>
    simp only [item, Traced.yields_bind_iff, Traced.yields_pure_iff] at yields
    obtain ⟨visuals, events, _, childrenYield, ⟨rfl, rfl⟩, rfl⟩ := yields
    rw [List.append_nil]
    exact .item (blocks_compiles childrenYield)
  | _ => exact absurd yields (by simp [item, Node.misplaced])
termination_by structural node

theorem items_compile {walk : Walk} {quotes lists : Int} {nodes : List Node} {visuals : List Visual}
    {past events : List Event} (yields : (walk.items quotes lists nodes).Yields past visuals events) :
    Compiles walk .item quotes lists nodes visuals events := by
  cases nodes with
  | nil =>
    obtain ⟨rfl, rfl⟩ := Traced.yields_pure_iff.mp yields
    exact .nil
  | cons node nodes =>
    simp only [items, Traced.yields_bind_iff, Traced.yields_pure_iff] at yields
    obtain ⟨first, events, _, firstYields, ⟨rest, later, _, restYield, ⟨rfl, rfl⟩, rfl⟩, rfl⟩ :=
      yields
    rw [List.append_nil]
    exact .cons (item_compiles firstYields) (items_compile restYield)
termination_by structural nodes

end

end Walk

def Walk.shallow : Walk :=
  { Walk.bare with options := { RenderOptions.default with maxQuoteDepth := some 1 } }

theorem of_walk_of_yields {walked : Traced Tree} {past events : List Event} {tree : Tree}
    (yields : walked.Yields past tree events) :
    ((Compiled.ofWalk walked).after past).outcome =
      .ok ⟨tree, Event.diagnostics events, Event.warnings events⟩ := by
  rw [Traced.Yields] at yields
  simp only [Compiled.ofWalk, yields]

theorem of_walk_of_fails {walked : Traced Tree} {past events : List Event} {failure : Failure}
    (fails : walked.Fails past failure events) :
    ((Compiled.ofWalk walked).after past).outcome = .error failure.inCompilation := by
  rw [Traced.Fails] at fails
  simp only [Compiled.ofWalk, fails]

theorem of_walk_eq_ok {walked : Traced Tree} {past : List Event} {compiled : Compiled}
    (returned : ((Compiled.ofWalk walked).after past).outcome = .ok compiled) :
    ∃ tree events, walked.Yields past tree events ∧
      compiled = ⟨tree, Event.diagnostics events, Event.warnings events⟩ := by
  rw [Compiled.ofWalk] at returned
  rcases Traced.yields_or_fails walked past with ⟨tree, events, yields⟩ | ⟨failure, events, fails⟩
  · rw [Traced.Yields] at yields
    simp only [yields, Except.ok.injEq] at returned
    exact ⟨tree, events, yields, returned.symm⟩
  · rw [Traced.Fails] at fails
    simp [fails] at returned

theorem compile_eq_ok {walk : Walk} {document : Option Node} {past : List Event}
    {compiled : Compiled} (returned : ((compile walk document).after past).outcome = .ok compiled) :
    (document = none ∧ compiled = Compiled.empty) ∨
      ∃ children metadata visuals events, document = some (.document children metadata) ∧
        Walk.Compiles walk .block 0 0 children visuals events ∧
        compiled = ⟨⟨visuals⟩, Event.diagnostics events, Event.warnings events⟩ := by
  cases document with
  | none => exact .inl ⟨rfl, by simpa [compile, eq_comm] using returned⟩
  | some node =>
    cases node with
    | document children metadata =>
      obtain ⟨tree, events, treeYields, rfl⟩ := of_walk_eq_ok returned
      rw [Walk.tree_eq] at treeYields
      simp only [Traced.yields_bind_iff, Traced.yields_pure_iff] at treeYields
      obtain ⟨visuals, events, _, blocksYield, ⟨rfl, rfl⟩, rfl⟩ := treeYields
      rw [List.append_nil]
      exact .inr ⟨children, metadata, visuals, events, rfl, Walk.blocks_compiles blocksYield, rfl⟩
    | _ => simp [compile, Traced.fail, Traced.steady] at returned

end MarkdownView
