import MarkdownView.Proofs.Compile.Alike
import MarkdownView.Proofs.Compile.Failures
import MarkdownView.Proofs.Compile.Strictness
set_option autoImplicit false

namespace MarkdownView

def firstOr {α : Type} (failures : List Failure) (value : α) : Except Failure α :=
  match failures with
  | [] => .ok value
  | failure :: _ => .error failure

theorem map_m_eq_first_or {α β : Type} {read : α → Except Failure β} {wrong : α → List Failure}
    {result : α → β} (each : ∀ value, read value = firstOr (wrong value) (result value)) (list : List α) :
    list.mapM read = firstOr (list.flatMap wrong) (list.map result) := by
  induction list with
  | nil => rfl
  | cons first rest ih =>
    rw [List.mapM_cons, each, ih, List.flatMap_cons]
    cases wrong first with
    | cons failure others => rfl
    | nil => cases rest.flatMap wrong <;> rfl

namespace Node

def asCell : Node → TableCell
  | .cell content alignment _ => ⟨content, alignment⟩
  | _ => ⟨[], none⟩

def asRow : Node → List TableCell
  | .row cells _ _ => cells.map asCell
  | _ => []

def cellMisfits : Node → List Failure
  | .cell .. => []
  | node => [.contract node.kind "table row"]

def rowMisfits (context : String) : Node → List Failure
  | .row cells _ _ => cells.flatMap cellMisfits
  | node => [.contract node.kind context]

def tableMisfits (header : Option Node) (rows : List Node) : List Failure :=
  header.toList.flatMap (rowMisfits "table header") ++ rows.flatMap (rowMisfits "table")

def isCell : Node → Bool
  | .cell .. => true
  | _ => false

def isRow : Node → Bool
  | .row cells _ _ => cells.all isCell
  | _ => false

def columnAlignment (header : Option Node) (alignments : List (Option String)) (index : Nat) :
    Option String :=
  ((alignments[index]?).join).or
    (header.bind fun header => ((asRow header)[index]?).bind TableCell.alignment)

def repairNote (width : Nat) (entry : Node × Nat) : Option String :=
  if cellCount entry.1 = width then none
  else some (Walk.repair entry.2 width (cellCount entry.1))

theorem length_as_row (node : Node) : (asRow node).length = cellCount node := by
  cases node with
  | row cells isHeader metadata => exact List.length_map _
  | _ => rfl

theorem cell_of_eq_first_or (node : Node) : Walk.cellOf node = firstOr node.cellMisfits node.asCell := by
  cases node <;> rfl

theorem cells_of_eq_first_or (context : String) (node : Node) :
    Walk.cellsOf context node = firstOr (node.rowMisfits context) node.asRow := by
  cases node with
  | row cells isHeader metadata => exact map_m_eq_first_or cell_of_eq_first_or cells
  | _ => rfl

theorem header_of_eq_first_or (header : Option Node) :
    Walk.headerOf header =
      firstOr (header.toList.flatMap (rowMisfits "table header")) (header.map asRow) := by
  cases header with
  | none => rfl
  | some node =>
    rw [Walk.headerOf, cells_of_eq_first_or, Option.toList_some, List.flatMap_singleton]
    cases node.rowMisfits "table header" <;> rfl

theorem table_misfits_eq_nil_iff {header : Option Node} {rows : List Node} :
    tableMisfits header rows = [] ↔ ∀ node ∈ header.toList ++ rows, node.isRow = true := by
  have cellPlaced (cell : Node) : cell.cellMisfits = [] ↔ cell.isCell = true := by
    cases cell <;> simp [cellMisfits, isCell]
  have rowPlaced (context : String) (row : Node) : row.rowMisfits context = [] ↔ row.isRow = true := by
    cases row with
    | row cells => simp only [rowMisfits, isRow, List.flatMap_eq_nil_iff, List.all_eq_true, cellPlaced]
    | _ => simp [rowMisfits, isRow]
  simp only [tableMisfits, List.append_eq_nil_iff, List.flatMap_eq_nil_iff, rowPlaced,
    List.forall_mem_append]

theorem misfit_is_contract {header : Option Node} {rows : List Node} {failure : Failure}
    (member : failure ∈ tableMisfits header rows) : ∃ kind context, failure = .contract kind context := by
  have ofCell {cell : Node} (member : failure ∈ cell.cellMisfits) :
      ∃ kind context, failure = .contract kind context := by
    cases cell with
    | cell => exact absurd member List.not_mem_nil
    | _ => exact ⟨_, _, List.mem_singleton.mp member⟩
  have ofRow {row : Node} {context : String} (member : failure ∈ row.rowMisfits context) :
      ∃ kind context, failure = .contract kind context := by
    cases row with
    | row cells =>
      obtain ⟨_, _, cellMember⟩ := List.mem_flatMap.mp member
      exact ofCell cellMember
    | _ => exact ⟨_, _, List.mem_singleton.mp member⟩
  rcases List.mem_append.mp member with member | member
  · obtain ⟨_, _, rowMember⟩ := List.mem_flatMap.mp member
    exact ofRow rowMember
  · obtain ⟨_, _, rowMember⟩ := List.mem_flatMap.mp member
    exact ofRow rowMember

theorem width_as_row (header : Option Node) (rows : List Node) (alignments : List (Option String)) :
    Walk.width (header.map asRow) alignments (rows.map asRow) = tableWidth header rows alignments := by
  cases header with
  | some node => exact length_as_row node
  | none =>
    cases rows with
    | nil => rfl
    | cons row rows =>
      simp only [Option.map_none, List.map_cons, Walk.width, tableWidth, List.headD_cons, length_as_row]

theorem header_wide {header : Option Node} (rows : List Node) (alignments : List (Option String)) :
    ∀ node ∈ header, cellCount node = tableWidth header rows alignments := by
  rintro node ⟨⟩
  rfl

theorem column_as_row (header : Option Node) (alignments : List (Option String)) :
    Walk.column (header.map asRow) alignments = columnAlignment header alignments := by
  funext index
  simp only [Walk.column, columnAlignment]
  cases (alignments[index]?).join with
  | some alignment => rfl
  | none => cases header <;> rfl

end Node

namespace Walk

theorem table_of_placed {header : Option Node} {rows : List Node}
    (placed : Node.tableMisfits header rows = []) (walk : Walk) (alignments : List (Option String)) :
    walk.table header rows alignments =
      walk.fitAll (Node.tableWidth header rows alignments) 0 (rows.map Node.asRow) >>= fun fitted =>
        walk.headerCells (header.map Node.asRow) >>= fun headerCells =>
          walk.rows fitted >>= fun cells =>
            Traced.ofExcept (Visual.table?
              ((List.range (Node.tableWidth header rows alignments)).map
                (Node.columnAlignment header alignments)) cells headerCells) := by
  obtain ⟨headerPlaced, rowsPlaced⟩ := List.append_eq_nil_iff.mp placed
  rw [Walk.table, Node.header_of_eq_first_or, map_m_eq_first_or (Node.cells_of_eq_first_or "table"), headerPlaced,
    rowsPlaced, ← Node.width_as_row, ← Node.column_as_row]
  exact (Traced.pure_bind_value _ _).trans (Traced.pure_bind_value _ _)

theorem table_of_misplaced {header : Option Node} {rows : List Node} {failure : Failure}
    {later : List Failure} (misfits : Node.tableMisfits header rows = failure :: later) (walk : Walk)
    (alignments : List (Option String)) : walk.table header rows alignments = Traced.fail failure := by
  rw [Walk.table, Node.header_of_eq_first_or, map_m_eq_first_or (Node.cells_of_eq_first_or "table")]
  rw [Node.tableMisfits] at misfits
  cases headerMisfits : header.toList.flatMap (Node.rowMisfits "table header") with
  | cons first others =>
    rw [headerMisfits] at misfits
    obtain rfl : first = failure := (List.cons.inj misfits).1
    exact Traced.fail_bind _ _
  | nil =>
    rw [headerMisfits, List.nil_append] at misfits
    rw [misfits]
    exact (Traced.pure_bind_value _ _).trans (Traced.fail_bind _ _)

theorem fit_of_width {walk : Walk} {width : Nat} {cells : List TableCell} (wide : cells.length = width)
    (index : Nat) : walk.fit width index cells = pure (cells.map some) := by
  rw [fit, if_pos wide]

theorem fit_all_of_uneven {walk : Walk} (strict : walk.options.isStrict = true) {width : Nat}
    {before : List (List TableCell)} {row : List TableCell}
    (beforeWide : ∀ cells ∈ before, cells.length = width) (uneven : row.length ≠ width)
    (after : List (List TableCell)) (index : Nat) :
    walk.fitAll width index (before ++ row :: after) =
      Traced.fail (.malformedTable ((index + before.length : Nat) : Int) width row.length none) := by
  induction before generalizing index with
  | nil =>
    rw [List.nil_append, fitAll, fit, if_neg uneven, if_pos strict]
    exact Traced.fail_bind _ _
  | cons cells before ih =>
    obtain ⟨firstWide, restWide⟩ := List.forall_mem_cons.mp beforeWide
    rw [List.cons_append, fitAll, fit_of_width firstWide, Traced.pure_bind_value, ih restWide,
      List.length_cons, Nat.add_assoc, Nat.add_comm 1]
    exact Traced.fail_bind _ _

theorem table_of_uneven {walk : Walk} (strict : walk.options.isStrict = true) {header : Option Node}
    {before after : List Node} {row : Node} {alignments : List (Option String)}
    (placed : Node.tableMisfits header (before ++ row :: after) = [])
    (beforeWide : ∀ earlier ∈ before, Node.cellCount earlier =
      Node.tableWidth header (before ++ row :: after) alignments)
    (uneven : Node.cellCount row ≠ Node.tableWidth header (before ++ row :: after) alignments) :
    walk.table header (before ++ row :: after) alignments =
      Traced.fail (.malformedTable before.length
        (Node.tableWidth header (before ++ row :: after) alignments) (Node.cellCount row) none) := by
  rw [table_of_placed placed]
  generalize Node.tableWidth header (before ++ row :: after) alignments = width at beforeWide uneven
  have cellsWide : ∀ cells ∈ before.map Node.asRow, cells.length = width := by
    intro cells member
    obtain ⟨earlier, earlierMember, rfl⟩ := List.mem_map.mp member
    rw [Node.length_as_row, beforeWide earlier earlierMember]
  have cellsUneven : (Node.asRow row).length ≠ width := by rwa [Node.length_as_row]
  rw [List.map_append, List.map_cons, fit_all_of_uneven strict cellsWide cellsUneven, List.length_map,
    Nat.zero_add, Node.length_as_row]
  exact Traced.fail_bind _ _

theorem inline_steady (walk : Walk) (content : List Node) (past other : List Event) :
    ((walk.inline content).after past).outcome = ((walk.inline content).after other).outcome := by
  let quiet : Walk := { walk with highlighter := fun _ _ => pure [] }
  have quietPure : quiet.highlighter.IsPure := fun _ _ _ _ => rfl
  have sameInline : quiet.inline content = walk.inline content := rfl
  have alike := inline_alike (alike_self quietPure) content
  rw [sameInline] at alike
  exact (alike past other).1

def Shows (walk : Walk) : Option TableCell → Cell → Prop
  | none, shown => shown = []
  | some cell, shown => ∀ past, ((walk.inline cell.content).after past).outcome = .ok shown

structure ShowsRow (walk : Walk) (width : Nat) (node : Node) (cells : List Cell) : Prop where
  length : cells.length = width
  shows : ∀ (index : Nat) (cell : Cell), cells[index]? = some cell →
    walk.Shows ((Node.asRow node)[index]?) cell

theorem shows_of_yields {walk : Walk} {cell : TableCell} {shown : Cell} {past events : List Event}
    (yields : (walk.inline cell.content).Yields past shown events) : walk.Shows (some cell) shown := by
  intro other
  rw [inline_steady walk cell.content other past, yields]

theorem CompilesRow.shows {walk : Walk} {row : List (Option TableCell)} {cells : List Cell}
    {events : List Event} (compiles : CompilesRow walk row cells events) :
    List.Forall₂ walk.Shows row cells := by
  induction compiles with
  | nil => exact .nil
  | padding _ ih => exact .cons rfl ih
  | cell first _ ih => exact .cons (shows_of_yields first) ih

theorem get_elem?_fitted {width index : Nat} (inside : index < width) (cells : List TableCell) :
    (fitted width cells)[index]? = some cells[index]? := by
  rw [fitted, List.getElem?_append, List.length_map, List.length_take]
  split
  next kept =>
    rw [List.getElem?_map, List.getElem?_take_of_lt inside]
    have existsCell : index < cells.length := by omega
    rw [List.getElem?_eq_getElem existsCell]
    rfl
  next lacks =>
    have noCell : cells.length ≤ index := by omega
    rw [List.getElem?_replicate, if_pos (by omega), List.getElem?_eq_none noCell]

theorem shows_row_of_compiles {walk : Walk} {width : Nat} {node : Node} {cells : List Cell}
    {events : List Event} (compiles : CompilesRow walk (fitted width (Node.asRow node)) cells events) :
    walk.ShowsRow width node cells := by
  have shows := compiles.shows
  have wide : cells.length = width := shows.length_eq.symm.trans (fitted_length width _)
  refine ⟨wide, fun index cell cellAt => ?_⟩
  obtain ⟨inside, rfl⟩ := List.getElem?_eq_some_iff.mp cellAt
  have fittedAt := get_elem?_fitted (wide ▸ inside) (Node.asRow node)
  obtain ⟨fittedInside, entry⟩ := List.getElem?_eq_some_iff.mp fittedAt
  rw [← entry]
  exact shows.get fittedInside inside

theorem shows_rows_of_compile {walk : Walk} {width : Nat} {nodes : List Node} {cells : List (List Cell)}
    {events : List Event}
    (compile : CompilesRows walk ((nodes.map Node.asRow).map (fitted width)) cells events) :
    List.Forall₂ (walk.ShowsRow width) nodes cells := by
  induction nodes generalizing cells events with
  | nil =>
    cases compile
    exact .nil
  | cons node nodes ih =>
    cases compile with
    | cons first rest => exact .cons (shows_row_of_compiles first) (ih rest)

theorem ShowsRow.even {walk : Walk} {width : Nat} {nodes : List Node} {cells : List (List Cell)}
    (shown : List.Forall₂ (walk.ShowsRow width) nodes cells) : ∀ row ∈ cells, row.length = width := by
  induction shown with
  | nil => exact fun _ member => nomatch member
  | cons first _ ih => exact List.forall_mem_cons.mpr ⟨first.length, ih⟩

theorem header_compiles {walk : Walk} {width : Nat} {header : Option Node}
    (wide : ∀ node ∈ header, Node.cellCount node = width) {cells : List (List Cell)}
    {events : List Event}
    (compile : CompilesRows walk ((header.map Node.asRow).toList.map (List.map some)) cells events) :
    List.Forall₂ (walk.ShowsRow width) header.toList cells := by
  suffices compiles : CompilesRows walk ((header.toList.map Node.asRow).map (fitted width)) cells events from
    shows_rows_of_compile compiles
  cases header with
  | none => exact compile
  | some node =>
    have rowWide : (Node.asRow node).length = width := (Node.length_as_row node).trans (wide node rfl)
    rw [Option.toList_some, List.map_singleton, List.map_singleton, fitted_of_width rowWide]
    exact compile

theorem warnings_repairs_as_row (width index : Nat) (nodes : List Node) :
    Event.warnings (repairs width index (nodes.map Node.asRow)) =
      (nodes.zipIdx index).filterMap (Node.repairNote width) := by
  induction nodes generalizing index with
  | nil => rfl
  | cons node nodes ih =>
    rw [List.map_cons, repairs, Event.warnings_append, ih, List.zipIdx_cons, List.filterMap_cons,
      Node.length_as_row, Node.repairNote]
    split <;> rfl

theorem cells_return {walk : Walk} {row : List (Option TableCell)}
    (shown : ∀ cell, some cell ∈ row → ∃ content, walk.Shows (some cell) content)
    (past : List Event) : ∃ cells events, (walk.cells row).Yields past cells events := by
  induction row generalizing past with
  | nil => exact ⟨[], [], rfl⟩
  | cons entry row ih =>
    have restShown : ∀ cell, some cell ∈ row → ∃ content, walk.Shows (some cell) content :=
      fun cell member => shown cell (List.mem_cons_of_mem _ member)
    cases entry with
    | none =>
      obtain ⟨rest, events, restYields⟩ := ih restShown past
      simp only [Walk.cells, Traced.yields_bind_iff, Traced.yields_pure_iff]
      exact ⟨_, _, rest, events, [], restYields, ⟨rfl, rfl⟩, rfl⟩
    | some cell =>
      obtain ⟨content, shows⟩ := shown cell List.mem_cons_self
      have firstYields := Traced.yields_of_outcome (shows past)
      obtain ⟨rest, events, restYields⟩ :=
        ih restShown (((walk.inline cell.content).after past).events.reverseAux past)
      simp only [Walk.cells, Traced.yields_bind_iff, Traced.yields_map_failure_iff,
        Traced.yields_pure_iff]
      exact ⟨_, _, content, _, _, firstYields, ⟨rest, events, [], restYields, ⟨rfl, rfl⟩, rfl⟩, rfl⟩

theorem rows_return {walk : Walk} {rows : List (List (Option TableCell))}
    (shown : ∀ row ∈ rows, ∀ cell, some cell ∈ row → ∃ content, walk.Shows (some cell) content)
    (past : List Event) : ∃ cells events, (walk.rows rows).Yields past cells events := by
  induction rows generalizing past with
  | nil => exact ⟨[], [], rfl⟩
  | cons row rows ih =>
    obtain ⟨rowShown, restShown⟩ := List.forall_mem_cons.mp shown
    obtain ⟨first, before, firstYields⟩ := cells_return rowShown past
    obtain ⟨rest, events, restYields⟩ := ih restShown (before.reverseAux past)
    simp only [Walk.rows, Traced.yields_bind_iff, Traced.yields_pure_iff]
    exact ⟨_, _, first, before, _, firstYields, ⟨rest, events, [], restYields, ⟨rfl, rfl⟩, rfl⟩, rfl⟩

theorem header_cells_return {walk : Walk} {header : Option (List TableCell)}
    (shown : ∀ row ∈ header, ∀ cell ∈ row, ∃ content, walk.Shows (some cell) content)
    (past : List Event) : ∃ cells events, (walk.headerCells header).Yields past cells events := by
  cases header with
  | none => exact ⟨none, [], rfl⟩
  | some row =>
    have rowShown : ∀ cell, some cell ∈ row.map some → ∃ content, walk.Shows (some cell) content := by
      intro cell member
      obtain ⟨_, rowMember, ⟨⟩⟩ := List.mem_map.mp member
      exact shown row rfl cell rowMember
    obtain ⟨cells, events, cellsYield⟩ := cells_return rowShown past
    simp only [Walk.headerCells, Traced.yields_bind_iff, Traced.yields_pure_iff]
    exact ⟨_, _, cells, events, [], cellsYield, ⟨rfl, rfl⟩, rfl⟩

theorem table_shows {walk : Walk} {header : Option Node} {rows : List Node}
    (placed : Node.tableMisfits header rows = []) {alignments : List (Option String)} {visual : Visual}
    {past events : List Event} (yields : (walk.table header rows alignments).Yields past visual events) :
    ∃ headerCells cells,
      visual = .table ((List.range (Node.tableWidth header rows alignments)).map
        (Node.columnAlignment header alignments)) cells headerCells ∧
      List.Forall₂ (walk.ShowsRow (Node.tableWidth header rows alignments)) header.toList
        headerCells.toList ∧
      List.Forall₂ (walk.ShowsRow (Node.tableWidth header rows alignments)) rows cells ∧
      Event.warnings events =
        rows.zipIdx.filterMap (Node.repairNote (Node.tableWidth header rows alignments)) := by
  simp only [table_of_placed placed, Traced.yields_bind_iff, Traced.yields_of_except_iff,
    fit_all_yields_iff] at yields
  obtain ⟨_, _, _, ⟨rfl, rfl, _⟩, ⟨headerCells, headerEvents, _, headerYields, ⟨cells, rowEvents, _,
    rowsYield, ⟨accepted, rfl⟩, rfl⟩, rfl⟩, rfl⟩ := yields
  have headerCompile := header_cells_compile headerYields
  have rowsCompile := rows_compile rowsYield
  refine ⟨headerCells, cells, table?_eq_ok accepted,
    header_compiles (Node.header_wide rows alignments) headerCompile,
    shows_rows_of_compile rowsCompile, ?_⟩
  have cellsRepairNothing := rows_repair_nothing (headerCompile.append rowsCompile)
  rw [List.append_nil, Event.warnings_append, cellsRepairNothing, List.append_nil,
    warnings_repairs_as_row]

theorem table?_of_shown {walk : Walk} {columns : List (Option String)} {width : Nat}
    (columnCount : columns.length = width) {header : Option Node} {rows : List Node}
    {headerCells : Option (List Cell)} {cells : List (List Cell)}
    (headerShown : List.Forall₂ (walk.ShowsRow width) header.toList headerCells.toList)
    (rowsShown : List.Forall₂ (walk.ShowsRow width) rows cells) :
    Visual.table? columns cells headerCells = .ok (.table columns cells headerCells) := by
  subst columnCount
  refine Visual.table?_of_even (fun shown member => ?_) fun row member => ?_
  · exact ShowsRow.even headerShown shown (Option.mem_toList.mpr member)
  · exact ShowsRow.even rowsShown row member

theorem table_returns {walk : Walk} {header : Option Node} {rows : List Node}
    (placed : Node.tableMisfits header rows = []) {alignments : List (Option String)}
    (even : walk.options.isStrict = true → ∀ row ∈ rows,
      Node.cellCount row = Node.tableWidth header rows alignments)
    (shown : ∀ row ∈ header.toList ++ rows,
      ∀ cell ∈ (Node.asRow row).take (Node.tableWidth header rows alignments),
        ∃ content, walk.Shows (some cell) content)
    (past : List Event) :
    ∃ visual events, (walk.table header rows alignments).Yields past visual events := by
  have headerWide := @Node.header_wide header rows alignments
  rw [table_of_placed placed]
  generalize Node.tableWidth header rows alignments = width at even shown headerWide
  have fits : (walk.fitAll width 0 (rows.map Node.asRow)).Yields past
      ((rows.map Node.asRow).map (fitted width)) (repairs width 0 (rows.map Node.asRow)) := by
    refine fit_all_yields_iff.mpr ⟨rfl, rfl, fun strict cells member => ?_⟩
    obtain ⟨row, rowMember, rfl⟩ := List.mem_map.mp member
    rw [Node.length_as_row, even strict row rowMember]
  have headerShown : ∀ cells ∈ header.map Node.asRow, ∀ cell ∈ cells,
      ∃ content, walk.Shows (some cell) content := by
    intro cells member cell cellMember
    obtain ⟨node, nodeMember, rfl⟩ := Option.map_eq_some_iff.mp member
    refine shown node (List.mem_append_left _ (Option.mem_toList.mpr nodeMember)) cell ?_
    have wide : (Node.asRow node).length = width :=
      (Node.length_as_row node).trans (headerWide node nodeMember)
    rwa [← wide, List.take_length]
  have rowsShown : ∀ row ∈ (rows.map Node.asRow).map (fitted width), ∀ cell, some cell ∈ row →
      ∃ content, walk.Shows (some cell) content := by
    intro cells member cell cellMember
    obtain ⟨_, rowMember, rfl⟩ := List.mem_map.mp member
    obtain ⟨row, nodeMember, rfl⟩ := List.mem_map.mp rowMember
    exact shown row (List.mem_append_right _ nodeMember) cell (mem_of_mem_fitted cellMember)
  obtain ⟨headerCells, headerEvents, headerYields⟩ := header_cells_return headerShown _
  obtain ⟨cells, rowEvents, rowsYield⟩ := rows_return rowsShown _
  have columnCount : ((List.range width).map (Node.columnAlignment header alignments)).length = width := by
    rw [List.length_map, List.length_range]
  have accepted := table?_of_shown columnCount
    (header_compiles headerWide (header_cells_compile headerYields))
    (shows_rows_of_compile (rows_compile rowsYield))
  simp only [Traced.yields_bind_iff, Traced.yields_of_except_iff]
  exact ⟨_, _, _, _, _, fits, ⟨headerCells, headerEvents, _, headerYields, ⟨cells, rowEvents, [],
    rowsYield, ⟨accepted, rfl⟩, rfl⟩, rfl⟩, rfl⟩

-- How the compilation of a table may end. A node at a wrong place comes first, then, where rows have to be
-- of the right width, the first that is not, and neither has to do with what is in the cells.
structure TableEnds (walk : Walk) (header : Option Node) (rows : List Node)
    (alignments : List (Option String)) (width : Nat) (ending : Ending (Option Visual)) : Prop where
  misplaced : (∃ node ∈ header.toList ++ rows, node.isRow = false) →
    ∃ kind context, (Node.tableMisfits header rows).head? = some (.contract kind context) ∧
      ending = ⟨.error (.contract kind context), []⟩
  uneven : (∀ node ∈ header.toList ++ rows, node.isRow = true) → walk.options.isStrict = true →
    ∀ before row after, rows = before ++ row :: after →
      (∀ earlier ∈ before, Node.cellCount earlier = width) → Node.cellCount row ≠ width →
        ending = ⟨.error (.malformedTable before.length width (Node.cellCount row) none), []⟩
  shows : ∀ visual, ending.outcome = .ok visual → ∃ headerCells cells,
    visual = some (.table ((List.range width).map (Node.columnAlignment header alignments)) cells
      headerCells) ∧
    List.Forall₂ (walk.ShowsRow width) header.toList headerCells.toList ∧
    List.Forall₂ (walk.ShowsRow width) rows cells ∧
    Event.warnings ending.events = rows.zipIdx.filterMap (Node.repairNote width)
  returns : (∀ node ∈ header.toList ++ rows, node.isRow = true) →
    (walk.options.isStrict = true → ∀ row ∈ rows, Node.cellCount row = width) →
    (∀ row ∈ header.toList ++ rows, ∀ cell ∈ (Node.asRow row).take width,
      ∃ content, walk.Shows (some cell) content) →
    ∃ visual, ending.outcome = .ok visual

theorem leaf_table (walk : Walk) (header : Option Node) (rows : List Node)
    (alignments : List (Option String)) (metadata : Metadata) (past : List Event) :
    TableEnds walk header rows alignments (Node.tableWidth header rows alignments)
      ((walk.leaf (.table header rows alignments metadata)).after past) := by
  rw [leaf]
  refine ⟨fun ⟨node, member, noRow⟩ => ?misplaced, fun inPlace strict before row after => ?uneven,
    fun visual returned => ?shows, fun inPlace even shown => ?returns⟩
  case misplaced =>
    cases misfits : Node.tableMisfits header rows with
    | nil =>
      have isRow := Node.table_misfits_eq_nil_iff.mp misfits node member
      exact Bool.noConfusion (noRow.symm.trans isRow)
    | cons failure later =>
      obtain ⟨kind, context, rfl⟩ := Node.misfit_is_contract (misfits ▸ List.mem_cons_self)
      rw [table_of_misplaced misfits, Traced.fail_bind]
      exact ⟨kind, context, rfl, rfl⟩
  case uneven =>
    rintro rfl beforeWide rowUneven
    have placed := Node.table_misfits_eq_nil_iff.mpr inPlace
    rw [table_of_uneven strict placed beforeWide rowUneven, Traced.fail_bind]
    rfl
  case shows =>
    cases misfits : Node.tableMisfits header rows with
    | cons failure later =>
      rw [table_of_misplaced misfits, Traced.fail_bind] at returned
      cases returned
    | nil =>
      have yields := Traced.yields_of_outcome returned
      obtain ⟨table, events, _, tableYields, ⟨rfl, rfl⟩, happened⟩ :=
        Traced.yields_bind_iff.mp yields
      obtain ⟨headerCells, cells, rfl, headerShown, rowsShown, repaired⟩ :=
        table_shows misfits tableYields
      rw [happened, List.append_nil]
      exact ⟨headerCells, cells, rfl, headerShown, rowsShown, repaired⟩
  case returns =>
    have placed := Node.table_misfits_eq_nil_iff.mpr inPlace
    obtain ⟨table, events, yields⟩ := table_returns placed even shown past
    refine ⟨some table, ?_⟩
    rw [Traced.after_bind_of_yields yields, Traced.after_pure]

theorem visit_table (walk : Walk) (depths : Depths) (header : Option Node) (rows : List Node)
    (alignments : List (Option String)) (metadata : Metadata) (past : List Event) :
    ∃ ending, (walk.visit depths (.table header rows alignments metadata)).after past =
        ⟨.ok ⟨ending.outcome, depths⟩, ending.events⟩ ∧
      TableEnds walk header rows alignments (Node.tableWidth header rows alignments) ending := by
  exact ⟨_, after_visit walk depths _ past, leaf_table walk header rows alignments metadata past⟩

def raggedTable (content : List Node) : Node :=
  .table (some (.row [.cell [] (some "center") [], .cell [] (some "right") []] true []))
    [.row [.cell content none []] false [],
      .row [.cell [] none [], .cell [] none [], .cell [] none []] false []]
    [some "left", none, some "left"] []

theorem visit_table_ragged_table :
    (Walk.bare.strict.visit ⟨1, 0⟩ (raggedTable [.thematicBreak []])).after [] =
      ⟨.ok ⟨.error (.malformedTable 0 2 1 none), ⟨1, 0⟩⟩, []⟩ ∧
    ∃ headerCells cells events,
      (Walk.bare.lenient.visit ⟨1, 0⟩ (raggedTable [.text "a" []])).after [] =
        ⟨.ok ⟨.ok (some (.table [some "left", some "right"] cells headerCells)), ⟨1, 0⟩⟩, events⟩ ∧
      cells.map List.length = [2, 2] ∧
      Event.warnings events = [Walk.repair 0 2 1, Walk.repair 1 2 3] := by
  constructor
  · obtain ⟨ending, visited, ends⟩ := visit_table Walk.bare.strict ⟨1, 0⟩
      (some (.row [.cell [] (some "center") [], .cell [] (some "right") []] true []))
      [.row [.cell [.thematicBreak []] none []] false [],
        .row [.cell [] none [], .cell [] none [], .cell [] none []] false []]
      [some "left", none, some "left"] [] []
    have refused := ends.uneven (by decide) rfl [] _ _ rfl (fun _ member => nomatch member) (by decide)
    rw [refused] at visited
    exact visited
  · obtain ⟨⟨outcome, events⟩, visited, ends⟩ := visit_table Walk.bare.lenient ⟨1, 0⟩
      (some (.row [.cell [] (some "center") [], .cell [] (some "right") []] true []))
      [.row [.cell [.text "a" []] none []] false [],
        .row [.cell [] none [], .cell [] none [], .cell [] none []] false []]
      [some "left", none, some "left"] [] []
    cases visited
    obtain ⟨headerCells, cells, shown, _, rowsShown, repaired⟩ := ends.shows _ rfl
    refine ⟨headerCells, cells, _, ?_, ?_, repaired⟩
    · exact congrArg (fun visual =>
        (⟨.ok ⟨.ok visual, ⟨1, 0⟩⟩, _⟩ : Ending (Visit (Option Visual)))) shown
    · cases rowsShown with
      | cons first rest =>
        cases rest with
        | cons second rest =>
          cases rest
          rw [List.map_cons, List.map_cons, first.length, second.length]
          rfl

end Walk
end MarkdownView
