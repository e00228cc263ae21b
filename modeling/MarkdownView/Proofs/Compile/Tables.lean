import Mathlib.Data.List.Forall2
import MarkdownView.Compile
import MarkdownView.Proofs.Suitable
import MarkdownView.Proofs.Trace
set_option autoImplicit false

namespace MarkdownView

theorem map_m_eq_ok_iff {α β : Type} {read : α → Except Failure β} {list : List α} {results : List β} :
    list.mapM read = .ok results ↔ List.Forall₂ (fun a result => read a = .ok result) list results := by
  induction list generalizing results with
  | nil =>
    constructor
    · rintro ⟨⟩
      exact .nil
    · rintro ⟨⟩
      rfl
  | cons first rest ih =>
    simp only [List.mapM_cons, bind_eq_ok_iff]
    constructor
    · rintro ⟨result, firstRead, others, restRead, ⟨⟩⟩
      exact .cons firstRead (ih.mp restRead)
    · rintro (_ | ⟨firstRead, restRead⟩)
      exact ⟨_, firstRead, _, ih.mpr restRead, rfl⟩

def TableCell.rewritten (rewrite : List Node → List Node) (cell : TableCell) : TableCell :=
  ⟨rewrite cell.content, cell.alignment⟩

namespace Walk

theorem cell_of_eq_ok_iff {node : Node} {cell : TableCell} :
    cellOf node = .ok cell ↔ ∃ metadata, node = .cell cell.content cell.alignment metadata := by
  rcases cell with ⟨content, alignment⟩
  cases node <;> simp [cellOf]

theorem cells_of_eq_ok_iff {context : String} {node : Node} {cells : List TableCell} :
    cellsOf context node = .ok cells ↔
      ∃ nodes isHeader metadata, node = .row nodes isHeader metadata ∧
        List.Forall₂ (fun node cell => cellOf node = .ok cell) nodes cells := by
  cases node with
  | row nodes isHeader metadata => simp [cellsOf, map_m_eq_ok_iff]
  | _ => simp [cellsOf]

theorem header_of_eq_ok_iff {header : Option Node} {cells : Option (List TableCell)} :
    headerOf header = .ok cells ↔
      List.Forall₂ (fun node row => cellsOf "table header" node = .ok row) header.toList
        cells.toList := by
  cases header with
  | none => cases cells <;> simp [headerOf]
  | some node => cases read : cellsOf "table header" node <;> cases cells <;> simp [headerOf, read, Except.map]

def fitted (width : Nat) (cells : List TableCell) : List (Option TableCell) :=
  (cells.take width).map some ++ List.replicate (width - cells.length) none

theorem fitted_of_width {width : Nat} {cells : List TableCell} (wide : cells.length = width) :
    fitted width cells = cells.map some := by
  simp [fitted, ← wide]

theorem fitted_length (width : Nat) (cells : List TableCell) : (fitted width cells).length = width := by
  simp only [fitted, List.length_append, List.length_map, List.length_take, List.length_replicate]
  omega

theorem mem_of_mem_fitted {width : Nat} {cells : List TableCell} {cell : TableCell}
    (member : some cell ∈ fitted width cells) : cell ∈ cells.take width := by
  rw [fitted, List.mem_append] at member
  rcases member with member | member
  · obtain ⟨other, otherMember, ⟨⟩⟩ := List.mem_map.mp member
    exact otherMember
  · have impossible := (List.mem_replicate.mp member).2
    simp at impossible

def repairs (width index : Nat) : List (List TableCell) → List Event
  | [] => []
  | cells :: rows =>
    (if cells.length = width then [] else [.repaired (repair index width cells.length)]) ++
      repairs width (index + 1) rows

theorem repairs_of_wide {width index : Nat} {rows : List (List TableCell)}
    (wide : ∀ cells ∈ rows, cells.length = width) : repairs width index rows = [] := by
  induction rows generalizing index with
  | nil => rfl
  | cons cells rows ih =>
    obtain ⟨firstWide, restWide⟩ := List.forall_mem_cons.mp wide
    rw [repairs, if_pos firstWide, ih restWide, List.nil_append]

theorem fit_yields_iff {walk : Walk} {width index : Nat} {cells : List TableCell}
    {row : List (Option TableCell)} {past events : List Event} :
    (walk.fit width index cells).Yields past row events ↔
      row = fitted width cells ∧
        events = (if cells.length = width then [] else
          [.repaired (repair index width cells.length)]) ∧
        (walk.options.isStrict = true → cells.length = width) := by
  rw [fit]
  by_cases wide : cells.length = width
  · simp [wide, fitted_of_width]
  · by_cases strict : walk.options.isStrict = true
    · simp [wide, strict]
    · simp [wide, strict, fitted]

theorem fit_all_yields_iff {walk : Walk} {width index : Nat} {rows : List (List TableCell)}
    {result : List (List (Option TableCell))} {past events : List Event} :
    (walk.fitAll width index rows).Yields past result events ↔
      result = rows.map (fitted width) ∧ events = repairs width index rows ∧
        (walk.options.isStrict = true → ∀ cells ∈ rows, cells.length = width) := by
  induction rows generalizing index result past events with
  | nil => simp [fitAll, repairs]
  | cons cells rows ih =>
    simp only [fitAll, Traced.yields_bind_iff, fit_yields_iff, ih, Traced.yields_pure_iff]
    constructor
    · rintro ⟨_, _, _, ⟨rfl, rfl, firstWide⟩, ⟨_, _, _, ⟨rfl, rfl, restWide⟩, ⟨rfl, rfl⟩, rfl⟩, rfl⟩
      refine ⟨rfl, by simp [repairs], fun strict => ?_⟩
      exact List.forall_mem_cons.mpr ⟨firstWide strict, restWide strict⟩
    · rintro ⟨rfl, rfl, wide⟩
      refine ⟨_, _, _, ⟨rfl, rfl, fun strict => ?_⟩,
        ⟨_, _, _, ⟨rfl, rfl, fun strict => ?_⟩, ⟨rfl, rfl⟩, rfl⟩, ?_⟩
      · exact (List.forall_mem_cons.mp (wide strict)).1
      · exact (List.forall_mem_cons.mp (wide strict)).2
      · simp [repairs]

section

variable (rewrite : List Node → List Node)

theorem map_m_map_of_each {α β γ δ : Type} {read : α → Except Failure β} {other : γ → Except Failure δ}
    {change : α → γ} {result : β → δ} (same : ∀ value, other (change value) = (read value).map result)
    (list : List α) : (list.map change).mapM other = (list.mapM read).map (List.map result) := by
  induction list with
  | nil => rfl
  | cons first rest ih =>
    rw [List.map_cons, List.mapM_cons, List.mapM_cons, same, ih]
    cases read first with
    | error failure => rfl
    | ok value => cases rest.mapM read <;> rfl

theorem header_of_map {change : Node → Node} {result : TableCell → TableCell}
    (same : ∀ node, cellsOf "table header" (change node) =
      (cellsOf "table header" node).map (List.map result)) (header : Option Node) :
    headerOf (header.map change) = (headerOf header).map (Option.map (List.map result)) := by
  cases header with
  | none => rfl
  | some header =>
    rw [Option.map_some, headerOf, headerOf, same]
    cases cellsOf "table header" header <;> rfl

theorem width_rewritten (header : Option (List TableCell)) (alignments : List (Option String))
    (rows : List (List TableCell)) :
    width (header.map (List.map (TableCell.rewritten rewrite))) alignments
      (rows.map (List.map (TableCell.rewritten rewrite))) = width header alignments rows := by
  cases header with
  | some cells => exact List.length_map _
  | none => cases rows <;> simp [width]

theorem column_rewritten (header : Option (List TableCell)) (alignments : List (Option String)) :
    column (header.map (List.map (TableCell.rewritten rewrite))) alignments =
      column header alignments := by
  funext index
  cases header with
  | none => rfl
  | some cells =>
    have sameCell : ((cells.map (TableCell.rewritten rewrite))[index]?).bind TableCell.alignment =
        (cells[index]?).bind TableCell.alignment := by
      rw [List.getElem?_map, Option.bind_map]
      rfl
    simp only [column, Option.map_some, sameCell]

theorem fit_rewritten (walk : Walk) (width index : Nat) (cells : List TableCell) :
    walk.fit width index (cells.map (TableCell.rewritten rewrite)) =
      List.map (Option.map (TableCell.rewritten rewrite)) <$> walk.fit width index cells := by
  rw [fit, fit, List.length_map]
  split
  · simp [Function.comp_def]
  · split
    · rfl
    · simp [List.map_take, Function.comp_def]

theorem fit_all_rewritten (walk : Walk) (width index : Nat) (rows : List (List TableCell)) :
    walk.fitAll width index (rows.map (List.map (TableCell.rewritten rewrite))) =
      List.map (List.map (Option.map (TableCell.rewritten rewrite))) <$>
        walk.fitAll width index rows := by
  induction rows generalizing index with
  | nil => simp only [List.map_nil, fitAll, map_pure]
  | cons cells rows ih =>
    simp only [List.map_cons, fitAll, fit_rewritten, ih, map_bind, bind_map_left, map_pure]

end

theorem cells_of_length {context : String} {node : Node} {cells : List TableCell}
    (read : cellsOf context node = .ok cells) : cells.length = Node.cellCount node := by
  obtain ⟨nodes, isHeader, metadata, rfl, cellsRead⟩ := cells_of_eq_ok_iff.mp read
  exact cellsRead.length_eq.symm

theorem lengths_of_read {context : String} {nodes : List Node} {rows : List (List TableCell)}
    (read : nodes.mapM (cellsOf context) = .ok rows) :
    rows.map List.length = nodes.map Node.cellCount := by
  have rowsRead := map_m_eq_ok_iff.mp read
  clear read
  induction rowsRead with
  | nil => rfl
  | cons first _ ih => rw [List.map_cons, List.map_cons, cells_of_length first, ih]

theorem header_of_read {header : Option Node} {headerRow : Option (List TableCell)}
    (headerRead : headerOf header = .ok headerRow) {node : Node} (member : node ∈ header) :
    ∃ cells ∈ headerRow, cellsOf "table header" node = .ok cells := by
  obtain rfl : header = some node := member
  cases read : cellsOf "table header" node with
  | error failure => simp [headerOf, read, Except.map] at headerRead
  | ok cells => exact ⟨cells, by simpa [headerOf, read, Except.map, eq_comm] using headerRead, rfl⟩

theorem width_of_read {header : Option Node} {body : List Node} {headerRow : Option (List TableCell)}
    {bodyRows : List (List TableCell)} (headerRead : headerOf header = .ok headerRow)
    (bodyRead : body.mapM (cellsOf "table") = .ok bodyRows) (alignments : List (Option String)) :
    width headerRow alignments bodyRows = Node.tableWidth header body alignments := by
  cases header with
  | none =>
    obtain rfl : headerRow = none := (Except.ok.inj headerRead).symm
    have firstLength : (bodyRows.headD []).length = (body.map Node.cellCount).headD 0 := by
      rw [← lengths_of_read bodyRead]
      cases bodyRows <;> rfl
    rw [width, Node.tableWidth, firstLength]
  | some node =>
    obtain ⟨cells, cellsMember, read⟩ := header_of_read headerRead rfl
    obtain rfl : headerRow = some cells := cellsMember
    exact cells_of_length read

theorem suit_cells_iff {kept : Nat} {nodes : List Node} :
    Node.suitCells kept nodes = true ↔ ∃ cells, nodes.mapM cellOf = .ok cells ∧
      ∀ cell ∈ cells.take kept, Node.suitTexts cell.content = true := by
  induction nodes generalizing kept with
  | nil => exact ⟨fun _ => ⟨[], rfl, by simp⟩, fun _ => rfl⟩
  | cons node nodes ih =>
    rw [Node.suitCells, Bool.and_eq_true, ih]
    constructor
    · rintro ⟨firstSuits, cells, restRead, restSuit⟩
      cases node with
      | cell content alignment metadata =>
        refine ⟨⟨content, alignment⟩ :: cells, ?_, ?_⟩
        · rw [map_m_eq_ok_iff] at restRead ⊢
          exact .cons rfl restRead
        · cases kept with
          | zero => simp
          | succ kept =>
            rw [List.take_succ_cons, List.forall_mem_cons]
            exact ⟨by simpa [Node.suitsCell] using firstSuits, restSuit⟩
      | _ => simp [Node.suitsCell] at firstSuits
    · rintro ⟨cells, read, suit⟩
      cases map_m_eq_ok_iff.mp read with
      | cons firstRead restRead =>
        obtain ⟨metadata, rfl⟩ := cell_of_eq_ok_iff.mp firstRead
        cases kept with
        | zero => exact ⟨by simp [Node.suitsCell], _, map_m_eq_ok_iff.mpr restRead, by simp⟩
        | succ kept =>
          rw [List.take_succ_cons, List.forall_mem_cons] at suit
          exact ⟨by simpa [Node.suitsCell] using suit.1, _, map_m_eq_ok_iff.mpr restRead, suit.2⟩

theorem suits_row_iff {width : Nat} {node : Node} (context : String) :
    Node.suitsRow width node = true ↔ ∃ cells, cellsOf context node = .ok cells ∧
      ∀ cell ∈ cells.take width, Node.suitTexts cell.content = true := by
  cases node with
  | row nodes isHeader metadata => exact suit_cells_iff
  | _ => simp [Node.suitsRow, cellsOf]

theorem suit_rows_iff {width : Nat} {nodes : List Node} (context : String) :
    (∀ node ∈ nodes, Node.suitsRow width node = true) ↔
      ∃ rows, nodes.mapM (cellsOf context) = .ok rows ∧
        ∀ row ∈ rows, ∀ cell ∈ row.take width, Node.suitTexts cell.content = true := by
  induction nodes with
  | nil => exact ⟨fun _ => ⟨[], rfl, by simp⟩, fun _ => by simp⟩
  | cons node nodes ih =>
    rw [List.forall_mem_cons, ih, suits_row_iff context]
    constructor
    · rintro ⟨⟨cells, firstRead, firstSuits⟩, rows, restRead, restSuit⟩
      refine ⟨cells :: rows, ?_, List.forall_mem_cons.mpr ⟨firstSuits, restSuit⟩⟩
      rw [map_m_eq_ok_iff] at restRead ⊢
      exact .cons firstRead restRead
    · rintro ⟨rows, read, suit⟩
      cases map_m_eq_ok_iff.mp read with
      | cons firstRead restRead =>
        obtain ⟨firstSuits, restSuit⟩ := List.forall_mem_cons.mp suit
        exact ⟨⟨_, firstRead, firstSuits⟩, _, map_m_eq_ok_iff.mpr restRead, restSuit⟩

theorem suits_table_iff {header : Option Node} {rows : List Node} {alignments : List (Option String)} :
    Node.suitsTable header rows alignments = true ↔
      ∃ headerRow bodyRows, headerOf header = .ok headerRow ∧
        rows.mapM (cellsOf "table") = .ok bodyRows ∧
        (∀ cells ∈ headerRow, ∀ cell ∈ cells, Node.suitTexts cell.content = true) ∧
        ∀ row ∈ bodyRows, ∀ cell ∈ row.take (width headerRow alignments bodyRows),
          Node.suitTexts cell.content = true := by
  rw [Node.suitsTable, List.all_append, Bool.and_eq_true, List.all_eq_true, List.all_eq_true]
  constructor
  · rintro ⟨headerSuits, rowsSuit⟩
    obtain ⟨bodyRows, bodyRead, bodySuit⟩ := (suit_rows_iff "table").mp rowsSuit
    cases header with
    | none =>
      have noHeader : headerOf none = .ok none := rfl
      rw [← width_of_read noHeader bodyRead] at bodySuit
      exact ⟨none, bodyRows, rfl, bodyRead, by simp, bodySuit⟩
    | some node =>
      obtain ⟨cells, cellsRead, headerSuit⟩ :=
        (suits_row_iff "table header").mp (headerSuits node (by simp))
      have headerRead : headerOf (some node) = .ok (some cells) := by
        rw [headerOf, cellsRead]
        rfl
      rw [← width_of_read headerRead bodyRead] at headerSuit bodySuit
      rw [width, List.take_length] at headerSuit
      exact ⟨some cells, bodyRows, headerRead, bodyRead, by simpa using headerSuit, bodySuit⟩
  · rintro ⟨headerRow, bodyRows, headerRead, bodyRead, headerSuit, bodySuit⟩
    rw [← width_of_read headerRead bodyRead]
    refine ⟨fun node member => ?_, (suit_rows_iff "table").mpr ⟨bodyRows, bodyRead, bodySuit⟩⟩
    obtain ⟨cells, cellsMember, cellsRead⟩ := header_of_read headerRead (Option.mem_toList.mp member)
    refine (suits_row_iff "table header").mpr ⟨cells, cellsRead, fun cell kept => ?_⟩
    exact headerSuit cells cellsMember cell (List.mem_of_mem_take kept)

end Walk
end MarkdownView
