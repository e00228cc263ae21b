import MarkdownView.Proofs.Compile.Derivation
import MarkdownView.Proofs.Failures
import MarkdownView.Proofs.Highlight
import MarkdownView.Proofs.Inline.Resolver
import MarkdownView.Proofs.Picture.Failures
import MarkdownView.Proofs.Suitable
set_option autoImplicit false

namespace MarkdownView

variable {allowed : Failure → Prop}

def AllowsBreaches (allowed : Failure → Prop) : Prop :=
  ∀ kind context, allowed (.contract kind context)

def AllowsLevels (allowed : Failure → Prop) : Prop :=
  ∀ level, allowed (.refused (.passageLevel level))

theorem both_or {first rest : Bool} {immaterial : Prop}
    (holds : (first && rest) = true ∨ immaterial) :
    (first = true ∨ immaterial) ∧ (rest = true ∨ immaterial) :=
  ⟨holds.imp_left fun both => (Bool.and_eq_true_iff.mp both).1,
    holds.imp_left fun both => (Bool.and_eq_true_iff.mp both).2⟩

theorem map_m_raises_only {α β : Type} {read : α → Except Failure β}
    (raises : ∀ a, RaisesOnly allowed (read a)) (list : List α) :
    RaisesOnly allowed (list.mapM read) := by
  induction list with
  | nil => exact raises_only_ok _
  | cons first rest ih =>
    rw [List.mapM_cons]
    refine raises_only_bind (raises first) fun _ => ?_
    exact raises_only_bind ih fun _ => raises_only_ok _

namespace Visual

theorem passage?_raises_only {level : Int} (children : List Inline)
    (leveled : (0 ≤ level ∧ level ≤ 6) ∨ AllowsLevels allowed) :
    RaisesOnly allowed (passage? level children) := by
  rw [passage?]
  by_cases inRange : 0 ≤ level ∧ level ≤ 6
  · rw [if_pos inRange]
    exact raises_only_ok _
  · have refused := leveled.resolve_left inRange
    rw [if_neg inRange]
    exact raises_only_error (refused level)

theorem quote?_raises_only {depth : Int} (children : List Visual) (inside : 1 ≤ depth) :
    RaisesOnly allowed (quote? depth children) := by
  rw [quote?, if_neg (Int.not_lt.mpr inside)]
  exact raises_only_ok _

theorem ragged_row?_of_even {width : Nat} (index : Nat) {rows : List (List Cell)}
    (even : ∀ row ∈ rows, row.length = width) : raggedRow? width index rows = none := by
  induction rows generalizing index with
  | nil => rfl
  | cons row rows ih =>
    obtain ⟨firstEven, restEven⟩ := List.forall_mem_cons.mp even
    rw [raggedRow?, if_pos firstEven, ih (index + 1) restEven]

theorem table?_of_even {columns : List (Option String)} {rows : List (List Cell)}
    {header : Option (List Cell)} (headerEven : ∀ cells ∈ header, cells.length = columns.length)
    (rowsEven : ∀ row ∈ rows, row.length = columns.length) :
    table? columns rows header = .ok (.table columns rows header) := by
  have noRaggedRow := ragged_row?_of_even 0 rowsEven
  cases header with
  | none => simp only [table?, noRaggedRow]
  | some cells =>
    have headerFits : cells.length = columns.length := headerEven cells rfl
    simp only [table?, noRaggedRow, if_pos headerFits]

theorem table?_raises_only {columns : List (Option String)} {rows : List (List Cell)}
    {header : Option (List Cell)} (headerEven : ∀ cells ∈ header, cells.length = columns.length)
    (rowsEven : ∀ row ∈ rows, row.length = columns.length) :
    RaisesOnly allowed (table? columns rows header) := by
  rw [table?_of_even headerEven rowsEven]
  exact raises_only_ok _

end Visual

namespace Node

variable {embed : Embed}

def hasLevel : Node → Bool
  | .heading level _ _ => 1 ≤ level && level ≤ 6
  | _ => true

theorem embedded_pieces_raises_only (answers : ∀ node, (embed node).RaisesOnly allowed) (links : Nat)
    (node : Node) : (embeddedPieces embed links node).RaisesOnly allowed :=
  Traced.raises_only_bind (answers node) fun _ => Traced.raises_only_pure _

mutual

theorem pieces_raises_only (answers : ∀ node, (embed node).RaisesOnly allowed) (style : Style)
    (links : Nat) (node : Node) (placed : suitsText node = true ∨ AllowsBreaches allowed) :
    (pieces embed style links node).RaisesOnly allowed := by
  cases node with
  | text content metadata => exact Traced.raises_only_pure _
  | code content metadata => exact Traced.raises_only_pure _
  | lineBreak soft metadata => exact Traced.raises_only_pure _
  | emphasis content metadata => exact pieces_of_raises_only answers _ links content placed
  | strong content metadata => exact pieces_of_raises_only answers _ links content placed
  | strike content metadata => exact pieces_of_raises_only answers _ links content placed
  | link url content title metadata =>
    cases content with
    | nil => exact Traced.raises_only_pure _
    | cons node nodes => exact pieces_of_raises_only answers _ (links + 1) (node :: nodes) placed
  | image url alt title width height metadata => exact embedded_pieces_raises_only answers links _
  | htmlBlock content metadata => exact embedded_pieces_raises_only answers links _
  | htmlInline content metadata => exact embedded_pieces_raises_only answers links _
  | mathBlock content metadata => exact embedded_pieces_raises_only answers links _
  | mathInline content metadata => exact embedded_pieces_raises_only answers links _
  | footnoteReference identifier metadata => exact embedded_pieces_raises_only answers links _
  | footnoteDefinition identifier content metadata => exact embedded_pieces_raises_only answers links _
  | extension tag isInline children raw metadata => exact embedded_pieces_raises_only answers links _
  | _ =>
    have breaches : AllowsBreaches allowed := placed.resolve_left (by simp [suitsText, isEmbedded, isModelled])
    exact Traced.raises_only_fail (breaches _ _)
termination_by structural node

theorem pieces_of_raises_only (answers : ∀ node, (embed node).RaisesOnly allowed) (style : Style)
    (links : Nat) (nodes : List Node) (placed : suitTexts nodes = true ∨ AllowsBreaches allowed) :
    (piecesOf embed style links nodes).RaisesOnly allowed := by
  cases nodes with
  | nil => exact Traced.raises_only_pure _
  | cons node nodes =>
    obtain ⟨firstPlaced, restPlaced⟩ := both_or placed
    refine Traced.raises_only_bind (pieces_raises_only answers style links node firstPlaced) fun first => ?_
    exact Traced.raises_only_bind (pieces_of_raises_only answers style first.2 nodes restPlaced) fun _ =>
      Traced.raises_only_pure _
termination_by structural nodes

end

end Node

namespace Walk

theorem cell_of_raises_only (breaches : AllowsBreaches allowed) (node : Node) :
    RaisesOnly allowed (cellOf node) := by
  cases node with
  | cell content alignment metadata => exact raises_only_ok _
  | _ => exact raises_only_error (breaches _ _)

theorem cells_of_raises_only (breaches : AllowsBreaches allowed) (context : String) (node : Node) :
    RaisesOnly allowed (cellsOf context node) := by
  cases node with
  | row cells isHeader metadata => exact map_m_raises_only (cell_of_raises_only breaches) cells
  | _ => exact raises_only_error (breaches _ _)

theorem header_of_raises_only (breaches : AllowsBreaches allowed) (header : Option Node) :
    RaisesOnly allowed (headerOf header) := by
  cases header with
  | none => exact raises_only_ok _
  | some node =>
    have cellsRaise := cells_of_raises_only breaches "table header" node
    intro failure failed
    cases read : cellsOf "table header" node with
    | ok cells => simp [headerOf, read, Except.map] at failed
    | error other =>
      have same : other = failure := by simpa [headerOf, read, Except.map] using failed
      exact cellsRaise failure (by rw [read, same])

theorem CompilesRow.length_eq {walk : Walk} {row : List (Option TableCell)} {cells : List Cell}
    {events : List Event} (compiles : CompilesRow walk row cells events) :
    cells.length = row.length := by
  induction compiles with
  | nil => rfl
  | padding _ ih => rw [List.length_cons, List.length_cons, ih]
  | cell _ _ ih => rw [List.length_cons, List.length_cons, ih]

theorem CompilesRows.even {walk : Walk} {rows : List (List (Option TableCell))}
    {result : List (List Cell)} {events : List Event} {width : Nat}
    (compiles : CompilesRows walk rows result events) (even : ∀ row ∈ rows, row.length = width) :
    ∀ cells ∈ result, cells.length = width := by
  induction compiles with
  | nil => simp
  | cons first _ ih =>
    obtain ⟨firstEven, restEven⟩ := List.forall_mem_cons.mp even
    exact List.forall_mem_cons.mpr ⟨first.length_eq.trans firstEven, ih restEven⟩

theorem header_row_even (header : Option (List TableCell)) (alignments : List (Option String))
    (body : List (List TableCell)) :
    ∀ row ∈ header.toList.map (List.map some), row.length = width header alignments body := by
  cases header with
  | none => simp
  | some cells => simp [width]

theorem check_depth_raises_only {container : String} (depth : Int) (limit : Option Int)
    (exceeds : ∀ depth limit, allowed (.depthExceeded container depth limit)) :
    RaisesOnly allowed (checkDepth container depth limit) := by
  cases limit with
  | none => exact raises_only_ok _
  | some limit =>
    rw [checkDepth]
    split
    · exact raises_only_error (exceeds depth limit)
    · exact raises_only_ok _

theorem picture_raises_only_of_ignored {walk : Walk} (ignored : walk.options.imageMode = .ignore)
    (url alt : String) (title : Option String) (width height : Option Int) :
    (walk.picture url alt title width height).RaisesOnly allowed := by
  rw [picture, ignored]
  exact Traced.raises_only_bind (Traced.raises_only_note _ _) fun _ => Traced.raises_only_pure _

structure Grants (walk : Walk) (allowed : Failure → Prop) : Prop where
  inSequence : ∀ failure, allowed failure → allowed failure.inSequence
  uneven : walk.options.isStrict = true →
    ∀ row expected actual, allowed (.malformedTable row expected actual none)
  quoteDepth : ∀ depth, RaisesOnly allowed (checkDepth "quote" depth walk.options.maxQuoteDepth)
  listDepth : ∀ depth, RaisesOnly allowed (checkDepth "list" depth walk.options.maxListDepth)
  pictures : ∀ url alt title width height,
    (walk.picture url alt title width height).RaisesOnly allowed
  codes : ∀ content language, (walk.code content language).RaisesOnly allowed

structure Allows (walk : Walk) (allowed : Failure → Prop) : Prop extends
    Picture.Allows allowed walk.files where
  inSequence : ∀ failure, allowed failure → allowed failure.inSequence
  rows : ∀ row expected actual wording, allowed (.malformedTable row expected actual wording)
  depths : ∀ container depth limit, allowed (.depthExceeded container depth limit)
  breaches : ∀ language, allowed (.highlightContract language)
  mistyped : ∀ failure, failure.IsMistyped → allowed failure
  highlighter : ∀ source language, (walk.highlighter source language).RaisesOnly allowed

namespace Allows

variable {walk : Walk} (allows : walk.Allows allowed)

include allows

theorem picture (url alt : String) (title : Option String) (width height : Option Int) :
    (walk.picture url alt title width height).RaisesOnly allowed := by
  rw [Walk.picture]
  split
  · exact Traced.raises_only_bind (Traced.raises_only_note _ _) fun _ => Traced.raises_only_pure _
  · exact Traced.raises_only_bind (Picture.load_raises_only allows.toAllows _ _ _ _ _ _ _) fun _ =>
      Traced.raises_only_pure _

theorem code (content : String) (language : Option String) :
    (walk.code content language).RaisesOnly allowed := by
  have joined (drafts : List Draft) : RaisesOnly allowed (Draft.spans drafts) :=
    fun failure failed => allows.mistyped failure (Draft.spans_raises_only drafts failure failed)
  have highlightRaises := highlight_raises_only allows.breaches (fun _ _ _ _ drafts _ _ => joined drafts)
    (fun source named past failure failed => .inr (allows.highlighter source named past failure failed))
    true content (walk.language language)
  exact Traced.raises_only_bind highlightRaises fun _ => Traced.raises_only_pure _

theorem grants : walk.Grants allowed where
  inSequence := allows.inSequence
  uneven _ row expected actual := allows.rows row expected actual none
  quoteDepth depth := check_depth_raises_only depth walk.options.maxQuoteDepth fun _ => allows.depths _ _
  listDepth depth := check_depth_raises_only depth walk.options.maxListDepth fun _ => allows.depths _ _
  pictures := allows.picture
  codes := allows.code

end Allows

theorem placeholder_raises_only (kind : String) :
    (unmodelled kind >>= fun placeholder => pure (some (Visual.inline placeholder))).RaisesOnly
      allowed := by
  refine Traced.raises_only_bind ?_ fun _ => Traced.raises_only_pure _
  exact Traced.raises_only_bind (Traced.raises_only_emit _) fun _ => Traced.raises_only_pure _

section

variable {walk : Walk} (grants : walk.Grants allowed)

include grants

theorem embed_raises_only (node : Node) : (walk.embed node).RaisesOnly allowed := by
  cases node with
  | image url alt title width height metadata => exact grants.pictures url alt title width height
  | _ =>
    refine Traced.raises_only_bind ?_ fun _ => Traced.raises_only_pure _
    exact Traced.raises_only_bind (Traced.raises_only_emit _) fun _ => Traced.raises_only_pure _

theorem inline_raises_only {content : List Node}
    (placed : Node.suitTexts content = true ∨ AllowsBreaches allowed) :
    (walk.inline content).RaisesOnly allowed := by
  rw [Walk.inline, resolve_eq_pieces]
  have piecesRaise := Node.pieces_of_raises_only (embed_raises_only grants) Style.plain 0 content placed
  exact Traced.raises_only_bind (Traced.raises_only_bind piecesRaise fun _ => Traced.raises_only_pure _)
    fun _ => Traced.raises_only_pure _

theorem fit_all_raises_only (width index : Nat) (rows : List (List TableCell)) :
    (walk.fitAll width index rows).RaisesOnly allowed := by
  induction rows generalizing index with
  | nil => exact Traced.raises_only_pure _
  | cons cells rows ih =>
    refine Traced.raises_only_bind ?_ fun _ => ?_
    · rw [fit]
      split
      · exact Traced.raises_only_pure _
      · split
        case isTrue strict => exact Traced.raises_only_fail (grants.uneven strict _ _ _)
        case isFalse =>
          exact Traced.raises_only_bind (Traced.raises_only_emit _) fun _ => Traced.raises_only_pure _
    · exact Traced.raises_only_bind (ih (index + 1)) fun _ => Traced.raises_only_pure _

theorem cells_raises_only (row : List (Option TableCell))
    (placed : (∀ cell, some cell ∈ row → Node.suitTexts cell.content = true) ∨
      AllowsBreaches allowed) : (walk.cells row).RaisesOnly allowed := by
  induction row with
  | nil => exact Traced.raises_only_pure _
  | cons entry row ih =>
    have restRaises := ih (placed.imp_left fun suit cell member =>
      suit cell (List.mem_cons_of_mem _ member))
    cases entry with
    | none => exact Traced.raises_only_bind restRaises fun _ => Traced.raises_only_pure _
    | some cell =>
      have contentRaises := inline_raises_only grants
        (placed.imp_left fun suit => suit cell List.mem_cons_self)
      refine Traced.raises_only_bind ?_ fun _ => ?_
      · exact Traced.raises_only_map_failure grants.inSequence contentRaises
      · exact Traced.raises_only_bind restRaises fun _ => Traced.raises_only_pure _

theorem rows_raises_only (rows : List (List (Option TableCell)))
    (placed : (∀ row ∈ rows, ∀ cell, some cell ∈ row → Node.suitTexts cell.content = true) ∨
      AllowsBreaches allowed) : (walk.rows rows).RaisesOnly allowed := by
  induction rows with
  | nil => exact Traced.raises_only_pure _
  | cons row rows ih =>
    have firstPlaced := placed.imp_left fun suit => (List.forall_mem_cons.mp suit).1
    have restPlaced := placed.imp_left fun suit => (List.forall_mem_cons.mp suit).2
    refine Traced.raises_only_bind (cells_raises_only grants row firstPlaced) fun _ => ?_
    exact Traced.raises_only_bind (ih restPlaced) fun _ => Traced.raises_only_pure _

theorem header_cells_raises_only (header : Option (List TableCell))
    (placed : (∀ cells ∈ header, ∀ cell ∈ cells, Node.suitTexts cell.content = true) ∨
      AllowsBreaches allowed) : (walk.headerCells header).RaisesOnly allowed := by
  cases header with
  | none => exact Traced.raises_only_pure _
  | some cells =>
    have rowPlaced := placed.imp_left fun suit cell (member : some cell ∈ cells.map some) =>
      suit cells rfl cell (by simpa using member)
    exact Traced.raises_only_bind (cells_raises_only grants _ rowPlaced) fun _ => Traced.raises_only_pure _

theorem read_table_raises_only {header : Option (List TableCell)} {body : List (List TableCell)}
    (alignments : List (Option String))
    (headerPlaced : (∀ cells ∈ header, ∀ cell ∈ cells, Node.suitTexts cell.content = true) ∨
      AllowsBreaches allowed)
    (bodyPlaced : (∀ row ∈ body, ∀ cell ∈ row.take (width header alignments body),
      Node.suitTexts cell.content = true) ∨ AllowsBreaches allowed) :
    (walk.fitAll (width header alignments body) 0 body >>= fun fitted =>
      walk.headerCells header >>= fun headerCells => walk.rows fitted >>= fun rows =>
        Traced.ofExcept (Visual.table?
          ((List.range (width header alignments body)).map (column header alignments)) rows
          headerCells)).RaisesOnly allowed := by
  refine Traced.raises_only_bind_of_yields (fit_all_raises_only grants _ _ _) fun _ _ _ fits => ?_
  obtain ⟨rfl, _, _⟩ := fit_all_yields_iff.mp fits
  refine Traced.raises_only_bind_of_yields (header_cells_raises_only grants header headerPlaced)
    fun _ headerCells _ headerYields => ?_
  refine Traced.raises_only_bind_of_yields (rows_raises_only grants _ ?_) fun _ rows _ rowsYield => ?_
  · refine bodyPlaced.imp_left fun suit row rowMember cell member => ?_
    obtain ⟨cells, cellsMember, rfl⟩ := List.mem_map.mp rowMember
    exact suit cells cellsMember cell (mem_of_mem_fitted member)
  · have headerEven := (header_cells_compile headerYields).even (header_row_even header alignments body)
    have fittedEven : ∀ row ∈ body.map (fitted (width header alignments body)),
        row.length = width header alignments body := by simp [fitted_length]
    have rowsEven := (rows_compile rowsYield).even fittedEven
    refine Traced.raises_only_of_except (Visual.table?_raises_only ?_ ?_)
    · intro cells member
      rw [List.length_map, List.length_range]
      exact headerEven cells (Option.mem_toList.mpr member)
    · intro row member
      rw [List.length_map, List.length_range]
      exact rowsEven row member

theorem table_raises_only {header : Option Node} {rows : List Node}
    {alignments : List (Option String)}
    (placed : Node.suitsTable header rows alignments = true ∨ AllowsBreaches allowed) :
    (walk.table header rows alignments).RaisesOnly allowed := by
  rcases placed with suits | breaches
  · obtain ⟨headerRow, bodyRows, headerRead, bodyRead, headerSuits, bodySuits⟩ := suits_table_iff.mp suits
    refine Traced.raises_only_bind_ok headerRead (Traced.raises_only_bind_ok bodyRead ?_)
    exact read_table_raises_only grants alignments (.inl headerSuits) (.inl bodySuits)
  · have headerRaises := header_of_raises_only breaches header
    have bodyRaises := map_m_raises_only (cells_of_raises_only breaches "table") rows
    refine Traced.raises_only_bind (Traced.raises_only_of_except headerRaises) fun headerRow => ?_
    refine Traced.raises_only_bind (Traced.raises_only_of_except bodyRaises) fun bodyRows => ?_
    exact read_table_raises_only grants alignments (.inr breaches) (.inr breaches)

end

mutual

theorem block_raises_only {walk : Walk} (grants : walk.Grants allowed) {quotes : Int}
    (inside : 0 ≤ quotes) (lists : Int) (node : Node)
    (leveled : node.every Node.hasLevel = true ∨ AllowsLevels allowed)
    (placed : Node.suitsBlock node = true ∨ AllowsBreaches allowed) :
    (walk.block quotes lists node).RaisesOnly allowed := by
  cases node with
  | document children metadata =>
    have childrenLeveled := (both_or leveled).2
    exact Traced.raises_only_bind
      (blocks_raise_only grants inside lists children childrenLeveled placed) fun _ =>
        Traced.raises_only_pure _
  | heading level content metadata =>
    refine Traced.raises_only_bind (inline_raises_only grants placed) fun children => ?_
    have inRange : (0 ≤ level ∧ level ≤ 6) ∨ AllowsLevels allowed := by
      refine (both_or leveled).1.imp_left fun bounds => ?_
      simp only [Node.hasLevel, Bool.and_eq_true, decide_eq_true_eq] at bounds
      omega
    have passageRaises := Visual.passage?_raises_only children inRange
    exact Traced.raises_only_bind (Traced.raises_only_of_except passageRaises) fun _ =>
      Traced.raises_only_pure _
  | paragraph content metadata =>
    refine Traced.raises_only_bind (inline_raises_only grants placed) fun children => ?_
    have inRange : ((0 : Int) ≤ 0 ∧ (0 : Int) ≤ 6) ∨ AllowsLevels allowed := .inl (by decide)
    have passageRaises := Visual.passage?_raises_only children inRange
    exact Traced.raises_only_bind (Traced.raises_only_of_except passageRaises) fun _ =>
      Traced.raises_only_pure _
  | codeBlock content language metadata =>
    exact Traced.raises_only_bind (grants.codes content language) fun _ => Traced.raises_only_pure _
  | quote children metadata =>
    refine Traced.raises_only_bind (Traced.raises_only_of_except (grants.quoteDepth _)) fun _ => ?_
    have deeper : 0 ≤ quotes + 1 := by omega
    have childrenLeveled := (both_or leveled).2
    refine Traced.raises_only_bind
      (blocks_raise_only grants deeper lists children childrenLeveled placed) fun visuals => ?_
    have inside : 1 ≤ quotes + 1 := by omega
    have quoteRaises : RaisesOnly allowed (Visual.quote? (quotes + 1) visuals) :=
      Visual.quote?_raises_only visuals inside
    exact Traced.raises_only_bind (Traced.raises_only_of_except quoteRaises) fun _ =>
      Traced.raises_only_pure _
  | list ordered items start tight metadata =>
    refine Traced.raises_only_bind (Traced.raises_only_of_except (grants.listDepth _)) fun _ => ?_
    have itemsLeveled := (both_or leveled).2
    exact Traced.raises_only_bind
      (items_raise_only grants inside (lists + 1) items itemsLeveled placed) fun _ =>
        Traced.raises_only_pure _
  | table header rows alignments metadata =>
    exact Traced.raises_only_bind (table_raises_only grants placed) fun _ => Traced.raises_only_pure _
  | thematicBreak metadata => exact Traced.raises_only_pure _
  | image url alt title width height metadata =>
    exact Traced.raises_only_bind (grants.pictures _ _ _ _ _) fun _ => Traced.raises_only_pure _
  | htmlBlock content metadata => exact placeholder_raises_only _
  | htmlInline content metadata => exact placeholder_raises_only _
  | mathBlock content metadata => exact placeholder_raises_only _
  | mathInline content metadata => exact placeholder_raises_only _
  | footnoteReference identifier metadata => exact placeholder_raises_only _
  | footnoteDefinition identifier content metadata => exact placeholder_raises_only _
  | extension tag isInline children raw metadata => exact placeholder_raises_only _
  | _ =>
    have breaches : AllowsBreaches allowed :=
      placed.resolve_left (by simp [Node.suitsBlock, Node.isEmbedded, Node.isModelled])
    exact Traced.raises_only_fail (breaches _ _)
termination_by structural node

theorem blocks_raise_only {walk : Walk} (grants : walk.Grants allowed) {quotes : Int}
    (inside : 0 ≤ quotes) (lists : Int) (nodes : List Node)
    (leveled : Node.everyOf Node.hasLevel nodes = true ∨ AllowsLevels allowed)
    (placed : Node.suitBlocks nodes = true ∨ AllowsBreaches allowed) :
    (walk.blocks quotes lists nodes).RaisesOnly allowed := by
  cases nodes with
  | nil => exact Traced.raises_only_pure _
  | cons node nodes =>
    obtain ⟨firstLeveled, restLeveled⟩ := both_or leveled
    obtain ⟨firstPlaced, restPlaced⟩ := both_or placed
    have firstRaises := block_raises_only grants inside lists node firstLeveled firstPlaced
    have restRaise := blocks_raise_only grants inside lists nodes restLeveled restPlaced
    refine Traced.raises_only_bind (Traced.raises_only_map_failure grants.inSequence firstRaises)
      fun _ => ?_
    exact Traced.raises_only_bind restRaise fun _ => Traced.raises_only_pure _
termination_by structural nodes

theorem item_raises_only {walk : Walk} (grants : walk.Grants allowed) {quotes : Int}
    (inside : 0 ≤ quotes) (lists : Int) (node : Node)
    (leveled : node.every Node.hasLevel = true ∨ AllowsLevels allowed)
    (placed : Node.suitsItem node = true ∨ AllowsBreaches allowed) :
    (walk.item quotes lists node).RaisesOnly allowed := by
  cases node with
  | item children status metadata =>
    have childrenLeveled := (both_or leveled).2
    exact Traced.raises_only_bind
      (blocks_raise_only grants inside lists children childrenLeveled placed) fun _ =>
        Traced.raises_only_pure _
  | _ =>
    have breaches : AllowsBreaches allowed := placed.resolve_left (by simp [Node.suitsItem])
    exact Traced.raises_only_fail (breaches _ _)
termination_by structural node

theorem items_raise_only {walk : Walk} (grants : walk.Grants allowed) {quotes : Int}
    (inside : 0 ≤ quotes) (lists : Int) (nodes : List Node)
    (leveled : Node.everyOf Node.hasLevel nodes = true ∨ AllowsLevels allowed)
    (placed : Node.suitItems nodes = true ∨ AllowsBreaches allowed) :
    (walk.items quotes lists nodes).RaisesOnly allowed := by
  cases nodes with
  | nil => exact Traced.raises_only_pure _
  | cons node nodes =>
    obtain ⟨firstLeveled, restLeveled⟩ := both_or leveled
    obtain ⟨firstPlaced, restPlaced⟩ := both_or placed
    have firstRaises := item_raises_only grants inside lists node firstLeveled firstPlaced
    have restRaise := items_raise_only grants inside lists nodes restLeveled restPlaced
    refine Traced.raises_only_bind firstRaises fun _ => ?_
    exact Traced.raises_only_bind restRaise fun _ => Traced.raises_only_pure _
termination_by structural nodes

end

theorem tree_raises_only {walk : Walk} (grants : walk.Grants allowed) {children : List Node}
    (leveled : Node.everyOf Node.hasLevel children = true ∨ AllowsLevels allowed)
    (placed : Node.suitBlocks children = true ∨ AllowsBreaches allowed) :
    (walk.tree children).RaisesOnly allowed := by
  have blocksRaise := blocks_raise_only grants (Int.le_refl 0) 0 children leveled placed
  rw [tree_eq]
  exact Traced.raises_only_bind blocksRaise fun _ => Traced.raises_only_pure _

end Walk

theorem compile_raises_only {walk : Walk} (grants : walk.Grants allowed) {reported : Failure → Prop}
    (wrapped : ∀ failure, allowed failure → reported failure.inCompilation) {children : List Node}
    (leveled : Node.everyOf Node.hasLevel children = true ∨ AllowsLevels allowed)
    (placed : Node.suitBlocks children = true ∨ AllowsBreaches allowed) (metadata : Metadata) :
    (compile walk (some (.document children metadata))).RaisesOnly reported := by
  intro past failure failed
  have treeRaises := Walk.tree_raises_only grants leveled placed
  simp only [compile, Compiled.ofWalk] at failed
  cases ended : ((walk.tree children).after past).outcome with
  | error other =>
    simp only [ended, Except.error.injEq] at failed
    rw [← failed]
    exact wrapped other (treeRaises past other ended)
  | ok tree => simp [ended] at failed

end MarkdownView
