import MarkdownView.Highlight.Lexed
import MarkdownView.Inline
import MarkdownView.Options.Rendering
import MarkdownView.Picture
set_option autoImplicit false

/-! Compilation. The document tree is walked in order. The walk keeps count of the quotes and lists
that it is inside of; unmodelled nodes leave placeholders, and the first failure ends the walk. -/
namespace MarkdownView

structure Walk where
  options : RenderOptions
  files : Files
  installation : Installation
  highlighter : Highlighter

structure TableCell where
  content : List Node
  alignment : Option String

namespace Walk

def unmodelled (kind : String) : Traced Inline := do
  Traced.emit (.unmodelled kind)
  pure (.placeholder kind)

def picture (walk : Walk) (url alt : String) (title : Option String)
    (width height : Option Int) : Traced (Option Inline) :=
  match walk.options.imageMode with
  | .ignore => do
    Traced.note .debug s!"Skipping image '{url}' (image_mode='ignore')"
    pure none
  | .resolve => do
    let picture ← Picture.load walk.files walk.installation walk.options.imageDirectory
      url alt title width height
    pure (some (.picture picture))

def embed (walk : Walk) : Embed
  | .image url alt title width height _ => walk.picture url alt title width height
  | node => do
    let placeholder ← unmodelled node.kind
    pure (some placeholder)

def promote : Inline → Inline
  | .run content => if content.isPlainCode then .code content.text else .run content
  | content => content

def inline (walk : Walk) (content : List Node) : Traced (List Inline) := do
  let content ← resolve walk.embed Style.plain content
  pure (if walk.options.promotesCode then content.map promote else content)

def language (walk : Walk) (stated : Option String) : Option String :=
  match stated with
  | none => walk.options.codeLanguage
  | some language => if language = "" then walk.options.codeLanguage else some language

def code (walk : Walk) (content : String) (stated : Option String) : Traced Visual := do
  let spans ← highlight walk.highlighter true content (walk.language stated)
  pure (.code spans (walk.language stated))

def cellOf : Node → Except Failure TableCell
  | .cell content alignment _ => .ok ⟨content, alignment⟩
  | node => .error (.contract node.kind "table row")

def cellsOf (context : String) : Node → Except Failure (List TableCell)
  | .row cells _ _ => cells.mapM cellOf
  | node => .error (.contract node.kind context)

def headerOf : Option Node → Except Failure (Option (List TableCell))
  | none => .ok none
  | some header => (cellsOf "table header" header).map some

def width (header : Option (List TableCell)) (alignments : List (Option String))
    (rows : List (List TableCell)) : Nat :=
  match header with
  | some cells => cells.length
  | none => if alignments.isEmpty then (rows.headD []).length else alignments.length

def column (header : Option (List TableCell)) (alignments : List (Option String))
    (index : Nat) : Option String :=
  match (alignments[index]?).join with
  | some alignment => some alignment
  | none =>
    match header with
    | none => none
    | some cells => (cells[index]?).bind TableCell.alignment

def repair (index width actual : Nat) : String :=
  s!"Table row {index} has {actual} cells, expected {width}; " ++
    if actual < width then "padded with empty cells" else "extra cells dropped"

def fit (walk : Walk) (width index : Nat) (cells : List TableCell) :
    Traced (List (Option TableCell)) :=
  if cells.length = width then pure (cells.map some)
  else if walk.options.isStrict then Traced.fail (.malformedTable index width cells.length none)
  else do
    Traced.emit (.repaired (repair index width cells.length))
    pure ((cells.take width).map some ++ List.replicate (width - cells.length) none)

def fitAll (walk : Walk) (width : Nat) :
    Nat → List (List TableCell) → Traced (List (List (Option TableCell)))
  | _, [] => pure []
  | index, cells :: rows => do
    let first ← walk.fit width index cells
    let rest ← walk.fitAll width (index + 1) rows
    pure (first :: rest)

def cells (walk : Walk) : List (Option TableCell) → Traced (List Cell)
  | [] => pure []
  | none :: rest => do
    let rest ← walk.cells rest
    pure ([] :: rest)
  | some cell :: rest => do
    let first ← (walk.inline cell.content).mapFailure Failure.inSequence
    let rest ← walk.cells rest
    pure (first :: rest)

def rows (walk : Walk) : List (List (Option TableCell)) → Traced (List (List Cell))
  | [] => pure []
  | row :: rest => do
    let first ← walk.cells row
    let rest ← walk.rows rest
    pure (first :: rest)

def headerCells (walk : Walk) : Option (List TableCell) → Traced (Option (List Cell))
  | none => pure none
  | some cells => do
    let cells ← walk.cells (cells.map some)
    pure (some cells)

-- A table: first the shapes of header and rows are checked, then the rows are made to fit, then the
-- cells are compiled.
def table (walk : Walk) (header : Option Node) (body : List Node)
    (alignments : List (Option String)) : Traced Visual := do
  let header ← Traced.ofExcept (headerOf header)
  let body ← Traced.ofExcept (body.mapM (cellsOf "table"))
  let width := width header alignments body
  let columns := (List.range width).map (column header alignments)
  let fitted ← walk.fitAll width 0 body
  let header ← walk.headerCells header
  let rows ← walk.rows fitted
  Traced.ofExcept (Visual.table? columns rows header)

def checkDepth (container : String) (depth : Int) : Option Int → Except Failure Unit
  | none => .ok ⟨⟩
  | some limit =>
    if limit < depth then .error (.depthExceeded container depth limit) else .ok ⟨⟩

def leaf (walk : Walk) : Node → Traced (Option Visual)
  | .heading level content _ => do
    let children ← walk.inline content
    let passage ← Traced.ofExcept (Visual.passage? level children)
    pure (some passage)
  | .paragraph content _ => do
    let children ← walk.inline content
    let passage ← Traced.ofExcept (Visual.passage? 0 children)
    pure (some passage)
  | .codeBlock content language _ => do
    let code ← walk.code content language
    pure (some code)
  | .table header rows alignments _ => do
    let table ← walk.table header rows alignments
    pure (some table)
  | .thematicBreak _ => pure (some .thematicBreak)
  | .image url alt title width height _ => do
    let picture ← walk.picture url alt title width height
    pure (picture.map .inline)
  | .item .. => Traced.fail (.contract "list_item" "block content outside a list")
  | .row .. => Traced.fail (.contract "table_row" "block content outside a table")
  | .cell .. => Traced.fail (.contract "table_cell" "block content outside a table row")
  | node =>
    if node.isEmbedded then do
      let placeholder ← unmodelled node.kind
      pure (some (.inline placeholder))
    else Node.misplaced node "block content"

structure Depths where
  quotes : Int
  lists : Int
deriving DecidableEq

structure Visit (α : Type) where
  outcome : Except Failure α
  depths : Depths

namespace Visit

variable {α β : Type}

def map (change : α → Except Failure β) (visit : Visit α) : Visit β :=
  { visit with outcome := visit.outcome >>= change }

-- On leaving a quote or a list the depth from before is in effect again, whatever came of the visit.
def leaveQuote (depths : Depths) (visit : Visit α) : Visit α :=
  { visit with depths := { visit.depths with quotes := depths.quotes } }

def leaveList (depths : Depths) (visit : Visit α) : Visit α :=
  { visit with depths := { visit.depths with lists := depths.lists } }

end Visit

mutual

def visit (walk : Walk) (depths : Depths) : Node → Traced (Visit (Option Visual))
  | .document children _ => do
    let inside ← walk.visitAll depths children
    pure (inside.map fun children => .ok (some (.tree children)))
  | .quote children _ =>
    let depth := depths.quotes + 1
    match checkDepth "quote" depth walk.options.maxQuoteDepth with
    | .error failure => pure ⟨.error failure, depths⟩
    | .ok _ => do
      let inside ← walk.visitAll { depths with quotes := depth } children
      pure ((inside.leaveQuote depths).map fun children =>
        (Visual.quote? depth children).map some)
  | .list ordered items start _ _ =>
    let depth := depths.lists + 1
    match checkDepth "list" depth walk.options.maxListDepth with
    | .error failure => pure ⟨.error failure, depths⟩
    | .ok _ => do
      let inside ← walk.visitItems { depths with lists := depth } items
      pure ((inside.leaveList depths).map fun items =>
        .ok (some (.list ordered items (if ordered then start else none) depth)))
  | node => (walk.leaf node).resume fun outcome => pure ⟨outcome, depths⟩
termination_by structural node => node

def visitAll (walk : Walk) (depths : Depths) : List Node → Traced (Visit (List Visual))
  | [] => pure ⟨.ok [], depths⟩
  | node :: nodes => do
    let first ← walk.visit depths node
    match first.outcome with
    | .error failure => pure ⟨.error failure.inSequence, first.depths⟩
    | .ok visual => do
      let rest ← walk.visitAll first.depths nodes
      pure (rest.map fun visuals => .ok (visual.toList ++ visuals))
termination_by structural nodes => nodes

def visitItem (walk : Walk) (depths : Depths) : Node → Traced (Visit Visual)
  | .item children status _ => do
    let inside ← walk.visitAll depths children
    pure (inside.map fun children => .ok (.item children (status.map (· == .checked))))
  | node => pure ⟨.error (.contract node.kind "list"), depths⟩
termination_by structural node => node

def visitItems (walk : Walk) (depths : Depths) : List Node → Traced (Visit (List Visual))
  | [] => pure ⟨.ok [], depths⟩
  | node :: nodes => do
    let first ← walk.visitItem depths node
    match first.outcome with
    | .error failure => pure ⟨.error failure, first.depths⟩
    | .ok visual => do
      let rest ← walk.visitItems first.depths nodes
      pure (rest.map fun visuals => .ok (visual :: visuals))
termination_by structural nodes => nodes

end

def tree (walk : Walk) (children : List Node) : Traced Tree := do
  let visited ← walk.visitAll ⟨0, 0⟩ children
  Traced.ofExcept (visited.outcome.map Tree.mk)

end Walk

def Failure.inCompilation (failure : Failure) : Failure :=
  if failure.isRender || failure.isExit then failure
  else .render s!"Unexpected error while compiling visual tree: {failure.shown}" (some "compile")
    (some failure.kind)

def Compiled.ofWalk (walked : Traced Tree) : Traced Compiled :=
  ⟨fun past =>
    let ending := walked.after past
    match ending.outcome with
    | .error failure => ⟨.error failure.inCompilation, ending.events⟩
    | .ok tree =>
      ⟨.ok ⟨tree, Event.diagnostics ending.events, Event.warnings ending.events⟩,
        ending.events ++ [.note .debug "Compiling visual tree completed in <t>s"]⟩⟩

def compile (walk : Walk) : Option Node → Traced Compiled
  | none => pure Compiled.empty
  | some (.document children _) => Compiled.ofWalk (walk.tree children)
  | some node => Traced.fail (.contract node.kind "document root")

end MarkdownView
