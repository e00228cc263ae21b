import MarkdownView.Proofs.Compile.Siblings
set_option autoImplicit false

namespace MarkdownView

open Traced (alike_steady alike_bind alike_map_failure alike_bind_up_to alike_up_to_bind alike_up_to_fail
  alike_up_to_map alike_up_to_pure)

namespace Node

def isImage : Node → Bool
  | .image .. => true
  | _ => false

theorem image_of_is_image {node : Node} (image : node.isImage = true) :
    ∃ url alt title width height metadata,
      node = .image url alt title width height metadata := by
  cases node with
  | image url alt title width height metadata =>
    exact ⟨url, alt, title, width, height, metadata, rfl⟩
  | _ => simp [isImage] at image

mutual

-- A node without the images in it. Among blocks an image goes; within text it leaves an empty text, so
-- what held it is not empty for that.
def imageless : Node → Node
  | .document children metadata => .document (imagelessBlocks children) metadata
  | .heading level content metadata => .heading level (imagelessTexts content) metadata
  | .paragraph content metadata => .paragraph (imagelessTexts content) metadata
  | .quote children metadata => .quote (imagelessBlocks children) metadata
  | .list ordered items start tight metadata =>
    .list ordered (imagelessEach items) start tight metadata
  | .item children status metadata => .item (imagelessBlocks children) status metadata
  | .table header rows alignments metadata =>
    .table (imagelessHeader header) (imagelessEach rows) alignments metadata
  | .row cells isHeader metadata => .row (imagelessEach cells) isHeader metadata
  | .cell content alignment metadata => .cell (imagelessTexts content) alignment metadata
  | .emphasis content metadata => .emphasis (imagelessTexts content) metadata
  | .strong content metadata => .strong (imagelessTexts content) metadata
  | .strike content metadata => .strike (imagelessTexts content) metadata
  | .link url content title metadata => .link url (imagelessTexts content) title metadata
  | .footnoteDefinition identifier content metadata =>
    .footnoteDefinition identifier (imagelessEach content) metadata
  | .extension tag isInline children raw metadata =>
    .extension tag isInline (imagelessEach children) raw metadata
  | node => node
termination_by structural node => node

def imagelessBlocks : List Node → List Node
  | [] => []
  | node :: nodes =>
    if node.isImage then imagelessBlocks nodes else imageless node :: imagelessBlocks nodes
termination_by structural nodes => nodes

def imagelessTexts : List Node → List Node
  | [] => []
  | node :: nodes =>
    (if node.isImage then .text "" [] else imageless node) :: imagelessTexts nodes
termination_by structural nodes => nodes

def imagelessEach : List Node → List Node
  | [] => []
  | node :: nodes => imageless node :: imagelessEach nodes
termination_by structural nodes => nodes

def imagelessHeader : Option Node → Option Node
  | none => none
  | some header => some (imageless header)
termination_by structural header => header

end

theorem imageless_each_eq_map (nodes : List Node) : imagelessEach nodes = nodes.map imageless := by
  induction nodes with
  | nil => rfl
  | cons node nodes ih => rw [imagelessEach, ih, List.map_cons]

theorem imageless_header_eq_map (header : Option Node) :
    imagelessHeader header = header.map imageless := by
  cases header <;> rfl

end Node

namespace Piece

def isPresent : Piece → Bool
  | .text _ content => content ≠ ""
  | .visual _ => true

def SamePresent (read other : List Piece × Nat) : Prop :=
  read.1.filter isPresent = other.1.filter isPresent ∧ read.2 = other.2

theorem join_filter_is_present (pieces : List Piece) : join (pieces.filter isPresent) = join pieces := by
  induction pieces with
  | nil => rfl
  | cons piece pieces ih =>
    by_cases present : piece.isPresent = true
    · rw [List.filter_cons_of_pos present, join, ih, join]
    · rw [List.filter_cons_of_neg present, ih]
      cases piece with
      | visual inserted => simp [isPresent] at present
      | text style content =>
        obtain rfl : content = "" := by simpa [isPresent] using present
        exact (join_empty_text style pieces).symm

theorem runs_of_same_present {read other : List Piece × Nat} (same : SamePresent read other) :
    runs read.1 = runs other.1 := by
  rw [runs, runs, ← join_filter_is_present read.1, same.1, join_filter_is_present]

end Piece

namespace Walk

def resolvingIn (walk : Walk) (files : Files) : Walk :=
  { walk with files := files, options := { walk.options with imageMode := .resolve } }

section

variable {walk : Walk} (ignoring : walk.options.imageMode = .ignore)

include ignoring

theorem image_pieces_alike_nothing (style : Style) (links : Nat) (url alt : String)
    (title : Option String) (width height : Option Int) (metadata : Metadata) :
    (Node.pieces walk.embed style links (.image url alt title width height metadata)).AlikeUpTo
      (fun read (_ : Unit) => read = ([], links)) (pure ⟨⟩) := by
  have fromPicture : Node.pieces walk.embed style links
      (.image url alt title width height metadata) =
        walk.picture url alt title width height >>= fun inserted =>
          pure (inserted.toList.map Piece.visual, links) := rfl
  rw [fromPicture, picture, ignoring]
  exact fun _ _ => ⟨.ok rfl, rfl⟩

theorem image_pieces_alike_empty_text (style : Style) (links : Nat) (url alt : String)
    (title : Option String) (width height : Option Int) (metadata : Metadata) :
    (Node.pieces walk.embed style links (.image url alt title width height metadata)).AlikeUpTo
      Piece.SamePresent (pure ([.text style ""], links)) := by
  have nothing := image_pieces_alike_nothing ignoring style links url alt title width height metadata
  rw [← Traced.pure_bind_value ⟨⟩ fun _ : Unit => pure ([Piece.text style ""], links),
    ← Traced.bind_pure_self (Node.pieces _ _ _ _)]
  refine alike_up_to_bind nothing ?_
  rintro _ _ rfl
  exact alike_up_to_pure ⟨by simp [Piece.isPresent], rfl⟩

end

theorem placeholder_pieces_alike (kind : String) (links : Nat) :
    ((unmodelled kind >>= fun placeholder => pure (some placeholder)) >>= fun inserted =>
      pure (inserted.toList.map Piece.visual, links)).AlikeUpTo Piece.SamePresent
        ((unmodelled kind >>= fun placeholder => pure (some placeholder)) >>= fun inserted =>
          pure (inserted.toList.map Piece.visual, links)) := by
  have placeholderAlike : (unmodelled kind >>= fun placeholder => pure (some placeholder)).Alike
      (unmodelled kind >>= fun placeholder => pure (some placeholder)) :=
    alike_bind (alike_bind (alike_steady _) fun _ => alike_steady _) fun _ => alike_steady _
  refine alike_up_to_bind (Traced.alike_up_to_of_alike Eq.refl placeholderAlike) ?_
  rintro inserted _ rfl
  exact alike_up_to_pure ⟨rfl, rfl⟩

theorem pieces_of_cons_alike {embed insert : Embed} {style : Style} {links : Nat} {node other : Node}
    {nodes others : List Node}
    (first : (Node.pieces embed style links node).AlikeUpTo Piece.SamePresent
      (Node.pieces insert style links other))
    (rest : ∀ links, (Node.piecesOf embed style links nodes).AlikeUpTo Piece.SamePresent
      (Node.piecesOf insert style links others)) :
    (Node.piecesOf embed style links (node :: nodes)).AlikeUpTo Piece.SamePresent
      (Node.piecesOf insert style links (other :: others)) := by
  refine alike_up_to_bind first fun before alsoBefore sameBefore => ?_
  rw [sameBefore.2]
  refine alike_up_to_bind (rest alsoBefore.2) fun after alsoAfter sameAfter => alike_up_to_pure ?_
  refine ⟨?_, sameAfter.2⟩
  rw [List.filter_append, List.filter_append, sameBefore.1, sameAfter.1]

mutual

theorem pieces_imageless {walk : Walk} (ignoring : walk.options.imageMode = .ignore) (files : Files)
    (style : Style) (links : Nat) (node : Node) (shown : node.isImage = false) :
    (Node.pieces walk.embed style links node).AlikeUpTo Piece.SamePresent
      (Node.pieces (walk.resolvingIn files).embed style links node.imageless) := by
  cases node with
  | text content metadata => exact alike_up_to_pure ⟨rfl, rfl⟩
  | code content metadata => exact alike_up_to_pure ⟨rfl, rfl⟩
  | lineBreak soft metadata => exact alike_up_to_pure ⟨rfl, rfl⟩
  | emphasis content metadata => exact pieces_of_imageless ignoring files _ links content
  | strong content metadata => exact pieces_of_imageless ignoring files _ links content
  | strike content metadata => exact pieces_of_imageless ignoring files _ links content
  | link url content title metadata =>
    cases content with
    | nil => exact alike_up_to_pure ⟨rfl, rfl⟩
    | cons node nodes => exact pieces_of_imageless ignoring files _ (links + 1) (node :: nodes)
  | image url alt title width height metadata => simp [Node.isImage] at shown
  | htmlBlock content metadata => exact placeholder_pieces_alike _ links
  | htmlInline content metadata => exact placeholder_pieces_alike _ links
  | mathBlock content metadata => exact placeholder_pieces_alike _ links
  | mathInline content metadata => exact placeholder_pieces_alike _ links
  | footnoteReference identifier metadata => exact placeholder_pieces_alike _ links
  | footnoteDefinition identifier content metadata => exact placeholder_pieces_alike _ links
  | extension tag isInline children raw metadata => exact placeholder_pieces_alike _ links
  | _ => exact alike_up_to_fail _ _
termination_by structural node

theorem pieces_of_imageless {walk : Walk} (ignoring : walk.options.imageMode = .ignore) (files : Files)
    (style : Style) (links : Nat) (nodes : List Node) :
    (Node.piecesOf walk.embed style links nodes).AlikeUpTo Piece.SamePresent
      (Node.piecesOf (walk.resolvingIn files).embed style links (Node.imagelessTexts nodes)) := by
  cases nodes with
  | nil => exact alike_up_to_pure ⟨rfl, rfl⟩
  | cons node nodes =>
    rw [Node.imagelessTexts]
    refine pieces_of_cons_alike ?_ fun links => pieces_of_imageless ignoring files style links nodes
    cases node with
    | image url alt title width height metadata =>
      exact image_pieces_alike_empty_text ignoring style links url alt title width height metadata
    | _ => exact pieces_imageless ignoring files style links _ rfl
termination_by structural nodes

end

theorem inline_alike_of_pieces {walk other : Walk} {content others : List Node}
    (pieces : (Node.piecesOf walk.embed Style.plain 0 content).AlikeUpTo Piece.SamePresent
      (Node.piecesOf other.embed Style.plain 0 others))
    (promotion : walk.options.promotesCode = other.options.promotesCode) :
    (walk.inline content).Alike (other.inline others) := by
  rw [Walk.inline, Walk.inline, resolve_eq_pieces, resolve_eq_pieces, promotion]
  refine alike_bind (alike_bind_up_to pieces fun read other same => ?_) fun _ => alike_steady _
  rw [Piece.runs_of_same_present same]
  exact alike_steady _

theorem inline_imageless {walk : Walk} (ignoring : walk.options.imageMode = .ignore) (files : Files)
    (content : List Node) :
    (walk.inline content).Alike ((walk.resolvingIn files).inline (Node.imagelessTexts content)) :=
  inline_alike_of_pieces (pieces_of_imageless ignoring files Style.plain 0 content) rfl

namespace TableCell

def imageless (cell : TableCell) : TableCell := ⟨Node.imagelessTexts cell.content, cell.alignment⟩

theorem imageless_eq_rewritten : imageless = TableCell.rewritten Node.imagelessTexts := rfl

end TableCell

theorem cell_of_imageless (node : Node) :
    cellOf node.imageless = (cellOf node).map TableCell.imageless := by
  cases node <;> rfl

theorem cells_of_imageless (context : String) (node : Node) :
    cellsOf context node.imageless = (cellsOf context node).map (List.map TableCell.imageless) := by
  cases node with
  | row cells isHeader metadata =>
    rw [Node.imageless, Node.imageless_each_eq_map]
    exact map_m_map_of_each cell_of_imageless cells
  | _ => rfl

section

variable {walk : Walk} (ignoring : walk.options.imageMode = .ignore) (files : Files)

include ignoring

theorem cells_imageless (row : List (Option TableCell)) :
    (walk.cells row).Alike
      ((walk.resolvingIn files).cells (row.map (Option.map TableCell.imageless))) := by
  induction row with
  | nil => exact alike_steady _
  | cons entry row ih =>
    cases entry with
    | none => exact alike_bind ih fun _ => alike_steady _
    | some cell =>
      have contentAlike := inline_imageless ignoring files cell.content
      refine alike_bind (alike_map_failure _ contentAlike) fun _ => ?_
      exact alike_bind ih fun _ => alike_steady _

theorem rows_imageless (rows : List (List (Option TableCell))) :
    (walk.rows rows).Alike
      ((walk.resolvingIn files).rows (rows.map (List.map (Option.map TableCell.imageless)))) := by
  induction rows with
  | nil => exact alike_steady _
  | cons row rows ih =>
    refine alike_bind (cells_imageless ignoring files row) fun _ => ?_
    exact alike_bind ih fun _ => alike_steady _

theorem header_cells_imageless (header : Option (List TableCell)) :
    (walk.headerCells header).Alike
      ((walk.resolvingIn files).headerCells (header.map (List.map TableCell.imageless))) := by
  cases header with
  | none => exact alike_steady _
  | some cells =>
    have sameRow : (cells.map some).map (Option.map TableCell.imageless) =
        (cells.map TableCell.imageless).map some := by
      rw [List.map_map, List.map_map]
      rfl
    have rowAlike := cells_imageless ignoring files (cells.map some)
    rw [sameRow] at rowAlike
    exact alike_bind rowAlike fun _ => alike_steady _

theorem table_imageless (header : Option Node) (rows : List Node)
    (alignments : List (Option String)) :
    (walk.table header rows alignments).Alike
      ((walk.resolvingIn files).table (Node.imagelessHeader header) (Node.imagelessEach rows)
        alignments) := by
  rw [table, table, Node.imageless_header_eq_map, Node.imageless_each_eq_map,
    header_of_map (cells_of_imageless "table header"), map_m_map_of_each (cells_of_imageless "table")]
  refine alike_bind_up_to (alike_up_to_map _ _) ?_
  rintro header _ rfl
  refine alike_bind_up_to (alike_up_to_map _ _) ?_
  rintro body _ rfl
  simp only [TableCell.imageless_eq_rewritten, width_rewritten, column_rewritten, fit_all_rewritten,
    bind_map_left]
  have sameStrictness : walk.options.isStrict = (walk.resolvingIn files).options.isStrict := rfl
  refine alike_bind (fit_all_alike sameStrictness _ 0 body) fun fitted => ?_
  refine alike_bind (header_cells_imageless ignoring files header) fun _ => ?_
  exact alike_bind (rows_imageless ignoring files fitted) fun _ => alike_steady _

theorem block_image_alike_nothing (quotes lists : Int) (url alt : String) (title : Option String)
    (width height : Option Int) (metadata : Metadata) (change : Failure → Failure) :
    ((walk.block quotes lists (.image url alt title width height metadata)).mapFailure
      change).AlikeUpTo (fun shown (_ : Unit) => shown = none) (pure ⟨⟩) := by
  simp only [block, leaf, picture, ignoring]
  exact fun _ _ => ⟨.ok rfl, rfl⟩

end

mutual

theorem block_imageless {walk : Walk} (ignoring : walk.options.imageMode = .ignore)
    (highlighterPure : walk.highlighter.IsPure) (files : Files) (quotes lists : Int) (node : Node)
    (shown : node.isImage = false) :
    (walk.block quotes lists node).Alike
      ((walk.resolvingIn files).block quotes lists node.imageless) := by
  cases node with
  | document children metadata =>
    have inside := blocks_imageless ignoring highlighterPure files quotes lists children
    exact alike_bind inside fun _ => alike_steady _
  | heading level content metadata =>
    refine alike_bind (inline_imageless ignoring files content) fun _ => ?_
    exact alike_bind (alike_steady _) fun _ => alike_steady _
  | paragraph content metadata =>
    refine alike_bind (inline_imageless ignoring files content) fun _ => ?_
    exact alike_bind (alike_steady _) fun _ => alike_steady _
  | codeBlock content language metadata =>
    refine alike_bind ?_ fun _ => alike_steady _
    exact alike_bind (highlight_alike highlighterPure true content _) fun _ => alike_steady _
  | quote children metadata =>
    refine alike_bind (alike_steady _) fun _ => ?_
    have inside := blocks_imageless ignoring highlighterPure files (quotes + 1) lists children
    refine alike_bind inside fun _ => ?_
    exact alike_bind (alike_steady _) fun _ => alike_steady _
  | list ordered items start tight metadata =>
    refine alike_bind (alike_steady _) fun _ => ?_
    have inside := items_imageless ignoring highlighterPure files quotes (lists + 1) items
    exact alike_bind inside fun _ => alike_steady _
  | table header rows alignments metadata =>
    exact alike_bind (table_imageless ignoring files header rows alignments) fun _ => alike_steady _
  | image url alt title width height metadata => simp [Node.isImage] at shown
  | htmlBlock content metadata => exact placeholder_alike _
  | htmlInline content metadata => exact placeholder_alike _
  | mathBlock content metadata => exact placeholder_alike _
  | mathInline content metadata => exact placeholder_alike _
  | footnoteReference identifier metadata => exact placeholder_alike _
  | footnoteDefinition identifier content metadata => exact placeholder_alike _
  | extension tag isInline children raw metadata => exact placeholder_alike _
  | _ => exact alike_steady _
termination_by structural node

theorem blocks_imageless {walk : Walk} (ignoring : walk.options.imageMode = .ignore)
    (highlighterPure : walk.highlighter.IsPure) (files : Files) (quotes lists : Int)
    (nodes : List Node) :
    (walk.blocks quotes lists nodes).Alike
      ((walk.resolvingIn files).blocks quotes lists (Node.imagelessBlocks nodes)) := by
  cases nodes with
  | nil => exact alike_steady _
  | cons node nodes =>
    have rest := blocks_imageless ignoring highlighterPure files quotes lists nodes
    rw [Node.imagelessBlocks]
    cases shown : node.isImage with
    | true =>
      obtain ⟨url, alt, title, width, height, metadata, rfl⟩ := Node.image_of_is_image shown
      rw [if_pos rfl, blocks,
        ← Traced.pure_bind_value ⟨⟩ fun _ : Unit => Walk.blocks (walk.resolvingIn files) _ _ _]
      refine alike_bind_up_to (block_image_alike_nothing ignoring _ _ _ _ _ _ _ _ _) ?_
      rintro _ _ rfl
      exact (Traced.bind_pure_self (walk.blocks quotes lists nodes)).symm ▸ rest
    | false =>
      have first := block_imageless ignoring highlighterPure files quotes lists node shown
      rw [if_neg Bool.false_ne_true]
      refine alike_bind (alike_map_failure _ first) fun _ => ?_
      exact alike_bind rest fun _ => alike_steady _
termination_by structural nodes

theorem item_imageless {walk : Walk} (ignoring : walk.options.imageMode = .ignore)
    (highlighterPure : walk.highlighter.IsPure) (files : Files) (quotes lists : Int) (node : Node) :
    (walk.item quotes lists node).Alike
      ((walk.resolvingIn files).item quotes lists node.imageless) := by
  cases node with
  | item children status metadata =>
    have inside := blocks_imageless ignoring highlighterPure files quotes lists children
    exact alike_bind inside fun _ => alike_steady _
  | _ => exact alike_steady _
termination_by structural node

theorem items_imageless {walk : Walk} (ignoring : walk.options.imageMode = .ignore)
    (highlighterPure : walk.highlighter.IsPure) (files : Files) (quotes lists : Int)
    (nodes : List Node) :
    (walk.items quotes lists nodes).Alike
      ((walk.resolvingIn files).items quotes lists (Node.imagelessEach nodes)) := by
  cases nodes with
  | nil => exact alike_steady _
  | cons node nodes =>
    refine alike_bind (item_imageless ignoring highlighterPure files quotes lists node) fun _ => ?_
    have rest := items_imageless ignoring highlighterPure files quotes lists nodes
    exact alike_bind rest fun _ => alike_steady _
termination_by structural nodes

end

section

variable {walk : Walk} (ignoring : walk.options.imageMode = .ignore)
  (highlighterPure : walk.highlighter.IsPure)

include ignoring highlighterPure

theorem tree_imageless (files : Files) (children : List Node) :
    (walk.tree children).Alike
      ((walk.resolvingIn files).tree (Node.imagelessBlocks children)) := by
  rw [tree_eq, tree_eq]
  exact alike_bind (blocks_imageless ignoring highlighterPure files 0 0 children) fun _ => alike_steady _

theorem pieces_of_image (style : Style) (links : Nat) (before after : List Node) (url alt : String)
    (title : Option String) (width height : Option Int) (metadata : Metadata) :
    (Node.piecesOf walk.embed style links
      (before ++ .image url alt title width height metadata :: after)).AlikeUpTo Piece.SamePresent
        (Node.piecesOf walk.embed style links (before ++ after)) := by
  have embedSelf := embed_alike (alike_self highlighterPure)
  have samePresentRefl (read : List Piece × Nat) : Piece.SamePresent read read := ⟨rfl, rfl⟩
  induction before generalizing links with
  | nil =>
    have nothing := image_pieces_alike_nothing ignoring style links url alt title width height metadata
    rw [List.nil_append, List.nil_append, Node.piecesOf,
      ← Traced.pure_bind_value ⟨⟩ fun _ : Unit => Node.piecesOf walk.embed style links after]
    refine alike_up_to_bind nothing ?_
    rintro _ _ rfl
    have rest := Traced.alike_up_to_of_alike samePresentRefl
      (Node.pieces_of_alike embedSelf style links after)
    exact (Traced.bind_pure_self (Node.piecesOf walk.embed style links after)).symm ▸ rest
  | cons node before ih =>
    refine pieces_of_cons_alike (Traced.alike_up_to_of_alike samePresentRefl ?_) ih
    exact Node.pieces_alike embedSelf style links node

theorem inline_image (before after : List Node) (url alt : String) (title : Option String)
    (width height : Option Int) (metadata : Metadata) :
    (walk.inline (before ++ .image url alt title width height metadata :: after)).Alike
      (walk.inline (before ++ after)) := by
  have pieces := pieces_of_image ignoring highlighterPure Style.plain 0 before after url alt title
    width height metadata
  exact inline_alike_of_pieces pieces rfl

end

end Walk

theorem compile_imageless {walk : Walk} (ignoring : walk.options.imageMode = .ignore)
    (highlighterPure : walk.highlighter.IsPure) (files : Files) (document : Option Node)
    (past other : List Event) :
    ((compile walk document).after past).outcome =
      ((compile (walk.resolvingIn files) (document.map Node.imageless)).after other).outcome := by
  cases document with
  | none => rfl
  | some node =>
    cases node with
    | document children metadata =>
      exact of_walk_alike (Walk.tree_imageless ignoring highlighterPure files children) past other
    | _ => rfl

-- Ignoring images is having none: images and files decide nothing, in particular files alone do not,
-- and the texts around an image join as if it were not there.
theorem compile_ignoring {walk : Walk} (ignoring : walk.options.imageMode = .ignore)
    (highlighterPure : walk.highlighter.IsPure) (document : Option Node) (past : List Event) :
    (∀ files other,
      ((compile walk document).after past).outcome =
        ((compile (walk.resolvingIn files) (document.map Node.imageless)).after other).outcome) ∧
    (∀ files other,
      ((compile walk document).after past).outcome =
        ((compile { walk with files := files } document).after other).outcome) ∧
    ∀ before after url alt title width height metadata,
      ((walk.inline (before ++ .image url alt title width height metadata :: after)).after
        past).outcome = ((walk.inline (before ++ after)).after past).outcome := by
  have withoutImages := compile_imageless ignoring highlighterPure
  refine ⟨fun files other => withoutImages files document past other, ?_, ?_⟩
  · -- Both walks come to what one that loads images from either files comes to without them.
    intro files other
    have elsewhere := @compile_imageless { walk with files := files } ignoring highlighterPure files
      document other past
    exact (withoutImages files document past past).trans elsewhere.symm
  · intro before after url alt title width height metadata
    exact (Walk.inline_image ignoring highlighterPure before after url alt title width height metadata
      past past).1

def Walk.unseeing : Walk :=
  { Walk.bare with options := { RenderOptions.default with imageMode := .ignore } }

def Node.illustrated : Node :=
  let image : Node := .image "lost.png" "" none none none []
  .document
    [image, .paragraph [.text "a" [], image, .text "b" [], .link "u" [image] none []] [],
      .quote [.document [image] []] [], .table (some (.row [.cell [image] none []] true [])) [] [] []] []

theorem compile_ignoring_everywhere :
    Walk.unseeing.options.imageMode = .ignore ∧ Walk.unseeing.highlighter.IsPure ∧
      ((compile Walk.unseeing (some Node.illustrated)).after []).outcome =
        .ok ⟨⟨[.passage 0 [.run ⟨"ab", false, false, false, false, none⟩], .quote 1 [.tree []],
          .table [none] [] (some [[]])]⟩, [], []⟩ ∧
      ((compile Walk.unseeing (some Node.illustrated)).after []).outcome =
        ((compile (Walk.unseeing.resolvingIn ⟨"/elsewhere", []⟩)
          (some Node.illustrated.imageless)).after []).outcome ∧
      ((compile Walk.unseeing (some Node.illustrated)).after []).outcome =
        ((compile { Walk.unseeing with files := ⟨"/elsewhere", []⟩ }
          (some Node.illustrated)).after []).outcome ∧
      ((Walk.unseeing.inline
        ([.text "a" []] ++ .image "lost.png" "" none none none [] :: [.text "b" []])).after []).outcome =
          ((Walk.unseeing.inline ([.text "a" []] ++ [.text "b" []])).after []).outcome := by
  have highlighterPure : Walk.unseeing.highlighter.IsPure := fun _ _ _ _ => rfl
  obtain ⟨withoutImages, withFiles, joined⟩ :=
    compile_ignoring rfl highlighterPure (some Node.illustrated) []
  exact ⟨rfl, highlighterPure, rfl, withoutImages _ [], withFiles _ [], joined _ _ _ _ _ _ _ _⟩

end MarkdownView
