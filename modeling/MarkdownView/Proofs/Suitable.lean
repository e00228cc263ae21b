import MarkdownView.Node
set_option autoImplicit false

namespace MarkdownView.Node

mutual

def suitsText : Node → Bool
  | .text .. => true
  | .emphasis content _ => suitTexts content
  | .strong content _ => suitTexts content
  | .strike content _ => suitTexts content
  | .code .. => true
  | .link _ content _ _ => suitTexts content
  | .lineBreak .. => true
  | node => node.isEmbedded
termination_by structural node => node

def suitTexts : List Node → Bool
  | [] => true
  | node :: nodes => suitsText node && suitTexts nodes
termination_by structural nodes => nodes

end

def suitsCell (isKept : Bool) : Node → Bool
  | .cell content _ _ => !isKept || suitTexts content
  | _ => false

def suitCells : Nat → List Node → Bool
  | _, [] => true
  | kept, node :: nodes => suitsCell (0 < kept) node && suitCells (kept - 1) nodes

def suitsRow (width : Nat) : Node → Bool
  | .row cells _ _ => suitCells width cells
  | _ => false

def cellCount : Node → Nat
  | .row cells _ _ => cells.length
  | _ => 0

def tableWidth (header : Option Node) (rows : List Node) (alignments : List (Option String)) : Nat :=
  match header with
  | some header => cellCount header
  | none => if alignments.isEmpty then (rows.map cellCount).headD 0 else alignments.length

def suitsTable (header : Option Node) (rows : List Node) (alignments : List (Option String)) : Bool :=
  (header.toList ++ rows).all (suitsRow (tableWidth header rows alignments))

mutual

def suitsBlock : Node → Bool
  | .document children _ => suitBlocks children
  | .heading _ content _ => suitTexts content
  | .paragraph content _ => suitTexts content
  | .codeBlock .. => true
  | .quote children _ => suitBlocks children
  | .list _ items _ _ _ => suitItems items
  | .table header rows alignments _ => suitsTable header rows alignments
  | .thematicBreak _ => true
  | node => node.isEmbedded
termination_by structural node => node

def suitBlocks : List Node → Bool
  | [] => true
  | node :: nodes => suitsBlock node && suitBlocks nodes
termination_by structural nodes => nodes

def suitsItem : Node → Bool
  | .item children _ _ => suitBlocks children
  | _ => false
termination_by structural node => node

def suitItems : List Node → Bool
  | [] => true
  | node :: nodes => suitsItem node && suitItems nodes
termination_by structural nodes => nodes

end

mutual

def every (holds : Node → Bool) (node : Node) : Bool :=
  holds node && match node with
    | .document children _ => everyOf holds children
    | .heading _ content _ => everyOf holds content
    | .paragraph content _ => everyOf holds content
    | .quote children _ => everyOf holds children
    | .list _ items _ _ _ => everyOf holds items
    | .item children _ _ => everyOf holds children
    | .table header rows _ _ => everyHeader holds header && everyOf holds rows
    | .row cells _ _ => everyOf holds cells
    | .cell content _ _ => everyOf holds content
    | .emphasis content _ => everyOf holds content
    | .strong content _ => everyOf holds content
    | .strike content _ => everyOf holds content
    | .link _ content _ _ => everyOf holds content
    | .footnoteDefinition _ content _ => everyOf holds content
    | .extension _ _ children _ _ => everyOf holds children
    | _ => true
termination_by structural node

def everyOf (holds : Node → Bool) : List Node → Bool
  | [] => true
  | node :: nodes => every holds node && everyOf holds nodes
termination_by structural nodes => nodes

def everyHeader (holds : Node → Bool) : Option Node → Bool
  | none => true
  | some header => every holds header
termination_by structural header => header

end

theorem every_of_singleton (holds : Node → Bool) (node : Node) :
    everyOf holds [node] = every holds node :=
  Bool.and_true _

theorem every_of_to_list (holds : Node → Bool) (header : Option Node) :
    everyOf holds header.toList = everyHeader holds header := by
  cases header with
  | none => rfl
  | some node => exact every_of_singleton holds node

end MarkdownView.Node
