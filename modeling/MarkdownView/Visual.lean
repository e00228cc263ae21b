import MarkdownView.Failure
set_option autoImplicit false

/-! The visual tree. Inline content is flat; only quotes, lists and whole trees nest. The checked
constructors refuse what a tree may not hold: empty runs, levels and depths out of range, ragged
tables. -/
namespace MarkdownView

structure Run where
  text : String
  bold : Bool
  italic : Bool
  strike : Bool
  code : Bool
  linkTarget : Option String
deriving DecidableEq

def Run.isPlainCode (run : Run) : Bool :=
  run.code && !(run.bold || run.italic || run.strike) && run.linkTarget.isNone

structure Looks where
  tag : String
  color : Option String
  bold : Bool
  italic : Bool
  underline : Bool
deriving DecidableEq

def Looks.tagged (tag : String) : Looks := ⟨tag, none, false, false, false⟩

structure Span where
  text : String
  looks : Looks
deriving DecidableEq

def Span.tagged (text tag : String) : Span := ⟨text, Looks.tagged tag⟩

structure Picture where
  path : String
  alt : String
  title : Option String
  width : Option Int
  height : Option Int
deriving DecidableEq

inductive Inline where
  | run (content : Run)
  | code (text : String)
  | picture (picture : Picture)
  | placeholder (kind : String)
deriving DecidableEq

def Inline.text : Inline → String
  | .run content => content.text
  | .code content => content
  | .picture _ => ""
  | .placeholder _ => ""

abbrev Cell := List Inline

inductive Visual where
  | inline (content : Inline)
  | passage (level : Int) (children : List Inline)
  | code (spans : List Span) (language : Option String)
  | quote (depth : Int) (children : List Visual)
  | item (children : List Visual) (checked : Option Bool)
  | list (ordered : Bool) (items : List Visual) (start : Option Int) (depth : Int)
  | table (columns : List (Option String)) (rows : List (List Cell)) (header : Option (List Cell))
  | thematicBreak
  | tree (children : List Visual)

structure Tree where
  children : List Visual

-- The outcome of a compilation: the tree, how often each unmodelled kind was met, in order of first
-- meeting, and what was repaired.
structure Compiled where
  tree : Tree
  diagnostics : List (String × Int)
  warnings : List String

def Run.check (run : Run) : Except Failure Run :=
  if run.text = "" then .error (.refused .emptyRun) else .ok run

namespace Visual

def passage? (level : Int) (children : List Inline) : Except Failure Visual :=
  if 0 ≤ level ∧ level ≤ 6 then .ok (.passage level children)
  else .error (.refused (.passageLevel level))

def quote? (depth : Int) (children : List Visual) : Except Failure Visual :=
  if depth < 1 then .error (.refused (.quoteDepth depth)) else .ok (.quote depth children)

def raggedRow? (width : Nat) : Nat → List (List Cell) → Option (Nat × Nat)
  | _, [] => none
  | index, row :: rows =>
    if row.length = width then raggedRow? width (index + 1) rows else some (index, row.length)

def table? (columns : List (Option String)) (rows : List (List Cell))
    (header : Option (List Cell)) : Except Failure Visual :=
  let checkRows : Except Failure Visual :=
    match raggedRow? columns.length 0 rows with
    | some (row, actual) => .error (.refused (.rowWidth row actual columns.length))
    | none => .ok (.table columns rows header)
  match header with
  | none => checkRows
  | some cells =>
    if cells.length = columns.length then checkRows
    else .error (.refused (.headerWidth cells.length columns.length))

def isHeading : Visual → Bool
  | .passage level _ => 0 < level
  | _ => false

def kind : Visual → String
  | .inline (.run _) => "text_run"
  | .inline (.code _) => "inline_code"
  | .inline (.picture _) => "image"
  | .inline (.placeholder _) => "unsupported"
  | .passage .. => "section"
  | .code .. => "code_block"
  | .quote .. => "quote"
  | .item .. => "list_item"
  | .list .. => "list"
  | .table .. => "table"
  | .thematicBreak => "thematic_break"
  | .tree _ => "visual_tree"

def isTree : Visual → Bool
  | .tree _ => true
  | _ => false

end Visual

def plainText (content : List Inline) : String :=
  String.join (content.map Inline.text)

def spanText (spans : List Span) : String :=
  String.join (spans.map Span.text)

def Tree.size (tree : Tree) : Nat := tree.children.length
def Tree.isEmpty (tree : Tree) : Bool := tree.children.isEmpty

def Compiled.empty : Compiled := ⟨⟨[]⟩, [], []⟩

def Compiled.hasUnmodelled (compiled : Compiled) : Bool := !compiled.diagnostics.isEmpty

end MarkdownView
