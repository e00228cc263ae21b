import MarkdownView.Token.Position
import MarkdownView.Trace
set_option autoImplicit false

namespace MarkdownView

namespace Node

def isHeaderRow : Node → Bool
  | .row _ isHeader _ => isHeader
  | _ => false

def cellAlignment : Node → Option String
  | .cell _ alignment _ => alignment
  | _ => none

def rowAlignments : Node → List (Option String)
  | .row cells _ _ => cells.map cellAlignment
  | _ => []

-- A table of rows, the last header row of which is the header and says the alignments.
def tableOf (rows : List Node) : Node :=
  let header := (rows.filter isHeaderRow).getLast?
  .table header (rows.filter fun row => !row.isHeaderRow)
    ((header.map rowAlignments).getD []) []

end Node

namespace Token

mutual

def plainText : Token → String
  | .foreign _ => ""
  | .element head children => if head.hasTokens then plainTexts children else head.raw
termination_by structural token => token

def plainTexts : List Token → String
  | [] => ""
  | token :: tokens => plainText token ++ plainTexts tokens
termination_by structural tokens => tokens

end

def blockOf (head : TokenHead) (nodes : List Node) : List Node :=
  match BlockType.ofWord head.type with
  | .blank => []
  | .heading => [.heading head.level nodes []]
  | .paragraph => [.paragraph nodes []]
  | .code => [head.code]
  | .quote => [.quote nodes []]
  | .list => [.list (head.isSet "ordered") nodes head.start head.isTight []]
  | .table => [Node.tableOf nodes]
  | .thematicBreak => [.thematicBreak []]
  | .html => [.htmlBlock head.raw []]
  | .math => [.mathBlock head.raw []]
  | .footnotes => nodes
  | .footnote => [.footnoteDefinition head.footnote nodes []]
  | .other => if head.type = "" then [] else [.extension head.type false nodes head.raw []]

def inlineOf (head : TokenHead) (children : List Token) (nodes : List Node) : List Node :=
  match InlineType.ofWord head.type with
  | .text => if head.raw = "" then [] else [.text head.raw []]
  | .strong => [.strong nodes []]
  | .emphasis => [.emphasis nodes []]
  | .code => [.code head.raw []]
  | .link => [.link head.target nodes head.title []]
  | .image => [.image head.url (plainTexts children) head.title none none []]
  | .hardBreak => [.lineBreak false []]
  | .softBreak => [.lineBreak true []]
  | .strike => [.strike nodes []]
  | .html => [.htmlInline head.raw []]
  | .math => [.mathInline head.raw []]
  | .reference => [.footnoteReference head.reference []]
  | .other => if head.type = "" then [] else [.extension head.type true nodes head.raw []]

def sectionOf (head : TokenHead) (nodes : List Node) : List Node :=
  if head.type = "table_head" then [.row nodes true []]
  else if head.type = "table_body" then nodes
  else []

def cellOf (head : TokenHead) (nodes : List Node) : List Node :=
  if head.type = "table_cell" then [.cell nodes head.alignment []] else []

def build (position : Position) (head : TokenHead) (children : List Token) (nodes : List Node) :
    List Node :=
  match position with
  | .block => blockOf head nodes
  | .inline => inlineOf head children nodes
  | .item => [.item nodes head.status []]
  | .section => sectionOf head nodes
  | .row => [.row nodes false []]
  | .cell => cellOf head nodes

mutual

def nodes (position : Position) : Token → List Node
  | .foreign _ => []
  | .element head children =>
    match position.inside head with
    | none => build position head children []
    | some inner => build position head children (nodesOf inner children)
termination_by structural token => token

def nodesOf (position : Position) : List Token → List Node
  | [] => []
  | token :: tokens => nodes position token ++ nodesOf position tokens
termination_by structural tokens => tokens

end

def document (tokens : List Token) : Node := .document (nodesOf .block tokens) []

inductive Remark where
  | passed (type : String)
  | fault (typeName : String)
  | scalar (typeName : String)
deriving DecidableEq

def barred (position : Position) (head : TokenHead) : List Remark :=
  match head.holding with
  | .scalar typeName => if position.visits head then [.scalar typeName] else []
  | _ => []

mutual

def remarks (position : Position) : Token → List Remark
  | .foreign typeName => if position = .item then [] else [.fault typeName]
  | .element head children =>
    (if position.passes head.type then [.passed head.type] else []) ++ barred position head ++
      match position.inside head with
      | none => []
      | some inner => remarksOf inner children
termination_by structural token => token

def remarksOf (position : Position) : List Token → List Remark
  | [] => []
  | token :: tokens => remarks position token ++ remarksOf position tokens
termination_by structural tokens => tokens

end

def follow : List Remark → Traced Unit
  | [] => pure ⟨⟩
  | .passed type :: rest => do
    Traced.note .debug s!"Passing through unmodelled mistune token '{type}'"
    follow rest
  | .fault typeName :: _ => Traced.fail (.noAttribute typeName "get")
  | .scalar typeName :: _ => Traced.fail (.notAList typeName)

def read (values : List Json) : Traced Node := do
  let tokens := ofJsonList values
  follow (remarksOf .block tokens)
  pure (document tokens)

end Token
end MarkdownView
