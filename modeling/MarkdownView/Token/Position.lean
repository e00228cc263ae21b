import MarkdownView.Token
set_option autoImplicit false

/-! Where tokens are read. What a token is depends on its type and on its place: in the flow of blocks
or of text, or inside a list or a table, whose own tokens are told by their place alone. -/
namespace MarkdownView

inductive BlockType where
  | blank
  | heading
  | paragraph
  | code
  | quote
  | list
  | table
  | thematicBreak
  | html
  | math
  | footnotes
  | footnote
  | other
deriving DecidableEq

def BlockType.ofWord (word : String) : BlockType :=
  match word with
  | "blank_line" => .blank
  | "heading" => .heading
  | "paragraph" => .paragraph
  | "block_text" => .paragraph
  | "block_code" => .code
  | "block_quote" => .quote
  | "list" => .list
  | "table" => .table
  | "thematic_break" => .thematicBreak
  | "block_html" => .html
  | "block_math" => .math
  | "footnotes" => .footnotes
  | "footnote_item" => .footnote
  | "footnote_def" => .footnote
  | _ => .other

inductive InlineType where
  | text
  | strong
  | emphasis
  | code
  | link
  | image
  | hardBreak
  | softBreak
  | strike
  | html
  | math
  | reference
  | other
deriving DecidableEq

def InlineType.ofWord (word : String) : InlineType :=
  match word with
  | "text" => .text
  | "strong" => .strong
  | "emphasis" => .emphasis
  | "codespan" => .code
  | "link" => .link
  | "image" => .image
  | "linebreak" => .hardBreak
  | "softbreak" => .softBreak
  | "strikethrough" => .strike
  | "inline_html" => .html
  | "inline_math" => .math
  | "footnote_ref" => .reference
  | _ => .other

-- A place that tokens are read at: among blocks, inside text, directly in a list, in a table, in the
-- body of a table, or in one of its rows.
inductive Position where
  | block
  | inline
  | item
  | section
  | row
  | cell
deriving DecidableEq

namespace Position

def underBlock : BlockType → Option Position
  | .heading => some .inline
  | .paragraph => some .inline
  | .quote => some .block
  | .list => some .item
  | .table => some .section
  | .footnotes => some .block
  | .footnote => some .block
  | .other => some .block
  | .blank => none
  | .code => none
  | .thematicBreak => none
  | .html => none
  | .math => none

def underInline : InlineType → Option Position
  | .strong => some .inline
  | .emphasis => some .inline
  | .link => some .inline
  | .strike => some .inline
  | .other => some .inline
  | .text => none
  | .code => none
  | .image => none
  | .hardBreak => none
  | .softBreak => none
  | .html => none
  | .math => none
  | .reference => none

-- The place of a token's children, if they are read. A token without type says nothing among blocks
-- and inside text.
def below (position : Position) (type : String) : Option Position :=
  match position with
  | .block => if type = "" then none else underBlock (BlockType.ofWord type)
  | .inline => if type = "" then none else underInline (InlineType.ofWord type)
  | .item => some .block
  | .section =>
    if type = "table_head" then some .cell
    else if type = "table_body" then some .row
    else none
  | .row => some .cell
  | .cell => if type = "table_cell" then some .inline else none

def passes (position : Position) (type : String) : Bool :=
  type ≠ "" &&
    match position with
    | .block => BlockType.ofWord type == .other
    | .inline => InlineType.ofWord type == .other
    | _ => false

-- The place of what a token holds. A token that is passed on keeps tokens only.
def inside (position : Position) (head : TokenHead) : Option Position :=
  if position.passes head.type && !head.hasTokens then none else position.below head.type

def visits (position : Position) (head : TokenHead) : Bool :=
  (position.inside head).isSome ||
    (position == .inline && InlineType.ofWord head.type == .image)

end Position
end MarkdownView
