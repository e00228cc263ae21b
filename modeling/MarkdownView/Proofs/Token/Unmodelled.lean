import MarkdownView.Proofs.Compile.Leaves
import MarkdownView.Proofs.Token.Nodes
import MarkdownView.Proofs.Token.Shape
set_option autoImplicit false

namespace MarkdownView

inductive Site where
  | block
  | inline
  | item
  | head
  | body
  | row
  | cell

inductive Sense where
  | nothing
  | unmodelled (kind : String)
  | holds (sites : List Site)

namespace Sense

def ofBlock : String → Sense
  | "" => .nothing
  | "blank_line" => .nothing
  | "block_code" => .nothing
  | "thematic_break" => .nothing
  | "heading" => .holds [.inline]
  | "paragraph" => .holds [.inline]
  | "block_text" => .holds [.inline]
  | "block_quote" => .holds [.block]
  | "footnotes" => .holds [.block]
  | "list" => .holds [.item]
  | "table" => .holds [.head, .body]
  | "block_html" => .unmodelled "html"
  | "block_math" => .unmodelled "math"
  | "footnote_item" => .unmodelled "footnote_definition"
  | "footnote_def" => .unmodelled "footnote_definition"
  | type => .unmodelled type

def ofInline : String → Sense
  | "" => .nothing
  | "text" => .nothing
  | "codespan" => .nothing
  | "image" => .nothing
  | "linebreak" => .nothing
  | "softbreak" => .nothing
  | "strong" => .holds [.inline]
  | "emphasis" => .holds [.inline]
  | "strikethrough" => .holds [.inline]
  | "link" => .holds [.inline]
  | "inline_html" => .unmodelled "inline_html"
  | "inline_math" => .unmodelled "inline_math"
  | "footnote_ref" => .unmodelled "footnote_reference"
  | type => .unmodelled type

def of (type : String) : Site → Sense
  | .block => ofBlock type
  | .inline => ofInline type
  | .item => .holds [.block]
  | .head => if type = "table_head" then .holds [.cell] else .nothing
  | .body => if type = "table_body" then .holds [.row] else .nothing
  | .row => .holds [.cell]
  | .cell => if type = "table_cell" then .holds [.inline] else .nothing

end Sense

namespace Token

mutual

def unmodelled (site : Site) : Token → List String
  | .foreign _ => []
  | .element head children =>
    match Sense.of head.type site with
    | .nothing => []
    | .unmodelled kind => [kind]
    | .holds sites => sites.flatMap fun inner => unmodelledOf inner children
termination_by structural token => token

def unmodelledOf (site : Site) : List Token → List String
  | [] => []
  | token :: tokens => unmodelled site token ++ unmodelledOf site tokens
termination_by structural tokens => tokens

end

def isTableHead : Token → Bool
  | .foreign _ => false
  | .element head _ => head.type = "table_head"

mutual

def hasSingleHeads : Token → Bool
  | .foreign _ => true
  | .element head children =>
    (head.type ≠ "table" || children.countP isTableHead ≤ 1) && haveSingleHeads children
termination_by structural token => token

def haveSingleHeads : List Token → Bool
  | [] => true
  | token :: tokens => hasSingleHeads token && haveSingleHeads tokens
termination_by structural tokens => tokens

end

end Token

theorem Sense.of_block_eq (word : String) :
    ofBlock word =
      match BlockType.ofWord word with
      | .blank => .nothing
      | .heading => .holds [.inline]
      | .paragraph => .holds [.inline]
      | .code => .nothing
      | .quote => .holds [.block]
      | .list => .holds [.item]
      | .table => .holds [.head, .body]
      | .thematicBreak => .nothing
      | .html => .unmodelled "html"
      | .math => .unmodelled "math"
      | .footnotes => .holds [.block]
      | .footnote => .unmodelled "footnote_definition"
      | .other => if word = "" then .nothing else .unmodelled word := by
  unfold ofBlock
  split <;> simp_all [BlockType.ofWord]

theorem Sense.of_inline_eq (word : String) :
    ofInline word =
      match InlineType.ofWord word with
      | .text => .nothing
      | .strong => .holds [.inline]
      | .emphasis => .holds [.inline]
      | .code => .nothing
      | .link => .holds [.inline]
      | .image => .nothing
      | .hardBreak => .nothing
      | .softBreak => .nothing
      | .strike => .holds [.inline]
      | .html => .unmodelled "inline_html"
      | .math => .unmodelled "inline_math"
      | .reference => .unmodelled "footnote_reference"
      | .other => if word = "" then .nothing else .unmodelled word := by
  unfold ofInline
  split <;> simp_all [InlineType.ofWord]

namespace Site

def position : Site → Position
  | .block => .block
  | .inline => .inline
  | .item => .item
  | .head => .section
  | .body => .section
  | .row => .row
  | .cell => .cell

def kindsIn (nodes : List Node) : Site → List String
  | .block => Node.unmodelledIn nodes
  | .inline => (Node.leavesOf nodes).filterMap Leaf.unmodelled?
  | .item => Node.unmodelledIn nodes
  | .head => Node.unmodelledIn (nodes.filter Node.isHeaderRow)
  | .body => Node.unmodelledIn (nodes.filter fun row => !row.isHeaderRow)
  | .row => Node.unmodelledIn nodes
  | .cell => Node.unmodelledIn nodes

theorem kinds_in_append (site : Site) (nodes others : List Node) :
    site.kindsIn (nodes ++ others) = site.kindsIn nodes ++ site.kindsIn others := by
  cases site <;>
    simp only [kindsIn, List.filter_append, Node.unmodelled_in_append, Node.leaves_of_append,
      List.filterMap_append]

end Site

namespace Token

theorem body_rows_plain (tokens : List Token) : ∀ row ∈ nodesOf .row tokens, row.isHeaderRow = false := by
  have built : IsBuilt fun position row => position = .row → row.isHeaderRow = false := by
    rintro _ head children nodes _ row member rfl
    obtain rfl : row = .row nodes false [] := List.mem_singleton.mp member
    rfl
  intro row member
  exact nodes_of_hold built .row tokens row member rfl

theorem filter_body_rows (tokens : List Token) :
    (nodesOf .row tokens).filter Node.isHeaderRow = [] ∧
      (nodesOf .row tokens).filter (fun row => !row.isHeaderRow) = nodesOf .row tokens := by
  have plain := body_rows_plain tokens
  constructor
  · exact List.filter_eq_nil_iff.mpr fun row member => by simp [plain row member]
  · exact List.filter_eq_self.mpr fun row member => by simp [plain row member]

theorem nodes_table_head {head : TokenHead} (typed : head.type = "table_head") (children : List Token) :
    nodes .section (.element head children) = [.row (nodesOf .cell children) true []] := by
  have inside : Position.section.inside head = some .cell := by
    simp [Position.inside, Position.passes, Position.below, typed]
  simp [nodes_element, inside, build, sectionOf, typed]

theorem nodes_table_body {head : TokenHead} (typed : head.type = "table_body") (children : List Token) :
    nodes .section (.element head children) = nodesOf .row children := by
  have inside : Position.section.inside head = some .row := by
    simp [Position.inside, Position.passes, Position.below, typed]
  simp [nodes_element, inside, build, sectionOf, typed]

theorem nodes_other_section {head : TokenHead} (noHead : head.type ≠ "table_head")
    (noBody : head.type ≠ "table_body") (children : List Token) :
    nodes .section (.element head children) = [] := by
  simp [nodes_element, build, sectionOf, noHead, noBody]

theorem count_p_header_rows (tokens : List Token) :
    (nodesOf .section tokens).countP Node.isHeaderRow = tokens.countP isTableHead := by
  induction tokens with
  | nil => rfl
  | cons token tokens ih =>
    have first : (nodes .section token).countP Node.isHeaderRow = [token].countP isTableHead := by
      cases token with
      | foreign typeName => rfl
      | element head children =>
        by_cases isHead : head.type = "table_head"
        · simp [nodes_table_head isHead, isTableHead, isHead, Node.isHeaderRow]
        · by_cases isBody : head.type = "table_body"
          · rw [nodes_table_body isBody, List.countP_eq_length_filter, (filter_body_rows children).1]
            simp [isTableHead, isHead]
          · simp [nodes_other_section isHead isBody, isTableHead, isHead]
    rw [nodesOf, List.countP_append, ih, first, ← List.countP_append, List.singleton_append]

theorem unmodelled_in_table_of {rows : List Node} (single : rows.countP Node.isHeaderRow ≤ 1) :
    Node.unmodelledIn [Node.tableOf rows] = Site.kindsIn rows .head ++ Site.kindsIn rows .body := by
  have header : (rows.filter Node.isHeaderRow).getLast?.toList = rows.filter Node.isHeaderRow := by
    rw [List.countP_eq_length_filter] at single
    match rows.filter Node.isHeaderRow, single with
    | [], _ => rfl
    | [_], _ => rfl
  rw [Node.tableOf, Node.unmodelled_in_singleton, Node.blockLeaves, Node.header_leaves_eq, header,
    List.filterMap_append]
  rfl

theorem word_of_table {word : String} (typed : BlockType.ofWord word = .table) : word = "table" := by
  unfold BlockType.ofWord at typed
  split at typed <;> simp_all

theorem link_unmodelled (url : Option String) (content : List Node) (title : Option String) :
    Site.kindsIn [.link url content title []] .inline = Site.kindsIn content .inline := by
  rw [Site.kindsIn, Node.leaves_of_singleton]
  cases content <;> rfl

section

variable {children : List Token}
  (held : ∀ site : Site, Site.kindsIn (nodesOf site.position children) site = unmodelledOf site children)

include held

theorem kinds_in_within (site : Site) :
    Site.kindsIn (nodesOf site.position children) site =
      [site].flatMap fun inner => unmodelledOf inner children := by
  rw [List.flatMap_singleton]
  exact held site

theorem block_unmodelled (head : TokenHead)
    (single : head.type = "table" → children.countP isTableHead ≤ 1) :
    Site.kindsIn (nodes .block (.element head children)) .block =
      unmodelled .block (.element head children) := by
  rw [unmodelled, Sense.of, Sense.of_block_eq, nodes_element, build, blockOf]
  cases typed : BlockType.ofWord head.type with
  | heading =>
    rw [inside_block typed (by decide), Site.kindsIn, Node.unmodelled_in_singleton]
    exact kinds_in_within held .inline
  | paragraph =>
    rw [inside_block typed (by decide), Site.kindsIn, Node.unmodelled_in_singleton]
    exact kinds_in_within held .inline
  | quote =>
    rw [inside_block typed (by decide), Site.kindsIn, Node.unmodelled_in_singleton]
    exact kinds_in_within held .block
  | list =>
    rw [inside_block typed (by decide), Site.kindsIn, Node.unmodelled_in_singleton]
    exact kinds_in_within held .item
  | table =>
    have fewHeaders : (nodesOf .section children).countP Node.isHeaderRow ≤ 1 := by
      rw [count_p_header_rows]
      exact single (word_of_table typed)
    rw [inside_block typed (by decide), Site.kindsIn]
    calc
      Node.unmodelledIn [Node.tableOf (nodesOf .section children)] =
          Site.kindsIn (nodesOf .section children) .head ++
            Site.kindsIn (nodesOf .section children) .body := unmodelled_in_table_of fewHeaders
      _ = unmodelledOf .head children ++ unmodelledOf .body children :=
        congrArg₂ (· ++ ·) (held .head) (held .body)
      _ = [Site.head, .body].flatMap fun inner => unmodelledOf inner children := by simp
  | footnotes =>
    rw [inside_block typed (by decide)]
    exact kinds_in_within held .block
  | code =>
    simp only [TokenHead.code]
    split <;> rfl
  | other =>
    by_cases untyped : head.type = ""
    · rw [if_pos untyped, if_pos untyped]
      rfl
    · rw [if_neg untyped, if_neg untyped, Site.kindsIn, Node.unmodelled_in_of_unmodelled rfl]
      rfl
  | _ => rfl

theorem inline_unmodelled (head : TokenHead) :
    Site.kindsIn (nodes .inline (.element head children)) .inline =
      unmodelled .inline (.element head children) := by
  rw [unmodelled, Sense.of, Sense.of_inline_eq, nodes_element, build, inlineOf]
  cases typed : InlineType.ofWord head.type with
  | strong =>
    rw [inside_inline typed (by decide), Site.kindsIn, Node.leaves_of_singleton]
    exact kinds_in_within held .inline
  | emphasis =>
    rw [inside_inline typed (by decide), Site.kindsIn, Node.leaves_of_singleton]
    exact kinds_in_within held .inline
  | strike =>
    rw [inside_inline typed (by decide), Site.kindsIn, Node.leaves_of_singleton]
    exact kinds_in_within held .inline
  | link =>
    rw [inside_inline typed (by decide), link_unmodelled]
    exact kinds_in_within held .inline
  | text =>
    by_cases empty : head.raw = ""
    · rw [if_pos empty]
      rfl
    · rw [if_neg empty]
      rfl
  | other =>
    by_cases untyped : head.type = ""
    · rw [if_pos untyped, if_pos untyped]
      rfl
    · rw [if_neg untyped, if_neg untyped]
      rfl
  | _ => rfl

theorem item_unmodelled (head : TokenHead) :
    Site.kindsIn (nodes .item (.element head children)) .item =
      unmodelled .item (.element head children) := by
  have inside : Position.item.inside head = some .block := by
    simp [Position.inside, Position.passes, Position.below]
  rw [nodes_element, build, inside, Site.kindsIn, Node.unmodelled_in_singleton]
  exact kinds_in_within held .block

theorem row_unmodelled (head : TokenHead) :
    Site.kindsIn (nodes .row (.element head children)) .row =
      unmodelled .row (.element head children) := by
  have inside : Position.row.inside head = some .cell := by
    simp [Position.inside, Position.passes, Position.below]
  rw [nodes_element, build, inside, Site.kindsIn, Node.unmodelled_in_singleton]
  exact kinds_in_within held .cell

theorem cell_unmodelled (head : TokenHead) :
    Site.kindsIn (nodes .cell (.element head children)) .cell =
      unmodelled .cell (.element head children) := by
  rw [unmodelled, Sense.of, nodes_element, build, cellOf]
  by_cases typed : head.type = "table_cell"
  · have inside : Position.cell.inside head = some .inline := by
      simp [Position.inside, Position.passes, Position.below, typed]
    rw [if_pos typed, if_pos typed, inside, Site.kindsIn, Node.unmodelled_in_singleton]
    exact kinds_in_within held .inline
  · rw [if_neg typed, if_neg typed]
    rfl

theorem head_unmodelled (head : TokenHead) :
    Site.kindsIn (nodes .section (.element head children)) .head =
      unmodelled .head (.element head children) := by
  rw [unmodelled, Sense.of]
  by_cases isHead : head.type = "table_head"
  · rw [if_pos isHead, nodes_table_head isHead, Site.kindsIn]
    exact (Node.unmodelled_in_singleton _).trans (kinds_in_within held .cell)
  · rw [if_neg isHead]
    by_cases isBody : head.type = "table_body"
    · rw [nodes_table_body isBody, Site.kindsIn, (filter_body_rows children).1]
      rfl
    · rw [nodes_other_section isHead isBody]
      rfl

theorem body_unmodelled (head : TokenHead) :
    Site.kindsIn (nodes .section (.element head children)) .body =
      unmodelled .body (.element head children) := by
  rw [unmodelled, Sense.of]
  by_cases isBody : head.type = "table_body"
  · rw [if_pos isBody, nodes_table_body isBody, Site.kindsIn, (filter_body_rows children).2]
    exact kinds_in_within held .row
  · rw [if_neg isBody]
    by_cases isHead : head.type = "table_head"
    · rw [nodes_table_head isHead]
      rfl
    · rw [nodes_other_section isHead isBody]
      rfl

theorem element_unmodelled (head : TokenHead)
    (single : head.type = "table" → children.countP isTableHead ≤ 1) (site : Site) :
    Site.kindsIn (nodes site.position (.element head children)) site =
      unmodelled site (.element head children) := by
  cases site with
  | block => exact block_unmodelled held head single
  | inline => exact inline_unmodelled held head
  | item => exact item_unmodelled held head
  | head => exact head_unmodelled held head
  | body => exact body_unmodelled held head
  | row => exact row_unmodelled held head
  | cell => exact cell_unmodelled held head

end

mutual

theorem nodes_unmodelled (token : Token) (single : token.hasSingleHeads = true) (site : Site) :
    Site.kindsIn (nodes site.position token) site = unmodelled site token := by
  cases token with
  | foreign typeName => cases site <;> rfl
  | element head children =>
    rw [hasSingleHeads, Bool.and_eq_true] at single
    have held := nodes_of_unmodelled children single.2
    refine element_unmodelled held head (fun isTable => ?_) site
    simpa [isTable] using single.1
termination_by structural token

theorem nodes_of_unmodelled (tokens : List Token) (single : haveSingleHeads tokens = true) (site : Site) :
    Site.kindsIn (nodesOf site.position tokens) site = unmodelledOf site tokens := by
  cases tokens with
  | nil => cases site <;> rfl
  | cons token tokens =>
    rw [haveSingleHeads, Bool.and_eq_true] at single
    rw [nodesOf, Site.kinds_in_append, nodes_unmodelled token single.1 site,
      nodes_of_unmodelled tokens single.2 site, unmodelledOf]
termination_by structural tokens

end

end Token

-- Tokens as a tokenizer shapes them, with no more than one header to a table, become a document, and the
-- diagnostics of a compilation in which no row is repaired are the census of what the tokens say.
theorem read_diagnostics {values : List Json} (tokens : ∀ value ∈ values, value.IsToken)
    (single : Token.haveSingleHeads (Token.ofJsonList values) = true) (past : List Event) :
    ∃ children events, (Token.read values).Yields past (.document children []) events ∧
      ∀ walk : Walk, walk.options.isStrict = true → ∀ other compiled,
        ((compile walk (some (.document children []))).after other).outcome = .ok compiled →
          compiled.diagnostics = census (Token.unmodelledOf .block (Token.ofJsonList values)) := by
  obtain ⟨events, yields⟩ := Token.read_yields tokens past
  refine ⟨_, events, yields, fun walk strict other compiled returned => ?_⟩
  rw [diagnostics_of_leaves strict returned]
  exact congrArg census (Token.nodes_of_unmodelled _ single .block)

def lateHead : List Json :=
  [.token "table"
      [.token "table_body"
        [.token "table_row" [.token "table_cell" [], .token "table_cell" [.token "inline_math" []]]],
       .token "table_head" [.token "table_cell" [.token "sub" []], .token "table_cell" []]],
   .token "inline_math" []]

theorem read_diagnostics_late_head :
    (∀ value ∈ lateHead, value.IsToken) ∧
      Token.haveSingleHeads (Token.ofJsonList lateHead) = true ∧
      Walk.bare.options.isStrict = true ∧
      ∃ children events compiled, (Token.read lateHead).Yields [] (.document children []) events ∧
        ((compile Walk.bare (some (.document children []))).after []).outcome = .ok compiled ∧
        compiled.diagnostics = [("sub", 1), ("inline_math", 2)] := by
  have shaped : ∀ value ∈ lateHead, value.IsToken := by
    simp [lateHead, Json.token_is_token_iff]
  obtain ⟨children, events, yields, counted⟩ := read_diagnostics shaped rfl []
  have read : ((Token.read lateHead).after []).outcome = .ok (.document
      [.table (some (.row [.cell [.extension "sub" true [] "" []] none [], .cell [] none []] true []))
        [.row [.cell [] none [], .cell [.mathInline "" []] none []] false []] [none, none] [],
        .extension "inline_math" false [] "" []] []) := rfl
  rw [yields] at read
  obtain ⟨rfl, _⟩ := Node.document.inj (Except.ok.inj read)
  refine ⟨shaped, rfl, rfl, _, events, ⟨⟨[.table [none, none] [[[], [.placeholder "inline_math"]]]
    (some [[.placeholder "sub"], []]), .inline (.placeholder "inline_math")]⟩,
    [("sub", 1), ("inline_math", 2)], []⟩, yields, ?returned, ?counted⟩
  · rfl
  · exact counted Walk.bare rfl [] _ ?returned

end MarkdownView
