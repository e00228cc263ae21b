import Mathlib.Tactic.SplitIfs
import MarkdownView.Proofs.Compile.VisibleText
import MarkdownView.Proofs.Token.Nodes
import MarkdownView.Proofs.Token.Shape
set_option autoImplicit false

namespace MarkdownView

namespace Json

inductive Use where
  | blocks
  | content
  | caption
  | items
  | sections
  | rows
  | cells

namespace Use

def insideBlock : String → Option Use
  | "" => none
  | "blank_line" => none
  | "block_code" => none
  | "thematic_break" => none
  | "block_html" => none
  | "block_math" => none
  | "heading" => some .content
  | "paragraph" => some .content
  | "block_text" => some .content
  | "list" => some .items
  | "table" => some .sections
  | "block_quote" => some .blocks
  | "footnotes" => some .blocks
  | "footnote_item" => some .blocks
  | "footnote_def" => some .blocks
  | _ => some .blocks

def insideContent : String → Option Use
  | "" => none
  | "text" => none
  | "codespan" => none
  | "linebreak" => none
  | "softbreak" => none
  | "inline_html" => none
  | "inline_math" => none
  | "footnote_ref" => none
  | "image" => some .caption
  | "strong" => some .content
  | "emphasis" => some .content
  | "strikethrough" => some .content
  | "link" => some .content
  | _ => some .content

def inside : Use → String → Option Use
  | .blocks, type => insideBlock type
  | .content, type => insideContent type
  | .caption, _ => some .caption
  | .items, _ => some .blocks
  | .sections, type =>
    if type = "table_head" then some .cells else if type = "table_body" then some .rows else none
  | .rows, _ => some .cells
  | .cells, type => if type = "table_cell" then some .content else none

end Use

-- A text without any letters. The raw text may be left out.
structure IsEmptyText (value : Json) : Prop where
  type : value.field? "type" = some (.text "text")
  raw : value.field? "raw" = none ∨ value.field? "raw" = some (.text "")

-- What may be put in. A caption takes a text that holds tokens for those tokens.
def IsFiller (value : Json) : Use → Prop
  | .blocks => value.field? "type" = some (.text "blank_line")
  | .content => value.IsEmptyText
  | .caption => value.IsEmptyText ∧ ∀ tokens, value.field? "children" ≠ some (.list tokens)
  | _ => False

theorem object_of_field? {value found : Json} {name : String} (has : value.field? name = some found) :
    ∃ fields, value = .object fields := by
  cases value with
  | object fields => exact ⟨fields, rfl⟩
  | _ => cases has

theorem IsFiller.is_object {value : Json} {use : Use} (filler : value.IsFiller use) :
    ∃ fields, value = .object fields := by
  cases use with
  | blocks => exact object_of_field? filler
  | content => exact object_of_field? filler.type
  | caption => exact object_of_field? filler.1.type
  | _ => exact filler.elim

-- Tokens with filler put in among them and in the lists inside them. A token that is opened says what it
-- said before, but for its children.
inductive Padded : Use → List Json → List Json → Prop where
  | nil {use : Use} : Padded use [] []
  | kept {use : Use} {value : Json} {values padded : List Json} (rest : Padded use values padded) :
      Padded use (value :: values) (value :: padded)
  | filler {use : Use} {value : Json} {values padded : List Json} (filler : value.IsFiller use)
      (rest : Padded use values padded) : Padded use values (value :: padded)
  | opened {use inner : Use} {fields stuffed : List (String × Json)}
      {tokens more values padded : List Json}
      (same : ∀ name ≠ "children", (Json.object stuffed).field? name = (Json.object fields).field? name)
      (children : (Json.object fields).field? "children" = some (.list tokens))
      (paddedChildren : (Json.object stuffed).field? "children" = some (.list more))
      (inside : use.inside (((Json.object fields).field "type").text?.getD "") = some inner)
      (pads : Padded inner tokens more) (rest : Padded use values padded) :
      Padded use (.object fields :: values) (.object stuffed :: padded)

namespace Use

def position : Use → Option Position
  | .blocks => some .block
  | .content => some .inline
  | .caption => none
  | .items => some .item
  | .sections => some .section
  | .rows => some .row
  | .cells => some .cell

theorem caption_of_unplaced {use : Use} (unplaced : use.position = none) : use = .caption := by
  cases use with
  | caption => rfl
  | _ => cases unplaced

theorem below_inside_block {word : String} {inner : Use} {place : Position}
    (inside : insideBlock word = some inner) (there : inner.position = some place) :
    Position.block.below word = some place := by
  unfold insideBlock at inside
  split at inside <;> cases inside <;> try exact there
  -- What is left is a type that has no entry.
  simp_all [Position.below, BlockType.ofWord, Position.underBlock, position]

theorem below_inside_content {word : String} {inner : Use} {place : Position}
    (inside : insideContent word = some inner) (there : inner.position = some place) :
    Position.inline.below word = some place := by
  unfold insideContent at inside
  split at inside <;> cases inside <;> try exact there
  simp_all [Position.below, InlineType.ofWord, Position.underInline, position]

theorem below_inside {use inner : Use} {type : String} {here there : Position}
    (inside : use.inside type = some inner) (outerPlaced : use.position = some here)
    (innerPlaced : inner.position = some there) : here.below type = some there := by
  cases use with
  | blocks =>
    cases outerPlaced
    exact below_inside_block inside innerPlaced
  | content =>
    cases outerPlaced
    exact below_inside_content inside innerPlaced
  | caption => cases outerPlaced
  | sections =>
    cases outerPlaced
    simp only [Use.inside, Position.below] at inside ⊢
    split_ifs at inside ⊢ <;> cases inside <;> exact innerPlaced
  | cells =>
    cases outerPlaced
    simp only [Use.inside, Position.below] at inside ⊢
    split_ifs at inside ⊢
    cases inside
    exact innerPlaced
  | _ =>
    cases outerPlaced
    cases inside
    exact innerPlaced

theorem image_of_caption {use : Use} {type : String} {here : Position}
    (inside : use.inside type = some .caption) (placed : use.position = some here) :
    here = .inline ∧ type = "image" := by
  cases use with
  | blocks =>
    simp only [Use.inside, insideBlock] at inside
    split at inside <;> cases inside
  | content =>
    simp only [Use.inside, insideContent] at inside
    split at inside <;> cases inside
    cases placed
    exact ⟨rfl, rfl⟩
  | caption => cases placed
  | sections =>
    simp only [Use.inside] at inside
    split_ifs at inside <;> cases inside
  | cells =>
    simp only [Use.inside] at inside
    split_ifs at inside
    cases inside
  | _ => cases inside

end Use

end Json

open Json (Use)

namespace Token

theorem nodes_of_append (position : Position) (tokens others : List Token) :
    nodesOf position (tokens ++ others) = nodesOf position tokens ++ nodesOf position others := by
  induction tokens with
  | nil => rfl
  | cons token tokens ih => rw [List.cons_append, nodesOf, nodesOf, ih, List.append_assoc]

theorem remarks_of_append (position : Position) (tokens others : List Token) :
    remarksOf position (tokens ++ others) = remarksOf position tokens ++ remarksOf position others := by
  induction tokens with
  | nil => rfl
  | cons token tokens ih => rw [List.cons_append, remarksOf, remarksOf, ih, List.append_assoc]

theorem plain_texts_append (tokens others : List Token) :
    plainTexts (tokens ++ others) = plainTexts tokens ++ plainTexts others := by
  induction tokens with
  | nil => exact String.empty_append.symm
  | cons token tokens ih => rw [List.cons_append, plainTexts, plainTexts, ih, String.append_assoc]

structure Agree (use : Use) (tokens others : List Token) : Prop where
  nodes : ∀ position, use.position = some position → nodesOf position others = nodesOf position tokens
  remarks : ∀ position, use.position = some position →
    remarksOf position others = remarksOf position tokens
  letters : use.position = none → plainTexts others = plainTexts tokens

theorem Agree.refl (use : Use) (tokens : List Token) : Agree use tokens tokens :=
  ⟨fun _ _ => rfl, fun _ _ => rfl, fun _ => rfl⟩

theorem Agree.append {use : Use} {tokens others more rest : List Token} (first : Agree use tokens others)
    (second : Agree use more rest) : Agree use (tokens ++ more) (others ++ rest) where
  nodes position placed := by
    rw [nodes_of_append, nodes_of_append, first.nodes position placed, second.nodes position placed]
  remarks position placed := by
    rw [remarks_of_append, remarks_of_append, first.remarks position placed,
      second.remarks position placed]
  letters unplaced := by
    rw [plain_texts_append, plain_texts_append, first.letters unplaced, second.letters unplaced]

theorem inside_of_tokens {head : TokenHead} (held : head.holding = .tokens) (position : Position) :
    position.inside head = position.below head.type := by
  simp [Position.inside, TokenHead.hasTokens, held]

theorem build_children {position : Position} {head : TokenHead}
    (imageless : position = .inline → InlineType.ofWord head.type ≠ .image)
    (tokens others : List Token) (nodes : List Node) :
    build position head tokens nodes = build position head others nodes := by
  cases position with
  | inline =>
    have other := imageless rfl
    rw [build, build, inlineOf, inlineOf]
    cases typed : InlineType.ofWord head.type with
    | image => exact absurd typed other
    | _ => rfl
  | _ => rfl

theorem imageless_of_below {position inner : Position} {type : String}
    (below : position.below type = some inner) (inline : position = .inline) :
    InlineType.ofWord type ≠ .image := by
  subst inline
  intro image
  simp only [Position.below, image, Position.underInline] at below
  split_ifs at below

theorem element_placed {here there : Position} {head : TokenHead} {tokens others : List Token}
    (held : head.holding = .tokens) (below : here.below head.type = some there)
    (nodesAgree : nodesOf there others = nodesOf there tokens)
    (remarksAgree : remarksOf there others = remarksOf there tokens) :
    nodes here (.element head others) = nodes here (.element head tokens) ∧
      remarks here (.element head others) = remarks here (.element head tokens) := by
  have inside : here.inside head = some there := (inside_of_tokens held here).trans below
  constructor
  · rw [nodes_element, nodes_element, inside, Option.elim, Option.elim, nodesAgree]
    exact build_children (imageless_of_below below) others tokens _
  · simp only [remarks, inside, remarksAgree]

theorem element_image {head : TokenHead} {tokens others : List Token} (typed : head.type = "image")
    (lettersAgree : plainTexts others = plainTexts tokens) :
    nodes .inline (.element head others) = nodes .inline (.element head tokens) ∧
      remarks .inline (.element head others) = remarks .inline (.element head tokens) := by
  have known : InlineType.ofWord head.type = .image := by rw [typed]; rfl
  have inside : Position.inline.inside head = none := inside_inline known (by decide)
  constructor
  · rw [nodes_inline known (by decide), nodes_inline known (by decide), inlineOf, inlineOf, known,
      lettersAgree]
  · simp only [remarks, inside]

theorem element_caption {head : TokenHead} {tokens others : List Token} (held : head.holding = .tokens)
    (lettersAgree : plainTexts others = plainTexts tokens) :
    plainText (.element head others) = plainText (.element head tokens) := by
  simp only [plainText, TokenHead.hasTokens, held, lettersAgree]

theorem element_agrees {use inner : Use} {head : TokenHead} {tokens others : List Token}
    (held : head.holding = .tokens) (inside : use.inside head.type = some inner)
    (agree : Agree inner tokens others) :
    Agree use [.element head tokens] [.element head others] := by
  have placed : ∀ here, use.position = some here →
      nodes here (.element head others) = nodes here (.element head tokens) ∧
        remarks here (.element head others) = remarks here (.element head tokens) := by
    intro here outerPlaced
    cases innerPlaced : inner.position with
    | some there =>
      exact element_placed held (Use.below_inside inside outerPlaced innerPlaced)
        (agree.nodes there innerPlaced) (agree.remarks there innerPlaced)
    | none =>
      obtain rfl := Use.caption_of_unplaced innerPlaced
      obtain ⟨rfl, typed⟩ := Use.image_of_caption inside outerPlaced
      exact element_image typed (agree.letters rfl)
  refine ⟨fun here outerPlaced => ?_, fun here outerPlaced => ?_, fun unplaced => ?_⟩
  · exact congrArg (· ++ []) (placed here outerPlaced).1
  · exact congrArg (· ++ []) (placed here outerPlaced).2
  · obtain rfl := Use.caption_of_unplaced unplaced
    cases inside
    exact congrArg (· ++ "") (element_caption held (agree.letters rfl))

theorem remarks_silent {position : Position} {head : TokenHead} (inside : position.inside head = none)
    (passed : position.passes head.type = false) (visited : position.visits head = false)
    (children : List Token) : remarks position (.element head children) = [] := by
  rw [remarks, passed, inside, barred]
  cases head.holding with
  | scalar typeName => simp [visited]
  | _ => rfl

theorem Agree.of_silent {use : Use} {token : Token}
    (noNodes : ∀ position, use.position = some position → Token.nodes position token = [])
    (noRemarks : ∀ position, use.position = some position → Token.remarks position token = [])
    (noLetters : use.position = none → plainText token = "") : Agree use [] [token] where
  nodes position placed := congrArg (· ++ []) (noNodes position placed)
  remarks position placed := congrArg (· ++ []) (noRemarks position placed)
  letters unplaced := congrArg (· ++ "") (noLetters unplaced)

theorem blank_line_agrees {head : TokenHead} (typed : head.type = "blank_line") (children : List Token) :
    Agree .blocks [] [.element head children] := by
  have known : BlockType.ofWord head.type = .blank := by rw [typed]; rfl
  have inside : Position.block.inside head = none := inside_block known (by decide)
  refine .of_silent (fun position placed => ?_) (fun position placed => ?_) nofun
  · cases placed
    rw [nodes_element, inside, build, blockOf, known]
  · cases placed
    exact remarks_silent inside (by simp [Position.passes, typed, BlockType.ofWord])
      (by simp [Position.visits, inside]) children

theorem empty_text_agrees {head : TokenHead} (typed : head.type = "text") (unwritten : head.raw = "")
    (children : List Token) : Agree .content [] [.element head children] := by
  have known : InlineType.ofWord head.type = .text := by rw [typed]; rfl
  have inside : Position.inline.inside head = none := inside_inline known (by decide)
  refine .of_silent (fun position placed => ?_) (fun position placed => ?_) nofun
  · cases placed
    rw [nodes_element, inside, build, inlineOf, known]
    exact if_pos unwritten
  · cases placed
    exact remarks_silent inside (by simp [Position.passes, typed, InlineType.ofWord])
      (by simp [Position.visits, inside, known]) children

theorem empty_caption_agrees {head : TokenHead} (unwritten : head.raw = "") (held : head.holding ≠ .tokens)
    (children : List Token) : Agree .caption [] [.element head children] := by
  refine .of_silent nofun nofun fun _ => ?_
  rw [plainText, TokenHead.hasTokens, beq_eq_false_iff_ne.mpr held, unwritten]
  rfl

theorem holding_ne_tokens {fields : List (String × Json)}
    (listless : ∀ tokens, (Json.object fields).field? "children" ≠ some (.list tokens)) :
    (TokenHead.ofFields fields).holding ≠ .tokens := by
  rw [TokenHead.ofFields]
  cases held : (Json.object fields).field? "children" with
  | none => simp [TokenHead.holdingOf]
  | some value =>
    cases value with
    | list tokens => exact absurd held (listless tokens)
    | _ => simp [TokenHead.holdingOf]

theorem raw_of_empty {fields : List (String × Json)} (empty : (Json.object fields).IsEmptyText) :
    (TokenHead.ofFields fields).raw = "" := by
  rcases empty.raw with unwritten | written
  · exact raw_of_unwritten unwritten
  · exact raw_of_written written

theorem filler_agrees {use : Use} {value : Json} (filler : value.IsFiller use) :
    Agree use [] [ofJson value] := by
  obtain ⟨fields, rfl⟩ := filler.is_object
  rw [ofJson]
  cases use with
  | blocks => exact blank_line_agrees (type_of_typed filler) _
  | content => exact empty_text_agrees (type_of_typed filler.type) (raw_of_empty filler) _
  | caption => exact empty_caption_agrees (raw_of_empty filler.1) (holding_ne_tokens filler.2) _
  | _ => exact filler.elim

theorem padded_agrees {use : Use} {values padded : List Json} (pads : Json.Padded use values padded) :
    Agree use (ofJsonList values) (ofJsonList padded) := by
  induction pads with
  | nil => exact .refl _ _
  | @kept use value values padded rest ih =>
    rw [ofJsonList, ofJsonList]
    exact (Agree.refl use [ofJson value]).append ih
  | @filler use value values padded filler rest ih =>
    rw [ofJsonList]
    exact (filler_agrees filler).append ih
  | @opened use inner fields stuffed tokens more values padded same children paddedChildren inside
      pads rest innerAgree restAgree =>
    rw [ofJsonList, ofJsonList, of_json_holding children, of_json_holding paddedChildren]
    have headSame : TokenHead.ofFields stuffed = TokenHead.ofFields fields := by
      simp only [TokenHead.ofFields, Json.field, same "type" (by decide), same "raw" (by decide),
        same "attrs" (by decide), children, paddedChildren, TokenHead.holdingOf]
    rw [headSame]
    exact (element_agrees (holding_tokens children) inside innerAgree).append restAgree

theorem padded_of_filler {use : Use} {filler : List Json} (fills : ∀ value ∈ filler, value.IsFiller use) :
    Json.Padded use [] filler := by
  induction filler with
  | nil => exact .nil
  | cons value values ih =>
    obtain ⟨firstFills, restFill⟩ := List.forall_mem_cons.mp fills
    exact .filler firstFills (ih restFill)

theorem nodes_filled_link {fields : List (String × Json)} {filler : List Json}
    (typed : (Json.object fields).field? "type" = some (.text "link"))
    (children : (Json.object fields).field? "children" = some (.list filler))
    (fills : ∀ value ∈ filler, value.IsFiller .content) :
    nodes .inline (ofJson (.object fields)) =
      [.link (TokenHead.ofFields fields).target [] (TokenHead.ofFields fields).title []] := by
  have known : InlineType.ofWord (TokenHead.ofFields fields).type = .link := by
    rw [type_of_typed typed]
    rfl
  have empty : nodesOf .inline (ofJsonList filler) = [] :=
    (padded_agrees (padded_of_filler fills)).nodes .inline rfl
  rw [of_json_holding children, nodes_inline known (by decide), inlineOf, known]
  simp only [Position.underInline, Option.elim, empty]

theorem read_eq_of_padded {values padded : List Json} (pads : Json.Padded .blocks values padded) :
    read padded = read values := by
  have agree := padded_agrees pads
  rw [read, read, document, document, agree.nodes .block rfl, agree.remarks .block rfl]

end Token

-- Tokens as a tokenizer shapes them, and the same tokens with filler put in: both become one document. A
-- link with nothing but filler in it is an empty link, which shows its title or where it leads.
theorem read_padded {values padded : List Json} (tokens : ∀ value ∈ values, value.IsToken)
    (pads : Json.Padded .blocks values padded) (past : List Event) :
    (∃ document events, (Token.read values).Yields past document events ∧
      (Token.read padded).Yields past document events) ∧
    ∀ {fields : List (String × Json)} {filler : List Json},
      (Json.object fields).field? "type" = some (.text "link") →
      (Json.object fields).field? "children" = some (.list filler) →
      (∀ value ∈ filler, value.IsFiller .content) →
        let head := TokenHead.ofFields fields
        Token.nodes .inline (.ofJson (.object fields)) = [.link head.target [] head.title []] ∧
          ∀ embed style, ∃ runs,
            (∀ past, (resolve embed style [.link head.target [] head.title []]).Yields past runs []) ∧
              plainText runs = Node.linkText head.target head.title := by
  constructor
  · obtain ⟨events, yields⟩ := Token.read_yields tokens past
    exact ⟨_, events, yields, by rwa [Token.read_eq_of_padded pads]⟩
  · intro fields filler typed children fills
    refine ⟨Token.nodes_filled_link typed children fills, fun embed style => ?_⟩
    have texts : ∀ leaf ∈ Node.leavesOf
        [.link (TokenHead.ofFields fields).target [] (TokenHead.ofFields fields).title []],
        ∃ text, leaf = .text text := by
      simp [Node.leavesOf, Node.leaves]
    obtain ⟨runs, resolved, shown⟩ := resolve_of_texts embed style texts
    refine ⟨runs, resolved, ?_⟩
    rw [shown, Node.visible_text_of_singleton]
    rfl

theorem Json.Padded.token {use inner : Json.Use} {type : String} {tokens more values padded : List Json}
    (inside : use.inside type = some inner) (pads : Json.Padded inner tokens more)
    (rest : Json.Padded use values padded) :
    Json.Padded use (.token type tokens :: values) (.token type more :: padded) := by
  refine .opened (fun name other => ?_) rfl rfl inside pads rest
  simp [Json.field?, Json.fields, other.symm]

def linkTo (url : String) (children : List Json) : Json :=
  .object [("type", .text "link"), ("attrs", .object [("url", .text url)]), ("children", .list children)]

def quotedLink : List Json :=
  [.token "block_quote" [.token "paragraph" [linkTo "u" [], .token "image" [.word "a"]]]]

def paddedLink : List Json :=
  [.object [("type", .text "blank_line")],
   .token "block_quote"
    [.token "paragraph" [.word "", linkTo "u" [.word ""], .token "image" [.word "a", .word ""]],
     .object [("type", .text "blank_line")]]]

theorem read_padded_quoted_link :
    (∀ value ∈ quotedLink, value.IsToken) ∧ Json.Padded .blocks quotedLink paddedLink ∧
      (∃ document events, (Token.read quotedLink).Yields [] document events ∧
        (Token.read paddedLink).Yields [] document events) ∧
      Token.nodes .inline (.ofJson (linkTo "u" [.word ""])) = [.link "u" [] none []] := by
  have linkHead : (linkTo "u" []).HasTokenHead := by
    constructor <;> simp [linkTo, Json.field?, Json.field, Json.fields]
  have linkShaped : (linkTo "u" []).IsToken := .holding linkHead rfl (by simp)
  have tokens : ∀ value ∈ quotedLink, value.IsToken := by
    simp [quotedLink, Json.token_is_token_iff, Json.word_is_token, linkShaped]
  have gap : (Json.word "").IsEmptyText := ⟨rfl, .inr rfl⟩
  have image : Json.Padded .content [.token "image" [.word "a"]] [.token "image" [.word "a", .word ""]] :=
    .token rfl (.kept (.filler ⟨gap, by simp [Json.word, Json.field?, Json.fields]⟩ .nil)) .nil
  have link : Json.Padded .content [linkTo "u" [], .token "image" [.word "a"]]
      [linkTo "u" [.word ""], .token "image" [.word "a", .word ""]] := by
    refine .opened (fun name other => ?_) rfl rfl rfl (.filler gap .nil) image
    simp [Json.field?, Json.fields, other.symm]
  have pads : Json.Padded .blocks quotedLink paddedLink :=
    .filler rfl (.token rfl (.token rfl (.filler gap link) (.filler rfl .nil)) .nil)
  obtain ⟨documents, links⟩ := read_padded tokens pads []
  refine ⟨tokens, pads, documents, ?_⟩
  exact (links rfl rfl (List.forall_mem_singleton.mpr gap)).1

-- A text without letters of its own, but with a text in it, is nothing inside text, and is read in the
-- text of an image.
def hollowText : Json := .token "text" [.word "x"]

theorem read_shows_hollow_text :
    hollowText.IsToken ∧ hollowText.IsEmptyText ∧
      ((Token.read [.token "paragraph" [.token "image" []]]).after []).outcome =
        .ok (.document [.paragraph [.image "" "" none none none []] []] []) ∧
      ((Token.read [.token "paragraph" [.token "image" [hollowText]]]).after []).outcome =
        .ok (.document [.paragraph [.image "" "x" none none none []] []] []) := by
  have shaped : hollowText.IsToken := by simp [hollowText, Json.token_is_token_iff, Json.word_is_token]
  exact ⟨shaped, ⟨rfl, .inl rfl⟩, rfl, rfl⟩

end MarkdownView
