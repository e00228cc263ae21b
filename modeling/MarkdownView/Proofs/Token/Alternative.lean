import MarkdownView.Proofs.Compile.VisibleText
import MarkdownView.Proofs.Token.Nodes
import MarkdownView.Proofs.Token.Shape
set_option autoImplicit false

namespace MarkdownView

namespace Json

-- Words, broken lines and styles around them. The raw text of a style is never looked at.
inductive IsPhrase : Json → Prop where
  | words {fields : List (String × Json)} {type raw : String}
      (typed : (Json.object fields).field? "type" = some (.text type))
      (kind : type ∈ ["text", "codespan"])
      (written : (Json.object fields).field? "raw" = some (.text raw))
      (childless : (Json.object fields).field? "children" = none) : IsPhrase (.object fields)
  | broken {fields : List (String × Json)} {type : String}
      (typed : (Json.object fields).field? "type" = some (.text type))
      (kind : type ∈ ["softbreak", "linebreak"])
      (unwritten : (Json.object fields).field? "raw" = none)
      (childless : (Json.object fields).field? "children" = none) : IsPhrase (.object fields)
  | styled {fields : List (String × Json)} {type : String} {tokens : List Json}
      (typed : (Json.object fields).field? "type" = some (.text type))
      (kind : type ∈ ["strong", "emphasis", "strikethrough"])
      (children : (Json.object fields).field? "children" = some (.list tokens))
      (phrases : ∀ token ∈ tokens, IsPhrase token) : IsPhrase (.object fields)

end Json

structure Node.Shows (nodes : List Node) (alt : String) (breaks : Nat) : Prop where
  texts : ∀ leaf ∈ leavesOf nodes, ∃ content, leaf = .text content
  length : (visibleTextOf nodes).length = alt.length + breaks
  same : breaks = 0 → visibleTextOf nodes = alt

namespace Node.Shows

theorem nil : Shows [] "" 0 := ⟨by simp [leavesOf], rfl, fun _ => rfl⟩

theorem append {nodes others : List Node} {alt more : String} {breaks later : Nat}
    (first : Shows nodes alt breaks) (rest : Shows others more later) :
    Shows (nodes ++ others) (alt ++ more) (breaks + later) where
  texts := by
    rw [leaves_of_append, List.forall_mem_append]
    exact ⟨first.texts, rest.texts⟩
  length := by
    rw [visible_text_of_append, String.length_append, String.length_append, first.length, rest.length]
    omega
  same unbroken := by
    rw [visible_text_of_append, first.same (by omega), rest.same (by omega)]

theorem leaf {node : Node} {content alt : String} {breaks : Nat} (leaves : leaves node = [.text content])
    (length : content.length = alt.length + breaks) (same : breaks = 0 → content = alt) :
    Shows [node] alt breaks := by
  have shown : visibleTextOf [node] = content := by
    rw [← join_shown_leaves_of, leaves_of_singleton, leaves, join_shown_singleton, Leaf.shown]
  refine ⟨?_, by rw [shown, length], fun unbroken => by rw [shown, same unbroken]⟩
  simp [leaves_of_singleton, leaves]

theorem within {node : Node} {nodes : List Node} {alt : String} {breaks : Nat}
    (leaves : leaves node = leavesOf nodes) (inner : Shows nodes alt breaks) : Shows [node] alt breaks := by
  have shown : visibleTextOf [node] = visibleTextOf nodes := by
    rw [← join_shown_leaves_of, ← join_shown_leaves_of, leaves_of_singleton, leaves]
  refine ⟨?_, by rw [shown, inner.length], fun unbroken => by rw [shown, inner.same unbroken]⟩
  rw [leaves_of_singleton, leaves]
  exact inner.texts

end Node.Shows

namespace Token

mutual

def breaks : Token → Nat
  | .foreign _ => 0
  | .element head children =>
    (if head.type ∈ ["softbreak", "linebreak"] then 1 else 0) + breaksIn children
termination_by structural token => token

def breaksIn : List Token → Nat
  | [] => 0
  | token :: tokens => breaks token + breaksIn tokens
termination_by structural tokens => tokens

end

theorem nodes_of_show {values : List Json}
    (shows : ∀ value ∈ values, Node.Shows (nodes .inline (ofJson value)) (plainText (ofJson value))
      (breaks (ofJson value))) :
    Node.Shows (nodesOf .inline (ofJsonList values)) (plainTexts (ofJsonList values))
      (breaksIn (ofJsonList values)) := by
  induction values with
  | nil => exact .nil
  | cons value values ih =>
    obtain ⟨firstShows, restShow⟩ := List.forall_mem_cons.mp shows
    rw [ofJsonList, nodesOf, plainTexts, breaksIn]
    exact firstShows.append (ih restShow)

theorem plain_text_bare {fields : List (String × Json)}
    (childless : (Json.object fields).field? "children" = none) :
    plainText (ofJson (.object fields)) = (TokenHead.ofFields fields).raw := by
  rw [of_json_bare childless, plainText, TokenHead.hasTokens, holding_bare childless]
  rfl

theorem plain_text_holding {fields : List (String × Json)} {tokens : List Json}
    (children : (Json.object fields).field? "children" = some (.list tokens)) :
    plainText (ofJson (.object fields)) = plainTexts (ofJsonList tokens) := by
  rw [of_json_holding children, plainText, TokenHead.hasTokens, holding_tokens children]
  rfl

theorem breaks_bare {fields : List (String × Json)} {type : String}
    (typed : (Json.object fields).field? "type" = some (.text type))
    (childless : (Json.object fields).field? "children" = none) :
    breaks (ofJson (.object fields)) = if type ∈ ["softbreak", "linebreak"] then 1 else 0 := by
  rw [of_json_bare childless, breaks, type_of_typed typed, breaksIn, Nat.add_zero]

theorem nodes_word {head : TokenHead} (kind : head.type ∈ ["text", "codespan"]) :
    Node.Shows (nodes .inline (.element head [])) head.raw 0 := by
  simp only [List.mem_cons, List.not_mem_nil, or_false] at kind
  rcases kind with typed | typed
  · have known : InlineType.ofWord head.type = .text := by rw [typed]; rfl
    rw [nodes_inline known (by decide), inlineOf, known]
    by_cases empty : head.raw = ""
    · rw [if_pos empty, empty]
      exact .nil
    · rw [if_neg empty]
      exact .leaf rfl rfl fun _ => rfl
  · have known : InlineType.ofWord head.type = .code := by rw [typed]; rfl
    rw [nodes_inline known (by decide), inlineOf, known]
    exact .leaf rfl rfl fun _ => rfl

theorem nodes_broken {head : TokenHead} (kind : head.type ∈ ["softbreak", "linebreak"]) :
    Node.Shows (nodes .inline (.element head [])) "" 1 := by
  simp only [List.mem_cons, List.not_mem_nil, or_false] at kind
  rcases kind with typed | typed
  · have known : InlineType.ofWord head.type = .softBreak := by rw [typed]; rfl
    rw [nodes_inline known (by decide), inlineOf, known]
    exact .leaf rfl rfl (absurd · Nat.one_ne_zero)
  · have known : InlineType.ofWord head.type = .hardBreak := by rw [typed]; rfl
    rw [nodes_inline known (by decide), inlineOf, known]
    exact .leaf rfl rfl (absurd · Nat.one_ne_zero)

theorem nodes_styled {head : TokenHead} {children : List Token} {alt : String} {breaks : Nat}
    (kind : head.type ∈ ["strong", "emphasis", "strikethrough"])
    (inner : Node.Shows (nodesOf .inline children) alt breaks) :
    Node.Shows (nodes .inline (.element head children)) alt breaks := by
  simp only [List.mem_cons, List.not_mem_nil, or_false] at kind
  rcases kind with typed | typed | typed
  · have known : InlineType.ofWord head.type = .strong := by rw [typed]; rfl
    rw [nodes_inline known (by decide), inlineOf, known]
    exact inner.within rfl
  · have known : InlineType.ofWord head.type = .emphasis := by rw [typed]; rfl
    rw [nodes_inline known (by decide), inlineOf, known]
    exact inner.within rfl
  · have known : InlineType.ofWord head.type = .strike := by rw [typed]; rfl
    rw [nodes_inline known (by decide), inlineOf, known]
    exact inner.within rfl

theorem phrase_shows {value : Json} (phrase : value.IsPhrase) :
    Node.Shows (nodes .inline (ofJson value)) (plainText (ofJson value)) (breaks (ofJson value)) := by
  induction phrase with
  | @words fields type raw typed kind written childless =>
    have whole : ∀ type ∈ ["text", "codespan"], type ∉ ["softbreak", "linebreak"] := by decide
    rw [plain_text_bare childless, breaks_bare typed childless, if_neg (whole type kind),
      of_json_bare childless]
    exact nodes_word (by rwa [type_of_typed typed])
  | @broken fields type typed kind unwritten childless =>
    rw [plain_text_bare childless, breaks_bare typed childless, if_pos kind, of_json_bare childless,
      raw_of_unwritten unwritten]
    exact nodes_broken (by rwa [type_of_typed typed])
  | @styled fields type tokens typed kind children phrases ih =>
    have whole : ∀ type ∈ ["strong", "emphasis", "strikethrough"],
        type ∉ ["softbreak", "linebreak"] := by decide
    rw [plain_text_holding children, of_json_holding children, breaks, type_of_typed typed,
      if_neg (whole type kind), Nat.zero_add]
    exact nodes_styled (by rwa [type_of_typed typed]) (nodes_of_show ih)

theorem remarks_inline {head : TokenHead} {type : InlineType}
    (typed : InlineType.ofWord head.type = type) (known : type ≠ .other)
    (holding : head.holding = .nothing ∨ head.holding = .tokens) (children : List Token) :
    remarks .inline (.element head children) =
      (Position.underInline type).elim [] fun inner => remarksOf inner children := by
  rw [remarks, barred_eq_nil holding, inside_inline typed known]
  cases Position.underInline type <;> simp [Position.passes, typed, known]

theorem remarks_bare {fields : List (String × Json)} {type : String}
    (typed : (Json.object fields).field? "type" = some (.text type))
    (known : InlineType.ofWord type ≠ .other)
    (childless : (Json.object fields).field? "children" = none) :
    remarks .inline (ofJson (.object fields)) = [] := by
  rw [of_json_bare childless, remarks_inline (by rw [type_of_typed typed]) known
    (.inl (holding_bare childless))]
  cases Position.underInline (InlineType.ofWord type) <;> rfl

theorem phrase_quiet {value : Json} (phrase : value.IsPhrase) : remarks .inline (ofJson value) = [] := by
  induction phrase with
  | @words fields type raw typed kind written childless =>
    have known : ∀ type ∈ ["text", "codespan"], InlineType.ofWord type ≠ .other := by decide
    exact remarks_bare typed (known type kind) childless
  | @broken fields type typed kind unwritten childless =>
    have known : ∀ type ∈ ["softbreak", "linebreak"], InlineType.ofWord type ≠ .other := by decide
    exact remarks_bare typed (known type kind) childless
  | @styled fields type tokens typed kind children phrases ih =>
    have known : ∀ type ∈ ["strong", "emphasis", "strikethrough"],
        InlineType.ofWord type ≠ .other ∧
          Position.underInline (InlineType.ofWord type) = some .inline := by decide
    rw [of_json_holding children, remarks_inline (by rw [type_of_typed typed]) (known type kind).1
      (.inr (holding_tokens children)), (known type kind).2, Option.elim]
    exact remarks_of_eq_nil ih

theorem image_read {fields : List (String × Json)} {tokens : List Json}
    (typed : (Json.object fields).field? "type" = some (.text "image"))
    (children : (Json.object fields).field? "children" = some (.list tokens)) :
    remarks .inline (ofJson (.object fields)) = [] ∧
      ∃ url title, nodes .inline (ofJson (.object fields)) =
        [.image url (plainTexts (ofJsonList tokens)) title none none []] := by
  have known : InlineType.ofWord (TokenHead.ofFields fields).type = .image := by
    rw [type_of_typed typed]
    rfl
  rw [of_json_holding children, remarks_inline known (by decide) (.inr (holding_tokens children)),
    nodes_inline known (by decide), inlineOf, known]
  exact ⟨rfl, _, _, rfl⟩

-- An image of words, breaks and styles, and text of the same tokens under any style: both are read
-- without a word, and what the image says instead of its picture is what the text shows, just as long as
-- no line breaks.
theorem alternative_eq_iff (embed : Embed) (style : Style) {fields : List (String × Json)}
    {values : List Json} (typed : (Json.object fields).field? "type" = some (.text "image"))
    (children : (Json.object fields).field? "children" = some (.list values))
    (phrases : ∀ value ∈ values, value.IsPhrase) :
    ∃ url alt title runs,
      remarks .inline (ofJson (.object fields)) = [] ∧
      nodes .inline (ofJson (.object fields)) = [.image url alt title none none []] ∧
      remarksOf .inline (ofJsonList values) = [] ∧
      (∀ past, (resolve embed style (nodesOf .inline (ofJsonList values))).Yields past runs []) ∧
      (alt = MarkdownView.plainText runs ↔ breaksIn (ofJsonList values) = 0) := by
  have shows := nodes_of_show fun value member => phrase_shows (phrases value member)
  obtain ⟨imageQuiet, url, title, imageNodes⟩ := image_read typed children
  obtain ⟨runs, resolved, runsText⟩ := resolve_of_texts embed style shows.texts
  refine ⟨url, _, title, runs, imageQuiet, imageNodes,
    remarks_of_eq_nil fun value member => phrase_quiet (phrases value member), resolved, ?_, ?_⟩
  · intro agree
    have lengths := shows.length
    rw [← runsText, ← agree] at lengths
    omega
  · intro unbroken
    rw [runsText, shows.same unbroken]

end Token

def styledWords : List Json := [.token "strong" [.word "a", .token "emphasis" [.word "b"]], .word "c"]
def brokenWords : List Json := [.word "a", .object [("type", .text "softbreak")], .word "b"]

theorem Json.word_is_phrase (text : String) : (word text).IsPhrase :=
  .words rfl (by simp) rfl rfl

theorem broken_words_phrases : ∀ value ∈ brokenWords, value.IsPhrase := by
  have broken : (Json.object [("type", .text "softbreak")]).IsPhrase := .broken rfl (by simp) rfl rfl
  simp [brokenWords, Json.word_is_phrase, broken]

theorem Token.alternative_eq_iff_styled_words :
    (Json.token "image" styledWords).field? "type" = some (.text "image") ∧
      (Json.token "image" styledWords).field? "children" = some (.list styledWords) ∧
      (∀ value ∈ styledWords, value.IsPhrase) ∧
      ∃ url alt title runs,
        nodes .inline (ofJson (.token "image" styledWords)) = [.image url alt title none none []] ∧
        (resolve Embed.placeholders Style.plain (nodesOf .inline (ofJsonList styledWords))).Yields []
          runs [] ∧
        alt = MarkdownView.plainText runs := by
  have typed : (Json.token "image" styledWords).field? "type" = some (.text "image") := rfl
  have children : (Json.token "image" styledWords).field? "children" = some (.list styledWords) := rfl
  have inner : (Json.token "emphasis" [.word "b"]).IsPhrase :=
    .styled rfl (by simp) rfl (by simp [Json.word_is_phrase])
  have outer : (Json.token "strong" [.word "a", .token "emphasis" [.word "b"]]).IsPhrase :=
    .styled rfl (by simp) rfl (by simp [Json.word_is_phrase, inner])
  have phrases : ∀ value ∈ styledWords, value.IsPhrase := by
    simp [styledWords, Json.word_is_phrase, outer]
  obtain ⟨url, alt, title, runs, _, image, _, resolved, agree⟩ :=
    alternative_eq_iff Embed.placeholders Style.plain typed children phrases
  exact ⟨typed, children, phrases, url, alt, title, runs, image, resolved [], agree.mpr (by decide)⟩

-- The words of two lines stay apart in text, and run together in what is said instead of a picture.
theorem Token.alternative_joins_lines :
    (∀ value ∈ brokenWords, value.IsPhrase) ∧
      nodes .inline (ofJson (.token "image" brokenWords)) = [.image "" "ab" none none none []] ∧
      ((resolve Embed.placeholders Style.plain (nodesOf .inline (ofJsonList brokenWords))).after
          []).outcome = .ok [.run ⟨"a b", false, false, false, false, none⟩] :=
  ⟨broken_words_phrases, rfl, rfl⟩

end MarkdownView
