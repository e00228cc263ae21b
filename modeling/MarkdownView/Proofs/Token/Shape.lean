import MarkdownView.Proofs.Trace
import MarkdownView.Token.Document
set_option autoImplicit false

namespace MarkdownView

namespace Json

structure HasTokenHead (value : Json) : Prop where
  type : ∀ type ∈ value.field? "type", ∃ word, type = .text word
  raw : ∀ raw ∈ value.field? "raw", ∃ text, raw = .text text
  attributes : ∀ attributes ∈ value.field? "attrs",
    attributes = .null ∨ ∃ fields, attributes = .object fields
  info : value.field? "type" = some (.text "block_code") →
    ∀ info ∈ (value.field "attrs").field? "info", info = .null ∨ ∃ text, info = .text text

inductive IsToken : Json → Prop where
  | bare {fields : List (String × Json)} (head : HasTokenHead (.object fields))
      (childless : (Json.object fields).field? "children" = none) : IsToken (.object fields)
  | holding {fields : List (String × Json)} {tokens : List Json} (head : HasTokenHead (.object fields))
      (children : (Json.object fields).field? "children" = some (.list tokens))
      (shaped : ∀ token ∈ tokens, IsToken token) : IsToken (.object fields)

def word (text : String) : Json := .object [("type", .text "text"), ("raw", .text text)]

def token (type : String) (children : List Json) : Json :=
  .object [("type", .text type), ("children", .list children)]

theorem token_is_token_iff (type : String) (children : List Json) :
    (token type children).IsToken ↔ ∀ child ∈ children, child.IsToken := by
  constructor
  · intro shaped
    cases shaped with
    | bare head childless => simp [field?, fields] at childless
    | holding head held shaped =>
      obtain rfl := Json.list.inj (Option.some.inj held)
      exact shaped
  · have head : (token type children).HasTokenHead := by
      constructor <;> simp [token, field?, field, fields]
    exact .holding head rfl

theorem word_is_token (text : String) : (word text).IsToken := by
  have head : (word text).HasTokenHead := by
    constructor <;> simp [word, field?, field, fields]
  exact .bare head rfl

end Json

namespace Token

inductive IsShaped : Token → Prop where
  | element {head : TokenHead} {children : List Token}
      (holding : head.holding = .nothing ∨ head.holding = .tokens)
      (childrenShaped : ∀ child ∈ children, IsShaped child) : IsShaped (.element head children)

theorem of_json_list_eq_map (values : List Json) : ofJsonList values = values.map ofJson := by
  induction values with
  | nil => rfl
  | cons value values ih => rw [ofJsonList, ih, List.map_cons]

theorem children_of_eq (start : Option Json) (fields : List (String × Json)) :
    childrenOf ((start.map listOf).getD []) fields =
      ((fields.foldl (fun found field => if field.1 = "children" then some field.2 else found)
        start).map listOf).getD [] := by
  induction fields generalizing start with
  | nil => rfl
  | cons field fields ih =>
    rcases field with ⟨name, value⟩
    by_cases named : name = "children"
    · rw [childrenOf, if_pos named, List.foldl_cons, if_pos named, ← ih]
      rfl
    · rw [childrenOf, if_neg named, List.foldl_cons, if_neg named, ← ih]

theorem children_eq (fields : List (String × Json)) :
    childrenOf [] fields = (((Json.object fields).field? "children").map listOf).getD [] :=
  children_of_eq none fields

theorem of_json_bare {fields : List (String × Json)}
    (childless : (Json.object fields).field? "children" = none) :
    ofJson (.object fields) = .element (TokenHead.ofFields fields) [] := by
  rw [ofJson, children_eq, childless]
  rfl

theorem of_json_holding {fields : List (String × Json)} {tokens : List Json}
    (children : (Json.object fields).field? "children" = some (.list tokens)) :
    ofJson (.object fields) = .element (TokenHead.ofFields fields) (ofJsonList tokens) := by
  rw [ofJson, children_eq, children]
  rfl

theorem type_of_typed {fields : List (String × Json)} {type : String}
    (typed : (Json.object fields).field? "type" = some (.text type)) :
    (TokenHead.ofFields fields).type = type := by
  simp [TokenHead.ofFields, Json.field, typed, Json.text?]

theorem raw_of_written {fields : List (String × Json)} {raw : String}
    (written : (Json.object fields).field? "raw" = some (.text raw)) :
    (TokenHead.ofFields fields).raw = raw := by
  simp [TokenHead.ofFields, TokenHead.raw, written, Json.text?]

theorem raw_of_unwritten {fields : List (String × Json)}
    (unwritten : (Json.object fields).field? "raw" = none) : (TokenHead.ofFields fields).raw = "" := by
  simp [TokenHead.ofFields, TokenHead.raw, unwritten, Json.text?]

theorem holding_bare {fields : List (String × Json)}
    (childless : (Json.object fields).field? "children" = none) :
    (TokenHead.ofFields fields).holding = .nothing := by
  simp only [TokenHead.ofFields, childless, TokenHead.holdingOf]

theorem holding_tokens {fields : List (String × Json)} {tokens : List Json}
    (children : (Json.object fields).field? "children" = some (.list tokens)) :
    (TokenHead.ofFields fields).holding = .tokens := by
  simp only [TokenHead.ofFields, children, TokenHead.holdingOf]

theorem of_json_shaped {value : Json} (token : value.IsToken) : IsShaped (ofJson value) := by
  induction token with
  | bare head childless =>
    rw [of_json_bare childless]
    exact .element (.inl (holding_bare childless)) (by simp)
  | holding head children shaped ih =>
    rw [of_json_holding children, of_json_list_eq_map]
    refine .element (.inr (holding_tokens children)) fun child member => ?_
    obtain ⟨token, tokenMember, rfl⟩ := List.mem_map.mp member
    exact ih token tokenMember

theorem mem_remarks_of_iff {position : Position} {remark : Remark} {tokens : List Token} :
    remark ∈ remarksOf position tokens ↔ ∃ token ∈ tokens, remark ∈ remarks position token := by
  induction tokens with
  | nil => simp [remarksOf]
  | cons token tokens ih => simp [remarksOf, ih]

theorem remarks_of_eq_nil {position : Position} {values : List Json}
    (quiet : ∀ value ∈ values, remarks position (ofJson value) = []) :
    remarksOf position (ofJsonList values) = [] := by
  refine List.eq_nil_iff_forall_not_mem.mpr fun remark member => ?_
  obtain ⟨token, tokenMember, said⟩ := mem_remarks_of_iff.mp member
  rw [of_json_list_eq_map] at tokenMember
  obtain ⟨value, valueMember, rfl⟩ := List.mem_map.mp tokenMember
  rw [quiet value valueMember] at said
  cases said

theorem barred_eq_nil {head : TokenHead} (holding : head.holding = .nothing ∨ head.holding = .tokens)
    (position : Position) : barred position head = [] := by
  rcases holding with holding | holding <;> rw [barred, holding]

theorem remarks_passed {token : Token} (shaped : IsShaped token) (position : Position) :
    ∀ remark ∈ remarks position token, ∃ type, remark = .passed type := by
  induction shaped generalizing position with
  | @element head children holding childrenShaped ih =>
    intro remark member
    rw [remarks, barred_eq_nil holding, List.append_nil, List.mem_append] at member
    rcases member with passed | inside
    · split at passed
      · exact ⟨head.type, List.mem_singleton.mp passed⟩
      · simp at passed
    · split at inside
      · simp at inside
      · obtain ⟨child, childMember, childRemark⟩ := mem_remarks_of_iff.mp inside
        exact ih child childMember _ remark childRemark

theorem follow_yields (remarks : List Remark) (passed : ∀ remark ∈ remarks, ∃ type, remark = .passed type)
    (past : List Event) : ∃ events, (follow remarks).Yields past ⟨⟩ events := by
  induction remarks generalizing past with
  | nil => exact ⟨[], Traced.yields_pure_iff.mpr ⟨rfl, rfl⟩⟩
  | cons remark remarks ih =>
    obtain ⟨firstPassed, restPassed⟩ := List.forall_mem_cons.mp passed
    obtain ⟨type, rfl⟩ := firstPassed
    let said : Event := .note .debug s!"Passing through unmodelled mistune token '{type}'"
    obtain ⟨events, restYields⟩ := ih restPassed (said :: past)
    exact ⟨said :: events, Traced.yields_bind_iff.mpr
      ⟨⟨⟩, [said], events, Traced.yields_note_iff.mpr rfl, restYields, rfl⟩⟩

theorem read_yields {values : List Json} (tokens : ∀ value ∈ values, value.IsToken)
    (past : List Event) :
    ∃ events, (read values).Yields past (document (ofJsonList values)) events := by
  have passed : ∀ remark ∈ remarksOf .block (ofJsonList values), ∃ type, remark = .passed type := by
    intro remark member
    obtain ⟨token, tokenMember, tokenRemark⟩ := mem_remarks_of_iff.mp member
    rw [of_json_list_eq_map] at tokenMember
    obtain ⟨value, valueMember, rfl⟩ := List.mem_map.mp tokenMember
    exact remarks_passed (of_json_shaped (tokens value valueMember)) .block remark tokenRemark
  obtain ⟨events, followed⟩ := follow_yields _ passed past
  exact ⟨events, Traced.yields_bind_iff.mpr ⟨⟨⟩, events, [], followed,
    Traced.yields_pure_iff.mpr ⟨rfl, rfl⟩, (List.append_nil events).symm⟩⟩

end Token
end MarkdownView
