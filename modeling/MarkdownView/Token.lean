import MarkdownView.Json.Words
import MarkdownView.Node
import MarkdownView.Text.Basic
set_option autoImplicit false

namespace MarkdownView

-- What a token holds as its children: perhaps nothing, a list of tokens, some other sequence, or a
-- value that is none.
inductive Holding where
  | nothing
  | tokens
  | letters
  | scalar (typeName : String)
deriving DecidableEq

structure TokenHead where
  type : String
  written : Json
  attributes : List (String × Json)
  holding : Holding

inductive Token where
  | element (head : TokenHead) (children : List Token)
  | foreign (typeName : String)

namespace TokenHead

def holdingOf : Option Json → Holding
  | none => .nothing
  | some (.list _) => .tokens
  | some (.text _) => .letters
  | some (.object _) => .letters
  | some value => .scalar value.typeName

def ofFields (fields : List (String × Json)) : TokenHead :=
  let value := Json.object fields
  ⟨(value.field "type").text?.getD "", (value.field? "raw").getD (.text ""),
    (value.field "attrs").fields, holdingOf (value.field? "children")⟩

def raw (head : TokenHead) : String := head.written.text?.getD ""

def hasTokens (head : TokenHead) : Bool := head.holding == .tokens

def attribute? (head : TokenHead) (name : String) : Option Json :=
  (Json.object head.attributes).field? name

def text? (head : TokenHead) (name : String) : Option String :=
  (head.attribute? name).bind Json.text?

def isSet (head : TokenHead) (name : String) : Bool :=
  (head.attribute? name).any Json.holds

def level (head : TokenHead) : Int :=
  match head.attribute? "level" with
  | some (.int level) => if 1 ≤ level ∧ level ≤ 6 then level else 1
  | _ => 1

def url (head : TokenHead) : String := (head.text? "url").getD ""

-- Where a link leads. A target that is null stays none.
def target (head : TokenHead) : Option String :=
  match head.attribute? "url" with
  | some .null => none
  | _ => some head.url

def title (head : TokenHead) : Option String := head.text? "title"
def alignment (head : TokenHead) : Option String := head.text? "align"

def start (head : TokenHead) : Option Int :=
  match head.attribute? "start" with
  | some value => value.int?
  | none => some 1

def isTight (head : TokenHead) : Bool := ((head.attribute? "tight").map Json.holds).getD true

def status (head : TokenHead) : Option TaskStatus :=
  (head.attribute? "checked").map fun value => if value.holds then .checked else .unchecked

def info (head : TokenHead) : String := Text.trim ((head.text? "info").getD "")

def code (head : TokenHead) : Node :=
  if head.info = "" then .codeBlock head.raw none []
  else .codeBlock head.raw (some (Text.firstWord head.info)) [("info_string", .text head.info)]

def firstSet? (head : TokenHead) : List String → Option Json
  | [] => none
  | name :: names => if head.isSet name then head.attribute? name else head.firstSet? names

def footnote (head : TokenHead) : String :=
  match head.firstSet? ["key", "label"] with
  | some value => value.words
  | none => ((head.attribute? "index").map Json.words).getD ""

def reference (head : TokenHead) : String :=
  ((head.firstSet? ["label", "key"]).getD head.written).words

end TokenHead

namespace Token

mutual

def ofJson : Json → Token
  | .object fields => .element (TokenHead.ofFields fields) (childrenOf [] fields)
  | value => .foreign value.typeName
termination_by structural value => value

-- The children among fields, of which the last such field counts.
def childrenOf (found : List Token) : List (String × Json) → List Token
  | [] => found
  | (name, value) :: fields =>
    childrenOf (if name = "children" then listOf value else found) fields
termination_by structural fields => fields

def listOf : Json → List Token
  | .list items => ofJsonList items
  | .text value => value.toList.map fun _ => .foreign "str"
  | .object fields => fields.map fun _ => .foreign "str"
  | _ => []
termination_by structural value => value

def ofJsonList : List Json → List Token
  | [] => []
  | item :: items => ofJson item :: ofJsonList items
termination_by structural items => items

end

end Token
end MarkdownView
