import MarkdownView.Failure
import MarkdownView.Text.Basic
set_option autoImplicit false

namespace MarkdownView.Json

inductive Layout where
  | compact
  | lines (width : Nat)
deriving DecidableEq

def Layout.ofIndent : Option Int → Layout
  | none => .compact
  | some width => .lines width.toNat

def Layout.newline (layout : Layout) (level : Nat) (rest : List Char) : List Char :=
  match layout with
  | .compact => rest
  | .lines width => '\n' :: (List.replicate (level * width) ' ' ++ rest)

def Layout.separator (layout : Layout) (level : Nat) (rest : List Char) : List Char :=
  match layout with
  | .compact => ',' :: ' ' :: rest
  | .lines _ => ',' :: layout.newline level rest

def Layout.lead (layout : Layout) (level : Nat) (first : Bool) (rest : List Char) : List Char :=
  if first then layout.newline level rest else layout.separator level rest

def escape (c : Char) : List Char :=
  if c = '"' then ['\\', '"']
  else if c = '\\' then ['\\', '\\']
  else if c = '\n' then ['\\', 'n']
  else if c = '\r' then ['\\', 'r']
  else if c = '\t' then ['\\', 't']
  else if c = '\x08' then ['\\', 'b']
  else if c = '\x0c' then ['\\', 'f']
  else if c.toNat < 0x20 then
    '\\' :: 'u' :: Text.hexDigits 4 c.toNat
  else [c]

def writeText (value : String) (rest : List Char) : List Char :=
  '"' :: (value.toList.flatMap escape ++ '"' :: rest)

mutual

def write (layout : Layout) (level : Nat) : Json → List Char → List Char
  | .null, rest => 'n' :: 'u' :: 'l' :: 'l' :: rest
  | .bool true, rest => 't' :: 'r' :: 'u' :: 'e' :: rest
  | .bool false, rest => 'f' :: 'a' :: 'l' :: 's' :: 'e' :: rest
  | .int value, rest => (toString value).toList ++ rest
  | .decimal spelling, rest => spelling.toList ++ rest
  | .text value, rest => writeText value rest
  | .list items, rest =>
    if items.isEmpty then '[' :: ']' :: rest
    else '[' :: writeItems layout (level + 1) true items (layout.newline level (']' :: rest))
  | .object fields, rest =>
    if fields.isEmpty then '\x7b' :: '\x7d' :: rest
    else '\x7b' :: writeFields layout (level + 1) true fields (layout.newline level ('\x7d' :: rest))
  | .foreign .., rest => rest
termination_by structural value => value

def writeItems (layout : Layout) (level : Nat) : Bool → List Json → List Char → List Char
  | _, [], rest => rest
  | first, item :: items, rest =>
    layout.lead level first
      (write layout level item (writeItems layout level false items rest))
termination_by structural _ items => items

def writeFields (layout : Layout) (level : Nat) :
    Bool → List (String × Json) → List Char → List Char
  | _, [], rest => rest
  | first, (name, value) :: fields, rest =>
    layout.lead level first (writeText name
      (':' :: ' ' :: write layout level value (writeFields layout level false fields rest)))
termination_by structural _ fields => fields

end

def print (layout : Layout) (value : Json) : String :=
  String.ofList (write layout 0 value [])

def digitLimit : Nat := 4300

def digitCount (value : Int) : Nat := (Nat.toDigits 10 value.natAbs).length

mutual

def fault? : Json → Option Failure
  | .int value => if digitLimit < digitCount value then some .longNumber else none
  | .list items => faultOf? items
  | .object fields => faultIn? fields
  | .foreign typeName _ => some (.notWritable typeName)
  | _ => none
termination_by structural value => value

def faultOf? : List Json → Option Failure
  | [] => none
  | item :: items => (fault? item).or (faultOf? items)
termination_by structural items => items

def faultIn? : List (String × Json) → Option Failure
  | [] => none
  | (_, value) :: fields => (fault? value).or (faultIn? fields)
termination_by structural fields => fields

end

-- A width has to fit a signed word, whether it counts or is below zero and counts for nothing.
def isIndex (width : Int) : Bool := -0x8000000000000000 ≤ width && width < 0x8000000000000000

def dump (indent : Option Int) (value : Json) : Except Failure String :=
  if !indent.all isIndex then .error .wideIndent
  else
    match value.fault? with
    | some failure => .error failure
    | none => .ok (value.print (.ofIndent indent))

end MarkdownView.Json
