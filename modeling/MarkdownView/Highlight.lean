import MarkdownView.Trace
set_option autoImplicit false

/-! Highlighted code. A highlighter cuts a source into items, of which only spans and pairs of texts
count. Its spans are taken over if they rebuild the source; otherwise the code is plain, or the
contract is broken. -/
namespace MarkdownView

-- A span as it was handed in. Nobody has looked at its text, which may be any value.
structure Draft where
  text : Json
  looks : Looks

inductive Item where
  | span (draft : Draft)
  | tuple (parts : List Json)
  | other (value : Json)

abbrev Highlighter := String → String → Traced (List Item)

namespace Item

def ofSpan (span : Span) : Item := .span ⟨.text span.text, span.looks⟩

def draft? : Item → Option Draft
  | .span draft => some draft
  | .tuple [.text text, .text tag] => some ⟨.text text, Looks.tagged tag⟩
  | _ => none

def drafts? : List Item → Option (List Draft)
  | [] => some []
  | item :: items =>
    match item.draft? with
    | none => none
    | some draft => (drafts? items).map (draft :: ·)

end Item

namespace Json

def isNumber : Json → Bool
  | .bool _ => true
  | .int _ => true
  | .decimal _ => true
  | _ => false

def whole? : Json → Option Int
  | .bool value => some (if value then 1 else 0)
  | .int value => some value
  | _ => none

-- Whether a whole number is beyond the range of decimals.
def isWide (value : Json) : Bool :=
  value.whole?.any fun number => Nat.pow 2 1024 - Nat.pow 2 970 ≤ number.natAbs

-- The sum of two values. Of one that is a decimal no more is known than that.
def add (a b : Json) : Except Failure Json :=
  match a, b with
  | .text a, .text b => .ok (.text (a ++ b))
  | .list a, .list b => .ok (.list (a ++ b))
  | a, b =>
    match a.whole?, b.whole? with
    | some a, some b => .ok (.int (a + b))
    | _, _ =>
      if !(a.isNumber && b.isNumber) then .error (.notAdded a.typeName b.typeName)
      else if a.isWide || b.isWide then .error .wideNumber
      else .ok (.decimal "")

end Json

namespace Draft

def joinAfter (last : Draft) : List Draft → Except Failure (List Draft)
  | [] => .ok [last]
  | draft :: drafts =>
    if !draft.text.holds then joinAfter last drafts
    else if last.looks = draft.looks then do
      let text ← last.text.add draft.text
      joinAfter ⟨text, last.looks⟩ drafts
    else do
      let rest ← joinAfter draft drafts
      .ok (last :: rest)

def join : List Draft → Except Failure (List Draft)
  | [] => .ok []
  | draft :: drafts => if draft.text.holds then joinAfter draft drafts else join drafts

def spansFrom (index : Nat) : List Draft → Except Failure (List Span)
  | [] => .ok []
  | ⟨.text text, looks⟩ :: drafts => do
    let spans ← spansFrom (index + 1) drafts
    .ok (⟨text, looks⟩ :: spans)
  | draft :: _ => .error (.notJoined index draft.text.typeName)

def spans (drafts : List Draft) : Except Failure (List Span) := do
  let drafts ← join drafts
  spansFrom 0 drafts

end Draft

def Span.plain (text : String) : Span := tagged text "plain"

def mismatch (isStrict : Bool) (source language complaint : String) : Traced (List Span) :=
  if isStrict then Traced.fail (.highlightContract (some language))
  else do
    Traced.note .warning complaint
    pure [Span.plain source]

def settle (isStrict : Bool) (source language : String) (items : List Item) :
    Traced (List Span) :=
  match Item.drafts? items with
  | none =>
    mismatch isStrict source language
      s!"Highlighter returned malformed spans for language '{language}', using plain text"
  | some drafts => do
    let spans ← Traced.ofExcept (Draft.spans drafts)
    if spanText spans = source then pure spans
    else
      mismatch isStrict source language
        s!"Highlighter spans for language '{language}' do not match the source, using plain text"

def highlight (highlighter : Highlighter) (isStrict : Bool) (source : String)
    (language : Option String) : Traced (List Span) :=
  if source = "" then pure []
  else
    let named := language.getD ""
    if named = "" then do
      Traced.note .debug "Code block has no language, rendering as plain text"
      pure [Span.plain source]
    else (Traced.call source named (highlighter source named)).resume fun outcome =>
      match outcome with
      | .ok items => settle isStrict source named items
      | .error failure =>
        if failure.isLookup then do
          Traced.note .warning s!"Could not find syntax highlighting for language '{named}'"
          pure [Span.plain source]
        else Traced.fail failure

end MarkdownView
