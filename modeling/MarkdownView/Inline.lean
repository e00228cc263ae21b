import MarkdownView.Node
import MarkdownView.Trace
set_option autoImplicit false

/-! Inline content. A resolver visits it in order; text waits as long as more text of its style may
follow, and then goes out as one run, between the visual nodes that a callback puts in. A style names
the link occurrence that a text belongs to, so the texts of two links never join. -/
namespace MarkdownView

structure Style where
  bold : Bool
  italic : Bool
  strike : Bool
  code : Bool
  linkTarget : Option String
  linkId : Option Int
deriving DecidableEq

def Style.plain : Style := ⟨false, false, false, false, none, none⟩

def Style.run (style : Style) (text : String) : Run :=
  ⟨text, style.bold, style.italic, style.strike, style.code, style.linkTarget⟩

-- What stands for a node that is neither text nor a style; nothing at all drops the node.
abbrev Embed := Node → Traced (Option Inline)

def Embed.placeholders : Embed := fun node => pure (some (.placeholder node.kind))

namespace Node

def breakText (soft : Bool) : String := if soft then " " else "\n"

def linkText (url title : Option String) : String :=
  match title with
  | none => url.getD ""
  | some title => if title = "" then url.getD "" else title

def misplaced {α : Type} (node : Node) (context : String) : Traced α :=
  Traced.fail (.contract node.kind context)

end Node

-- A resolver at work: what has gone out, the texts that wait and their style, the style in effect, and
-- how many links have been met. Of output and texts the latest stands first.
structure Resolver where
  embed : Embed
  output : List Inline
  buffer : List String
  bufferStyle : Option Style
  style : Style
  links : Nat

structure Visited where
  outcome : Except Failure Unit
  resolver : Resolver

namespace Resolver

def new (embed : Embed) : Resolver := ⟨embed, [], [], none, Style.plain, 0⟩

def flush (resolver : Resolver) : Except Failure Resolver :=
  match resolver.bufferStyle, resolver.buffer with
  | some style, text :: texts => do
    let run ← (style.run (String.join (text :: texts).reverse)).check
    pure { resolver with
      output := .run run :: resolver.output, buffer := [], bufferStyle := none }
  | _, _ => pure { resolver with buffer := [], bufferStyle := none }

def ready (resolver : Resolver) : Except Failure Resolver :=
  if resolver.bufferStyle = some resolver.style then pure resolver
  else do
    let flushed ← resolver.flush
    pure { flushed with bufferStyle := some resolver.style }

def emitText (resolver : Resolver) (text : String) : Except Failure Resolver :=
  if text = "" then pure resolver
  else do
    let ready ← resolver.ready
    pure { ready with buffer := text :: ready.buffer }

def emitVisual (resolver : Resolver) : Option Inline → Except Failure Resolver
  | none => pure resolver
  | some inserted => do
    let flushed ← resolver.flush
    pure { flushed with output := inserted :: flushed.output }

def attempt (resolver : Resolver) (step : Except Failure Resolver) : Visited :=
  match step with
  | .error failure => ⟨.error failure, resolver⟩
  | .ok next => ⟨.ok ⟨⟩, next⟩

def styled (resolver : Resolver) (style : Style) (visit : Resolver → Traced Visited) :
    Traced Visited := do
  let visited ← visit { resolver with style := style }
  pure { visited with resolver := { visited.resolver with style := resolver.style } }

def visitText (resolver : Resolver) (text : String) : Traced Visited :=
  pure (resolver.attempt (resolver.emitText text))

def visitEmbedded (resolver : Resolver) (node : Node) : Traced Visited :=
  (resolver.embed node).resume fun answer =>
    pure (resolver.attempt (answer >>= resolver.emitVisual))

mutual

def visit (resolver : Resolver) : Node → Traced Visited
  | .text content _ => resolver.visitText content
  | .emphasis content _ =>
    resolver.styled { resolver.style with italic := true } fun inner => visitAll inner content
  | .strong content _ =>
    resolver.styled { resolver.style with bold := true } fun inner => visitAll inner content
  | .strike content _ =>
    resolver.styled { resolver.style with strike := true } fun inner => visitAll inner content
  | .code content _ =>
    resolver.styled { resolver.style with code := true } fun inner => inner.visitText content
  | .link url content title _ =>
    let counted := { resolver with links := resolver.links + 1 }
    let style := { counted.style with linkTarget := url, linkId := some counted.links }
    counted.styled style fun inner =>
      if content.isEmpty then inner.visitText (Node.linkText url title)
      else visitAll inner content
  | .lineBreak soft _ => resolver.visitText (Node.breakText soft)
  | node =>
    if node.isEmbedded then resolver.visitEmbedded node
    else pure (resolver.attempt (.error (.contract node.kind "inline content")))
termination_by structural node => node

def visitAll (resolver : Resolver) : List Node → Traced Visited
  | [] => pure ⟨.ok ⟨⟩, resolver⟩
  | node :: nodes => do
    let visited ← visit resolver node
    match visited.outcome with
    | .error _ => pure visited
    | .ok _ => visitAll visited.resolver nodes
termination_by structural nodes => nodes

end

def read (resolver : Resolver) (style : Style) (content : List Node) :
    Traced (Except Failure (List Inline) × Resolver) := do
  let visited ← visitAll
    { resolver with output := [], buffer := [], bufferStyle := none, style := style } content
  match visited.outcome with
  | .error failure => pure (.error failure, visited.resolver)
  | .ok _ =>
    match visited.resolver.flush with
    | .error failure => pure (.error failure, visited.resolver)
    | .ok flushed => pure (.ok flushed.output.reverse, flushed)

def resolve (resolver : Resolver) (style : Style) (content : List Node) :
    Traced (List Inline) × Resolver :=
  let reading := resolver.read style content
  (reading >>= fun ended => Traced.ofExcept ended.1,
    match reading.outcome with
    | .error _ => resolver
    | .ok ended => ended.2)

end Resolver

def resolve (embed : Embed) (style : Style) (content : List Node) : Traced (List Inline) := do
  let ended ← (Resolver.new embed).read style content
  Traced.ofExcept ended.1

end MarkdownView
