import MarkdownView.Inline
import MarkdownView.Proofs.Trace
set_option autoImplicit false

namespace MarkdownView

inductive Piece where
  | text (style : Style) (content : String)
  | visual (inserted : Inline)

namespace Node

def embeddedPieces (embed : Embed) (links : Nat) (node : Node) : Traced (List Piece × Nat) := do
  let inserted ← embed node
  pure (inserted.toList.map Piece.visual, links)

mutual

def pieces (embed : Embed) (style : Style) (links : Nat) : Node → Traced (List Piece × Nat)
  | .text content _ => pure ([.text style content], links)
  | .emphasis content _ => piecesOf embed { style with italic := true } links content
  | .strong content _ => piecesOf embed { style with bold := true } links content
  | .strike content _ => piecesOf embed { style with strike := true } links content
  | .code content _ => pure ([.text { style with code := true } content], links)
  | .link url content title _ =>
    let inner := { style with linkTarget := url, linkId := some ((links + 1 : Nat) : Int) }
    if content.isEmpty then pure ([.text inner (linkText url title)], links + 1)
    else piecesOf embed inner (links + 1) content
  | .lineBreak soft _ => pure ([.text style (breakText soft)], links)
  | node =>
    if node.isEmbedded then embeddedPieces embed links node else misplaced node "inline content"
termination_by structural node => node

def piecesOf (embed : Embed) (style : Style) (links : Nat) :
    List Node → Traced (List Piece × Nat)
  | [] => pure ([], links)
  | node :: nodes => do
    let first ← pieces embed style links node
    let rest ← piecesOf embed style first.2 nodes
    pure (first.1 ++ rest.1, rest.2)
termination_by structural nodes => nodes

end

end Node

namespace Piece

def inline : Piece → Inline
  | .text style content => .run (style.run content)
  | .visual inserted => inserted

def prepend : Piece → List Piece → List Piece
  | .visual inserted, pieces => .visual inserted :: pieces
  | .text style content, pieces =>
    if content = "" then pieces else
      match pieces with
      | .text next more :: rest =>
        if style = next then .text style (content ++ more) :: rest
        else .text style content :: pieces
      | _ => .text style content :: pieces

def join : List Piece → List Piece
  | [] => []
  | piece :: pieces => prepend piece (join pieces)

def runs (pieces : List Piece) : List Inline := (join pieces).map inline

theorem inline_visuals (inserted : Option Inline) :
    (inserted.toList.map visual).map inline = inserted.toList := by
  cases inserted <;> rfl

theorem join_append_congr (front : List Piece) {rest other : List Piece}
    (same : join rest = join other) : join (front ++ rest) = join (front ++ other) := by
  induction front with
  | nil => exact same
  | cons piece front ih => exact congrArg (prepend piece) ih

theorem join_empty_text (style : Style) (rest : List Piece) :
    join (.text style "" :: rest) = join rest := by
  simp [join, prepend]

theorem join_visual (inserted : Inline) (rest : List Piece) :
    join (.visual inserted :: rest) = .visual inserted :: join rest := rfl

theorem prepend_append (style : Style) (first second : String) (pieces : List Piece)
    (firstPresent : first ≠ "") (secondPresent : second ≠ "") :
    prepend (.text style first) (prepend (.text style second) pieces) =
      prepend (.text style (first ++ second)) pieces := by
  have present : first ++ second ≠ "" := by simp [firstPresent]
  cases pieces with
  | nil => simp [prepend, *]
  | cons piece rest =>
    cases piece with
    | visual inserted => simp [prepend, *]
    | text next more =>
      by_cases same : style = next
      · simp [prepend, *, String.append_assoc]
      · simp [prepend, *]

theorem join_same_style (style : Style) (first second : String) (rest : List Piece)
    (firstPresent : first ≠ "") (secondPresent : second ≠ "") :
    join (.text style first :: .text style second :: rest) =
      join (.text style (first ++ second) :: rest) :=
  prepend_append style first second (join rest) firstPresent secondPresent

theorem prepend_text_head (style : Style) (content : String) (pieces : List Piece)
    (present : content ≠ "") :
    ∃ more rest, prepend (.text style content) pieces = .text style more :: rest := by
  cases pieces with
  | nil => exact ⟨content, [], by simp [prepend, present]⟩
  | cons piece rest =>
    cases piece with
    | visual inserted => exact ⟨content, .visual inserted :: rest, by simp [prepend, present]⟩
    | text next more =>
      by_cases same : style = next
      · exact ⟨content ++ more, rest, by simp [prepend, present, same]⟩
      · exact ⟨content, .text next more :: rest, by simp [prepend, present, same]⟩

theorem join_other_style (style next : Style) (first second : String) (rest : List Piece)
    (different : style ≠ next) (firstPresent : first ≠ "") (secondPresent : second ≠ "") :
    join (.text style first :: .text next second :: rest) =
      .text style first :: join (.text next second :: rest) := by
  obtain ⟨more, others, shape⟩ := prepend_text_head next second (join rest) secondPresent
  have joined : join (.text next second :: rest) = .text next more :: others := shape
  rw [join, joined]
  simp [prepend, firstPresent, different]

theorem join_before_visual (style : Style) (content : String) (inserted : Inline)
    (rest : List Piece) (present : content ≠ "") :
    join (.text style content :: .visual inserted :: rest) =
      .text style content :: .visual inserted :: join rest := by
  simp [join, prepend, present]

end Piece
end MarkdownView
