import MarkdownView.Proofs.Inline.Pieces
import MarkdownView.Proofs.Suitable
set_option autoImplicit false

namespace MarkdownView

def Style.Anchored (style : Style) : Prop := style.linkTarget = none → style.linkId = none

theorem Style.plain_anchored : Style.plain.Anchored := fun _ => rfl

def Style.plainCode : Style := { Style.plain with code := true }

theorem Style.eq_plain_code {style : Style} {content : String} (anchored : style.Anchored)
    (plain : (style.run content).isPlainCode = true) : style = Style.plainCode := by
  rcases style with ⟨bold, italic, strike, code, target, link⟩
  have fields : code = true ∧ (bold = false ∧ italic = false) ∧ strike = false ∧ target = none := by
    simpa [Style.run, Run.isPlainCode, and_assoc] using plain
  obtain ⟨rfl, ⟨rfl, rfl⟩, rfl, rfl⟩ := fields
  have unlinked : link = none := anchored rfl
  rw [unlinked]
  rfl

namespace Piece

def Anchored : Piece → Prop
  | .text style _ => style.Anchored
  | .visual _ => True

theorem forall_prepend {holds : Piece → Prop}
    (regroup : ∀ style content more, holds (.text style content) → holds (.text style more))
    {piece : Piece} {pieces : List Piece} (first : holds piece) (all : ∀ other ∈ pieces, holds other) :
    ∀ other ∈ prepend piece pieces, holds other := by
  cases piece with
  | visual inserted => exact List.forall_mem_cons.mpr ⟨first, all⟩
  | text style content =>
    by_cases empty : content = ""
    · simpa [prepend, empty] using all
    · cases pieces with
      | nil => simpa [prepend, empty] using first
      | cons next rest =>
        have restHolds : ∀ other ∈ rest, holds other := (List.forall_mem_cons.mp all).2
        cases next with
        | visual inserted =>
          simp only [prepend, if_neg empty]
          exact List.forall_mem_cons.mpr ⟨first, all⟩
        | text other more =>
          by_cases same : style = other
          · simp only [prepend, if_neg empty, if_pos same]
            exact List.forall_mem_cons.mpr ⟨regroup style content _ first, restHolds⟩
          · simp only [prepend, if_neg empty, if_neg same]
            exact List.forall_mem_cons.mpr ⟨first, all⟩

theorem forall_join {holds : Piece → Prop}
    (regroup : ∀ style content more, holds (.text style content) → holds (.text style more))
    {pieces : List Piece} (all : ∀ piece ∈ pieces, holds piece) :
    ∀ piece ∈ join pieces, holds piece := by
  induction pieces with
  | nil => exact all
  | cons piece pieces ih =>
    obtain ⟨first, rest⟩ := List.forall_mem_cons.mp all
    exact forall_prepend regroup first (ih rest)

end Piece

namespace Node

def namesLink : Node → Bool
  | .link url _ _ _ => url.isSome
  | _ => true

theorem text_anchored {style : Style} {content : String} {links count : Nat} {result : List Piece}
    {past events : List Event} (anchored : style.Anchored)
    (yields : (pure ([.text style content], links) : Traced (List Piece × Nat)).Yields past
      (result, count) events) : ∀ piece ∈ result, piece.Anchored := by
  obtain ⟨same, _⟩ := Traced.yields_pure_iff.mp yields
  obtain ⟨rfl, _⟩ := Prod.mk.inj same
  simpa [Piece.Anchored] using anchored

theorem embedded_pieces_anchored {embed : Embed} {links count : Nat} {node : Node}
    {result : List Piece} {past events : List Event}
    (yields : (embeddedPieces embed links node).Yields past (result, count) events) :
    ∀ piece ∈ result, piece.Anchored := by
  simp only [embeddedPieces, Traced.yields_bind_iff, Traced.yields_pure_iff] at yields
  obtain ⟨inserted, _, _, _, ⟨same, _⟩, _⟩ := yields
  obtain ⟨rfl, _⟩ := Prod.mk.inj same
  intro piece member
  obtain ⟨visual, _, rfl⟩ := List.mem_map.mp member
  trivial

mutual

theorem pieces_anchored {embed : Embed} {style : Style} {links count : Nat} {node : Node}
    {result : List Piece} {past events : List Event} (named : node.every namesLink = true)
    (anchored : style.Anchored) (yields : (pieces embed style links node).Yields past (result, count) events) :
    ∀ piece ∈ result, piece.Anchored := by
  cases node with
  | text content metadata => exact text_anchored anchored yields
  | code content metadata =>
    refine text_anchored ?_ yields
    exact anchored
  | lineBreak soft metadata => exact text_anchored anchored yields
  | emphasis content metadata =>
    refine pieces_of_anchored ((Bool.and_eq_true_iff.mp named).2) ?_ yields
    exact anchored
  | strong content metadata =>
    refine pieces_of_anchored ((Bool.and_eq_true_iff.mp named).2) ?_ yields
    exact anchored
  | strike content metadata =>
    refine pieces_of_anchored ((Bool.and_eq_true_iff.mp named).2) ?_ yields
    exact anchored
  | link url content title metadata =>
    obtain ⟨namedUrl, contentNamed⟩ := Bool.and_eq_true_iff.mp named
    obtain ⟨target, rfl⟩ := Option.isSome_iff_exists.mp namedUrl
    -- Inside a link with a target nothing is asked of the number.
    have targeted : Style.Anchored
        { style with linkTarget := some target, linkId := some ((links + 1 : Nat) : Int) } := nofun
    cases content with
    | nil => exact text_anchored targeted yields
    | cons node nodes => exact pieces_of_anchored contentNamed targeted yields
  | image url alt title width height metadata => exact embedded_pieces_anchored yields
  | htmlBlock content metadata => exact embedded_pieces_anchored yields
  | htmlInline content metadata => exact embedded_pieces_anchored yields
  | mathBlock content metadata => exact embedded_pieces_anchored yields
  | mathInline content metadata => exact embedded_pieces_anchored yields
  | footnoteReference identifier metadata => exact embedded_pieces_anchored yields
  | footnoteDefinition identifier content metadata => exact embedded_pieces_anchored yields
  | extension tag isInline children raw metadata => exact embedded_pieces_anchored yields
  | _ => exact absurd yields (by simp [pieces, misplaced, isEmbedded, isModelled])
termination_by structural node

theorem pieces_of_anchored {embed : Embed} {style : Style} {links count : Nat} {nodes : List Node}
    {result : List Piece} {past events : List Event} (named : everyOf namesLink nodes = true)
    (anchored : style.Anchored) (yields : (piecesOf embed style links nodes).Yields past (result, count) events) :
    ∀ piece ∈ result, piece.Anchored := by
  cases nodes with
  | nil =>
    obtain ⟨same, _⟩ := Traced.yields_pure_iff.mp yields
    obtain ⟨rfl, _⟩ := Prod.mk.inj same
    exact List.forall_mem_nil _
  | cons node nodes =>
    simp only [piecesOf, Traced.yields_bind_iff, Traced.yields_pure_iff] at yields
    obtain ⟨first, _, _, firstYields, ⟨rest, _, _, restYields, ⟨same, _⟩, _⟩, _⟩ := yields
    obtain ⟨rfl, _⟩ := Prod.mk.inj same
    obtain ⟨firstNamed, restNamed⟩ := Bool.and_eq_true_iff.mp named
    have firstAnchored : ∀ piece ∈ first.1, piece.Anchored :=
      pieces_anchored firstNamed anchored firstYields
    have restAnchored : ∀ piece ∈ rest.1, piece.Anchored :=
      pieces_of_anchored restNamed anchored restYields
    intro piece member
    exact (List.mem_append.mp member).elim (firstAnchored piece) (restAnchored piece)
termination_by structural nodes

end

end Node
end MarkdownView
