import MarkdownView.Proofs.Inline.Resolver
set_option autoImplicit false

namespace MarkdownView

inductive Leaf where
  | text (content : String)
  | embedded (node : Node)

namespace Node

mutual

def leaves : Node → List Leaf
  | .text content _ => [.text content]
  | .emphasis content _ => leavesOf content
  | .strong content _ => leavesOf content
  | .strike content _ => leavesOf content
  | .code content _ => [.text content]
  | .link url content title _ =>
    if content.isEmpty then [.text (linkText url title)] else leavesOf content
  | .lineBreak soft _ => [.text (breakText soft)]
  | node => [.embedded node]
termination_by structural node => node

def leavesOf : List Node → List Leaf
  | [] => []
  | node :: nodes => leaves node ++ leavesOf nodes
termination_by structural nodes => nodes

end

end Node

inductive Reads (embed : Embed) : List Leaf → List Piece → List Event → Prop where
  | nil : Reads embed [] [] []
  | text {style : Style} {content : String} {leaves : List Leaf} {pieces : List Piece}
      {events : List Event} (rest : Reads embed leaves pieces events) :
      Reads embed (.text content :: leaves) (.text style content :: pieces) events
  | embedded {node : Node} {inserted : Option Inline} {leaves : List Leaf} {pieces : List Piece}
      {past events later : List Event} (embedded : node.isEmbedded = true)
      (inserts : (embed node).Yields past inserted events)
      (rest : Reads embed leaves pieces later) :
      Reads embed (.embedded node :: leaves) (inserted.toList.map .visual ++ pieces) (events ++ later)

theorem Reads.append {embed : Embed} {leaves more : List Leaf} {pieces others : List Piece}
    {events later : List Event} (first : Reads embed leaves pieces events)
    (second : Reads embed more others later) :
    Reads embed (leaves ++ more) (pieces ++ others) (events ++ later) := by
  induction first with
  | nil => exact second
  | text _ ih => exact .text ih
  | embedded embedded inserts _ ih =>
    rw [List.append_assoc, List.append_assoc]
    exact .embedded embedded inserts ih

theorem Reads.visual_inserted {embed : Embed} {leaves : List Leaf} {pieces : List Piece}
    {events : List Event} (reads : Reads embed leaves pieces events) {inserted : Inline}
    (member : .visual inserted ∈ pieces) :
    ∃ node past events, (embed node).Yields past (some inserted) events := by
  induction reads with
  | nil => cases member
  | text _ ih => exact ih (by simpa using member)
  | @embedded node answer _ _ past events _ _ inserts _ ih =>
    rcases List.mem_append.mp member with answered | later
    · obtain ⟨visual, found, same⟩ := List.mem_map.mp answered
      cases same
      cases Option.mem_toList.mp found
      exact ⟨node, past, events, inserts⟩
    · exact ih later

namespace Node

theorem leaves_of_append (nodes others : List Node) :
    leavesOf (nodes ++ others) = leavesOf nodes ++ leavesOf others := by
  induction nodes with
  | nil => rfl
  | cons node nodes ih => rw [List.cons_append, leavesOf, leavesOf, ih, List.append_assoc]

theorem leaves_of_singleton (node : Node) : leavesOf [node] = leaves node := List.append_nil _

theorem text_reads {embed : Embed} {style : Style} {content : String} {links count : Nat}
    {pieces : List Piece} {past events : List Event}
    (yields : (pure ([.text style content], links) : Traced (List Piece × Nat)).Yields past
      (pieces, count) events) : Reads embed [.text content] pieces events := by
  obtain ⟨same, rfl⟩ := Traced.yields_pure_iff.mp yields
  obtain ⟨rfl, rfl⟩ := Prod.mk.inj same
  exact .text .nil

theorem embedded_pieces_reads {embed : Embed} {links count : Nat} {node : Node} {pieces : List Piece}
    {past events : List Event} (embedded : node.isEmbedded = true)
    (yields : (embeddedPieces embed links node).Yields past (pieces, count) events) :
    Reads embed [.embedded node] pieces events := by
  simp only [embeddedPieces, Traced.yields_bind_iff, Traced.yields_pure_iff] at yields
  obtain ⟨inserted, before, _, inserts, ⟨same, rfl⟩, rfl⟩ := yields
  obtain ⟨rfl, rfl⟩ := Prod.mk.inj same
  have reads := Reads.embedded embedded inserts .nil
  rwa [List.append_nil] at reads

mutual

theorem pieces_reads {embed : Embed} {style : Style} {links count : Nat} {node : Node}
    {result : List Piece} {past events : List Event}
    (yields : (pieces embed style links node).Yields past (result, count) events) :
    Reads embed (leaves node) result events := by
  cases node with
  | text content metadata => exact text_reads yields
  | code content metadata => exact text_reads yields
  | lineBreak soft metadata => exact text_reads yields
  | emphasis content metadata => exact pieces_of_reads yields
  | strong content metadata => exact pieces_of_reads yields
  | strike content metadata => exact pieces_of_reads yields
  | link url content title metadata =>
    cases content with
    | nil => exact text_reads yields
    | cons node nodes => exact pieces_of_reads yields
  | image url alt title width height metadata => exact embedded_pieces_reads rfl yields
  | htmlBlock content metadata => exact embedded_pieces_reads rfl yields
  | htmlInline content metadata => exact embedded_pieces_reads rfl yields
  | mathBlock content metadata => exact embedded_pieces_reads rfl yields
  | mathInline content metadata => exact embedded_pieces_reads rfl yields
  | footnoteReference identifier metadata => exact embedded_pieces_reads rfl yields
  | footnoteDefinition identifier content metadata => exact embedded_pieces_reads rfl yields
  | extension tag isInline children raw metadata => exact embedded_pieces_reads rfl yields
  | _ => exact absurd yields (by simp [pieces, misplaced, isEmbedded, isModelled])
termination_by structural node

theorem pieces_of_reads {embed : Embed} {style : Style} {links count : Nat} {nodes : List Node}
    {result : List Piece} {past events : List Event}
    (yields : (piecesOf embed style links nodes).Yields past (result, count) events) :
    Reads embed (leavesOf nodes) result events := by
  cases nodes with
  | nil =>
    obtain ⟨same, rfl⟩ := Traced.yields_pure_iff.mp yields
    obtain ⟨rfl, rfl⟩ := Prod.mk.inj same
    exact .nil
  | cons node nodes =>
    simp only [piecesOf, Traced.yields_bind_iff, Traced.yields_pure_iff] at yields
    obtain ⟨first, before, _, firstYields, ⟨rest, after, _, restYields, ⟨same, rfl⟩, rfl⟩, rfl⟩ :=
      yields
    obtain ⟨rfl, rfl⟩ := Prod.mk.inj same
    rw [List.append_nil]
    exact (pieces_reads firstYields).append (pieces_of_reads restYields)
termination_by structural nodes

end

mutual

theorem pieces_of_texts (embed : Embed) (style : Style) (links : Nat) (node : Node)
    (texts : ∀ leaf ∈ leaves node, ∃ content, leaf = .text content) :
    ∃ reading, pieces embed style links node = pure reading := by
  cases node with
  | text content metadata => exact ⟨_, rfl⟩
  | code content metadata => exact ⟨_, rfl⟩
  | lineBreak soft metadata => exact ⟨_, rfl⟩
  | emphasis content metadata => exact pieces_of_of_texts embed _ links content texts
  | strong content metadata => exact pieces_of_of_texts embed _ links content texts
  | strike content metadata => exact pieces_of_of_texts embed _ links content texts
  | link url content title metadata =>
    cases content with
    | nil => exact ⟨_, rfl⟩
    | cons node nodes => exact pieces_of_of_texts embed _ _ (node :: nodes) texts
  | _ => simp [leaves] at texts
termination_by structural node

theorem pieces_of_of_texts (embed : Embed) (style : Style) (links : Nat) (nodes : List Node)
    (texts : ∀ leaf ∈ leavesOf nodes, ∃ content, leaf = .text content) :
    ∃ reading, piecesOf embed style links nodes = pure reading := by
  cases nodes with
  | nil => exact ⟨_, rfl⟩
  | cons node nodes =>
    rw [leavesOf, List.forall_mem_append] at texts
    obtain ⟨first, firstRead⟩ := pieces_of_texts embed style links node texts.1
    obtain ⟨rest, restRead⟩ := pieces_of_of_texts embed style first.2 nodes texts.2
    exact ⟨(first.1 ++ rest.1, rest.2), by rw [piecesOf, firstRead, pure_bind, restRead, pure_bind]⟩
termination_by structural nodes

end

end Node
end MarkdownView
