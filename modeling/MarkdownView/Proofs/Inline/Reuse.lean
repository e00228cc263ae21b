import Mathlib.Algebra.GroupWithZero.Nat
import MarkdownView.Proofs.Inline.Alike
import MarkdownView.Proofs.Inline.Reference
set_option autoImplicit false

namespace MarkdownView

def Style.moved (earlier : Nat) (style : Style) : Style :=
  { style with linkId := style.linkId.map ((earlier : Int) + ·) }

theorem Style.moved_of_unlinked {style : Style} (unlinked : style.linkId = none) (earlier : Nat) :
    style.moved earlier = style := by
  cases style
  subst unlinked
  rfl

theorem Style.moved_eq_iff (earlier : Nat) {style next : Style} :
    style.moved earlier = next.moved earlier ↔ style = next := by
  refine ⟨fun same => ?_, fun same => by rw [same]⟩
  cases style
  cases next
  simp only [moved, mk.injEq] at same ⊢
  refine ⟨same.1, same.2.1, same.2.2.1, same.2.2.2.1, same.2.2.2.2.1, ?_⟩
  exact Option.map_injective (fun _ _ => Int.add_left_cancel) same.2.2.2.2.2

namespace Piece

def moved (earlier : Nat) : Piece → Piece
  | .text style content => .text (style.moved earlier) content
  | .visual inserted => .visual inserted

def readMoved (earlier : Nat) (read : List Piece × Nat) : List Piece × Nat :=
  (read.1.map (moved earlier), earlier + read.2)

theorem prepend_moved (earlier : Nat) (piece : Piece) (pieces : List Piece) :
    prepend (piece.moved earlier) (pieces.map (moved earlier)) =
      (prepend piece pieces).map (moved earlier) := by
  cases piece with
  | visual inserted => rfl
  | text style content =>
    by_cases empty : content = ""
    · simp only [moved, prepend, if_pos empty]
    · cases pieces with
      | nil => simp only [moved, prepend, if_neg empty, List.map_nil, List.map_cons]
      | cons first rest =>
        cases first with
        | visual inserted => simp only [moved, prepend, if_neg empty, List.map_cons]
        | text next more =>
          by_cases same : style = next
          · simp only [moved, prepend, if_neg empty, List.map_cons, same, if_true]
          · have apart : style.moved earlier ≠ next.moved earlier :=
              fun movedSame => same ((Style.moved_eq_iff earlier).mp movedSame)
            simp only [moved, prepend, if_neg empty, List.map_cons, if_neg same, if_neg apart]

theorem join_moved (earlier : Nat) (pieces : List Piece) :
    join (pieces.map (moved earlier)) = (join pieces).map (moved earlier) := by
  induction pieces with
  | nil => rfl
  | cons piece pieces ih => rw [List.map_cons, join, ih, prepend_moved, join]

theorem runs_moved (earlier : Nat) (pieces : List Piece) :
    runs (pieces.map (moved earlier)) = runs pieces := by
  have sameInline : inline ∘ moved earlier = inline := by
    funext piece
    cases piece <;> rfl
  rw [runs, join_moved, List.map_map, sameInline, runs]

end Piece

namespace Node

open Piece (readMoved)

theorem embedded_pieces_moved (embed : Embed) (earlier links : Nat) (node : Node) :
    embeddedPieces embed (earlier + links) node =
      readMoved earlier <$> embeddedPieces embed links node := by
  have sameVisuals (inserted : Option Inline) :
      (inserted.toList.map Piece.visual, earlier + links) =
        readMoved earlier (inserted.toList.map Piece.visual, links) := by
    cases inserted <;> rfl
  simp only [embeddedPieces, map_bind, map_pure, sameVisuals]

mutual

theorem pieces_moved (embed : Embed) (style : Style) (earlier links : Nat) (node : Node) :
    pieces embed (style.moved earlier) (earlier + links) node =
      readMoved earlier <$> pieces embed style links node := by
  cases node with
  | text content metadata => exact (map_pure _ _).symm
  | code content metadata => exact (map_pure _ _).symm
  | lineBreak soft metadata => exact (map_pure _ _).symm
  | emphasis content metadata =>
    exact pieces_of_moved embed { style with italic := true } earlier links content
  | strong content metadata =>
    exact pieces_of_moved embed { style with bold := true } earlier links content
  | strike content metadata =>
    exact pieces_of_moved embed { style with strike := true } earlier links content
  | link url content title metadata =>
    have numbered : ((earlier + links + 1 : Nat) : Int) = earlier + ((links + 1 : Nat) : Int) := by
      omega
    have innerMoved : { style.moved earlier with
        linkTarget := url, linkId := some ((earlier + links + 1 : Nat) : Int) } =
          Style.moved earlier
            { style with linkTarget := url, linkId := some ((links + 1 : Nat) : Int) } := by
      rw [numbered]
      rfl
    rw [pieces, pieces, innerMoved, Nat.add_assoc]
    cases content with
    | nil => exact (map_pure _ _).symm
    | cons node nodes => exact pieces_of_moved embed _ earlier (links + 1) (node :: nodes)
  | image url alt title width height metadata => exact embedded_pieces_moved embed earlier links _
  | htmlBlock content metadata => exact embedded_pieces_moved embed earlier links _
  | htmlInline content metadata => exact embedded_pieces_moved embed earlier links _
  | mathBlock content metadata => exact embedded_pieces_moved embed earlier links _
  | mathInline content metadata => exact embedded_pieces_moved embed earlier links _
  | footnoteReference identifier metadata => exact embedded_pieces_moved embed earlier links _
  | footnoteDefinition identifier content metadata =>
    exact embedded_pieces_moved embed earlier links _
  | extension tag isInline children raw metadata => exact embedded_pieces_moved embed earlier links _
  | _ => rfl
termination_by structural node

theorem pieces_of_moved (embed : Embed) (style : Style) (earlier links : Nat) (nodes : List Node) :
    piecesOf embed (style.moved earlier) (earlier + links) nodes =
      readMoved earlier <$> piecesOf embed style links nodes := by
  cases nodes with
  | nil => exact (map_pure _ _).symm
  | cons node nodes =>
    have restMoved (read : List Piece × Nat) :
        piecesOf embed (style.moved earlier) (readMoved earlier read).2 nodes =
          readMoved earlier <$> piecesOf embed style read.2 nodes :=
      pieces_of_moved embed style earlier read.2 nodes
    simp only [piecesOf, pieces_moved embed style earlier links node, map_bind, bind_map_left,
      restMoved, map_pure]
    simp only [readMoved, List.map_append]
termination_by structural nodes

end

mutual

def linksMet (callback : Callback) : Node → Nat
  | .emphasis content _ => linksMetIn callback content
  | .strong content _ => linksMetIn callback content
  | .strike content _ => linksMetIn callback content
  | .link _ content _ _ => 1 + linksMetIn callback content
  | _ => 0
termination_by structural node => node

def linksMetIn (callback : Callback) : List Node → Nat
  | [] => 0
  | node :: nodes =>
    linksMet callback node + if isReadable callback node then linksMetIn callback nodes else 0
termination_by structural nodes => nodes

end

end Node

namespace Resolver

theorem resolve_of_unlinked (resolver : Resolver) {style : Style} (unlinked : style.linkId = none)
    (content : List Node) :
    (resolver.resolve style content).1 = MarkdownView.resolve resolver.embed style content := by
  have moved := Node.pieces_of_moved resolver.embed style resolver.links 0 content
  rw [Style.moved_of_unlinked unlinked, Nat.add_zero] at moved
  rw [resolve_eq_pieces, MarkdownView.resolve_eq_pieces, moved, bind_map_left]
  simp only [Piece.readMoved, Piece.runs_moved]

def Counts (links : Nat) (ending : Ending Visited) : Prop :=
  ∃ visited events, ending = ⟨.ok visited, events⟩ ∧ visited.resolver.links = links

theorem visit_text_counts {resolver : Resolver} (sound : resolver.Sound) (text : String)
    (past : List Event) : Counts resolver.links ((resolver.visitText text).after past) := by
  obtain ⟨after, emitted, _, counted⟩ := emit_text_takes sound text
  refine ⟨⟨.ok ⟨⟩, after⟩, [], ?_, counted⟩
  rw [visitText, emitted]
  rfl

theorem visit_embedded_counts {resolver : Resolver} (sound : resolver.Sound) (node : Node)
    (past : List Event) : Counts resolver.links ((resolver.visitEmbedded node).after past) := by
  refine ⟨resolver.attempt (((resolver.embed node).after past).outcome >>= resolver.emitVisual), _, rfl,
    ?_⟩
  cases ((resolver.embed node).after past).outcome with
  | error failure => rfl
  | ok inserted =>
    obtain ⟨after, emitted, _, counted⟩ := emit_visual_takes sound inserted
    have wentOn : resolver.attempt (.ok inserted >>= resolver.emitVisual) = ⟨.ok ⟨⟩, after⟩ :=
      congrArg resolver.attempt emitted
    rw [wentOn]
    exact counted

theorem styled_counts {resolver : Resolver} {style : Style} {visit : Resolver → Traced Visited}
    {links : Nat} {past : List Event}
    (inside : Counts links ((visit { resolver with style := style }).after past)) :
    Counts links ((resolver.styled style visit).after past) := by
  obtain ⟨visited, events, ended, counted⟩ := inside
  rw [styled, Traced.after_bind_of_yields ended]
  exact ⟨_, _, rfl, counted⟩

theorem visit_ends {callback : Callback} {resolver : Resolver} {node : Node}
    {past events : List Event} {visited : Visited} (callsBack : resolver.embed = callback.embed)
    (sound : resolver.Sound) (ended : (resolver.visit node).after past = ⟨.ok visited, events⟩) :
    (visited.outcome = .ok ⟨⟩ ∧ Node.isReadable callback node = true ∧
      visited.resolver.embed = callback.embed ∧ visited.resolver.Sound) ∨
    ∃ failure, visited.outcome = .error failure ∧ Node.isReadable callback node = false := by
  have agrees := visit_agrees resolver node past sound
  have ends := Node.pieces_ends_as callback resolver.style resolver.links [] node past
  rw [callsBack, ended] at agrees
  generalize (Node.pieces callback.embed resolver.style resolver.links node).after past = reading
    at agrees ends
  generalize Node.isReadable callback node = readable at ends ⊢
  cases agrees with
  | taken takes _ =>
    cases ends
    exact .inl ⟨rfl, rfl, takes.embed.trans callsBack, takes.sound⟩
  | failed _ _ =>
    cases ends
    exact .inr ⟨_, rfl, rfl⟩

mutual

theorem visit_counts {callback : Callback} (resolver : Resolver) (node : Node) (past : List Event)
    (callsBack : resolver.embed = callback.embed) (sound : resolver.Sound) :
    Counts (resolver.links + Node.linksMet callback node) ((resolver.visit node).after past) := by
  cases node with
  | text content metadata => exact visit_text_counts sound content past
  | lineBreak soft metadata => exact visit_text_counts sound _ past
  | code content metadata =>
    rw [visit]
    refine styled_counts ?_
    exact visit_text_counts (sound.with_style _) content past
  | emphasis content metadata =>
    rw [visit]
    refine styled_counts ?_
    exact visit_all_counts _ content past callsBack (sound.with_style _)
  | strong content metadata =>
    rw [visit]
    refine styled_counts ?_
    exact visit_all_counts _ content past callsBack (sound.with_style _)
  | strike content metadata =>
    rw [visit]
    refine styled_counts ?_
    exact visit_all_counts _ content past callsBack (sound.with_style _)
  | link url content title metadata =>
    have counted := sound.with_links (resolver.links + 1)
    rw [Node.linksMet, ← Nat.add_assoc, visit]
    refine styled_counts ?_
    cases content with
    | nil => exact visit_text_counts (counted.with_style _) (Node.linkText url title) past
    | cons node nodes =>
      exact visit_all_counts _ (node :: nodes) past callsBack (counted.with_style _)
  | image url alt title width height metadata => exact visit_embedded_counts sound _ past
  | htmlBlock content metadata => exact visit_embedded_counts sound _ past
  | htmlInline content metadata => exact visit_embedded_counts sound _ past
  | mathBlock content metadata => exact visit_embedded_counts sound _ past
  | mathInline content metadata => exact visit_embedded_counts sound _ past
  | footnoteReference identifier metadata => exact visit_embedded_counts sound _ past
  | footnoteDefinition identifier content metadata => exact visit_embedded_counts sound _ past
  | extension tag isInline children raw metadata => exact visit_embedded_counts sound _ past
  | _ => exact ⟨_, _, rfl, rfl⟩
termination_by structural node

theorem visit_all_counts {callback : Callback} (resolver : Resolver) (nodes : List Node)
    (past : List Event) (callsBack : resolver.embed = callback.embed) (sound : resolver.Sound) :
    Counts (resolver.links + Node.linksMetIn callback nodes) ((resolver.visitAll nodes).after past) := by
  cases nodes with
  | nil => exact ⟨_, _, rfl, rfl⟩
  | cons node nodes =>
    obtain ⟨visited, events, ended, counted⟩ := visit_counts resolver node past callsBack sound
    rw [visitAll, Traced.after_bind_of_yields ended, Node.linksMetIn]
    rcases visit_ends callsBack sound ended with
      ⟨wentWell, readable, alsoCallsBack, alsoSound⟩ | ⟨failure, failed, unreadable⟩
    · have rest := visit_all_counts visited.resolver nodes (events.reverseAux past) alsoCallsBack
        alsoSound
      obtain ⟨last, later, restEnded, restCounted⟩ := rest
      simp only [wentWell, restEnded, readable, if_true]
      exact ⟨last, _, rfl, by rw [restCounted, counted, Nat.add_assoc]⟩
    · simp only [failed, unreadable]
      exact ⟨visited, _, rfl, counted⟩
termination_by structural nodes

end

theorem read_counts {callback : Callback} {resolver : Resolver}
    (callsBack : resolver.embed = callback.embed) (style : Style) (content : List Node)
    (past : List Event) :
    ∃ ended events, (resolver.read style content).after past = ⟨.ok ended, events⟩ ∧
      ended.2.embed = callback.embed ∧
      ended.2.links = resolver.links + Node.linksMetIn callback content := by
  let fresh : Resolver :=
    { resolver with output := [], buffer := [], bufferStyle := none, style := style }
  have sound : fresh.Sound := ⟨by simp [fresh], by simp [fresh]⟩
  have agrees := visit_all_agrees fresh content past sound
  obtain ⟨visited, events, visits, counted⟩ := visit_all_counts fresh content past callsBack sound
  rw [visits] at agrees
  generalize (Node.piecesOf fresh.embed fresh.style fresh.links content).after past = reading
    at agrees
  rw [read, Traced.after_bind_of_yields visits]
  cases agrees with
  | failed embed _ => exact ⟨_, _, rfl, embed.trans callsBack, counted⟩
  | taken takes _ =>
    simp only [flush_of_sound takes.sound]
    exact ⟨_, _, rfl, takes.embed.trans callsBack, counted⟩

-- The resolver after it has read each content under its style, whatever that came to.
def used (resolver : Resolver) : List (Style × List Node) → Resolver
  | [] => resolver
  | (style, content) :: calls => (resolver.resolve style content).2.used calls

theorem used_counts {callback : Callback} (resolver : Resolver)
    (callsBack : resolver.embed = callback.embed) (calls : List (Style × List Node)) :
    (resolver.used calls).embed = callback.embed ∧
      (resolver.used calls).links =
        resolver.links + (calls.map fun call => Node.linksMetIn callback call.2).sum := by
  induction calls generalizing resolver with
  | nil => exact ⟨callsBack, rfl⟩
  | cons call calls ih =>
    obtain ⟨ended, events, reads, alsoCallsBack, counted⟩ :=
      read_counts callsBack call.1 call.2 []
    have next : (resolver.resolve call.1 call.2).2 = ended.2 := by
      simp only [resolve, Traced.outcome, reads]
    rw [used, next, List.map_cons, List.sum_cons, ← Nat.add_assoc, ← counted]
    exact ih ended.2 alsoCallsBack

end Resolver

theorem Callback.embed_alike (callback : Callback) (node : Node) :
    (callback.embed node).Alike (callback.embed node) := by
  rw [embed_eq_answer]
  exact Traced.alike_steady _

-- Whatever a resolver has read before, and even where that failed, it comes to what a new one comes to,
-- although it counts links on.
theorem resolve_used (callback : Callback) (calls : List (Style × List Node)) {style : Style}
    (unlinked : style.linkId = none) (content : List Node) (past other : List Event) :
    ((((Resolver.new callback.embed).used calls).resolve style content).1.after past).outcome =
        (((Resolver.new callback.embed).resolve style content).1.after other).outcome ∧
      ((Resolver.new callback.embed).used calls).links =
        (calls.map fun call => Node.linksMetIn callback call.2).sum := by
  obtain ⟨callsBack, counted⟩ := Resolver.used_counts (Resolver.new callback.embed) rfl calls
  refine ⟨?_, counted.trans (Nat.zero_add _)⟩
  have newCallsBack : (Resolver.new callback.embed).embed = callback.embed := rfl
  rw [Resolver.resolve_of_unlinked _ unlinked, Resolver.resolve_of_unlinked _ unlinked, callsBack,
    newCallsBack, resolve_eq_pieces]
  have readAlike := Node.pieces_of_alike callback.embed_alike style 0 content
  exact (Traced.alike_bind readAlike fun _ => Traced.alike_steady _) past other |>.1

def Resolver.brokenOff : List (Style × List Node) :=
  [(Style.plain, [.link "u" [.text "a" []] none [], .link "u" [] none []]),
    (⟨true, false, false, false, some "v", some 7⟩,
      [.strong [.link "u" [.text "b" [], .thematicBreak []] none []] [], .link "u" [] none []])]

theorem resolve_used_broken_off :
    Style.plain.linkId = none ∧
      ((Resolver.new (Callback.embed none)).used Resolver.brokenOff).links = 3 ∧
      ((((Resolver.new (Callback.embed none)).used Resolver.brokenOff).resolve Style.plain
        [.link "u" [.text "x" []] none [], .link "u" [.text "y" []] none []]).1.after []).outcome =
          .ok [.run ⟨"x", false, false, false, false, some "u"⟩,
            .run ⟨"y", false, false, false, false, some "u"⟩] := by
  have unlinked : Style.plain.linkId = none := rfl
  obtain ⟨asNew, counted⟩ := resolve_used none Resolver.brokenOff unlinked
    [.link "u" [.text "x" []] none [], .link "u" [.text "y" []] none []] [] []
  exact ⟨unlinked, counted, asNew⟩

end MarkdownView
