import MarkdownView.Compile
import MarkdownView.Proofs.Inline.Leaves
import MarkdownView.Proofs.Picture
import MarkdownView.Proofs.Reports
set_option autoImplicit false

namespace MarkdownView

namespace Piece

theorem filter_map_prepend {α : Type} (observe : Inline → Option α)
    (noRun : ∀ run, observe (.run run) = none) (piece : Piece) (pieces : List Piece) :
    ((prepend piece pieces).map inline).filterMap observe =
      ((piece :: pieces).map inline).filterMap observe := by
  cases piece with
  | visual inserted => rfl
  | text style content =>
    simp only [prepend]
    split
    · simp [inline, noRun]
    · split
      · split <;> simp [inline, noRun]
      · rfl

theorem filter_map_runs {α : Type} (observe : Inline → Option α)
    (noRun : ∀ run, observe (.run run) = none) (pieces : List Piece) :
    (runs pieces).filterMap observe = (pieces.map inline).filterMap observe := by
  induction pieces with
  | nil => rfl
  | cons piece pieces ih =>
    rw [runs, join, filter_map_prepend observe noRun, List.map_cons, List.map_cons,
      List.filterMap_cons, List.filterMap_cons, ← ih]
    rfl

theorem plain_text_cons (content : Inline) (rest : List Inline) :
    plainText (content :: rest) = content.text ++ plainText rest := by
  rw [plainText, List.map_cons, String.join_cons, plainText]

theorem plain_text_append (content rest : List Inline) :
    plainText (content ++ rest) = plainText content ++ plainText rest := by
  rw [plainText, List.map_append, String.join_append, plainText, plainText]

theorem plain_text_prepend (piece : Piece) (pieces : List Piece) :
    plainText ((prepend piece pieces).map inline) = plainText ((piece :: pieces).map inline) := by
  cases piece with
  | visual inserted => rfl
  | text style content =>
    simp only [prepend]
    split
    case isTrue empty => simp [plain_text_cons, inline, Inline.text, Style.run, empty]
    case isFalse present =>
      split
      · split
        · simp [plain_text_cons, inline, Inline.text, Style.run, String.append_assoc]
        · rfl
      · rfl

theorem plain_text_runs (pieces : List Piece) :
    plainText (runs pieces) = plainText (pieces.map inline) := by
  induction pieces with
  | nil => rfl
  | cons piece pieces ih =>
    rw [runs, join, plain_text_prepend, List.map_cons, List.map_cons, plain_text_cons, plain_text_cons,
      ← ih]
    rfl

end Piece

namespace Walk

open Traced (IsRemark)

def relabel (walk : Walk) : Inline → Inline := if walk.options.promotesCode then promote else id

theorem promote_text (content : Inline) : (promote content).text = content.text := by
  cases content with
  | run content =>
    simp only [promote]
    split <;> rfl
  | _ => rfl

theorem plain_text_relabel (walk : Walk) (children : List Inline) :
    plainText (children.map walk.relabel) = plainText children := by
  simp only [relabel]
  split
  · simp [plainText, Function.comp_def, promote_text]
  · rw [List.map_id]

theorem filter_map_relabel {α : Type} (walk : Walk) (observe : Inline → Option α)
    (noRun : ∀ run, observe (.run run) = none) (noCode : ∀ text, observe (.code text) = none)
    (children : List Inline) :
    (children.map walk.relabel).filterMap observe = children.filterMap observe := by
  have same (content : Inline) : observe (promote content) = observe content := by
    cases content with
    | run content =>
      simp only [promote]
      split
      · rw [noCode, noRun]
      · rfl
    | _ => rfl
  simp only [relabel]
  split
  · have composed : observe ∘ promote = observe := funext same
    rw [List.filterMap_map, composed]
  · rw [List.map_id]

theorem inline_pieces {walk : Walk} {content : List Node} {children : List Inline}
    {past events : List Event} (yields : (walk.inline content).Yields past children events) :
    ∃ pieces count, (Node.piecesOf walk.embed Style.plain 0 content).Yields past (pieces, count) events ∧
      children = (Piece.runs pieces).map walk.relabel := by
  simp only [Walk.inline, resolve_eq_pieces, Traced.yields_bind_iff, Traced.yields_pure_iff] at yields
  obtain ⟨_, _, _, ⟨⟨pieces, count⟩, events, _, piecesYield, ⟨rfl, rfl⟩, rfl⟩, ⟨rfl, rfl⟩, rfl⟩ :=
    yields
  rw [List.append_nil, List.append_nil]
  refine ⟨pieces, count, piecesYield, ?_⟩
  rw [relabel]
  split
  · rfl
  · rw [List.map_id]

theorem inline_reads {walk : Walk} {content : List Node} {children : List Inline}
    {past events : List Event} (yields : (walk.inline content).Yields past children events) :
    ∃ pieces, Reads walk.embed (Node.leavesOf content) pieces events ∧
      children = (Piece.runs pieces).map walk.relabel := by
  obtain ⟨pieces, count, piecesYield, shape⟩ := inline_pieces yields
  exact ⟨pieces, Node.pieces_of_reads piecesYield, shape⟩

theorem picture_emits (walk : Walk) (url alt : String) (title : Option String)
    (width height : Option Int) : (walk.picture url alt title width height).Emits fun _ => IsRemark := by
  rw [picture]
  split
  · exact Traced.emits_bind (Traced.note_emits (fun _ _ => id) rfl) fun _ => Traced.emits_pure _
  · exact Traced.emits_bind (Picture.load_emits _ _ _ _ _ _ _ _) fun _ => Traced.emits_pure _

theorem picture_quiet {walk : Walk} {url alt : String} {title : Option String}
    {width height : Option Int} {inserted : Option Inline} {past events : List Event}
    (yields : (walk.picture url alt title width height).Yields past inserted events) :
    Event.reports events = [] :=
  Event.reports_of_remarks ((picture_emits walk url alt title width height).of_yields yields)

theorem picture_inserts {walk : Walk} {url alt : String} {title : Option String}
    {width height : Option Int} {inserted : Option Inline} {past events : List Event}
    (yields : (walk.picture url alt title width height).Yields past inserted events) :
    ∀ content ∈ inserted, ∃ picture, content = .picture picture := by
  rw [picture] at yields
  split at yields
  · simp only [Traced.yields_bind_iff, Traced.yields_pure_iff] at yields
    obtain ⟨_, _, _, _, ⟨rfl, _⟩, _⟩ := yields
    simp
  · simp only [Traced.yields_bind_iff, Traced.yields_pure_iff] at yields
    obtain ⟨picture, _, _, _, ⟨rfl, _⟩, _⟩ := yields
    simp

theorem embed_yields {walk : Walk} {node : Node} {inserted : Option Inline} {past events : List Event}
    (yields : (walk.embed node).Yields past inserted events) :
    (Event.reports events = [] ∧ ∀ content ∈ inserted, ∃ picture, content = .picture picture) ∨
      inserted = some (.placeholder node.kind) ∧ events = [.unmodelled node.kind] := by
  cases node with
  | image url alt title width height metadata =>
    exact .inl ⟨picture_quiet yields, picture_inserts yields⟩
  | _ =>
    simp only [embed, unmodelled, Traced.yields_bind_iff, Traced.yields_emit_iff,
      Traced.yields_pure_iff] at yields
    obtain ⟨_, _, _, ⟨_, _, _, rfl, ⟨rfl, rfl⟩, rfl⟩, ⟨rfl, rfl⟩, rfl⟩ := yields
    exact .inr ⟨rfl, rfl⟩

end Walk
end MarkdownView
