import MarkdownView.Proofs.Inline.Atoms
import MarkdownView.Proofs.Inline.Pieces
set_option autoImplicit false

namespace MarkdownView

namespace Piece

def atoms : Piece → List (Atom Int)
  | .text style content => Atom.letters style.mark content
  | .visual inserted => [.visual inserted]

def Joins : Piece → Piece → Prop
  | .text style _, .text next _ => style = next
  | _, _ => False

def IsText (content : String) : Piece → Prop
  | .text _ found => found = content
  | .visual _ => False

structure Settled (pieces : List Piece) : Prop where
  present : ∀ piece ∈ pieces, ¬ piece.IsText ""
  apart : pieces.IsChain fun piece next => ¬ piece.Joins next

theorem atoms_prepend (piece : Piece) (pieces : List Piece) :
    (prepend piece pieces).flatMap atoms = piece.atoms ++ pieces.flatMap atoms := by
  cases piece with
  | visual inserted => rfl
  | text style content =>
    by_cases empty : content = ""
    · simp [prepend, empty, atoms, Atom.letters]
    · cases pieces with
      | nil => simp [prepend, empty]
      | cons first rest =>
        cases first with
        | visual inserted => simp [prepend, empty]
        | text next more =>
          by_cases same : style = next
          · simp [prepend, empty, same, atoms, Atom.letters]
          · simp [prepend, empty, same]

theorem atoms_join (pieces : List Piece) :
    (join pieces).flatMap atoms = pieces.flatMap atoms := by
  induction pieces with
  | nil => rfl
  | cons piece pieces ih => rw [join, atoms_prepend, ih, List.flatMap_cons]

theorem settled_prepend (piece : Piece) {pieces : List Piece} (settled : Settled pieces) :
    Settled (prepend piece pieces) := by
  cases piece with
  | visual inserted =>
    exact ⟨by simpa [prepend, IsText] using settled.present,
      List.isChain_cons.mpr ⟨by simp [Joins], settled.apart⟩⟩
  | text style content =>
    by_cases empty : content = ""
    · simpa [prepend, empty] using settled
    · cases pieces with
      | nil => exact ⟨by simp [prepend, empty, IsText], by simp [prepend, empty]⟩
      | cons first rest =>
        have present := settled.present
        have apart := settled.apart
        cases first with
        | visual inserted =>
          exact ⟨by simpa [prepend, empty, IsText] using present,
            by simpa [prepend, empty, Joins] using apart⟩
        | text next more =>
          by_cases same : style = next
          · subst same
            have longer : content ++ more ≠ "" := by simp [empty]
            simp only [prepend, if_neg empty, ↓reduceIte]
            refine ⟨?_, ?_⟩
            · simp only [List.mem_cons, forall_eq_or_imp] at present ⊢
              exact ⟨longer, present.2⟩
            · rw [List.isChain_cons] at apart ⊢
              refine ⟨fun following member joins => apart.1 following member ?_, apart.2⟩
              cases following <;> exact joins
          · exact ⟨by simpa [prepend, empty, same, IsText] using present,
              by simpa [prepend, empty, same, Joins] using apart⟩

theorem settled_join (pieces : List Piece) : Settled (join pieces) := by
  induction pieces with
  | nil => exact ⟨by simp [join], List.isChain_nil⟩
  | cons piece pieces ih => exact settled_prepend piece ih

theorem stretch_atoms {piece : Piece} (present : ¬ piece.IsText "") :
    Atom.stretch piece.atoms = [piece.inline] := by
  cases piece with
  | visual inserted => rfl
  | text style content => exact Atom.stretch_letters style.mark present

theorem atoms_nonempty {piece : Piece} (present : ¬ piece.IsText "") : piece.atoms ≠ [] := by
  cases piece with
  | visual inserted => simp [atoms]
  | text style content => simpa [atoms, Atom.letters, IsText] using present

theorem atoms_chain (piece : Piece) :
    piece.atoms.IsChain fun atom next => Atom.joins atom next = true := by
  cases piece with
  | visual inserted => exact List.isChain_singleton _
  | text style content =>
    rw [atoms, Atom.letters, List.isChain_map]
    exact (List.pairwise_of_forall fun _ _ => by simp [Atom.joins]).isChain

theorem joins_atoms_of_apart {piece next : Piece} (apart : ¬ piece.Joins next) {atom other : Atom Int}
    (member : atom ∈ piece.atoms) (otherMember : other ∈ next.atoms) :
    Atom.joins atom other = false := by
  cases piece with
  | visual inserted => simp_all [atoms, Atom.joins]
  | text style content =>
    cases next with
    | visual inserted => simp_all [atoms, Atom.joins, Atom.letters]
    | text style' content' =>
      obtain ⟨_, _, rfl⟩ := List.mem_map.mp member
      obtain ⟨_, _, rfl⟩ := List.mem_map.mp otherMember
      exact decide_eq_false fun same => apart (mark_injective same)

theorem split_by_atoms {pieces : List Piece} (settled : Settled pieces) :
    (pieces.flatMap atoms).splitBy Atom.joins = pieces.map atoms := by
  rw [List.flatMap_def]
  refine List.splitBy_flatten ?_ ?_ ?_
  · intro member
    obtain ⟨piece, pieceMember, empty⟩ := List.mem_map.mp member
    exact atoms_nonempty (settled.present piece pieceMember) empty
  · intro group member
    obtain ⟨piece, _, rfl⟩ := List.mem_map.mp member
    exact atoms_chain piece
  · rw [List.isChain_map]
    refine settled.apart.imp_of_mem_imp fun piece next pieceMember nextMember apart => ?_
    exact ⟨atoms_nonempty (settled.present piece pieceMember),
      atoms_nonempty (settled.present next nextMember),
      joins_atoms_of_apart apart (List.getLast_mem _) (List.head_mem _)⟩

theorem runs_eq_grouped (pieces : List Piece) :
    runs pieces = Atom.grouped (pieces.flatMap atoms) := by
  have settled := settled_join pieces
  have single (piece : Piece) (member : piece ∈ join pieces) :
      Atom.stretch piece.atoms = [piece.inline] := stretch_atoms (settled.present piece member)
  rw [← atoms_join, Atom.grouped, split_by_atoms settled, List.flatMap_map, runs,
    List.map_eq_flatMap]
  exact List.flatMap_congr fun piece member => (single piece member).symm

end Piece
end MarkdownView
