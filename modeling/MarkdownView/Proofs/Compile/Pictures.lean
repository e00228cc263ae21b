import Mathlib.Data.List.Forall2
import MarkdownView.Proofs.Compile.Leaves
import MarkdownView.Proofs.Picture.Failures
set_option autoImplicit false

namespace MarkdownView

def Inline.picture? : Inline → Option Picture
  | .picture found => some found
  | _ => none

def Tree.pictures (tree : Tree) : List Picture :=
  tree.contents.flatten.filterMap Inline.picture?

def Leaf.image? : Leaf → Option Node
  | .embedded (.image url alt title width height metadata) =>
    some (.image url alt title width height metadata)
  | _ => none

def Node.imagesIn (nodes : List Node) : List Node := (blockLeavesOf nodes).filterMap Leaf.image?

namespace Walk

-- A picture of an image node that the files of the walk bear out.
inductive Verifies (walk : Walk) : Node → Picture → Prop where
  | image {url alt : String} {title : Option String} {width height : Option Int} {metadata : Metadata}
      {picture : Picture} (verified : Picture.Verifies walk.files walk.options.imageDirectory url alt
        title width height picture) :
      Verifies walk (.image url alt title width height metadata) picture

def Depicts (walk : Walk) (leaves : List Leaf) (content : List Inline) : Prop :=
  List.Forall₂ walk.Verifies (leaves.filterMap Leaf.image?) (content.filterMap Inline.picture?)

section

variable {walk : Walk}

theorem Depicts.append {leaves others : List Leaf} {content more : List Inline}
    (first : walk.Depicts leaves content) (rest : walk.Depicts others more) :
    walk.Depicts (leaves ++ others) (content ++ more) := by
  rw [Depicts, List.filterMap_append, List.filterMap_append]
  exact List.rel_append first rest

theorem depicts_placeholder {node : Node} (unmodelled : node.isModelled = false) :
    walk.Depicts [.embedded node] [.placeholder node.kind] := by
  have noImage : Leaf.image? (.embedded node) = none := by
    cases node with
    | image => cases unmodelled
    | _ => rfl
  rw [Depicts, List.filterMap_cons_none noImage]
  exact .nil

variable (resolves : walk.options.imageMode = .resolve)

include resolves

theorem picture_depicts {url alt : String} {title : Option String} {width height : Option Int}
    {metadata : Metadata} {inserted : Option Inline} {past events : List Event}
    (yields : (walk.picture url alt title width height).Yields past inserted events) :
    walk.Depicts [.embedded (.image url alt title width height metadata)] inserted.toList := by
  simp only [Walk.picture, resolves, Traced.yields_bind_iff, Traced.yields_pure_iff] at yields
  obtain ⟨picture, _, _, loaded, ⟨rfl, _⟩, _⟩ := yields
  exact .cons (.image (Picture.load_verifies loaded)) .nil

theorem embed_depicts {node : Node} {inserted : Option Inline} {past events : List Event}
    (embedded : node.isEmbedded = true) (inserts : (walk.embed node).Yields past inserted events) :
    walk.Depicts [.embedded node] inserted.toList := by
  cases node with
  | image url alt title width height metadata => exact picture_depicts resolves inserts
  | _ =>
    simp only [embed, unmodelled, Traced.yields_bind_iff, Traced.yields_emit_iff,
      Traced.yields_pure_iff] at inserts
    obtain ⟨_, _, _, ⟨_, _, _, _, ⟨rfl, _⟩, _⟩, ⟨rfl, _⟩, _⟩ := inserts
    exact depicts_placeholder (by simp_all [Node.isEmbedded])

theorem reads_depict {leaves : List Leaf} {pieces : List Piece} {events : List Event}
    (reads : Reads walk.embed leaves pieces events) :
    walk.Depicts leaves (pieces.map Piece.inline) := by
  induction reads with
  | nil => exact .nil
  | text _ ih => exact ih
  | @embedded node inserted _ _ _ _ _ embedded inserts _ ih =>
    rw [List.map_append, Piece.inline_visuals]
    exact (embed_depicts resolves embedded inserts).append ih

theorem inline_depicts {content : List Node} {children : List Inline} {past events : List Event}
    (yields : (walk.inline content).Yields past children events) :
    walk.Depicts (Node.leavesOf content) children := by
  obtain ⟨pieces, reads, rfl⟩ := inline_reads yields
  have depicted := reads_depict resolves reads
  rw [Depicts, ← Piece.filter_map_runs Inline.picture? fun _ => rfl] at depicted
  rwa [Depicts, filter_map_relabel walk Inline.picture? (fun _ => rfl) fun _ => rfl]

theorem carries_pictures : walk.Carries fun leaves content _ => walk.Depicts leaves content where
  nothing := .nil
  append := Depicts.append
  inline := inline_depicts resolves
  code _ := .nil
  thematicBreak _ := .nil
  image := picture_depicts resolves
  unmodelled := depicts_placeholder

end

end Walk

theorem compile_pictures {walk : Walk} (resolves : walk.options.imageMode = .resolve)
    (strict : walk.options.isStrict = true) {document : Option Node} {past : List Event}
    {compiled : Compiled} (returned : ((compile walk document).after past).outcome = .ok compiled) :
    List.Forall₂ walk.Verifies (Node.imagesIn document.toList) compiled.tree.pictures := by
  rcases compile_eq_ok returned with ⟨rfl, rfl⟩ | ⟨_, _, _, _, rfl, compiles, rfl⟩
  · exact .nil
  · rw [Option.toList_some, Node.imagesIn, Node.block_leaves_of_singleton, Node.blockLeaves]
    exact (Walk.carries_pictures resolves).blocks strict compiles

def Walk.gallery : Walk :=
  { Walk.bare with
    files := ⟨"/docs", [("/docs/a b.png", ⟨.ok true, .ok true, .ok true, .ok (640, 480)⟩),
      ("/docs/c.raw", ⟨.ok true, .ok true, .ok true, .error .unidentifiedImage⟩)]⟩
    installation := ⟨["PIL"], [("Pillow", "11.1.0")]⟩ }

theorem Walk.gallery_measures :
    Walk.gallery.installation.require "image probe" Picture.probeRequirements = .ok ⟨⟩ :=
  Installation.measuring_meets

def Node.pictured : Node :=
  .document
    [.quote [.paragraph [.link "u" [.image "a%20b.png" "A" (some "t") (some 10) none []] none []] []] [],
      .document [.image "./c.raw" "" none none none []] [],
      .table none [.row [.cell [.image "c.raw" "C" none (some 1) (some 2) []] none []] false []] [] []] []

theorem compile_pictures_pictured :
    ∃ compiled, ((compile Walk.gallery (some Node.pictured)).after []).outcome = .ok compiled ∧
      compiled.tree.pictures = [⟨"/docs/a b.png", "A", some "t", some 10, some 480⟩,
        ⟨"/docs/c.raw", "", none, none, none⟩, ⟨"/docs/c.raw", "C", none, some 1, some 2⟩] ∧
      List.Forall₂ Walk.gallery.Verifies (Node.imagesIn [Node.pictured]) compiled.tree.pictures := by
  have returned : ((compile Walk.gallery (some Node.pictured)).after []).outcome =
      .ok ⟨⟨[.quote 1 [.passage 0 [.picture ⟨"/docs/a b.png", "A", some "t", some 10, some 480⟩]],
        .tree [.inline (.picture ⟨"/docs/c.raw", "", none, none, none⟩)],
        .table [none] [[[.picture ⟨"/docs/c.raw", "C", none, some 1, some 2⟩]]] none]⟩, [], []⟩ := by
    simp only [compile, Node.pictured, Walk.tree_eq, Walk.blocks, Walk.block, Walk.leaf, Walk.inline,
      resolve_eq_pieces, Node.piecesOf, Node.pieces, Node.embeddedPieces, Walk.embed, Walk.picture,
      Picture.load, Picture.dimensions, Picture.probe, Walk.gallery_measures]
    rfl
  exact ⟨_, returned, rfl, compile_pictures rfl rfl returned⟩

end MarkdownView
