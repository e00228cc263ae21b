import Mathlib.Data.List.Nodup
import MarkdownView.Proofs.Inline.Places
import MarkdownView.Proofs.Inline.Resolver
import MarkdownView.Proofs.Inline.Stretches
set_option autoImplicit false

namespace MarkdownView

abbrev Callback := Option (Node → Except Failure (Option Inline))

namespace Callback

def embed : Callback → Embed
  | none => Embed.placeholders
  | some answer => fun node => Traced.ofExcept (answer node)

def answer : Callback → Node → Except Failure (Option Inline)
  | none, node => .ok (some (.placeholder node.kind))
  | some answer, node => answer node

theorem embed_eq_answer (callback : Callback) (node : Node) :
    callback.embed node = Traced.ofExcept (callback.answer node) := by
  cases callback <;> rfl

end Callback

def Style.surrounding (style : Style) : Mark Place :=
  ⟨style.bold, style.italic, style.strike, style.code, style.linkTarget, none⟩

namespace Node

def visualAtoms (callback : Callback) (node : Node) : List (Atom Place) :=
  match callback.answer node with
  | .error _ => []
  | .ok inserted => inserted.toList.map .visual

mutual

def atoms (callback : Callback) (mark : Mark Place) (place : Place) : Node → List (Atom Place)
  | .text content _ => Atom.letters mark content
  | .emphasis content _ => atomsFrom callback { mark with italic := true } place 0 content
  | .strong content _ => atomsFrom callback { mark with bold := true } place 0 content
  | .strike content _ => atomsFrom callback { mark with strike := true } place 0 content
  | .code content _ => Atom.letters { mark with code := true } content
  | .link url content title _ =>
    let inner := { mark with linkTarget := url, link := some place }
    if content.isEmpty then Atom.letters inner (linkText url title)
    else atomsFrom callback inner place 0 content
  | .lineBreak soft _ => Atom.letters mark (breakText soft)
  | node => if node.isEmbedded then visualAtoms callback node else []
termination_by structural node => node

def atomsFrom (callback : Callback) (mark : Mark Place) (place : Place) (position : Nat) :
    List Node → List (Atom Place)
  | [] => []
  | node :: nodes =>
    atoms callback mark (place ++ [position]) node ++
      atomsFrom callback mark place (position + 1) nodes
termination_by structural nodes => nodes

end

mutual

def isReadable (callback : Callback) : Node → Bool
  | .text .. => true
  | .emphasis content _ => areReadable callback content
  | .strong content _ => areReadable callback content
  | .strike content _ => areReadable callback content
  | .code .. => true
  | .link _ content _ _ => areReadable callback content
  | .lineBreak .. => true
  | node => node.isEmbedded && (callback.answer node).isOk
termination_by structural node => node

def areReadable (callback : Callback) : List Node → Bool
  | [] => true
  | node :: nodes => isReadable callback node && areReadable callback nodes
termination_by structural nodes => nodes

end

end Node

def Names (name : Int → Place) : Nat → List Place → Prop
  | _, [] => True
  | links, place :: places =>
    name ((links + 1 : Nat) : Int) = place ∧ Names name (links + 1) places

theorem names_append {name : Int → Place} {links : Nat} {places more : List Place} :
    Names name links (places ++ more) ↔
      Names name links places ∧ Names name (links + places.length) more := by
  induction places generalizing links with
  | nil => simp [Names]
  | cons place places ih =>
    have shifted : links + 1 + places.length = links + (places.length + 1) := by omega
    simp [Names, ih, shifted, and_assoc]

structure ReadsAs (style : Style) (links : Nat) (places : List Place)
    (atoms : Mark Place → List (Atom Place)) (pieces : List Piece) : Prop where
  numbered : ∀ atom ∈ pieces.flatMap Piece.atoms, ∀ number ∈ atom.link?,
    number ∈ style.linkId ∨ (links : Int) < number ∧ number ≤ (links + places.length : Nat)
  renamed : ∀ name, Names name links places →
    (pieces.flatMap Piece.atoms).map (Atom.rename name) = atoms (style.mark.rename name)

inductive EndsAs (style : Style) (links : Nat) (places : List Place)
    (atoms : Mark Place → List (Atom Place)) : Bool → Ending (List Piece × Nat) → Prop where
  | read {pieces : List Piece} (reads : ReadsAs style links places atoms pieces) :
      EndsAs style links places atoms true ⟨.ok (pieces, links + places.length), []⟩
  | refused {failure : Failure} {events : List Event} :
      EndsAs style links places atoms false ⟨.error failure, events⟩

theorem rename_letters (name : Int → Place) (style : Style) (text : String) :
    (Atom.letters style.mark text).map (Atom.rename name) =
      Atom.letters (style.mark.rename name) text := by
  simp [Atom.letters, Atom.rename]

theorem reads_as_text (style : Style) (links : Nat) (text : String) :
    ReadsAs style links [] (fun mark => Atom.letters mark text) [.text style text] where
  numbered := by
    simp only [List.flatMap_singleton, Piece.atoms, Atom.letters, List.mem_map]
    rintro atom ⟨character, _, rfl⟩ number member
    exact .inl member
  renamed name _ := by
    simpa [Piece.atoms] using rename_letters name style text

theorem reads_as_visuals (style : Style) (links : Nat) (inserted : Option Inline) :
    ReadsAs style links [] (fun _ => inserted.toList.map .visual)
      (inserted.toList.map Piece.visual) where
  numbered := by cases inserted <;> simp [Piece.atoms, Atom.link?]
  renamed name _ := by cases inserted <;> rfl

theorem reads_as_append {style : Style} {links : Nat} {places more : List Place}
    {atoms others : Mark Place → List (Atom Place)} {pieces rest : List Piece}
    (first : ReadsAs style links places atoms pieces)
    (second : ReadsAs style (links + places.length) more others rest) :
    ReadsAs style links (places ++ more) (fun mark => atoms mark ++ others mark) (pieces ++ rest) where
  numbered := by
    intro atom member number numberMember
    rw [List.flatMap_append, List.mem_append] at member
    rw [List.length_append]
    rcases member with member | member
    · rcases first.numbered atom member number numberMember with outside | ⟨lower, upper⟩
      · exact .inl outside
      · exact .inr ⟨lower, by omega⟩
    · rcases second.numbered atom member number numberMember with outside | ⟨lower, upper⟩
      · exact .inl outside
      · exact .inr ⟨by omega, by omega⟩
  renamed name names := by
    obtain ⟨namesFirst, namesSecond⟩ := names_append.mp names
    rw [List.flatMap_append, List.map_append, first.renamed name namesFirst,
      second.renamed name namesSecond]

theorem reads_as_link {style : Style} {url : Option String} {links : Nat} {place : Place}
    {places : List Place} {atoms : Mark Place → List (Atom Place)} {pieces : List Piece}
    (inside : ReadsAs
      { style with linkTarget := url, linkId := some ((links + 1 : Nat) : Int) } (links + 1)
      places atoms pieces) :
    ReadsAs style links (place :: places)
      (fun mark => atoms { mark with linkTarget := url, link := some place }) pieces where
  numbered := by
    intro atom member number numberMember
    refine .inr ?_
    rw [List.length_cons]
    rcases inside.numbered atom member number numberMember with own | ⟨lower, upper⟩
    · have same : ((links + 1 : Nat) : Int) = number := by simpa using own
      omega
    · omega
  renamed name names := by
    obtain ⟨named, namesInside⟩ := names
    rw [inside.renamed name namesInside]
    simp [Style.mark, Mark.rename, ← named]

theorem EndsAs.restyled (style : Style) {inner : Style} {links : Nat} {places : List Place}
    {atoms : Mark Place → List (Atom Place)} {readable : Bool} {ending : Ending (List Piece × Nat)}
    (ends : EndsAs inner links places atoms readable ending) (restyle : Mark Place → Mark Place)
    (sameLink : inner.linkId = style.linkId)
    (commutes : ∀ name, inner.mark.rename name = restyle (style.mark.rename name)) :
    EndsAs style links places (fun mark => atoms (restyle mark)) readable ending := by
  cases ends with
  | refused => exact .refused
  | read reads =>
    refine .read ⟨fun atom member number numberMember => ?_, fun name names => ?_⟩
    · rw [← sameLink]
      exact reads.numbered atom member number numberMember
    · rw [reads.renamed name names, commutes]

theorem EndsAs.linked {style : Style} {url : Option String} {links : Nat} {place : Place}
    {places : List Place} {atoms : Mark Place → List (Atom Place)} {readable : Bool}
    {ending : Ending (List Piece × Nat)}
    (ends : EndsAs
      { style with linkTarget := url, linkId := some ((links + 1 : Nat) : Int) } (links + 1)
      places atoms readable ending) :
    EndsAs style links (place :: places)
      (fun mark => atoms { mark with linkTarget := url, link := some place }) readable
      ending := by
  cases ends with
  | refused => exact .refused
  | @read pieces reads =>
    have counted : links + 1 + places.length = links + (place :: places).length := by
      rw [List.length_cons]
      omega
    rw [counted]
    exact .read (reads_as_link reads)

namespace Node

theorem embedded_pieces_ends_as (callback : Callback) (style : Style) (links : Nat) (node : Node)
    (past : List Event) :
    EndsAs style links [] (fun _ => visualAtoms callback node) (callback.answer node).isOk
      ((embeddedPieces callback.embed links node).after past) := by
  rw [embeddedPieces, Callback.embed_eq_answer]
  cases answered : callback.answer node with
  | error failure =>
    rw [Traced.after_bind_of_fails (Traced.fails_of_except_iff.mpr ⟨rfl, rfl⟩)]
    exact .refused
  | ok inserted =>
    rw [Traced.after_bind_of_yields (Traced.yields_of_except_iff.mpr ⟨rfl, rfl⟩)]
    simp only [Traced.after_pure, List.append_nil, visualAtoms, answered]
    exact .read (reads_as_visuals style links inserted)

theorem pieces_of_cons_ends_as {callback : Callback} {style : Style} {links : Nat} {node : Node}
    {nodes : List Node} {place : Place} {position : Nat} {past : List Event}
    (first : EndsAs style links (linkPlaces (place ++ [position]) node)
      (fun mark => atoms callback mark (place ++ [position]) node) (isReadable callback node)
      ((pieces callback.embed style links node).after past))
    (rest : ∀ (links : Nat) (past : List Event),
      EndsAs style links (linkPlacesFrom place (position + 1) nodes)
        (fun mark => atomsFrom callback mark place (position + 1) nodes)
        (areReadable callback nodes) ((piecesOf callback.embed style links nodes).after past)) :
    EndsAs style links (linkPlacesFrom place position (node :: nodes))
      (fun mark => atomsFrom callback mark place position (node :: nodes))
      (areReadable callback (node :: nodes))
      ((piecesOf callback.embed style links (node :: nodes)).after past) := by
  simp only [piecesOf, linkPlacesFrom, atomsFrom, areReadable]
  -- The rest is read from the number on that the links of the first node end at.
  generalize read : (pieces callback.embed style links node).after past = ending at first
  generalize isReadable callback node = readable at first
  cases first with
  | refused =>
    rw [Traced.after_bind_of_fails read]
    exact .refused
  | read reads =>
    rw [Traced.after_bind_of_yields read]
    have restEnds := rest (links + (linkPlaces (place ++ [position]) node).length) past
    generalize restRead : (piecesOf callback.embed style
      (links + (linkPlaces (place ++ [position]) node).length) nodes).after past =
        restEnding at restEnds
    generalize areReadable callback nodes = restReadable at restEnds
    cases restEnds with
    | refused =>
      simp only [List.reverseAux_nil]
      rw [Traced.after_bind_of_fails restRead]
      exact .refused
    | read restReads =>
      simp only [List.reverseAux_nil]
      rw [Traced.after_bind_of_yields restRead]
      simp only [Traced.after_pure, List.append_nil, Nat.add_assoc, ← List.length_append]
      exact .read (reads_as_append reads restReads)

mutual

theorem pieces_ends_as (callback : Callback) (style : Style) (links : Nat) (place : Place)
    (node : Node) (past : List Event) :
    EndsAs style links (linkPlaces place node) (fun mark => atoms callback mark place node)
      (isReadable callback node) ((pieces callback.embed style links node).after past) := by
  cases node with
  | text content metadata => exact .read (reads_as_text style links content)
  | lineBreak soft metadata => exact .read (reads_as_text style links (breakText soft))
  | code content metadata =>
    have ends := EndsAs.read (reads_as_text { style with code := true } links content)
    simp only [linkPlaces, atoms, isReadable, pieces]
    exact ends.restyled style (fun mark => { mark with code := true }) rfl fun _ => rfl
  | emphasis content metadata =>
    have ends := pieces_of_ends_as callback { style with italic := true } links place 0 content past
    simp only [linkPlaces, atoms, isReadable, pieces]
    exact ends.restyled style (fun mark => { mark with italic := true }) rfl fun _ => rfl
  | strong content metadata =>
    have ends := pieces_of_ends_as callback { style with bold := true } links place 0 content past
    simp only [linkPlaces, atoms, isReadable, pieces]
    exact ends.restyled style (fun mark => { mark with bold := true }) rfl fun _ => rfl
  | strike content metadata =>
    have ends := pieces_of_ends_as callback { style with strike := true } links place 0 content past
    simp only [linkPlaces, atoms, isReadable, pieces]
    exact ends.restyled style (fun mark => { mark with strike := true }) rfl fun _ => rfl
  | link url content title metadata =>
    cases content with
    | nil => exact .linked (.read (reads_as_text _ (links + 1) (linkText url title)))
    | cons node nodes =>
      exact .linked (pieces_of_ends_as callback
        { style with linkTarget := url, linkId := some ((links + 1 : Nat) : Int) } (links + 1)
        place 0 (node :: nodes) past)
  | image url alt title width height metadata =>
    exact embedded_pieces_ends_as callback style links _ past
  | htmlBlock content metadata => exact embedded_pieces_ends_as callback style links _ past
  | htmlInline content metadata => exact embedded_pieces_ends_as callback style links _ past
  | mathBlock content metadata => exact embedded_pieces_ends_as callback style links _ past
  | mathInline content metadata => exact embedded_pieces_ends_as callback style links _ past
  | footnoteReference identifier metadata =>
    exact embedded_pieces_ends_as callback style links _ past
  | footnoteDefinition identifier content metadata =>
    exact embedded_pieces_ends_as callback style links _ past
  | extension tag isInline children raw metadata =>
    exact embedded_pieces_ends_as callback style links _ past
  | _ => exact .refused
termination_by structural node

theorem pieces_of_ends_as (callback : Callback) (style : Style) (links : Nat) (place : Place)
    (position : Nat) (nodes : List Node) (past : List Event) :
    EndsAs style links (linkPlacesFrom place position nodes)
      (fun mark => atomsFrom callback mark place position nodes) (areReadable callback nodes)
      ((piecesOf callback.embed style links nodes).after past) := by
  cases nodes with
  | nil => exact .read ⟨by simp, fun _ _ => rfl⟩
  | cons node nodes =>
    exact pieces_of_cons_ends_as (pieces_ends_as callback style links _ node past)
      fun links past => pieces_of_ends_as callback style links place (position + 1) nodes past
termination_by structural nodes

end

end Node

def placeNumbered (links : Nat) (places : List Place) (number : Int) : Place :=
  (places[(number - links - 1).toNat]?).getD []

theorem names_place_numbered {places : List Place} {name : Int → Place} {links : Nat}
    (listed : ∀ position (inside : position < places.length),
      name ((links + position + 1 : Nat) : Int) = places[position]) : Names name links places := by
  induction places generalizing links with
  | nil => trivial
  | cons place places ih =>
    refine ⟨listed 0 (by simp), ih fun position inside => ?_⟩
    have next := listed (position + 1) (by simpa using inside)
    rw [← Nat.add_assoc, Nat.add_right_comm links position 1] at next
    simpa using next

theorem place_numbered_eq (links : Nat) (places : List Place) {position : Nat}
    (inside : position < places.length) :
    placeNumbered links places ((links + position + 1 : Nat) : Int) = places[position] := by
  have back : (((links + position + 1 : Nat) : Int) - links - 1).toNat = position := by omega
  rw [placeNumbered, back, List.getElem?_eq_getElem inside, Option.getD_some]

theorem place_numbered_injective {links : Nat} {places : List Place} (nodup : places.Nodup)
    {first second : Int} (firstInside : links < first ∧ first ≤ (links + places.length : Nat))
    (secondInside : links < second ∧ second ≤ (links + places.length : Nat))
    (same : placeNumbered links places first = placeNumbered links places second) :
    first = second := by
  obtain ⟨position, rfl⟩ : ∃ position : Nat, first = (links + position + 1 : Nat) :=
    ⟨(first - links - 1).toNat, by omega⟩
  obtain ⟨other, rfl⟩ : ∃ other : Nat, second = (links + other + 1 : Nat) :=
    ⟨(second - links - 1).toNat, by omega⟩
  have inside : position < places.length := by omega
  have otherInside : other < places.length := by omega
  rw [place_numbered_eq links places inside, place_numbered_eq links places otherInside,
    List.Nodup.getElem_inj_iff nodup] at same
  rw [same]

theorem ReadsAs.runs_eq_grouped {style : Style} {links : Nat} {places : List Place}
    {atoms : Mark Place → List (Atom Place)} {pieces : List Piece}
    (reads : ReadsAs style links places atoms pieces) (unlinked : style.linkId = none)
    (nodup : places.Nodup) : Piece.runs pieces = Atom.grouped (atoms style.surrounding) := by
  have numbered : ∀ atom ∈ pieces.flatMap Piece.atoms, ∀ number ∈ atom.link?,
      links < number ∧ number ≤ (links + places.length : Nat) := by
    intro atom member number numberMember
    rcases reads.numbered atom member number numberMember with outside | inside
    · simp [unlinked] at outside
    · exact inside
  -- Outside of the links of the content there is none, so every number stands for a place.
  have names : Names (placeNumbered links places) links places :=
    names_place_numbered fun position inside => place_numbered_eq links places inside
  have outsideLinks : style.mark.rename (placeNumbered links places) = style.surrounding := by
    simp [Style.mark, Mark.rename, Style.surrounding, unlinked]
  rw [Piece.runs_eq_grouped, ← outsideLinks, ← reads.renamed _ names, Atom.grouped_rename]
  intro first firstMember second secondMember number numberMember other otherMember same
  exact place_numbered_injective nodup (numbered first firstMember number numberMember)
    (numbered second secondMember other otherMember) same

-- Inline content resolves exactly when it is readable, and then to the runs of maximal stretches of
-- its letters, with the visual nodes between them.
theorem resolve_eq_ok_iff (callback : Callback) (style : Style) (unlinked : style.linkId = none)
    (content : List Node) (past : List Event) (output : List Inline) :
    ((resolve callback.embed style content).after past).outcome = .ok output ↔
      Node.areReadable callback content = true ∧
        output = Atom.grouped (Node.atomsFrom callback style.surrounding [] 0 content) := by
  rw [resolve_eq_pieces]
  have ends := Node.pieces_of_ends_as callback style 0 [] 0 content past
  generalize read : (Node.piecesOf callback.embed style 0 content).after past = ending at ends
  generalize Node.areReadable callback content = readable at ends
  cases ends with
  | refused =>
    rw [Traced.after_bind_of_fails read]
    simp
  | read reads =>
    rw [Traced.after_bind_of_yields read]
    simp [reads.runs_eq_grouped unlinked (Node.link_places_from_nodup [] 0 content), eq_comm]

theorem resolve_neighbouring_links :
    Style.plain.linkId = none ∧
      ((resolve (Callback.embed none) Style.plain
        [.text "a" [], .emphasis [.text "b" [], .link "u" [] none []] [],
          .link "u" [.lineBreak true [], .htmlInline "h" []] none []]).after []).outcome =
        .ok [.run ⟨"a", false, false, false, false, none⟩,
          .run ⟨"b", false, true, false, false, none⟩,
          .run ⟨"u", false, true, false, false, some "u"⟩,
          .run ⟨" ", false, false, false, false, some "u"⟩, .placeholder "inline_html"] :=
  ⟨rfl, (resolve_eq_ok_iff none Style.plain rfl _ [] _).mpr ⟨rfl, by decide⟩⟩

end MarkdownView
