import MarkdownView.Proofs.Inline.Reference
set_option autoImplicit false

namespace MarkdownView

def linkNumbered? (places : List Place) (number : Int) : Option Place :=
  if 1 ≤ number then places[(number - 1).toNat]? else none

def linkNumbered (places : List Place) (number : Int) : Place := (linkNumbered? places number).getD []

namespace Style

def claimed? (style : Style) (content : List Node) : Option Place :=
  style.linkId.bind (linkNumbered? (Node.linkPlacesFrom [] 0 content))

def occurrence? (style : Style) (content : List Node) : Option Place :=
  style.linkId.map (linkNumbered (Node.linkPlacesFrom [] 0 content))

end Style

theorem link_numbered?_eq_some_iff {places : List Place} {number : Int} {place : Place} :
    linkNumbered? places number = some place ↔
      ∃ position : Nat, number = (position + 1 : Nat) ∧ places[position]? = some place := by
  rw [linkNumbered?]
  constructor
  · intro found
    split at found
    case isTrue positive => exact ⟨(number - 1).toNat, by omega, found⟩
    case isFalse => cases found
  · rintro ⟨position, rfl, found⟩
    have back : (((position + 1 : Nat) : Int) - 1).toNat = position := by omega
    rw [if_pos (by omega), back, found]

theorem mem_of_link_numbered? {places : List Place} {number : Int} {place : Place}
    (found : linkNumbered? places number = some place) : place ∈ places := by
  obtain ⟨position, _, atPosition⟩ := link_numbered?_eq_some_iff.mp found
  exact List.mem_of_getElem? atPosition

theorem link_numbered?_is_some {places : List Place} {number : Int}
    (inside : 0 < number ∧ number ≤ places.length) :
    ∃ place, linkNumbered? places number = some place := by
  have listed : (number - 1).toNat < places.length := by omega
  exact ⟨_, link_numbered?_eq_some_iff.mpr
    ⟨(number - 1).toNat, by omega, List.getElem?_eq_getElem listed⟩⟩

theorem link_numbered?_injective {places : List Place} (nodup : places.Nodup) {first second : Int}
    {place : Place} (firstFound : linkNumbered? places first = some place)
    (secondFound : linkNumbered? places second = some place) : first = second := by
  obtain ⟨position, rfl, atPosition⟩ := link_numbered?_eq_some_iff.mp firstFound
  obtain ⟨other, rfl, atOther⟩ := link_numbered?_eq_some_iff.mp secondFound
  obtain ⟨inside, rfl⟩ := List.getElem?_eq_some_iff.mp atPosition
  have same := (List.getElem?_inj inside nodup).mp ((List.getElem?_eq_getElem inside).trans atOther.symm)
  rw [same]

theorem Node.nil_not_mem_link_places_from (content : List Node) : [] ∉ linkPlacesFrom [] 0 content := by
  intro member
  obtain ⟨position, _, below⟩ := link_places_from_below [] 0 content [] member
  have longer := below.length_le
  simp at longer

theorem names_link_numbered (places : List Place) : Names (linkNumbered places) 0 places := by
  refine names_place_numbered fun position inside => ?_
  have found : linkNumbered? places ((0 + position + 1 : Nat) : Int) = some places[position] :=
    link_numbered?_eq_some_iff.mpr ⟨position, by omega, List.getElem?_eq_getElem inside⟩
  rw [linkNumbered, found, Option.getD_some]

theorem link_numbered_injective {places : List Place} (nodup : places.Nodup) (below : [] ∉ places)
    {outside? : Option Int} {first second : Int}
    (firstKnown : first ∈ outside? ∨ 0 < first ∧ first ≤ places.length)
    (secondKnown : second ∈ outside? ∨ 0 < second ∧ second ≤ places.length)
    (same : linkNumbered places first = linkNumbered places second) : first = second := by
  rw [linkNumbered, linkNumbered] at same
  have outside {number : Int} (known : number ∈ outside? ∨ 0 < number ∧ number ≤ places.length)
      (missing : linkNumbered? places number = none) : number ∈ outside? := by
    refine known.resolve_right fun inside => ?_
    obtain ⟨place, found⟩ := link_numbered?_is_some inside
    exact nomatch missing.symm.trans found
  cases firstFound : linkNumbered? places first with
  | some place =>
    cases secondFound : linkNumbered? places second with
    | some other =>
      rw [firstFound, secondFound, Option.getD_some, Option.getD_some] at same
      exact link_numbered?_injective nodup firstFound (same ▸ secondFound)
    | none =>
      rw [firstFound, secondFound, Option.getD_some, Option.getD_none] at same
      exact absurd (same ▸ mem_of_link_numbered? firstFound) below
  | none =>
    cases secondFound : linkNumbered? places second with
    | some other =>
      rw [firstFound, secondFound, Option.getD_some, Option.getD_none] at same
      exact absurd (same ▸ mem_of_link_numbered? secondFound) below
    | none =>
      have firstOutside := outside firstKnown firstFound
      have secondOutside := outside secondKnown secondFound
      exact Option.some.inj (firstOutside.symm.trans secondOutside)

theorem ReadsAs.runs_eq_grouped_around {style : Style} {places : List Place}
    {atoms : Mark Place → List (Atom Place)} {pieces : List Piece}
    (reads : ReadsAs style 0 places atoms pieces) (nodup : places.Nodup) (below : [] ∉ places) :
    Piece.runs pieces =
      Atom.grouped (atoms { style.surrounding with link := style.linkId.map (linkNumbered places) }) := by
  have known : ∀ atom ∈ pieces.flatMap Piece.atoms, ∀ number ∈ atom.link?,
      number ∈ style.linkId ∨ 0 < number ∧ number ≤ places.length := by
    intro atom member number numberMember
    simpa using reads.numbered atom member number numberMember
  have renamed := reads.renamed _ (names_link_numbered places)
  have around : style.mark.rename (linkNumbered places) =
      { style.surrounding with link := style.linkId.map (linkNumbered places) } := rfl
  rw [Piece.runs_eq_grouped, ← around, ← renamed, Atom.grouped_rename]
  intro first firstMember second secondMember number numberMember other otherMember same
  exact link_numbered_injective nodup below (known first firstMember number numberMember)
    (known second secondMember other otherMember) same

theorem resolve_eq_ok_iff_around (callback : Callback) (style : Style) (content : List Node)
    (past : List Event) (output : List Inline) :
    ((resolve callback.embed style content).after past).outcome = .ok output ↔
      Node.areReadable callback content = true ∧
        output = Atom.grouped (Node.atomsFrom callback
          { style.surrounding with link := style.occurrence? content } [] 0 content) := by
  rw [resolve_eq_pieces]
  have ends := Node.pieces_of_ends_as callback style 0 [] 0 content past
  generalize read : (Node.piecesOf callback.embed style 0 content).after past = ending at ends
  generalize Node.areReadable callback content = readable at ends
  cases ends with
  | refused =>
    rw [Traced.after_bind_of_fails read]
    simp
  | read reads =>
    have runs := reads.runs_eq_grouped_around (Node.link_places_from_nodup [] 0 content)
      (Node.nil_not_mem_link_places_from content)
    rw [Traced.after_bind_of_yields read]
    simp [runs, Style.occurrence?, eq_comm]

namespace Atom

def around (place? : Option Place) : Atom Place → Atom Place
  | .letter mark character => .letter { mark with link := mark.link.or place? } character
  | .visual inserted => .visual inserted

def joinsAround (place? : Option Place) (first second : Atom Place) : Bool :=
  joins (first.around place?) (second.around place?)

theorem letters_around (place? : Option Place) (mark : Mark Place) (text : String) :
    (letters mark text).map (around place?) = letters { mark with link := mark.link.or place? } text := by
  simp [letters, around]

theorem stretch_around (place? : Option Place) (atoms : List (Atom Place)) :
    stretch (atoms.map (around place?)) = stretch atoms := by
  have kept : character? ∘ around place? = character? := by
    funext atom
    cases atom <;> rfl
  cases atoms with
  | nil => rfl
  | cons atom rest =>
    cases atom with
    | visual inserted => rfl
    | letter mark character =>
      simp only [List.map_cons, around, stretch, List.filterMap_map, kept]
      rfl

theorem grouped_around (place? : Option Place) (atoms : List (Atom Place)) :
    grouped (atoms.map (around place?)) = (atoms.splitBy (joinsAround place?)).flatMap stretch := by
  have split := split_by_map (around place?) (joinsAround place?) joins atoms fun _ _ _ _ => rfl
  rw [grouped, split, List.flatMap_map]
  simp only [stretch_around]

end Atom

namespace Node

theorem visual_atoms_around (callback : Callback) (place? : Option Place) (node : Node) :
    (visualAtoms callback node).map (Atom.around place?) = visualAtoms callback node := by
  rw [visualAtoms]
  cases callback.answer node with
  | error failure => rfl
  | ok inserted => cases inserted <;> rfl

mutual

theorem atoms_around (callback : Callback) (place? : Option Place) (mark : Mark Place) (place : Place)
    (node : Node) :
    atoms callback { mark with link := mark.link.or place? } place node =
      (atoms callback mark place node).map (Atom.around place?) := by
  cases node with
  | text content metadata => exact (Atom.letters_around place? mark content).symm
  | lineBreak soft metadata => exact (Atom.letters_around place? mark _).symm
  | code content metadata => exact (Atom.letters_around place? { mark with code := true } content).symm
  | emphasis content metadata =>
    exact atoms_from_around callback place? { mark with italic := true } place 0 content
  | strong content metadata =>
    exact atoms_from_around callback place? { mark with bold := true } place 0 content
  | strike content metadata =>
    exact atoms_from_around callback place? { mark with strike := true } place 0 content
  | link url content title metadata =>
    cases content with
    | nil =>
      exact (Atom.letters_around place? { mark with linkTarget := url, link := some place } _).symm
    | cons node nodes =>
      exact atoms_from_around callback place? { mark with linkTarget := url, link := some place } place
        0 (node :: nodes)
  | image url alt title width height metadata => exact (visual_atoms_around callback place? _).symm
  | htmlBlock content metadata => exact (visual_atoms_around callback place? _).symm
  | htmlInline content metadata => exact (visual_atoms_around callback place? _).symm
  | mathBlock content metadata => exact (visual_atoms_around callback place? _).symm
  | mathInline content metadata => exact (visual_atoms_around callback place? _).symm
  | footnoteReference identifier metadata => exact (visual_atoms_around callback place? _).symm
  | footnoteDefinition identifier content metadata => exact (visual_atoms_around callback place? _).symm
  | extension tag isInline children raw metadata => exact (visual_atoms_around callback place? _).symm
  | _ => rfl
termination_by structural node

theorem atoms_from_around (callback : Callback) (place? : Option Place) (mark : Mark Place) (place : Place)
    (position : Nat) (nodes : List Node) :
    atomsFrom callback { mark with link := mark.link.or place? } place position nodes =
      (atomsFrom callback mark place position nodes).map (Atom.around place?) := by
  cases nodes with
  | nil => rfl
  | cons node nodes =>
    rw [atomsFrom, atomsFrom, List.map_append, atoms_around callback place? mark _ node,
      atoms_from_around callback place? mark place (position + 1) nodes]
termination_by structural nodes

end

end Node

namespace Atom

variable {ν : Type}

inductive Spells : List (Atom ν) → Inline → Prop where
  | run {run : Run} {letters : List (Mark ν × Char)} (someLetter : letters ≠ [])
      (styled : ∀ letter ∈ letters, letter.1.run run.text = run)
      (spelled : letters.map Prod.snd = run.text.toList) :
      Spells (letters.map fun letter => .letter letter.1 letter.2) (.run run)
  | visual (inserted : Inline) : Spells [.visual inserted] inserted

-- A cut of what content reads as into the shares of the items of an output.
structure Cut (atoms : List (Atom ν)) (output : List Inline) (shares : List (List (Atom ν))) : Prop where
  whole : shares.flatten = atoms
  spell : List.Forall₂ Spells shares output

theorem Spells.length_eq {share other : List (Atom ν)} {item : Inline} (spells : Spells share item)
    (otherSpells : Spells other item) (sameHead : share.head? = other.head?) :
    share.length = other.length := by
  cases spells with
  | run someLetter _ spelled =>
    cases otherSpells with
    | run _ _ otherSpelled =>
      have sameLength := congrArg List.length (spelled.trans otherSpelled.symm)
      simpa using sameLength
    | visual inserted =>
      obtain ⟨letter, letters, rfl⟩ := List.exists_cons_of_ne_nil someLetter
      cases sameHead
  | visual inserted =>
    cases otherSpells with
    | run someLetter _ _ =>
      obtain ⟨letter, letters, rfl⟩ := List.exists_cons_of_ne_nil someLetter
      cases sameHead
    | visual => rfl

theorem Spells.ne_nil {share : List (Atom ν)} {item : Inline} (spells : Spells share item) : share ≠ [] := by
  cases spells with
  | run someLetter _ _ => simpa using someLetter
  | visual inserted => exact List.cons_ne_nil _ _

theorem Cut.unique {atoms : List (Atom ν)} {output : List Inline} {shares others : List (List (Atom ν))}
    (cut : Cut atoms output shares) (otherCut : Cut atoms output others) : shares = others := by
  induction output generalizing atoms shares others with
  | nil =>
    cases cut.spell
    cases otherCut.spell
    rfl
  | cons item output ih =>
    obtain ⟨rfl, spell⟩ := cut
    obtain ⟨sameWhole, otherSpell⟩ := otherCut
    cases spell with
    | @cons share _ shares _ first rest =>
      cases otherSpell with
      | @cons other _ others _ otherFirst otherRest =>
        rw [List.flatten_cons, List.flatten_cons] at sameWhole
        have sameHead : share.head? = other.head? := by
          rw [← List.head?_append_of_ne_nil share first.ne_nil, ← sameWhole,
            List.head?_append_of_ne_nil other otherFirst.ne_nil]
        obtain ⟨rfl, sameRest⟩ := List.append_inj sameWhole.symm (first.length_eq otherFirst sameHead)
        rw [ih ⟨rfl, rest⟩ ⟨sameRest.symm, otherRest⟩]

theorem letters_of_chain {place? : Option Place} {mark : Mark Place} {character : Char}
    {rest : List (Atom Place)}
    (chain : (letter mark character :: rest).IsChain fun atom next => joinsAround place? atom next = true) :
    ∃ letters : List (Mark Place × Char), rest = letters.map (fun letter => .letter letter.1 letter.2) ∧
      ∀ letter ∈ letters, ∀ text, letter.1.run text = mark.run text := by
  induction rest generalizing mark character with
  | nil => exact ⟨[], rfl, fun _ member => nomatch member⟩
  | cons next rest ih =>
    obtain ⟨joined, restChain⟩ := List.isChain_cons_cons.mp chain
    cases next with
    | visual inserted => cases joined
    | letter other nextCharacter =>
      obtain ⟨letters, rfl, styled⟩ := ih restChain
      have sameMarks := of_decide_eq_true joined
      have sameRun (text : String) : other.run text = mark.run text := by
        simp only [Mark.mk.injEq] at sameMarks
        simp only [Mark.run, sameMarks]
      refine ⟨(other, nextCharacter) :: letters, rfl, List.forall_mem_cons.mpr ⟨sameRun, ?_⟩⟩
      exact fun letter member text => (styled letter member text).trans (sameRun text)

theorem stretch_spells {place? : Option Place} {group : List (Atom Place)} (someAtom : group ≠ [])
    (chain : group.IsChain fun atom next => joinsAround place? atom next = true) :
    ∃ item, stretch group = [item] ∧ Spells group item := by
  obtain ⟨atom, rest, rfl⟩ := List.exists_cons_of_ne_nil someAtom
  cases atom with
  | visual inserted =>
    cases rest with
    | nil => exact ⟨inserted, rfl, .visual inserted⟩
    | cons next rest => cases (List.isChain_cons_cons.mp chain).1
  | letter mark character =>
    obtain ⟨letters, rfl, styled⟩ := letters_of_chain chain
    have spelled : (letters.map fun letter => Atom.letter letter.1 letter.2).filterMap character? =
        letters.map Prod.snd := by
      rw [List.filterMap_map, ← List.filterMap_eq_map]
      rfl
    refine ⟨_, rfl, ?_⟩
    have whole : Spells (((mark, character) :: letters).map fun letter => Atom.letter letter.1 letter.2)
        (.run (mark.run (String.ofList (character :: letters.map Prod.snd)))) :=
      .run (List.cons_ne_nil _ _) (List.forall_mem_cons.mpr ⟨rfl, fun letter member => styled letter member _⟩)
        (String.toList_ofList).symm
    rw [spelled]
    exact whole

theorem cut_of_groups (place? : Option Place) (atoms : List (Atom Place)) :
    Cut atoms (grouped (atoms.map (around place?))) (atoms.splitBy (joinsAround place?)) := by
  have each : ∀ group ∈ atoms.splitBy (joinsAround place?),
      ∃ item, stretch group = [item] ∧ Spells group item := fun group member =>
    stretch_spells (List.ne_nil_of_mem_splitBy member) (List.isChain_of_mem_splitBy member)
  refine ⟨List.flatten_splitBy _ _, ?_⟩
  rw [grouped_around]
  generalize atoms.splitBy (joinsAround place?) = groups at each
  induction groups with
  | nil => exact .nil
  | cons group groups ih =>
    obtain ⟨⟨item, amounts, spells⟩, restEach⟩ := List.forall_mem_cons.mp each
    rw [List.flatMap_cons, amounts]
    exact .cons spells (ih restEach)

theorem uniform_split_by_iff {α β : Type} (related : α → α → Bool) (name : α → β) (list : List α) :
    (∀ group ∈ list.splitBy related, ∀ a ∈ group, ∀ b ∈ group, name a = name b) ↔
      list.IsChain fun a b => related a b = true → name a = name b := by
  constructor
  · intro uniform
    rw [← List.flatten_splitBy related list, List.isChain_flatten (List.nil_notMem_splitBy related list)]
    constructor
    · intro group member
      refine (List.pairwise_of_forall_mem_list fun a aMember b bMember _ => ?_).isChain
      exact uniform group member a aMember b bMember
    · refine (List.isChain_getLast_head_splitBy related list).imp fun group next between => ?_
      obtain ⟨groupNonempty, nextNonempty, unrelated⟩ := between
      intro last lastMember first firstMember joined
      obtain rfl := Option.some.inj ((List.getLast?_eq_some_getLast groupNonempty).symm.trans lastMember)
      obtain rfl := Option.some.inj ((List.head?_eq_some_head nextNonempty).symm.trans firstMember)
      exact Bool.noConfusion (unrelated.symm.trans joined)
  · intro chain group member
    rw [← List.flatten_splitBy related list, List.isChain_flatten (List.nil_notMem_splitBy related list)]
      at chain
    have joined := List.isChain_of_mem_splitBy member
    -- Inside a group every two neighbours belong together, so each has the name of the next.
    have same : (group.map name).IsChain Eq := by
      rw [List.isChain_map, List.isChain_iff_getElem]
      exact fun index inside => (chain.1 group member).getElem index inside (joined.getElem index inside)
    exact fun a aMember b bMember => same.pairwise.forall_of_forall (fun _ _ => rfl)
      (List.mem_map_of_mem aMember) (List.mem_map_of_mem bMember)

-- Neighbours in different links that are taken for letters of one link: one of them is in this link, the
-- other in none, and they are alike in everything else.
def Blurs (place : Place) : Atom Place → Atom Place → Prop
  | .letter mark _, .letter other _ =>
    (mark.link = none ∧ other = { mark with link := some place }) ∨
      (other.link = none ∧ mark = { other with link := some place })
  | _, _ => False

theorem joins_around_of_blurs {place : Place} {first second : Atom Place} (blurs : first.Blurs place second) :
    joinsAround (some place) first second = true ∧ first.link? ≠ second.link? := by
  cases first with
  | visual inserted => cases blurs
  | letter mark character =>
    cases second with
    | visual inserted => cases blurs
    | letter other nextCharacter =>
      rcases blurs with ⟨outside, rfl⟩ | ⟨outside, rfl⟩ <;>
        simp [joinsAround, around, joins, link?, outside]

theorem blurs_of_joins_around {place? : Option Place} {first second : Atom Place}
    (joined : joinsAround place? first second = true) (different : first.link? ≠ second.link?) :
    ∃ place ∈ place?, first.Blurs place second := by
  cases first with
  | visual inserted => cases joined
  | letter mark character =>
    cases second with
    | visual inserted => cases joined
    | letter other nextCharacter =>
      rcases mark with ⟨bold, italic, strike, code, linkTarget, link⟩
      rcases other with ⟨bold', italic', strike', code', linkTarget', link'⟩
      have sameMarks := of_decide_eq_true joined
      simp only [Mark.mk.injEq] at sameMarks
      obtain ⟨rfl, rfl, rfl, rfl, rfl, sameLink⟩ := sameMarks
      cases link with
      | none =>
        cases link' with
        | none => exact absurd rfl different
        | some place => exact ⟨place, sameLink, .inl ⟨rfl, rfl⟩⟩
      | some place =>
        cases link' with
        | none => exact ⟨place, sameLink.symm, .inr ⟨rfl, rfl⟩⟩
        | some place' => exact absurd sameLink different

theorem blurs_iff (place? : Option Place) (first second : Atom Place) :
    (joinsAround place? first second = true → first.link? = second.link?) ↔
      ∀ place ∈ place?, ¬ first.Blurs place second := by
  constructor
  · rintro same place rfl blurs
    obtain ⟨joined, different⟩ := joins_around_of_blurs blurs
    exact different (same joined)
  · intro apart joined
    refine Classical.byContradiction fun different => ?_
    obtain ⟨place, placeAround, blurs⟩ := blurs_of_joins_around joined different
    exact apart place placeAround blurs

theorem link_of_blurs {place : Place} {first second : Atom Place} (blurs : first.Blurs place second) :
    place ∈ first.link? ∨ place ∈ second.link? := by
  cases first with
  | visual inserted => cases blurs
  | letter mark character =>
    cases second with
    | visual inserted => cases blurs
    | letter other nextCharacter =>
      rcases blurs with ⟨_, rfl⟩ | ⟨_, rfl⟩
      · exact .inr rfl
      · exact .inl rfl

end Atom

namespace Style

theorem occurrence?_of_claimed? {style : Style} {content : List Node} {place : Place}
    (claimed : place ∈ style.claimed? content) : place ∈ style.occurrence? content := by
  obtain ⟨number, named, found⟩ := Option.bind_eq_some_iff.mp claimed
  refine Option.map_eq_some_iff.mpr ⟨number, named, ?_⟩
  rw [linkNumbered, found, Option.getD_some]

theorem claimed?_of_occurrence? {style : Style} {content : List Node} {place : Place}
    (occurrence : place ∈ style.occurrence? content) : place ∈ style.claimed? content ∨ place = [] := by
  obtain ⟨number, named, rfl⟩ := Option.map_eq_some_iff.mp occurrence
  rw [linkNumbered]
  cases found : linkNumbered? (Node.linkPlacesFrom [] 0 content) number with
  | none => exact .inr rfl
  | some place => exact .inl (Option.bind_eq_some_iff.mpr ⟨number, named, found⟩)

end Style

theorem link_of_readable {callback : Callback} {content : List Node}
    (readable : Node.areReadable callback content = true) (style : Style) :
    ∀ atom ∈ Node.atomsFrom callback style.surrounding [] 0 content, ∀ place ∈ atom.link?,
      place ∈ Node.linkPlacesFrom [] 0 content := by
  have ends := Node.pieces_of_ends_as callback { style with linkId := none } 0 [] 0 content []
  generalize (Node.piecesOf callback.embed { style with linkId := none } 0 content).after [] = ending at ends
  rw [readable] at ends
  cases ends with
  | read reads =>
    have renamed := reads.renamed _ (names_link_numbered (Node.linkPlacesFrom [] 0 content))
    have unlinked : ({ style with linkId := none } : Style).mark.rename
        (linkNumbered (Node.linkPlacesFrom [] 0 content)) = style.surrounding := rfl
    rw [unlinked] at renamed
    rw [← renamed]
    intro atom member place placeMember
    obtain ⟨numbered, numberedMember, rfl⟩ := List.mem_map.mp member
    cases numbered with
    | visual inserted => cases placeMember
    | letter mark character =>
      obtain ⟨number, numberMember, rfl⟩ := Option.map_eq_some_iff.mp placeMember
      rcases reads.numbered _ numberedMember number numberMember with outside | inside
      · cases outside
      · obtain ⟨place, found⟩ := link_numbered?_is_some (by simpa using inside)
        rw [linkNumbered, found, Option.getD_some]
        exact mem_of_link_numbered? found

-- Cut the letters of the content, each with the innermost link around it or with none, by the runs that
-- they come to. No run holds letters of two links, nor of a link and of none, exactly if at no place
-- letters outside of all links stand beside letters, of the same style otherwise, of the link whose
-- number the style around the content names.
theorem resolve_apart_iff (callback : Callback) (style : Style) (content : List Node) (past : List Event)
    (output : List Inline)
    (returned : ((resolve callback.embed style content).after past).outcome = .ok output) :
    (∃ shares, Atom.Cut (Node.atomsFrom callback style.surrounding [] 0 content) output shares) ∧
    ∀ shares, Atom.Cut (Node.atomsFrom callback style.surrounding [] 0 content) output shares →
      ((∀ share ∈ shares, ∀ first ∈ share, ∀ second ∈ share, first.link? = second.link?) ↔
        ∀ place ∈ style.claimed? content,
          (Node.atomsFrom callback style.surrounding [] 0 content).IsChain fun first second =>
            ¬ first.Blurs place second) := by
  obtain ⟨readable, rfl⟩ := (resolve_eq_ok_iff_around callback style content past output).mp returned
  have around : Node.atomsFrom callback { style.surrounding with link := style.occurrence? content } [] 0
      content = (Node.atomsFrom callback style.surrounding [] 0 content).map
        (Atom.around (style.occurrence? content)) :=
    Node.atoms_from_around callback (style.occurrence? content) style.surrounding [] 0 content
  rw [around]
  have links := link_of_readable readable style
  generalize Node.atomsFrom callback style.surrounding [] 0 content = atoms at links
  have groups := Atom.cut_of_groups (style.occurrence? content) atoms
  refine ⟨⟨_, groups⟩, fun shares cut => ?_⟩
  rw [cut.unique groups, Atom.uniform_split_by_iff]
  simp only [Atom.blurs_iff]
  constructor
  · intro apart place claimed
    exact apart.imp fun first second separate => separate place (Style.occurrence?_of_claimed? claimed)
  · intro apart
    rw [List.isChain_iff_getElem]
    intro index inside place occurrence blurs
    rcases Style.claimed?_of_occurrence? occurrence with claimed | rfl
    · exact (apart place claimed).getElem index inside blurs
    · have below := Node.nil_not_mem_link_places_from content
      rcases Atom.link_of_blurs blurs with firstLink | secondLink
      · exact below (links _ (List.getElem_mem _) [] firstLink)
      · exact below (links _ (List.getElem_mem _) [] secondLink)

-- A style that belongs to a link, which the caller has given this number.
def Style.inLink (number : Int) : Style := { Style.plain with linkTarget := some "u", linkId := some number }

-- Text and a link beside it with the target of the style around both, or with something between them.
def besideLink (between : List Node) : List Node :=
  .text "a" [] :: between ++ [.link "u" [.text "b" []] none []]

theorem resolve_apart_beside_link :
    (∃ shares, Atom.Cut (Node.atomsFrom none (Style.inLink 2).surrounding [] 0 (besideLink []))
        [.run ⟨"a", false, false, false, false, some "u"⟩, .run ⟨"b", false, false, false, false, some "u"⟩]
        shares ∧
      ∀ share ∈ shares, ∀ first ∈ share, ∀ second ∈ share, first.link? = second.link?) ∧
    ∃ shares, Atom.Cut
        (Node.atomsFrom none (Style.inLink 1).surrounding [] 0 (besideLink [.htmlInline "h" []]))
        [.run ⟨"a", false, false, false, false, some "u"⟩, .placeholder "inline_html",
          .run ⟨"b", false, false, false, false, some "u"⟩] shares ∧
      ∀ share ∈ shares, ∀ first ∈ share, ∀ second ∈ share, first.link? = second.link? := by
  constructor
  · obtain ⟨⟨shares, cut⟩, apart⟩ := resolve_apart_iff none (Style.inLink 2) (besideLink []) [] _ rfl
    have unclaimed : (Style.inLink 2).claimed? (besideLink []) = none := rfl
    refine ⟨shares, cut, (apart shares cut).mpr fun place claimed => ?_⟩
    rw [unclaimed] at claimed
    cases claimed
  · obtain ⟨⟨shares, cut⟩, apart⟩ :=
      resolve_apart_iff none (Style.inLink 1) (besideLink [.htmlInline "h" []]) [] _ rfl
    refine ⟨shares, cut, (apart shares cut).mpr fun place _ => ?_⟩
    have between : Node.atomsFrom none (Style.inLink 1).surrounding [] 0 (besideLink [.htmlInline "h" []]) =
        [.letter (Style.inLink 1).surrounding 'a', .visual (.placeholder "inline_html"),
          .letter { (Style.inLink 1).surrounding with link := some [2] } 'b'] := rfl
    rw [between]
    simp [Atom.Blurs]

theorem resolve_blurs_beside_link :
    ((resolve (Callback.embed none) (Style.inLink 1) (besideLink [])).after []).outcome =
        .ok [.run ⟨"ab", false, false, false, false, some "u"⟩] ∧
      ∃ share, Atom.Cut (Node.atomsFrom none (Style.inLink 1).surrounding [] 0 (besideLink []))
          [.run ⟨"ab", false, false, false, false, some "u"⟩] [share] ∧
        ¬∀ first ∈ share, ∀ second ∈ share, first.link? = second.link? := by
  refine ⟨rfl, [.letter (Style.inLink 1).surrounding 'a',
    .letter { (Style.inLink 1).surrounding with link := some [1] } 'b'], ⟨rfl, .cons ?_ .nil⟩, ?_⟩
  · exact @Atom.Spells.run Place ⟨"ab", false, false, false, false, some "u"⟩
      [((Style.inLink 1).surrounding, 'a'), ({ (Style.inLink 1).surrounding with link := some [1] }, 'b')]
      (List.cons_ne_nil _ _) (by simp [Mark.run, Style.surrounding, Style.inLink, Style.plain]) rfl
  · intro uniform
    have same := uniform _ List.mem_cons_self _ (List.mem_cons_of_mem _ List.mem_cons_self)
    cases same

end MarkdownView
