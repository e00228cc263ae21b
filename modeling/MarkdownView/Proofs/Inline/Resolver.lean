import MarkdownView.Proofs.Inline.Pieces
set_option autoImplicit false

namespace MarkdownView
namespace Resolver

def pending (resolver : Resolver) : List Piece :=
  match resolver.bufferStyle with
  | none => []
  | some style => [.text style (String.join resolver.buffer.reverse)]

structure Sound (resolver : Resolver) : Prop where
  unstyledIff : resolver.bufferStyle = none ↔ resolver.buffer = []
  texts : ∀ text ∈ resolver.buffer, text ≠ ""

def outlook (resolver : Resolver) (rest : List Piece) : List Inline :=
  resolver.output.reverse ++ (Piece.join (resolver.pending ++ rest)).map Piece.inline

structure Takes (before : Resolver) (pieces : List Piece) (after : Resolver) : Prop where
  sound : after.Sound
  embed : after.embed = before.embed
  style : after.style = before.style
  outlook : ∀ rest, after.outlook rest = before.outlook (pieces ++ rest)

theorem Takes.refl {resolver : Resolver} (sound : resolver.Sound) : resolver.Takes [] resolver :=
  ⟨sound, rfl, rfl, fun _ => rfl⟩

theorem Takes.trans {before middle after : Resolver} {first second : List Piece}
    (start : before.Takes first middle) (finish : middle.Takes second after) :
    before.Takes (first ++ second) after where
  sound := finish.sound
  embed := finish.embed.trans start.embed
  style := finish.style.trans start.style
  outlook rest := by rw [finish.outlook, start.outlook, List.append_assoc]

theorem join_ne_empty {texts : List String} (someText : texts ≠ [])
    (present : ∀ text ∈ texts, text ≠ "") : String.join texts ≠ "" := by
  cases texts with
  | nil => contradiction
  | cons text texts => simp [present text]

theorem Sound.buffered {resolver : Resolver} (sound : resolver.Sound) {style : Style}
    (waits : resolver.bufferStyle = some style) : String.join resolver.buffer.reverse ≠ "" := by
  refine join_ne_empty ?_ (by simpa using sound.texts)
  intro empty
  have unstyled := sound.unstyledIff.mpr (by simpa using empty)
  simp [waits] at unstyled

def flushed (resolver : Resolver) : Resolver :=
  { resolver with
    output := resolver.pending.map Piece.inline ++ resolver.output, buffer := [], bufferStyle := none }

theorem flush_of_sound {resolver : Resolver} (sound : resolver.Sound) :
    resolver.flush = .ok resolver.flushed := by
  cases waits : resolver.bufferStyle with
  | none =>
    have empty := sound.unstyledIff.mp waits
    simp [flush, flushed, pending, waits, empty]; rfl
  | some style =>
    have present := sound.buffered waits
    cases texts : resolver.buffer with
    | nil => simp [sound.unstyledIff.mpr texts] at waits
    | cons text rest =>
      rw [texts] at present
      have checked : (style.run (String.join (text :: rest).reverse)).check =
          .ok (style.run (String.join (text :: rest).reverse)) := if_neg present
      simp only [flush, waits, texts, checked, flushed, pending]
      rfl

theorem join_pending_text {resolver : Resolver} (sound : resolver.Sound) {style : Style}
    (different : resolver.bufferStyle ≠ some style) {content : String} (present : content ≠ "")
    (rest : List Piece) :
    Piece.join (resolver.pending ++ .text style content :: rest) =
      resolver.pending ++ Piece.join (.text style content :: rest) := by
  cases waits : resolver.bufferStyle with
  | none => simp [pending, waits]
  | some other =>
    have distinct : other ≠ style := fun same => different (by rw [waits, same])
    simpa [pending, waits] using Piece.join_other_style other style _ content rest distinct
      (sound.buffered waits) present

theorem join_pending_visual {resolver : Resolver} (sound : resolver.Sound) (inserted : Inline)
    (rest : List Piece) :
    Piece.join (resolver.pending ++ .visual inserted :: rest) =
      resolver.pending ++ .visual inserted :: Piece.join rest := by
  cases waits : resolver.bufferStyle with
  | none => simp [pending, waits, Piece.join_visual]
  | some style =>
    simpa [pending, waits] using
      Piece.join_before_visual style _ inserted rest (sound.buffered waits)

theorem reverse_output_flushed (resolver : Resolver) :
    resolver.flushed.output.reverse =
      resolver.output.reverse ++ resolver.pending.map Piece.inline := by
  cases waits : resolver.bufferStyle <;> simp [flushed, pending, waits]

theorem takes_visual {resolver : Resolver} (sound : resolver.Sound) (inserted : Inline) :
    resolver.Takes [.visual inserted]
      { resolver.flushed with output := inserted :: resolver.flushed.output } where
  sound := ⟨by simp [flushed], by simp [flushed]⟩
  embed := rfl
  style := rfl
  outlook rest := by
    have nothingWaits : Resolver.pending
        { resolver.flushed with output := inserted :: resolver.flushed.output } = [] := rfl
    simp [outlook, nothingWaits, join_pending_visual sound, reverse_output_flushed, Piece.inline]

theorem takes_new_text {resolver : Resolver} (sound : resolver.Sound) {text : String}
    (present : text ≠ "") (different : resolver.bufferStyle ≠ some resolver.style) :
    resolver.Takes [.text resolver.style text]
      { resolver.flushed with bufferStyle := some resolver.style, buffer := [text] } where
  sound := ⟨by simp, by simp [present]⟩
  embed := rfl
  style := rfl
  outlook rest := by
    have textWaits : Resolver.pending
        { resolver.flushed with bufferStyle := some resolver.style, buffer := [text] } =
          [.text resolver.style text] := by
      simp [pending]
    simp [outlook, textWaits, join_pending_text sound different present, reverse_output_flushed]

theorem takes_more_text {resolver : Resolver} (sound : resolver.Sound) {text : String}
    (present : text ≠ "") (same : resolver.bufferStyle = some resolver.style) :
    resolver.Takes [.text resolver.style text]
      { resolver with buffer := text :: resolver.buffer } where
  sound := ⟨by simp [same], by simpa [present] using sound.texts⟩
  embed := rfl
  style := rfl
  outlook rest := by
    have joined := Piece.join_same_style resolver.style _ text rest (sound.buffered same) present
    simp [outlook, pending, same, joined]

theorem takes_empty_text {resolver : Resolver} (sound : resolver.Sound) :
    resolver.Takes [.text resolver.style ""] resolver where
  sound := sound
  embed := rfl
  style := rfl
  outlook rest := by
    have dropped := Piece.join_append_congr resolver.pending
      (Piece.join_empty_text resolver.style rest)
    simp [outlook, dropped]

theorem emit_text_takes {resolver : Resolver} (sound : resolver.Sound) (text : String) :
    ∃ after, resolver.emitText text = .ok after ∧
      resolver.Takes [.text resolver.style text] after ∧ after.links = resolver.links := by
  by_cases empty : text = ""
  · subst empty
    exact ⟨resolver, if_pos rfl, takes_empty_text sound, rfl⟩
  · by_cases same : resolver.bufferStyle = some resolver.style
    · refine ⟨_, ?_, takes_more_text sound empty same, rfl⟩
      simp only [emitText, if_neg empty, ready, if_pos same]
      rfl
    · refine ⟨_, ?_, takes_new_text sound empty same, rfl⟩
      simp only [emitText, if_neg empty, ready, if_neg same, flush_of_sound sound]
      rfl

theorem emit_visual_takes {resolver : Resolver} (sound : resolver.Sound) (inserted : Option Inline) :
    ∃ after, resolver.emitVisual inserted = .ok after ∧
      resolver.Takes (inserted.toList.map Piece.visual) after ∧ after.links = resolver.links := by
  cases inserted with
  | none => exact ⟨resolver, rfl, Takes.refl sound, rfl⟩
  | some inserted =>
    refine ⟨_, ?_, takes_visual sound inserted, rfl⟩
    simp only [emitVisual, flush_of_sound sound]
    rfl

inductive Agrees (resolver : Resolver) : Ending (List Piece × Nat) → Ending Visited → Prop where
  | taken {pieces : List Piece} {links : Nat} {after : Resolver} {events : List Event}
      (takes : resolver.Takes pieces after) (counted : after.links = links) :
      Agrees resolver ⟨.ok (pieces, links), events⟩ ⟨.ok ⟨.ok ⟨⟩, after⟩, events⟩
  | failed {failure : Failure} {after : Resolver} {events : List Event}
      (embed : after.embed = resolver.embed) (style : after.style = resolver.style) :
      Agrees resolver ⟨.error failure, events⟩ ⟨.ok ⟨.error failure, after⟩, events⟩

theorem visit_text_agrees {resolver : Resolver} (sound : resolver.Sound) (text : String)
    (past : List Event) :
    resolver.Agrees ⟨.ok ([.text resolver.style text], resolver.links), []⟩
      ((resolver.visitText text).after past) := by
  obtain ⟨after, emitted, takes, counted⟩ := emit_text_takes sound text
  have visited : (resolver.visitText text).after past = ⟨.ok ⟨.ok ⟨⟩, after⟩, []⟩ := by
    rw [visitText, emitted]
    rfl
  rw [visited]
  exact .taken takes counted

theorem visit_embedded_agrees {resolver : Resolver} (sound : resolver.Sound) (node : Node)
    (past : List Event) :
    resolver.Agrees ((Node.embeddedPieces resolver.embed resolver.links node).after past)
      ((resolver.visitEmbedded node).after past) := by
  rcases answered : (resolver.embed node).after past with ⟨outcome, events⟩
  cases outcome with
  | error failure =>
    have stopped : resolver.attempt (.error failure >>= resolver.emitVisual) =
        ⟨.error failure, resolver⟩ := rfl
    rw [Node.embeddedPieces, Traced.after_bind_of_fails answered, visitEmbedded,
      Traced.after_resume, answered]
    simp only [stopped, Traced.after_pure, List.append_nil]
    exact .failed rfl rfl
  | ok inserted =>
    obtain ⟨after, emitted, takes, counted⟩ := emit_visual_takes sound inserted
    have wentOn : resolver.attempt (.ok inserted >>= resolver.emitVisual) = ⟨.ok ⟨⟩, after⟩ :=
      congrArg resolver.attempt emitted
    rw [Node.embeddedPieces, Traced.after_bind_of_yields answered, visitEmbedded,
      Traced.after_resume, answered]
    simp only [wentOn, Traced.after_pure, List.append_nil]
    exact .taken takes counted

theorem styled_agrees {resolver : Resolver} {style : Style} {visit : Resolver → Traced Visited}
    {reading : Ending (List Piece × Nat)} {past : List Event}
    (inside : Agrees { resolver with style := style } reading
      ((visit { resolver with style := style }).after past)) :
    resolver.Agrees reading ((resolver.styled style visit).after past) := by
  generalize visited : (visit { resolver with style := style }).after past = ending at inside
  cases inside with
  | failed embed style =>
    rw [styled, Traced.after_bind_of_yields visited]
    simp only [Traced.after_pure, List.append_nil]
    exact .failed embed rfl
  | taken takes counted =>
    rw [styled, Traced.after_bind_of_yields visited]
    simp only [Traced.after_pure, List.append_nil]
    refine .taken ⟨?_, takes.embed, rfl, ?_⟩ counted
    · exact ⟨takes.sound.unstyledIff, takes.sound.texts⟩
    · exact takes.outlook

theorem visit_all_cons_agrees {resolver : Resolver} {node : Node} {nodes : List Node}
    {past : List Event}
    (firstAgrees : resolver.Agrees
      ((Node.pieces resolver.embed resolver.style resolver.links node).after past)
      ((resolver.visit node).after past))
    (restAgrees : ∀ (middle : Resolver) (later : List Event), middle.Sound →
      middle.Agrees ((Node.piecesOf middle.embed middle.style middle.links nodes).after later)
        ((middle.visitAll nodes).after later)) :
    resolver.Agrees
      ((Node.piecesOf resolver.embed resolver.style resolver.links (node :: nodes)).after past)
      ((resolver.visitAll (node :: nodes)).after past) := by
  generalize read : (Node.pieces resolver.embed resolver.style resolver.links node).after past =
    reading at firstAgrees
  generalize visited : (resolver.visit node).after past = ending at firstAgrees
  cases firstAgrees with
  | failed embed style =>
    rw [Node.piecesOf, Traced.after_bind_of_fails read, visitAll,
      Traced.after_bind_of_yields visited]
    simp only [Traced.after_pure, List.append_nil]
    exact .failed embed style
  | @taken pieces links middle events takes counted =>
    have agrees := restAgrees middle (events.reverseAux past) takes.sound
    rw [takes.embed, takes.style, counted] at agrees
    rw [Node.piecesOf, Traced.after_bind_of_yields read, visitAll,
      Traced.after_bind_of_yields visited]
    generalize restRead : (Node.piecesOf resolver.embed resolver.style links nodes).after
      (events.reverseAux past) = restReading at agrees
    generalize restVisited : (middle.visitAll nodes).after (events.reverseAux past) =
      restEnding at agrees
    cases agrees with
    | failed embed style =>
      rw [Traced.after_bind_of_fails restRead]
      exact .failed (embed.trans takes.embed) (style.trans takes.style)
    | taken restTakes restCounted =>
      rw [Traced.after_bind_of_yields restRead]
      simp only [Traced.after_pure, List.append_nil]
      exact .taken (takes.trans restTakes) restCounted

theorem Sound.with_style {resolver : Resolver} (sound : resolver.Sound) (style : Style) :
    Sound { resolver with style := style } :=
  ⟨sound.unstyledIff, sound.texts⟩

theorem Sound.with_links {resolver : Resolver} (sound : resolver.Sound) (links : Nat) :
    Sound { resolver with links := links } :=
  ⟨sound.unstyledIff, sound.texts⟩

theorem Agrees.without_links {resolver : Resolver} {links : Nat} {reading : Ending (List Piece × Nat)}
    {ending : Ending Visited} (agrees : Agrees { resolver with links := links } reading ending) :
    resolver.Agrees reading ending := by
  cases agrees with
  | failed embed style => exact .failed embed style
  | taken takes counted =>
    exact .taken ⟨takes.sound, takes.embed, takes.style, takes.outlook⟩ counted

mutual

theorem visit_agrees (resolver : Resolver) (node : Node) (past : List Event)
    (sound : resolver.Sound) :
    resolver.Agrees ((Node.pieces resolver.embed resolver.style resolver.links node).after past)
      ((resolver.visit node).after past) := by
  cases node with
  | text content metadata => exact visit_text_agrees sound content past
  | lineBreak soft metadata => exact visit_text_agrees sound _ past
  | emphasis content metadata =>
    rw [Node.pieces, visit]
    refine styled_agrees ?_
    exact visit_all_agrees _ content past (sound.with_style _)
  | strong content metadata =>
    rw [Node.pieces, visit]
    refine styled_agrees ?_
    exact visit_all_agrees _ content past (sound.with_style _)
  | strike content metadata =>
    rw [Node.pieces, visit]
    refine styled_agrees ?_
    exact visit_all_agrees _ content past (sound.with_style _)
  | code content metadata =>
    rw [Node.pieces, visit]
    refine styled_agrees ?_
    exact visit_text_agrees (sound.with_style _) content past
  | link url content title metadata =>
    have counted := sound.with_links (resolver.links + 1)
    rw [Node.pieces, visit]
    refine Agrees.without_links (styled_agrees ?_)
    cases content with
    | nil => exact visit_text_agrees (counted.with_style _) (Node.linkText url title) past
    | cons node nodes => exact visit_all_agrees _ (node :: nodes) past (counted.with_style _)
  | image url alt title width height metadata => exact visit_embedded_agrees sound _ past
  | htmlBlock content metadata => exact visit_embedded_agrees sound _ past
  | htmlInline content metadata => exact visit_embedded_agrees sound _ past
  | mathBlock content metadata => exact visit_embedded_agrees sound _ past
  | mathInline content metadata => exact visit_embedded_agrees sound _ past
  | footnoteReference identifier metadata => exact visit_embedded_agrees sound _ past
  | footnoteDefinition identifier content metadata => exact visit_embedded_agrees sound _ past
  | extension tag isInline children raw metadata => exact visit_embedded_agrees sound _ past
  | _ => exact .failed rfl rfl
termination_by structural node

theorem visit_all_agrees (resolver : Resolver) (nodes : List Node) (past : List Event)
    (sound : resolver.Sound) :
    resolver.Agrees ((Node.piecesOf resolver.embed resolver.style resolver.links nodes).after past)
      ((resolver.visitAll nodes).after past) := by
  cases nodes with
  | nil => exact .taken (Takes.refl sound) rfl
  | cons node nodes =>
    exact visit_all_cons_agrees (visit_agrees resolver node past sound)
      fun middle later middleSound => visit_all_agrees middle nodes later middleSound
termination_by structural nodes

end

theorem outlook_nil {resolver : Resolver} (sound : resolver.Sound) :
    resolver.outlook [] = resolver.flushed.output.reverse := by
  have alone : Piece.join resolver.pending = resolver.pending := by
    cases waits : resolver.bufferStyle with
    | none => simp [pending, waits, Piece.join]
    | some style => simp [pending, waits, Piece.join, Piece.prepend, sound.buffered waits]
  rw [reverse_output_flushed, outlook, List.append_nil, alone]

theorem read_agrees (resolver : Resolver) (style : Style) (content : List Node)
    (past : List Event) :
    ∃ after : Resolver, after.embed = resolver.embed ∧
      (resolver.read style content).after past =
        let reading := (Node.piecesOf resolver.embed style resolver.links content).after past
        ⟨.ok (reading.outcome.map fun pieces => Piece.runs pieces.1, after), reading.events⟩ := by
  let fresh : Resolver :=
    { resolver with output := [], buffer := [], bufferStyle := none, style := style }
  have agrees : fresh.Agrees
      ((Node.piecesOf resolver.embed style resolver.links content).after past)
      ((fresh.visitAll content).after past) :=
    visit_all_agrees fresh content past ⟨by simp [fresh], by simp [fresh]⟩
  generalize (Node.piecesOf resolver.embed style resolver.links content).after past =
    reading at agrees
  generalize visited : (fresh.visitAll content).after past = ending at agrees
  cases agrees with
  | @failed failure after events embed _ =>
    refine ⟨after, embed, ?_⟩
    rw [read, Traced.after_bind_of_yields visited]
    simp only [Traced.after_pure, List.append_nil, Except.map]
  | @taken pieces links after events takes _ =>
    refine ⟨after.flushed, takes.embed, ?_⟩
    have output : after.flushed.output.reverse = Piece.runs pieces := by
      rw [← outlook_nil takes.sound, takes.outlook [], List.append_nil]
      rfl
    rw [read, Traced.after_bind_of_yields visited]
    simp only [flush_of_sound takes.sound, Traced.after_pure, List.append_nil, Except.map, output]

theorem resolve_eq_pieces (resolver : Resolver) (style : Style) (content : List Node) :
    (resolver.resolve style content).1 =
      Node.piecesOf resolver.embed style resolver.links content >>= fun reading =>
        pure (Piece.runs reading.1) := by
  apply Traced.ext_after
  intro past
  obtain ⟨after, _, readEq⟩ := read_agrees resolver style content past
  rcases reading : (Node.piecesOf resolver.embed style resolver.links content).after past with
    ⟨outcome, events⟩
  rw [reading] at readEq
  rw [resolve, Traced.after_bind_of_yields readEq]
  cases outcome with
  | error failure =>
    rw [Traced.after_bind_of_fails reading]
    simp [Traced.ofExcept, Traced.steady, Except.map]
  | ok pieces =>
    rw [Traced.after_bind_of_yields reading]
    simp [Traced.ofExcept, Traced.steady, Except.map]

end Resolver

theorem resolve_eq_pieces (embed : Embed) (style : Style) (content : List Node) :
    resolve embed style content =
      Node.piecesOf embed style 0 content >>= fun reading => pure (Piece.runs reading.1) :=
  Resolver.resolve_eq_pieces (Resolver.new embed) style content

end MarkdownView
