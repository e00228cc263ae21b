import Mathlib.Data.List.SplitBy
import MarkdownView.Inline
set_option autoImplicit false

namespace MarkdownView

structure Mark (ν : Type) where
  bold : Bool
  italic : Bool
  strike : Bool
  code : Bool
  linkTarget : Option String
  link : Option ν
deriving DecidableEq

inductive Atom (ν : Type) where
  | letter (mark : Mark ν) (character : Char)
  | visual (inserted : Inline)

variable {ν μ : Type}

def Mark.run (mark : Mark ν) (text : String) : Run :=
  ⟨text, mark.bold, mark.italic, mark.strike, mark.code, mark.linkTarget⟩

def Mark.rename (name : ν → μ) (mark : Mark ν) : Mark μ :=
  ⟨mark.bold, mark.italic, mark.strike, mark.code, mark.linkTarget, mark.link.map name⟩

def Style.mark (style : Style) : Mark Int :=
  ⟨style.bold, style.italic, style.strike, style.code, style.linkTarget, style.linkId⟩

theorem mark_injective {first second : Style} (same : first.mark = second.mark) : first = second := by
  cases first
  cases second
  simpa [Style.mark] using same

namespace Atom

def letters (mark : Mark ν) (text : String) : List (Atom ν) := text.toList.map (.letter mark)

def character? : Atom ν → Option Char
  | .letter _ character => some character
  | .visual _ => none

def rename (name : ν → μ) : Atom ν → Atom μ
  | .letter mark character => .letter (mark.rename name) character
  | .visual inserted => .visual inserted

def link? : Atom ν → Option ν
  | .letter mark _ => mark.link
  | .visual _ => none

def joins [DecidableEq ν] : Atom ν → Atom ν → Bool
  | .letter mark _, .letter other _ => mark = other
  | _, _ => false

def stretch : List (Atom ν) → List Inline
  | [] => []
  | .visual inserted :: _ => [inserted]
  | .letter mark character :: rest =>
    [.run (mark.run (String.ofList (character :: rest.filterMap character?)))]

def grouped [DecidableEq ν] (atoms : List (Atom ν)) : List Inline := (atoms.splitBy joins).flatMap stretch

theorem stretch_letters (mark : Mark ν) {text : String} (present : text ≠ "") :
    stretch (letters mark text) = [.run (mark.run text)] := by
  have read (characters : List Char) :
      (characters.map (Atom.letter mark)).filterMap character? = characters := by
    simp [List.filterMap_map, Function.comp_def, character?]
  cases characters : text.toList with
  | nil => exact absurd (String.toList_eq_nil_iff.mp characters) present
  | cons character rest =>
    have whole : String.ofList (character :: rest) = text := by
      rw [← characters, String.ofList_toList]
    simp only [letters, characters, List.map_cons, stretch, read, whole]

theorem stretch_rename (name : ν → μ) (atoms : List (Atom ν)) :
    stretch (atoms.map (rename name)) = stretch atoms := by
  have kept : character? ∘ rename name = (character? : Atom ν → Option Char) := by
    funext atom
    cases atom <;> rfl
  cases atoms with
  | nil => rfl
  | cons atom rest =>
    cases atom with
    | visual inserted => rfl
    | letter mark character =>
      simp only [List.map_cons, rename, stretch, List.filterMap_map, kept]
      rfl

theorem mark_rename_eq_iff (name : ν → μ) {mark other : Mark ν}
    (injective : ∀ a ∈ mark.link, ∀ b ∈ other.link, name a = name b → a = b) :
    mark.rename name = other.rename name ↔ mark = other := by
  refine ⟨fun same => ?_, fun same => by rw [same]⟩
  rcases mark with ⟨bold, italic, strike, code, linkTarget, link⟩
  rcases other with ⟨bold', italic', strike', code', linkTarget', link'⟩
  simp only [Mark.rename, Mark.mk.injEq] at same ⊢
  refine ⟨same.1, same.2.1, same.2.2.1, same.2.2.2.1, same.2.2.2.2.1, ?_⟩
  cases link <;> cases link' <;> simp_all

theorem joins_rename [DecidableEq ν] [DecidableEq μ] (name : ν → μ) {first second : Atom ν}
    (injective : ∀ a ∈ first.link?, ∀ b ∈ second.link?, name a = name b → a = b) :
    joins (first.rename name) (second.rename name) = joins first second := by
  cases first with
  | visual inserted => rfl
  | letter mark character =>
    cases second with
    | visual inserted => rfl
    | letter other character' =>
      simp only [rename, joins, mark_rename_eq_iff name injective]

theorem split_by_map {α β : Type} (f : α → β) (r : α → α → Bool) (s : β → β → Bool) (list : List α)
    (agree : ∀ a ∈ list, ∀ b ∈ list, s (f a) (f b) = r a b) :
    (list.map f).splitBy s = (list.splitBy r).map (List.map f) := by
  have inside {group : List α} (member : group ∈ list.splitBy r) : ∀ a ∈ group, a ∈ list := by
    intro a aMember
    rw [← List.flatten_splitBy r list]
    exact List.mem_flatten_of_mem member aMember
  rw [List.splitBy_eq_iff]
  refine ⟨?_, ?_, ?_, ?_⟩
  · rw [← List.map_flatten, List.flatten_splitBy]
  · simp [List.nil_notMem_splitBy]
  · intro image imageMember
    obtain ⟨group, member, rfl⟩ := List.mem_map.mp imageMember
    rw [List.isChain_map]
    refine (List.isChain_of_mem_splitBy member).imp_of_mem_imp fun a b aMember bMember related => ?_
    rwa [agree a (inside member a aMember) b (inside member b bMember)]
  · rw [List.isChain_map]
    refine (List.isChain_getLast_head_splitBy r list).imp_of_mem_imp ?_
    rintro group next groupMember nextMember ⟨groupNonempty, nextNonempty, apart⟩
    refine ⟨by simpa using groupNonempty, by simpa using nextNonempty, ?_⟩
    rw [List.getLast_map, List.head_map, agree _ (inside groupMember _ (List.getLast_mem _)) _
      (inside nextMember _ (List.head_mem _))]
    exact apart

theorem grouped_rename [DecidableEq ν] [DecidableEq μ] (name : ν → μ) (atoms : List (Atom ν))
    (injective : ∀ first ∈ atoms, ∀ second ∈ atoms,
      ∀ a ∈ first.link?, ∀ b ∈ second.link?, name a = name b → a = b) :
    grouped (atoms.map (rename name)) = grouped atoms := by
  have split := split_by_map (rename name) joins joins atoms fun first firstMember second
    secondMember => joins_rename name (injective first firstMember second secondMember)
  rw [grouped, split, List.flatMap_map]
  simp only [stretch_rename, grouped]

end Atom

end MarkdownView
