import MarkdownView.Json
import Mathlib.Data.List.Forall2
import Mathlib.Data.Option.Basic
set_option autoImplicit false

namespace MarkdownView.Json

inductive Same : Json → Json → Prop where
  | null : Same .null .null
  | bool {value : Bool} : Same (.bool value) (.bool value)
  | int {value : Int} : Same (.int value) (.int value)
  | decimal {spelling : String} : Same (.decimal spelling) (.decimal spelling)
  | text {value : String} : Same (.text value) (.text value)
  | list {items others : List Json} (each : List.Forall₂ Same items others) :
      Same (.list items) (.list others)
  | object {fields others : List (String × Json)}
      (each : ∀ name, Option.Rel Same ((object fields).field? name) ((object others).field? name)) :
      Same (.object fields) (.object others)
  | foreign {typeName : String} {content other : Json} (held : Same content other) :
      Same (.foreign typeName content) (.foreign typeName other)

theorem mem_of_search {fields : List (String × Json)} {name : String} {value : Json} {before : Option Json}
    (found : fields.foldl (fun found field => if field.1 = name then some field.2 else found) before =
      some value) : before = some value ∨ (name, value) ∈ fields := by
  induction fields generalizing before with
  | nil => exact .inl found
  | cons field fields ih =>
    rcases ih found with hit | member
    · by_cases sameName : field.1 = name
      · simp only [if_pos sameName] at hit
        have fieldEq : field = (name, value) := Prod.ext sameName (Option.some.inj hit)
        exact .inr (fieldEq ▸ List.mem_cons_self)
      · simp only [if_neg sameName] at hit
        exact .inl hit
    · exact .inr (List.mem_cons_of_mem _ member)

theorem mem_of_field? {fields : List (String × Json)} {name : String} {value : Json}
    (found : (object fields).field? name = some value) : (name, value) ∈ fields := by
  rcases mem_of_search found with nothing | member
  · cases nothing
  · exact member

theorem Same.refl (value : Json) : Same value value := by
  cases value with
  | null => exact .null
  | bool value => exact .bool
  | int value => exact .int
  | decimal spelling => exact .decimal
  | text value => exact .text
  | list items =>
    have each (item : Json) (member : item ∈ items) : Same item item := Same.refl item
    exact .list (List.forall₂_same.mpr each)
  | object fields =>
    refine .object fun name => ?_
    cases found : (Json.object fields).field? name with
    | none => exact .none
    | some value =>
      have member := mem_of_field? found
      exact .some (Same.refl value)
  | foreign typeName content => exact .foreign (Same.refl content)
termination_by sizeOf value
decreasing_by
  · have smaller := List.sizeOf_lt_of_mem member
    simp only [Json.list.sizeOf_spec]
    omega
  · have smaller := List.sizeOf_lt_of_mem member
    simp only [Json.object.sizeOf_spec, Prod.mk.sizeOf_spec] at smaller ⊢
    omega
  · simp only [Json.foreign.sizeOf_spec]
    omega

namespace Same

variable {value other : Json}

theorem field? (same : Same value other) (name : String) :
    Option.Rel Same (value.field? name) (other.field? name) := by
  cases same with
  | object each => exact each name
  | _ => exact .none

theorem field (same : Same value other) (name : String) {inner inner' : Json}
    (found : value.field? name = some inner) (found' : other.field? name = some inner') :
    Same inner inner' := by
  have fieldsSame := same.field? name
  rw [found, found'] at fieldsSame
  cases fieldsSame with
  | some innerSame => exact innerSame

theorem eq_null (same : Same value .null) : value = .null := by
  cases same
  rfl

theorem content {typeName : String} {content other : Json}
    (same : Same (.foreign typeName content) (.foreign typeName other)) : Same content other := by
  cases same with
  | foreign held => exact held

theorem items {items others : List Json} (same : Same (.list items) (.list others)) :
    List.Forall₂ Same items others := by
  cases same with
  | list each => exact each

end Same

theorem eq_null_of_same {value : Json} (same : Same .null value) : value = .null := by
  cases same
  rfl

def TellsApart {α : Type} (encode : α → Json) : Prop :=
  ∀ ⦃a b : α⦄, Same (encode a) (encode b) → a = b

theorem tells_apart_bool : TellsApart bool := by
  rintro a _ ⟨⟩
  rfl

theorem tells_apart_int : TellsApart int := by
  rintro a _ ⟨⟩
  rfl

theorem tells_apart_text : TellsApart text := by
  rintro a _ ⟨⟩
  rfl

namespace TellsApart

variable {α : Type} {encode : α → Json}

theorem same_iff (apart : TellsApart encode) (a b : α) : Same (encode a) (encode b) ↔ a = b := by
  constructor
  · intro same
    exact apart same
  · rintro rfl
    exact Same.refl _

theorem items (apart : TellsApart encode) : TellsApart fun as : List α => list (as.map encode) := by
  intro as bs same
  have each := same.items
  rw [List.forall₂_map_left_iff, List.forall₂_map_right_iff] at each
  have equal := each.imp fun a b => @apart a b
  rwa [List.forall₂_eq_eq_eq] at equal

theorem of_option (apart : TellsApart encode) (neverNull : ∀ a, encode a ≠ .null) :
    TellsApart (ofOption encode) := by
  intro a b same
  cases a with
  | none =>
    cases b with
    | none => rfl
    | some b => exact absurd (eq_null_of_same same) (neverNull b)
  | some a =>
    cases b with
    | none => exact absurd same.eq_null (neverNull a)
    | some b => exact congrArg some (apart same)

end TellsApart

theorem tells_apart_text? : TellsApart ofText? := tells_apart_text.of_option nofun

theorem tells_apart_bool? : TellsApart (ofOption bool) := tells_apart_bool.of_option nofun

theorem tells_apart_int? : TellsApart ofInt? := tells_apart_int.of_option nofun

end MarkdownView.Json
