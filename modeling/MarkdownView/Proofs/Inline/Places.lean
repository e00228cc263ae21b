import MarkdownView.Node
import Mathlib.Data.List.Basic
set_option autoImplicit false

namespace MarkdownView

abbrev Place := List Nat

namespace Node

mutual

def linkPlaces (place : Place) : Node → List Place
  | .emphasis content _ => linkPlacesFrom place 0 content
  | .strong content _ => linkPlacesFrom place 0 content
  | .strike content _ => linkPlacesFrom place 0 content
  | .link _ content _ _ => place :: linkPlacesFrom place 0 content
  | _ => []
termination_by structural node => node

def linkPlacesFrom (place : Place) (position : Nat) : List Node → List Place
  | [] => []
  | node :: nodes =>
    linkPlaces (place ++ [position]) node ++ linkPlacesFrom place (position + 1) nodes
termination_by structural nodes => nodes

end

theorem below_of_position {place found : Place} {start : Nat}
    (inside : ∃ position, start ≤ position ∧ place ++ [position] <+: found) : place <+: found := by
  obtain ⟨position, _, below⟩ := inside
  exact (List.prefix_append place [position]).trans below

mutual

theorem link_places_below (place : Place) (node : Node) :
    ∀ found ∈ linkPlaces place node, place <+: found := by
  intro found member
  cases node with
  | emphasis content metadata =>
    exact below_of_position (link_places_from_below place 0 content found member)
  | strong content metadata =>
    exact below_of_position (link_places_from_below place 0 content found member)
  | strike content metadata =>
    exact below_of_position (link_places_from_below place 0 content found member)
  | link url content title metadata =>
    rcases List.mem_cons.mp member with rfl | member
    · exact List.prefix_rfl
    · exact below_of_position (link_places_from_below place 0 content found member)
  | _ => simp [linkPlaces] at member
termination_by structural node

theorem link_places_from_below (place : Place) (start : Nat) (nodes : List Node) :
    ∀ found ∈ linkPlacesFrom place start nodes,
      ∃ position, start ≤ position ∧ place ++ [position] <+: found := by
  cases nodes with
  | nil => simp [linkPlacesFrom]
  | cons node nodes =>
    intro found member
    rcases List.mem_append.mp member with member | member
    · exact ⟨start, Nat.le_refl start, link_places_below (place ++ [start]) node found member⟩
    · obtain ⟨position, later, below⟩ :=
        link_places_from_below place (start + 1) nodes found member
      exact ⟨position, Nat.le_of_succ_le later, below⟩
termination_by structural nodes

end

theorem position_unique {place found : Place} {position other : Nat}
    (below : place ++ [position] <+: found) (belowOther : place ++ [other] <+: found) :
    position = other := by
  obtain ⟨rest, same⟩ := List.prefix_of_prefix_length_le below belowOther (by simp)
  have alone : rest = [] := by simpa using congrArg List.length same
  subst alone
  simpa using same

mutual

theorem link_places_nodup (place : Place) (node : Node) : (linkPlaces place node).Nodup := by
  cases node with
  | emphasis content metadata => exact link_places_from_nodup place 0 content
  | strong content metadata => exact link_places_from_nodup place 0 content
  | strike content metadata => exact link_places_from_nodup place 0 content
  | link url content title metadata =>
    rw [linkPlaces, List.nodup_cons]
    refine ⟨fun member => ?_, link_places_from_nodup place 0 content⟩
    obtain ⟨position, _, below⟩ := link_places_from_below place 0 content place member
    have longer := below.length_le
    rw [List.length_append, List.length_singleton] at longer
    omega
  | _ => exact List.nodup_nil
termination_by structural node

theorem link_places_from_nodup (place : Place) (start : Nat) (nodes : List Node) :
    (linkPlacesFrom place start nodes).Nodup := by
  cases nodes with
  | nil => exact List.nodup_nil
  | cons node nodes =>
    rw [linkPlacesFrom, List.nodup_append]
    refine ⟨link_places_nodup _ node, link_places_from_nodup place _ nodes, ?_⟩
    rintro found member other otherMember rfl
    obtain ⟨position, later, below⟩ := link_places_from_below place _ nodes found otherMember
    have same := position_unique below (link_places_below _ node found member)
    omega
termination_by structural nodes

end

end Node
end MarkdownView
