import Mathlib.Data.String.Basic
import MarkdownView.Requirement
set_option autoImplicit false

namespace MarkdownView

namespace Text

theorem split_on_aux_of_free (mark : Char) (front rest : List Char) (free : mark ∉ rest) :
    String.splitOnAux (String.ofList (front ++ rest)) (String.ofList [mark]) 0 ⟨String.utf8Len front⟩ 0 [] =
      [String.ofList (front ++ rest)] := by
  induction rest generalizing front with
  | nil =>
    have ended := (String.atEnd_of_valid front []).mpr rfl
    have whole := String.extract_of_valid [] front []
    rw [String.splitOnAux, if_pos ended]
    simpa using whole
  | cons c rest ih =>
    rw [List.mem_cons, not_or] at free
    have unended : ¬ String.Pos.Raw.atEnd (String.ofList (front ++ c :: rest)) ⟨String.utf8Len front⟩ = true := by
      rw [String.atEnd_of_valid]
      simp
    have met := String.get_of_valid front (c :: rest)
    have sought : String.Pos.Raw.get (String.ofList [mark]) 0 = mark := String.get_of_valid [] [mark]
    have other : ¬ (c == mark) = true := fun same => free.1 (beq_iff_eq.mp same).symm
    have start : String.Pos.Raw.unoffsetBy ⟨String.utf8Len front⟩ 0 = ⟨String.utf8Len front⟩ := rfl
    have next := String.next_of_valid front c rest
    have further := ih (front ++ [c]) free.2
    rw [List.append_assoc, List.singleton_append, String.utf8Len_append, String.utf8Len_cons,
      String.utf8Len_nil, Nat.zero_add] at further
    rw [String.splitOnAux, if_neg unended, met, sought, List.headD_cons, if_neg other, start, next]
    exact further

theorem split_on_of_free (mark : Char) {text : String} (free : mark ∉ text.toList) :
    text.splitOn (String.ofList [mark]) = [text] := by
  have separates : ¬ (String.ofList [mark] == "") = true := by
    rw [beq_iff_eq, ← String.toList_inj, String.toList_ofList]
    simp
  have whole := split_on_aux_of_free mark [] text.toList free
  rw [List.nil_append, String.ofList_toList] at whole
  rw [String.splitOn, if_neg separates]
  exact whole

end Text

namespace Installation

theorem check_of_meets {installation : Installation} {package demand version : String}
    {isMet : Bool} (installed : installation.version? package = some version) (present : version ≠ "")
    (meets : Version.meets version demand = .ok isMet) :
    installation.check package demand = .ok (isMet, some version) := by
  rw [check, installed]
  simp only [if_neg present, meets]

theorem require_of_meets {package demand version : String} (asked : demand ≠ "") (present : version ≠ "")
    (meets : Version.meets version demand = .ok true) (module component : String) :
    (Installation.mk [module] [(package, version)]).require component [⟨package, module, demand⟩] =
      .ok ⟨⟩ := by
  have found : (Installation.mk [module] [(package, version)]).version? package = some version := by
    simp [version?]
  have checked := check_of_meets found present meets
  simp only [require, shortfall, mismatch, checked, if_neg asked]
  simp [bind, Except.bind, pure, Except.pure]

end Installation
end MarkdownView
