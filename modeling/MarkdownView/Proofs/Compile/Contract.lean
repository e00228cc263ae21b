import MarkdownView.Proofs.Compile.Failures
set_option autoImplicit false

namespace MarkdownView

def Failure.KeepsContract (failure : Failure) : Prop := failure.kind ≠ "ParserContractViolation"

theorem refused_keeps_contract (refusal : Refusal) : (Failure.refused refusal).KeepsContract := by
  simp [Failure.KeepsContract, Failure.kind]

theorem mistyped_keeps_contract {failure : Failure} (mistyped : failure.IsMistyped) :
    failure.KeepsContract := by
  cases mistyped <;> simp [Failure.KeepsContract, Failure.kind]

namespace Walk

theorem in_sequence_keeps_contract (failure : Failure) (kept : failure.KeepsContract) :
    failure.inSequence.KeepsContract := by
  rw [Failure.inSequence]
  split
  · simp [Failure.KeepsContract, Failure.kind]
  · exact kept

-- Nothing that a walk asks answers with a breach of contract. A file system knows of none; a
-- highlighter is any code at all.
structure KeepsContract (walk : Walk) : Prop where
  files : walk.files.RaisesOnly Failure.KeepsContract
  highlighter : ∀ source language, (walk.highlighter source language).RaisesOnly Failure.KeepsContract

theorem KeepsContract.allows {walk : Walk} (keeps : walk.KeepsContract) :
    walk.Allows Failure.KeepsContract where
  refusals := refused_keeps_contract
  dependencies _ _ _ _ _ := by simp [Failure.KeepsContract, Failure.kind]
  unavailables _ _ _ := by simp [Failure.KeepsContract, Failure.kind]
  answers := keeps.files
  inSequence := in_sequence_keeps_contract
  rows _ _ _ _ := by simp [Failure.KeepsContract, Failure.kind]
  depths _ _ _ := by simp [Failure.KeepsContract, Failure.kind]
  breaches _ := by simp [Failure.KeepsContract, Failure.kind]
  mistyped _ := mistyped_keeps_contract
  highlighter := keeps.highlighter

end Walk

end MarkdownView
