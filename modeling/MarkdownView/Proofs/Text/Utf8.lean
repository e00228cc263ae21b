import Mathlib.Algebra.GroupWithZero.Nat
import Mathlib.Tactic.SplitIfs
import MarkdownView.Text.Utf8
set_option autoImplicit false

namespace MarkdownView.Text.Utf8

def tail : Nat → Nat → List UInt8
  | 0, _ => []
  | length + 1, code => UInt8.ofNat (code / 64 ^ length % 64 + 0x80) :: tail length code

theorem to_nat_of_nat_tail (bits : Nat) : (UInt8.ofNat (bits % 64 + 0x80)).toNat = bits % 64 + 0x80 :=
  UInt8.toNat_ofNat_of_lt' (show _ < 256 by omega)

theorem tail_bounds (bits : Nat) :
    (0x80 : UInt8) ≤ UInt8.ofNat (bits % 64 + 0x80) ∧ UInt8.ofNat (bits % 64 + 0x80) ≤ 0xbf := by
  rw [UInt8.le_iff_toNat_le, UInt8.le_iff_toNat_le, to_nat_of_nat_tail]
  change 128 ≤ _ ∧ _ ≤ 191
  omega

theorem value_tail (length code : Nat) :
    code / 64 ^ (length + 1) * 64 + ((UInt8.ofNat (code / 64 ^ length % 64 + 0x80)).toNat - 0x80) =
      code / 64 ^ length := by
  rw [to_nat_of_nat_tail, Nat.pow_succ, ← Nat.div_div_eq_div_mul]
  omega

theorem readings_cons (position : Nat) (pending : Option Pending) (b : UInt8) (rest : List UInt8) :
    readings position pending (b :: rest) =
      (step position b pending).1 ++ readings (position + 1) (step position b pending).2 rest := rfl

theorem readings_tail (length code position : Nat) (pending : Pending)
    (owed : pending.owed = length + 1) (value : pending.value = code / 64 ^ (length + 1))
    (inside : pending.low ≤ UInt8.ofNat (code / 64 ^ length % 64 + 0x80) ∧
      UInt8.ofNat (code / 64 ^ length % 64 + 0x80) ≤ pending.high) (rest : List UInt8) :
    readings position (some pending) (tail (length + 1) code ++ rest) =
      .ok (Char.ofNat code) :: readings (position + (length + 1)) none rest := by
  induction length generalizing position pending with
  | zero =>
    have whole := value_tail 0 code
    rw [tail, tail, List.cons_append, List.nil_append, readings_cons]
    simp only [step, if_pos inside, owed, value, whole]
    rw [Nat.pow_zero, Nat.div_one, List.singleton_append, Nat.zero_add]
  | succ length ih =>
    rw [tail, List.cons_append, readings_cons]
    simp only [step, if_pos inside, owed, value, value_tail, List.nil_append]
    rw [ih (position + 1) _ rfl rfl (tail_bounds _), Nat.add_assoc, Nat.add_comm 1]

theorem readings_longer {lead low high : UInt8} {length code : Nat}
    (leads : leadOf lead = .longer (length + 1) low high (code / 64 ^ (length + 1)))
    (inside : low ≤ UInt8.ofNat (code / 64 ^ length % 64 + 0x80) ∧
      UInt8.ofNat (code / 64 ^ length % 64 + 0x80) ≤ high) (position : Nat) (rest : List UInt8) :
    readings position none (lead :: tail (length + 1) code ++ rest) =
      .ok (Char.ofNat code) :: readings (position + (length + 2)) none rest := by
  rw [List.cons_append, readings_cons]
  simp only [step, start, leads, List.nil_append]
  rw [readings_tail length code (position + 1) _ rfl rfl inside, Nat.add_assoc, Nat.add_comm 1]

theorem lead_of_eq (b : UInt8) :
    leadOf b =
      if b.toNat < 0x80 then .ascii
      else if b.toNat < 0xc2 then .none
      else if b.toNat < 0xe0 then .longer 1 0x80 0xbf (b.toNat - 0xc0)
      else if b.toNat = 0xe0 then .longer 2 0xa0 0xbf 0
      else if b.toNat = 0xed then .longer 2 0x80 0x9f 0xd
      else if b.toNat < 0xf0 then .longer 2 0x80 0xbf (b.toNat - 0xe0)
      else if b.toNat = 0xf0 then .longer 3 0x90 0xbf 0
      else if b.toNat < 0xf4 then .longer 3 0x80 0xbf (b.toNat - 0xf0)
      else if b.toNat = 0xf4 then .longer 3 0x80 0x8f 4
      else .none := by
  simp only [leadOf, UInt8.lt_iff_toNat_lt, ← UInt8.toNat_inj, UInt8.reduceToNat]

theorem lead_of_two {code : Nat} (above : 0x7f < code) (below : code ≤ 0x7ff) :
    leadOf (UInt8.ofNat (code / 64 % 32 + 0xc0)) = .longer 1 0x80 0xbf (code / 64) := by
  have number : (UInt8.ofNat (code / 64 % 32 + 0xc0)).toNat = code / 64 + 0xc0 := by
    rw [UInt8.toNat_ofNat_of_lt' (show _ < 256 by omega)]
    omega
  rw [lead_of_eq, number, if_neg (by omega), if_neg (by omega), if_pos (by omega), Nat.add_sub_cancel]

theorem lead_of_three {code : Nat} (above : 0x7ff < code) (below : code ≤ 0xffff)
    (isScalar : code < 0xd800 ∨ 0xdfff < code) :
    ∃ low high, leadOf (UInt8.ofNat (code / 4096 % 16 + 0xe0)) = .longer 2 low high (code / 4096) ∧
      low ≤ UInt8.ofNat (code / 64 % 64 + 0x80) ∧ UInt8.ofNat (code / 64 % 64 + 0x80) ≤ high := by
  have number : (UInt8.ofNat (code / 4096 % 16 + 0xe0)).toNat = code / 4096 + 0xe0 := by
    rw [UInt8.toNat_ofNat_of_lt' (show _ < 256 by omega)]
    omega
  rw [lead_of_eq, number, if_neg (by omega), if_neg (by omega), if_neg (by omega)]
  simp only [UInt8.le_iff_toNat_le, to_nat_of_nat_tail]
  by_cases short : code / 4096 = 0
  · -- The second byte keeps forms out that are longer than need be.
    refine ⟨0xa0, 0xbf, ?_, show 0xa0 ≤ _ by omega, show _ ≤ 0xbf by omega⟩
    rw [if_pos (by omega), short]
  · by_cases surrogate : code / 4096 = 0xd
    · refine ⟨0x80, 0x9f, ?_, show 0x80 ≤ _ by omega, show _ ≤ 0x9f by omega⟩
      rw [if_neg (by omega), if_pos (by omega), surrogate]
    · refine ⟨0x80, 0xbf, ?_, show 0x80 ≤ _ by omega, show _ ≤ 0xbf by omega⟩
      rw [if_neg (by omega), if_neg (by omega), if_pos (by omega), Nat.add_sub_cancel]

theorem lead_of_four {code : Nat} (above : 0xffff < code) (below : code ≤ 0x10ffff) :
    ∃ low high, leadOf (UInt8.ofNat (code / 262144 % 8 + 0xf0)) = .longer 3 low high (code / 262144) ∧
      low ≤ UInt8.ofNat (code / 4096 % 64 + 0x80) ∧ UInt8.ofNat (code / 4096 % 64 + 0x80) ≤ high := by
  have number : (UInt8.ofNat (code / 262144 % 8 + 0xf0)).toNat = code / 262144 + 0xf0 := by
    rw [UInt8.toNat_ofNat_of_lt' (show _ < 256 by omega)]
    omega
  rw [lead_of_eq, number, if_neg (by omega), if_neg (by omega), if_neg (by omega), if_neg (by omega),
    if_neg (by omega), if_neg (by omega)]
  simp only [UInt8.le_iff_toNat_le, to_nat_of_nat_tail]
  by_cases short : code / 262144 = 0
  · refine ⟨0x90, 0xbf, ?_, show 0x90 ≤ _ by omega, show _ ≤ 0xbf by omega⟩
    rw [if_pos (by omega), short]
  · by_cases last : code / 262144 = 4
    · refine ⟨0x80, 0x8f, ?_, show 0x80 ≤ _ by omega, show _ ≤ 0x8f by omega⟩
      rw [if_neg (by omega), if_neg (by omega), if_pos (by omega), last]
    · refine ⟨0x80, 0xbf, ?_, show 0x80 ≤ _ by omega, show _ ≤ 0xbf by omega⟩
      rw [if_neg (by omega), if_pos (by omega), Nat.add_sub_cancel]

theorem code_bounds (c : Char) :
    (c.toNat < 0xd800 ∨ 0xdfff < c.toNat) ∧ c.toNat ≤ 0x10ffff := by
  have valid : c.toNat.isValidChar := c.valid
  rw [Nat.isValidChar] at valid
  omega

theorem encode_char_eq (c : Char) :
    String.utf8EncodeChar c =
      if c.toNat ≤ 0x7f then [UInt8.ofNat c.toNat]
      else if c.toNat ≤ 0x7ff then UInt8.ofNat (c.toNat / 64 % 32 + 0xc0) :: tail 1 c.toNat
      else if c.toNat ≤ 0xffff then UInt8.ofNat (c.toNat / 4096 % 16 + 0xe0) :: tail 2 c.toNat
      else UInt8.ofNat (c.toNat / 262144 % 8 + 0xf0) :: tail 3 c.toNat := by
  simp only [String.utf8EncodeChar, tail, Nat.pow_zero, Nat.pow_one, Nat.div_one]
  rfl

theorem readings_encode_char (c : Char) (position : Nat) (rest : List UInt8) :
    readings position none (String.utf8EncodeChar c ++ rest) =
      .ok c :: readings (position + (String.utf8EncodeChar c).length) none rest := by
  obtain ⟨isScalar, below⟩ := code_bounds c
  have same : Char.ofNat c.toNat = c := Char.ofNat_toNat c
  rw [encode_char_eq]
  generalize c.toNat = code at isScalar below same
  split
  · next ascii =>
    have number : (UInt8.ofNat code).toNat = code := UInt8.toNat_ofNat_of_lt' (show code < 256 by omega)
    have leads : leadOf (UInt8.ofNat code) = .ascii := by
      rw [lead_of_eq, number, if_pos (by omega)]
    rw [List.singleton_append, readings_cons]
    simp only [step, start, leads, number, same]
    rfl
  · next notAscii =>
    split
    · next two =>
      have leads := lead_of_two (Nat.lt_of_not_le notAscii) two
      rw [readings_longer leads (tail_bounds _), same]
      rfl
    · next notTwo =>
      split
      · next three =>
        obtain ⟨low, high, leads, inside⟩ := lead_of_three (Nat.lt_of_not_le notTwo) three isScalar
        rw [← Nat.pow_one 64] at inside
        rw [readings_longer leads inside, same]
        rfl
      · next notThree =>
        obtain ⟨low, high, leads, inside⟩ := lead_of_four (Nat.lt_of_not_le notThree) below
        rw [readings_longer leads inside, same]
        rfl

theorem readings_encode (cs : List Char) (position : Nat) :
    readings position none (encode cs) = cs.map .ok := by
  induction cs generalizing position with
  | nil => rfl
  | cons c cs ih =>
    rw [encode, List.flatMap_cons, readings_encode_char, List.map_cons]
    exact congrArg _ (ih _)

theorem decode_lossy_encode (cs : List Char) : decodeLossy (encode cs) = cs := by
  rw [decodeLossy, readings_encode, List.map_map]
  exact List.map_id cs

theorem collect_map_ok (cs : List Char) (rest : List Reading) :
    collect (cs.map .ok ++ rest) = (collect rest).map (cs ++ ·) := by
  induction cs with
  | nil =>
    rw [List.map_nil, List.nil_append]
    cases collect rest <;> rfl
  | cons c cs ih =>
    rw [List.map_cons, List.cons_append, collect, ih]
    cases collect rest <;> rfl

theorem decode_encode (cs : List Char) : decode (encode cs) = .ok cs := by
  have collected := collect_map_ok cs []
  rw [List.append_nil] at collected
  rw [decode, readings_encode, collected, collect, Except.map, List.append_nil]

theorem to_nat_of_nat {code : Nat} (valid : code.isValidChar) : (Char.ofNat code).toNat = code := by
  rw [Char.ofNat, dif_pos valid]
  rfl

theorem encode_char_two {code : Nat} (above : 0x7f < code) (below : code ≤ 0x7ff) :
    String.utf8EncodeChar (Char.ofNat code) = UInt8.ofNat (code / 64 % 32 + 0xc0) :: tail 1 code := by
  rw [encode_char_eq, to_nat_of_nat (.inl (by omega)), if_neg (by omega), if_pos below]

theorem encode_char_three {code : Nat} (above : 0x7ff < code) (below : code ≤ 0xffff)
    (isScalar : code < 0xd800 ∨ 0xdfff < code) :
    String.utf8EncodeChar (Char.ofNat code) = UInt8.ofNat (code / 4096 % 16 + 0xe0) :: tail 2 code := by
  have valid : code.isValidChar := by
    rw [Nat.isValidChar]
    omega
  rw [encode_char_eq, to_nat_of_nat valid, if_neg (by omega), if_neg (by omega), if_pos below]

theorem encode_char_four {code : Nat} (above : 0xffff < code) (below : code ≤ 0x10ffff) :
    String.utf8EncodeChar (Char.ofNat code) = UInt8.ofNat (code / 262144 % 8 + 0xf0) :: tail 3 code := by
  have valid : code.isValidChar := by
    rw [Nat.isValidChar]
    omega
  rw [encode_char_eq, to_nat_of_nat valid, if_neg (by omega), if_neg (by omega), if_neg (by omega)]

def Spells (length value low high : Nat) (taken : List UInt8) : Prop :=
  ∀ code, code / 64 ^ (length + 1) = value →
    low ≤ code / 64 ^ length % 64 + 0x80 → code / 64 ^ length % 64 + 0x80 ≤ high →
    String.utf8EncodeChar (Char.ofNat code) = taken ++ tail (length + 1) code

theorem spells_two {b : UInt8} {value low high : Nat} (lead : b.toNat = value + 0xc0)
    (fits : 2 ≤ value ∧ value < 32) : Spells 0 value low high [b] := by
  intro code begun _ _
  change code / 64 = value at begun
  have same : UInt8.ofNat (code / 64 % 32 + 0xc0) = b := by
    rw [← UInt8.ofNat_toNat (x := b), lead]
    congr 1
    omega
  rw [encode_char_two (by omega) (by omega), same]
  rfl

theorem spells_three {b : UInt8} {value low high : Nat} (lead : b.toNat = value + 0xe0) (fits : value < 16)
    (short : value = 0 → 0xa0 ≤ low) (surrogate : value = 0xd → high ≤ 0x9f) :
    Spells 1 value low high [b] := by
  intro code begun above below
  change code / 4096 = value at begun
  change low ≤ code / 64 % 64 + 0x80 at above
  change code / 64 % 64 + 0x80 ≤ high at below
  have same : UInt8.ofNat (code / 4096 % 16 + 0xe0) = b := by
    rw [← UInt8.ofNat_toNat (x := b), lead]
    congr 1
    omega
  rw [encode_char_three (by omega) (by omega) (by omega), same]
  rfl

theorem spells_four {b : UInt8} {value low high : Nat} (lead : b.toNat = value + 0xf0) (fits : value ≤ 4)
    (short : value = 0 → 0x90 ≤ low) (last : value = 4 → high ≤ 0x8f) :
    Spells 2 value low high [b] := by
  intro code begun above below
  change code / 262144 = value at begun
  change low ≤ code / 4096 % 64 + 0x80 at above
  change code / 4096 % 64 + 0x80 ≤ high at below
  have same : UInt8.ofNat (code / 262144 % 8 + 0xf0) = b := by
    rw [← UInt8.ofNat_toNat (x := b), lead]
    congr 1
    omega
  rw [encode_char_four (by omega) (by omega), same]
  rfl

structure Begins (owed value low high length : Nat) (taken : List UInt8) : Prop where
  owes : owed = length + 1
  above : 0x80 ≤ low
  below : high ≤ 0xbf
  spells : Spells length value low high taken

theorem begins_of_lead {b low high : UInt8} {owed value : Nat}
    (leads : leadOf b = .longer owed low high value) :
    ∃ length, Begins owed value low.toNat high.toNat length [b] := by
  rw [lead_of_eq] at leads
  split_ifs at leads with ascii stray two short surrogate three shortest four last
  all_goals obtain ⟨rfl, rfl, rfl, rfl⟩ := Lead.longer.inj leads
  · exact ⟨0, rfl, by decide, by decide, spells_two (by omega) (by omega)⟩
  · exact ⟨1, rfl, by decide, by decide, spells_three (by omega) (by omega) (by decide) (by decide)⟩
  · exact ⟨1, rfl, by decide, by decide, spells_three (by omega) (by omega) (by decide) (by decide)⟩
  · exact ⟨1, rfl, by decide, by decide, spells_three (by omega) (by omega) (by omega) (by omega)⟩
  · exact ⟨2, rfl, by decide, by decide, spells_four (by omega) (by omega) (by decide) (by decide)⟩
  · exact ⟨2, rfl, by decide, by decide, spells_four (by omega) (by omega) (by omega) (by omega)⟩
  · exact ⟨2, rfl, by decide, by decide, spells_four (by omega) (by omega) (by decide) (by decide)⟩

def Holds (taken : List UInt8) : Option Pending → Prop
  | none => taken = []
  | some pending =>
    ∃ length, Begins pending.owed pending.value pending.low.toNat pending.high.toNat length taken

theorem start_takes (position : Nat) (b : UInt8) :
    (∃ fault, (start position b).1 = [.error fault]) ∨
      ∃ cs later, (start position b).1 = cs.map .ok ∧ Holds later (start position b).2 ∧
        [b] = encode cs ++ later := by
  cases leads : leadOf b with
  | none =>
    refine .inl ⟨⟨b, position, 1, .badStart⟩, ?_⟩
    simp only [start, leads]
  | ascii =>
    have below : b.toNat < 0x80 := by
      rw [lead_of_eq] at leads
      split_ifs at leads with ascii
      exact ascii
    have spelled : String.utf8EncodeChar (Char.ofNat b.toNat) = [b] := by
      rw [encode_char_eq, to_nat_of_nat (.inl (by omega)), if_pos (by omega), UInt8.ofNat_toNat]
    refine .inr ⟨[Char.ofNat b.toNat], [], ?_, ?_, ?_⟩
    · simp only [start, leads]
      rfl
    · simp only [start, leads]
      rfl
    · rw [encode, List.flatMap_singleton, spelled, List.append_nil]
  | longer owed low high value =>
    refine .inr ⟨[], [b], ?_, ?_, rfl⟩
    · simp only [start, leads]
      rfl
    · simp only [start, leads]
      exact begins_of_lead leads

theorem next_of_tail {b low high : UInt8} {length value code : Nat} (above : 0x80 ≤ low.toNat)
    (below : high.toNat ≤ 0xbf) (inside : low ≤ b ∧ b ≤ high)
    (next : code / 64 ^ length = value * 64 + (b.toNat - 0x80)) :
    code / 64 ^ (length + 1) = value ∧ code / 64 ^ length % 64 + 0x80 = b.toNat := by
  rw [UInt8.le_iff_toNat_le, UInt8.le_iff_toNat_le] at inside
  rw [Nat.pow_succ, ← Nat.div_div_eq_div_mul, next]
  omega

theorem step_takes {pending : Option Pending} {taken : List UInt8} (holds : Holds taken pending)
    (position : Nat) (b : UInt8) :
    (∃ fault others, (step position b pending).1 = .error fault :: others) ∨
      ∃ cs later, (step position b pending).1 = cs.map .ok ∧ Holds later (step position b pending).2 ∧
        taken ++ [b] = encode cs ++ later := by
  cases pending with
  | none =>
    obtain rfl : taken = [] := holds
    rcases start_takes position b with ⟨fault, faulty⟩ | takes
    · exact .inl ⟨fault, [], faulty⟩
    · exact .inr takes
  | some pending =>
    obtain ⟨length, begins⟩ := holds
    by_cases inside : pending.low ≤ b ∧ b ≤ pending.high
    · rw [step, if_pos inside, begins.owes]
      have bounds := inside
      rw [UInt8.le_iff_toNat_le, UInt8.le_iff_toNat_le] at bounds
      cases length with
      | zero =>
        let code := pending.value * 64 + (b.toNat - 0x80)
        have whole : code / 64 ^ 0 = pending.value * 64 + (b.toNat - 0x80) := Nat.div_one code
        obtain ⟨begun, last⟩ := next_of_tail begins.above begins.below inside whole
        have spelled := begins.spells code begun (by omega) (by omega)
        rw [tail, tail, last, UInt8.ofNat_toNat] at spelled
        refine .inr ⟨[Char.ofNat code], [], rfl, rfl, ?_⟩
        rw [encode, List.flatMap_singleton, spelled, List.append_nil]
      | succ length =>
        refine .inr ⟨[], taken ++ [b], rfl, ⟨length, rfl, ?_, ?_, ?_⟩, rfl⟩
        · exact Nat.le_refl _
        · exact Nat.le_refl _
        · intro code begun _ _
          obtain ⟨begun, next⟩ := next_of_tail begins.above begins.below inside begun
          have spelled := begins.spells code begun (by omega) (by omega)
          rw [spelled, tail, next, UInt8.ofNat_toNat, List.append_assoc, List.singleton_append]
    · rw [step, if_neg inside]
      exact .inl ⟨_, _, rfl⟩

theorem encode_of_collect {bytes taken : List UInt8} {pending : Option Pending} (holds : Holds taken pending)
    {position : Nat} {cs : List Char} (collected : collect (readings position pending bytes) = .ok cs) :
    taken ++ bytes = encode cs := by
  induction bytes generalizing taken pending position cs with
  | nil =>
    cases pending with
    | none =>
      obtain rfl : taken = [] := holds
      cases collected
      rfl
    | some pending => cases collected
  | cons b bytes ih =>
    rw [readings_cons] at collected
    rcases step_takes holds position b with ⟨fault, others, faulty⟩ | ⟨done, later, read, held, spelled⟩
    · rw [faulty] at collected
      cases collected
    · rw [read, collect_map_ok] at collected
      cases rest : collect (readings (position + 1) (step position b pending).2 bytes) with
      | error fault =>
        rw [rest] at collected
        cases collected
      | ok others =>
        rw [rest] at collected
        obtain rfl : done ++ others = cs := Except.ok.inj collected
        have restSpelled := ih held rest
        calc
          taken ++ b :: bytes = taken ++ [b] ++ bytes := by rw [List.append_assoc, List.singleton_append]
          _ = encode done ++ (later ++ bytes) := by rw [spelled, List.append_assoc]
          _ = encode (done ++ others) := by rw [restSpelled, encode, encode, encode, List.flatMap_append]

theorem decode_eq_ok_iff {bytes : List UInt8} {cs : List Char} : decode bytes = .ok cs ↔ bytes = encode cs := by
  constructor
  · intro decoded
    exact encode_of_collect (show Holds [] none from rfl) decoded
  · rintro rfl
    exact decode_encode cs

end MarkdownView.Text.Utf8
