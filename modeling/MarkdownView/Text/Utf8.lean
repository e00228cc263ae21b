import MarkdownView.Text.Basic
set_option autoImplicit false

namespace MarkdownView.Text.Utf8

inductive Reason where
  | badStart
  | badContinuation
  | truncated
deriving DecidableEq

def Reason.words : Reason → String
  | .badStart => "invalid start byte"
  | .badContinuation => "invalid continuation byte"
  | .truncated => "unexpected end of data"

structure Fault where
  lead : UInt8
  start : Nat
  length : Nat
  reason : Reason
deriving DecidableEq

structure Pending where
  lead : UInt8
  start : Nat
  taken : Nat
  value : Nat
  owed : Nat
  low : UInt8
  high : UInt8

inductive Lead where
  | ascii
  | longer (owed : Nat) (low high : UInt8) (value : Nat)
  | none

-- What a byte starts. The bounds of the second byte leave out overlong forms, surrogates and values
-- past the last code point.
def leadOf (b : UInt8) : Lead :=
  if b < 0x80 then .ascii
  else if b < 0xc2 then .none
  else if b < 0xe0 then .longer 1 0x80 0xbf (b.toNat - 0xc0)
  else if b = 0xe0 then .longer 2 0xa0 0xbf 0
  else if b = 0xed then .longer 2 0x80 0x9f 0xd
  else if b < 0xf0 then .longer 2 0x80 0xbf (b.toNat - 0xe0)
  else if b = 0xf0 then .longer 3 0x90 0xbf 0
  else if b < 0xf4 then .longer 3 0x80 0xbf (b.toNat - 0xf0)
  else if b = 0xf4 then .longer 3 0x80 0x8f 4
  else .none

abbrev Reading := Except Fault Char

def start (position : Nat) (b : UInt8) : List Reading × Option Pending :=
  match leadOf b with
  | .ascii => ([.ok (Char.ofNat b.toNat)], none)
  | .longer owed low high value => ([], some ⟨b, position, 1, value, owed, low, high⟩)
  | .none => ([.error ⟨b, position, 1, .badStart⟩], none)

def Pending.fault (pending : Pending) (reason : Reason) : Reading :=
  .error ⟨pending.lead, pending.start, pending.taken, reason⟩

def step (position : Nat) (b : UInt8) : Option Pending → List Reading × Option Pending
  | none => start position b
  | some pending =>
    if pending.low ≤ b ∧ b ≤ pending.high then
      let value := pending.value * 64 + (b.toNat - 0x80)
      match pending.owed with
      | 0 | 1 => ([.ok (Char.ofNat value)], none)
      | owed + 1 => ([], some ⟨pending.lead, pending.start, pending.taken + 1, value, owed, 0x80, 0xbf⟩)
    else
      let (readings, next) := start position b
      (pending.fault .badContinuation :: readings, next)

def readings (position : Nat) (pending : Option Pending) : List UInt8 → List Reading
  | [] =>
    match pending with
    | none => []
    | some pending => [pending.fault .truncated]
  | b :: rest =>
    let (done, next) := step position b pending
    done ++ readings (position + 1) next rest

def collect : List Reading → Except Fault (List Char)
  | [] => .ok []
  | .error fault :: _ => .error fault
  | .ok c :: rest => (collect rest).map (c :: ·)

def decode (bytes : List UInt8) : Except Fault (List Char) :=
  collect (readings 0 none bytes)

def Reading.lossy : Reading → Char
  | .ok c => c
  | .error _ => '\ufffd'

def decodeLossy (bytes : List UInt8) : List Char :=
  (readings 0 none bytes).map Reading.lossy

def encode (cs : List Char) : List UInt8 :=
  cs.flatMap String.utf8EncodeChar

def Fault.message (fault : Fault) : String :=
  if fault.length = 1 then
    let digits := String.ofList (hexDigits 2 fault.lead.toNat)
    s!"'utf-8' codec can't decode byte 0x{digits} in position {fault.start}: " ++
      fault.reason.words
  else
    s!"'utf-8' codec can't decode bytes in position {fault.start}-" ++
      s!"{fault.start + fault.length - 1}: {fault.reason.words}"

end MarkdownView.Text.Utf8
