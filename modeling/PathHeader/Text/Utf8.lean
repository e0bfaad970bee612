import PathHeader.Text.Basic

/-! UTF-8 in both directions. Decoding stops at the first byte that no text can hold there, and
says how many bytes before it decode and how long the sequence is that went wrong. -/
namespace PathHeader

abbrev Bytes := List UInt8

namespace Utf8

def encode (t : Text) : Bytes := t.flatMap String.utf8EncodeChar

def size (t : Text) : Nat := (encode t).length

/-- Where decoding stopped. Without a length the data ended within a sequence that was good up to
there. -/
structure Fault where
  start : Nat
  length : Option Nat
  deriving Repr, DecidableEq

/-- The payload of a first byte and the range of every byte that has to follow it. -/
structure Lead where
  bits : Nat
  following : List (Nat × Nat)
  deriving Repr, DecidableEq

def continuation : Nat × Nat := (0x80, 0xbf)

/-- The second byte has a narrower range where a longer form, a surrogate or too high a number would
begin. -/
def lead? (byte : Nat) : Option Lead :=
  if byte < 0x80 then some ⟨byte, []⟩
  else if byte < 0xc2 then none
  else if byte < 0xe0 then some ⟨byte - 0xc0, [continuation]⟩
  else if byte = 0xe0 then some ⟨0, [(0xa0, 0xbf), continuation]⟩
  else if byte = 0xed then some ⟨0xd, [(0x80, 0x9f), continuation]⟩
  else if byte < 0xf0 then some ⟨byte - 0xe0, [continuation, continuation]⟩
  else if byte = 0xf0 then some ⟨0, [(0x90, 0xbf), continuation, continuation]⟩
  else if byte < 0xf4 then some ⟨byte - 0xf0, [continuation, continuation, continuation]⟩
  else if byte = 0xf4 then some ⟨4, [(0x80, 0x8f), continuation, continuation]⟩
  else none

/-- A sequence that has begun at byte `start`: the bytes of it read so far, their payload, and the
ranges of those still awaited. Between two sequences nothing is read and nothing awaited. -/
structure Partial where
  start : Nat
  read : Nat
  bits : Nat
  awaited : List (Nat × Nat)
  deriving Repr, DecidableEq

def Partial.idle (start : Nat) : Partial := ⟨start, 0, 0, []⟩

/-- Decodes from the middle of a text. Its characters so far are `before`, the last one first. -/
def decodeFrom (before : Text) (seq : Partial) : Bytes → Except Fault Text
  | [] => if seq.awaited = [] then .ok before.reverse else .error ⟨seq.start, none⟩
  | byte :: rest =>
    match seq.awaited with
    | [] =>
      match lead? byte.toNat with
      | none => .error ⟨seq.start, some 1⟩
      | some ⟨bits, []⟩ => decodeFrom (Char.ofNat bits :: before) (.idle (seq.start + 1)) rest
      | some ⟨bits, awaited⟩ => decodeFrom before ⟨seq.start, 1, bits, awaited⟩ rest
    | (low, high) :: awaited =>
      if low ≤ byte.toNat ∧ byte.toNat ≤ high then
        let bits := seq.bits * 64 + (byte.toNat - 0x80)
        match awaited with
        | [] => decodeFrom (Char.ofNat bits :: before) (.idle (seq.start + seq.read + 1)) rest
        | _ => decodeFrom before ⟨seq.start, seq.read + 1, bits, awaited⟩ rest
      else .error ⟨seq.start, some seq.read⟩

def decode (bytes : Bytes) : Except Fault Text := decodeFrom [] (.idle 0) bytes

/-- Decodes what it can and puts the replacement character in place of every faulty sequence. -/
def decodeLossy (fuel : Nat) (bytes : Bytes) : Text :=
  match fuel, decode bytes with
  | _, .ok t => t
  | 0, .error _ => []
  | fuel + 1, .error fault =>
    let good := match decode (bytes.take fault.start) with
      | .ok t => t
      | .error _ => []
    good ++ '\ufffd' :: match fault.length with
      | none => []
      | some n => decodeLossy fuel (bytes.drop (fault.start + n))

/-- Every byte can be the start of at most one faulty sequence. -/
def lossy (bytes : Bytes) : Text := decodeLossy bytes.length bytes

theorem encode_append (s t : Text) : encode (s ++ t) = encode s ++ encode t := by
  simp [encode]

end Utf8

end PathHeader
