import Mathlib.Data.List.Forall2
import PathHeader.Text.Utf8

/-! Decoding and encoding undo each other: bytes decode to a text exactly if they are its encoding.
Both sides go through sequences, a first byte with the bytes that it asks for. -/
namespace PathHeader.Utf8

/-- The range of the byte after a first byte, in a sequence of more than two. -/
def second (first : Nat) : Nat × Nat :=
  if first = 0xe0 then (0xa0, 0xbf)
  else if first = 0xed then (0x80, 0x9f)
  else if first = 0xf0 then (0x90, 0xbf)
  else if first = 0xf4 then (0x80, 0x8f)
  else continuation

theorem lead?_eq (byte : Nat) :
    lead? byte =
      if byte < 0x80 then some ⟨byte, []⟩
      else if byte < 0xc2 then none
      else if byte < 0xe0 then some ⟨byte - 0xc0, [continuation]⟩
      else if byte < 0xf0 then some ⟨byte - 0xe0, [second byte, continuation]⟩
      else if byte < 0xf5 then some ⟨byte - 0xf0, [second byte, continuation, continuation]⟩
      else none := by
  unfold lead? second
  split_ifs <;> first | omega | (subst byte; rfl) | rfl

def Allows (range : Nat × Nat) (byte : UInt8) : Prop :=
  range.1 ≤ byte.toNat ∧ byte.toNat ≤ range.2

theorem allows_continuation_iff (byte : UInt8) :
    Allows continuation byte ↔ 0x80 ≤ byte.toNat ∧ byte.toNat < 0xc0 := by
  simp only [Allows, continuation]
  omega

theorem allows_second_iff (first : Nat) (byte : UInt8) :
    Allows (second first) byte ↔ Allows continuation byte ∧
      (first = 0xe0 → 0xa0 ≤ byte.toNat) ∧ (first = 0xed → byte.toNat < 0xa0) ∧
      (first = 0xf0 → 0x90 ≤ byte.toNat) ∧ (first = 0xf4 → byte.toNat < 0x90) := by
  simp only [Allows, second, continuation]
  split_ifs <;> simp only <;> omega

/-- The number that following bytes make of the payload read before them. -/
def payload (bits : Nat) (following : Bytes) : Nat :=
  following.foldl (fun bits byte => bits * 64 + (byte.toNat - 0x80)) bits

/-- A first byte, what it says, and bytes that may follow it. -/
structure Sequence (first : UInt8) (lead : Lead) (following : Bytes) : Prop where
  leads : lead? first.toNat = some lead
  allowed : List.Forall₂ Allows lead.following following

theorem toNat_ofNat {n : Nat} (valid : n < 0xd800 ∨ 0xdfff < n ∧ n < 0x110000) :
    (Char.ofNat n).toNat = n := by
  have isValid : n.isValidChar := valid
  unfold Char.ofNat
  rw [dif_pos isValid]
  rfl

theorem toNat_valid (c : Char) : c.toNat < 0xd800 ∨ 0xdfff < c.toNat ∧ c.toNat < 0x110000 := c.valid

/-- Every character is encoded as a sequence that stands for it. -/
theorem encodeChar_sequence (c : Char) :
    ∃ first lead following, Sequence first lead following ∧
      String.utf8EncodeChar c = first :: following ∧ payload lead.bits following = c.toNat := by
  have valid := toNat_valid c
  simp only [String.utf8EncodeChar, Char.toNat_val]
  generalize c.toNat = n at valid ⊢
  have byte : ∀ m < 256, (UInt8.ofNat m).toNat = m := by
    intro m small
    rw [UInt8.toNat_ofNat', Nat.mod_eq_of_lt small]
  split_ifs with one two three
  · refine ⟨_, ⟨n, []⟩, _, ⟨?_, .nil⟩, rfl, rfl⟩
    rw [lead?_eq, byte n (by omega), if_pos (by omega)]
  · have first := byte (n / 64 % 0x20 + 0xc0) (by omega)
    have last := byte (n % 0x40 + 0x80) (by omega)
    refine ⟨_, ⟨n / 64 % 0x20, [continuation]⟩, _, ⟨?_, .cons ?_ .nil⟩, rfl, ?_⟩
    · rw [lead?_eq, first, if_neg (by omega), if_neg (by omega), if_pos (by omega),
        Nat.add_sub_cancel]
    · rw [allows_continuation_iff]
      omega
    · simp only [payload, List.foldl_cons, List.foldl_nil, last]
      omega
  · have first := byte (n / 4096 % 0x10 + 0xe0) (by omega)
    have middle := byte (n / 64 % 0x40 + 0x80) (by omega)
    have last := byte (n % 0x40 + 0x80) (by omega)
    refine ⟨_, ⟨n / 4096 % 0x10, [second (n / 4096 % 0x10 + 0xe0), continuation]⟩, _,
      ⟨?_, .cons ?_ (.cons ?_ .nil)⟩, rfl, ?_⟩
    · rw [lead?_eq, first, if_neg (by omega), if_neg (by omega), if_neg (by omega),
        if_pos (by omega), Nat.add_sub_cancel]
    · rw [allows_second_iff, allows_continuation_iff]
      omega
    · rw [allows_continuation_iff]
      omega
    · simp only [payload, List.foldl_cons, List.foldl_nil, middle, last]
      omega
  · have first := byte (n / 262144 % 8 + 0xf0) (by omega)
    have middle := byte (n / 4096 % 0x40 + 0x80) (by omega)
    have next := byte (n / 64 % 0x40 + 0x80) (by omega)
    have last := byte (n % 0x40 + 0x80) (by omega)
    refine ⟨_, ⟨n / 262144 % 8, [second (n / 262144 % 8 + 0xf0), continuation, continuation]⟩,
      _, ⟨?_, .cons ?_ (.cons ?_ (.cons ?_ .nil))⟩, rfl, ?_⟩
    · rw [lead?_eq, first, if_neg (by omega), if_neg (by omega), if_neg (by omega),
        if_neg (by omega), if_pos (by omega), Nat.add_sub_cancel]
    · rw [allows_second_iff, allows_continuation_iff]
      omega
    · rw [allows_continuation_iff]
      omega
    · rw [allows_continuation_iff]
      omega
    · simp only [payload, List.foldl_cons, List.foldl_nil, middle, next, last]
      omega

/-- What a sequence stands for is encoded as the same bytes again. -/
theorem Sequence.encodeChar {first : UInt8} {lead : Lead} {following : Bytes}
    (sequence : Sequence first lead following) :
    String.utf8EncodeChar (Char.ofNat (payload lead.bits following)) = first :: following := by
  obtain ⟨leads, allowed⟩ := sequence
  have byte : ∀ (m : Nat) (b : UInt8), m = b.toNat → UInt8.ofNat m = b := by
    rintro _ b rfl
    exact UInt8.ofNat_toNat
  rw [lead?_eq] at leads
  split_ifs at leads with one none two three four
  all_goals
    obtain rfl := Option.some.inj leads
    dsimp only at allowed ⊢
  · cases allowed
    have number : (Char.ofNat first.toNat).toNat = first.toNat := toNat_ofNat (by omega)
    simp only [payload, List.foldl_nil, String.utf8EncodeChar, Char.toNat_val, number]
    rw [if_pos (by omega), byte _ first rfl]
  · obtain _ | @⟨_, last, _, _, inLast, ⟨⟩⟩ := allowed
    rw [allows_continuation_iff] at inLast
    simp only [payload, List.foldl_cons, List.foldl_nil]
    have number : (Char.ofNat ((first.toNat - 0xc0) * 64 + (last.toNat - 0x80))).toNat =
      (first.toNat - 0xc0) * 64 + (last.toNat - 0x80) := toNat_ofNat (by omega)
    simp only [String.utf8EncodeChar, Char.toNat_val, number]
    rw [if_neg (by omega), if_pos (by omega), byte _ first (by omega), byte _ last (by omega)]
  · obtain _ | @⟨_, middle, _, _, inMiddle, _ | @⟨_, last, _, _, inLast, ⟨⟩⟩⟩ := allowed
    rw [allows_second_iff, allows_continuation_iff] at inMiddle
    rw [allows_continuation_iff] at inLast
    simp only [payload, List.foldl_cons, List.foldl_nil]
    generalize value : ((first.toNat - 0xe0) * 64 + (middle.toNat - 0x80)) * 64 +
      (last.toNat - 0x80) = n
    have number : (Char.ofNat n).toNat = n := toNat_ofNat (by omega)
    simp only [String.utf8EncodeChar, Char.toNat_val, number]
    rw [if_neg (by omega), if_neg (by omega), if_pos (by omega), byte _ first (by omega),
      byte _ middle (by omega), byte _ last (by omega)]
  · obtain _ | @⟨_, middle, _, _, inMiddle, _ | @⟨_, next, _, _, inNext,
      _ | @⟨_, last, _, _, inLast, ⟨⟩⟩⟩⟩ := allowed
    rw [allows_second_iff, allows_continuation_iff] at inMiddle
    rw [allows_continuation_iff] at inNext inLast
    simp only [payload, List.foldl_cons, List.foldl_nil]
    generalize value : (((first.toNat - 0xf0) * 64 + (middle.toNat - 0x80)) * 64 +
      (next.toNat - 0x80)) * 64 + (last.toNat - 0x80) = n
    have number : (Char.ofNat n).toNat = n := toNat_ofNat (by omega)
    simp only [String.utf8EncodeChar, Char.toNat_val, number]
    rw [if_neg (by omega), if_neg (by omega), if_neg (by omega), byte _ first (by omega),
      byte _ middle (by omega), byte _ next (by omega), byte _ last (by omega)]

/-- Allowed bytes bring a sequence to its end. -/
theorem decodeFrom_following {awaited : List (Nat × Nat)} {following : Bytes}
    (allowed : List.Forall₂ Allows awaited following) (awaits : awaited ≠ []) (before : Text)
    (start read bits : Nat) (rest : Bytes) :
    decodeFrom before ⟨start, read, bits, awaited⟩ (following ++ rest) =
      decodeFrom (Char.ofNat (payload bits following) :: before)
        (.idle (start + read + following.length)) rest := by
  induction allowed generalizing read bits with
  | nil => contradiction
  | @cons range byte awaited following inRange allowed ih =>
    have fits : range.1 ≤ byte.toNat ∧ byte.toNat ≤ range.2 := inRange
    cases allowed with
    | nil => simp [decodeFrom, fits, payload, Nat.add_assoc]
    | cons _ _ =>
      rw [List.cons_append, decodeFrom]
      simp only [fits, and_self, if_true]
      rw [ih (by simp)]
      simp only [payload, List.foldl_cons, List.length_cons]
      congr 2
      omega

theorem decodeFrom_sequence {first : UInt8} {lead : Lead} {following : Bytes}
    (sequence : Sequence first lead following) (before : Text) (start : Nat) (rest : Bytes) :
    decodeFrom before (.idle start) (first :: following ++ rest) =
      decodeFrom (Char.ofNat (payload lead.bits following) :: before)
        (.idle (start + (first :: following).length)) rest := by
  obtain ⟨leads, allowed⟩ := sequence
  obtain ⟨bits, awaited⟩ := lead
  rw [List.cons_append, decodeFrom]
  simp only [Partial.idle, leads]
  cases allowed with
  | nil => rfl
  | @cons _ byte _ more inRange allowed =>
    have ended := decodeFrom_following (.cons inRange allowed) (by simp) before start 1 bits rest
    rw [Nat.add_assoc, Nat.add_comm 1] at ended
    exact ended

theorem decodeFrom_encode (before : Text) (start : Nat) (t : Text) :
    decodeFrom before (.idle start) (encode t) = .ok (before.reverse ++ t) := by
  induction t generalizing before start with
  | nil => simp [encode, decodeFrom, Partial.idle]
  | cons c t ih =>
    obtain ⟨first, lead, following, sequence, encoded, value⟩ := encodeChar_sequence c
    have split : encode (c :: t) = first :: following ++ encode t := by
      rw [← encoded]
      rfl
    rw [split, decodeFrom_sequence sequence, value, Char.ofNat_toNat, ih]
    simp

/-- Decoding from anywhere leaves nothing out: what is read are the bytes that the sequence begun
still awaits and then the encoding of what is added to the text. -/
theorem decodeFrom_sound {before : Text} {seq : Partial} {bytes : Bytes} {t : Text}
    (decoded : decodeFrom before seq bytes = .ok t) :
    ∃ following u, List.Forall₂ Allows seq.awaited following ∧ bytes = following ++ encode u ∧
      t = before.reverse ++
        (if seq.awaited = [] then u else Char.ofNat (payload seq.bits following) :: u) := by
  fun_induction decodeFrom before seq bytes with
  | case1 before seq idle =>
    cases decoded
    exact ⟨[], [], by simp [idle], rfl, by simp [idle]⟩
  | case4 before seq byte rest idle bits leads ih =>
    obtain ⟨following, u, allowed, rfl, rfl⟩ := ih decoded
    cases allowed
    have sequence : Sequence byte ⟨bits, []⟩ [] := ⟨leads, .nil⟩
    refine ⟨[], Char.ofNat bits :: u, by simp [idle], ?_, by simp [idle, Partial.idle]⟩
    exact congrArg (· ++ encode u) sequence.encodeChar.symm
  | case5 before seq byte rest idle bits awaited awaits leads ih =>
    obtain ⟨following, u, allowed, rfl, rfl⟩ := ih decoded
    have sequence : Sequence byte ⟨bits, awaited⟩ following := ⟨leads, allowed⟩
    refine ⟨[], Char.ofNat (payload bits following) :: u, by simp [idle], ?_,
      by rw [if_neg awaits, if_pos idle]⟩
    exact congrArg (· ++ encode u) sequence.encodeChar.symm
  | case6 before seq byte rest low high inRange bits awaits ih =>
    obtain ⟨following, u, allowed, rfl, rfl⟩ := ih decoded
    cases allowed
    refine ⟨[byte], u, ?_, rfl, by simp [awaits, Partial.idle, payload, bits]⟩
    rw [awaits]
    exact .cons inRange .nil
  | case7 before seq byte rest low high awaited awaits inRange bits more ih =>
    obtain ⟨following, u, allowed, rfl, rfl⟩ := ih decoded
    refine ⟨byte :: following, u, ?_, rfl, by simp [awaits, if_neg more, payload, bits]⟩
    rw [awaits]
    exact .cons inRange allowed
  | case2 | case3 | case8 => cases decoded

/-- A text is what bytes decode to exactly if the bytes are its encoding. -/
theorem decode_eq_ok_iff (bytes : Bytes) (t : Text) : decode bytes = .ok t ↔ bytes = encode t := by
  constructor
  · intro decoded
    obtain ⟨following, u, allowed, rfl, rfl⟩ := decodeFrom_sound decoded
    cases allowed
    rfl
  · rintro rfl
    exact decodeFrom_encode [] 0 t

end PathHeader.Utf8
