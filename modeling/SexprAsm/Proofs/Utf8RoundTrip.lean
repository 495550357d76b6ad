import SexprAsm.Text.Utf8
import Mathlib.Algebra.Group.Nat.Defs

/-!
# UTF-8 round trips

Decoding gives back what was encoded. The octets of a character after its first one hold six bits
each, so a sequence under construction is on its way to a code if it has the leading bits of that
code. Every continuation octet takes it one step further.
-/

namespace SexprAsm.Text.Utf8

def continuationOctet (owed code : Nat) : UInt8 :=
  UInt8.ofNat (code / 64 ^ owed % 64 + 0x80)

def continuation : Nat → Nat → List UInt8
  | 0, code => [continuationOctet 0 code]
  | owed + 1, code => continuationOctet (owed + 1) code :: continuation owed code

/-- The sequence has the leading bits of the code, and takes the octet with the next six. -/
structure Sequence.Towards (s : Sequence) (code : Nat) : Prop where
  bits : s.code = code / 64 ^ (s.owed + 1)
  low : s.low ≤ code / 64 ^ s.owed % 64 + 0x80
  high : code / 64 ^ s.owed % 64 + 0x80 ≤ s.high

theorem toNat_continuationOctet (owed code : Nat) :
    (continuationOctet owed code).toNat = code / 64 ^ owed % 64 + 0x80 := by
  rw [continuationOctet, UInt8.toNat_ofNat']
  omega

theorem Sequence.Towards.bits_next {s : Sequence} {code : Nat} (h : s.Towards code) :
    64 * s.code + code / 64 ^ s.owed % 64 = code / 64 ^ s.owed := by
  rw [h.bits, Nat.pow_succ, ← Nat.div_div_eq_div_mul]
  omega

section Continuation

variable {s : Sequence} {code : Nat} (h : s.Towards code) (pos : Nat) (rest : List UInt8)

include h

theorem decodeFrom_last (howed : s.owed = 0) :
    decodeFrom pos (some s) (continuationOctet 0 code :: rest) =
      (decodeFrom (pos + 1) none rest).map (Char.ofNat code :: ·) := by
  obtain ⟨first, width, bits, owed, low, high⟩ := s
  obtain rfl : owed = 0 := howed
  rw [decodeFrom, toNat_continuationOctet, if_pos ⟨h.low, h.high⟩, Nat.add_sub_cancel,
    h.bits_next, Nat.pow_zero, Nat.div_one]

theorem decodeFrom_more {owed : Nat} (howed : s.owed = owed + 1) :
    ∃ next : Sequence, next.owed = owed ∧ next.Towards code ∧
      decodeFrom pos (some s) (continuationOctet (owed + 1) code :: rest) =
        decodeFrom (pos + 1) (some next) rest := by
  obtain ⟨first, width, bits, owed', low, high⟩ := s
  obtain rfl : owed' = owed + 1 := howed
  refine ⟨{ first, width := width + 1, code := code / 64 ^ (owed + 1), owed }, rfl, ?_, ?_⟩
  · exact ⟨rfl, by dsimp only; omega, by dsimp only; omega⟩
  · rw [decodeFrom, toNat_continuationOctet, if_pos ⟨h.low, h.high⟩, Nat.add_sub_cancel,
      h.bits_next]

theorem decodeFrom_continuation :
    decodeFrom pos (some s) (continuation s.owed code ++ rest) =
      (decodeFrom (pos + s.owed + 1) none rest).map (Char.ofNat code :: ·) := by
  induction howed : s.owed generalizing s pos with
  | zero => exact decodeFrom_last h pos rest howed
  | succ owed ih =>
      obtain ⟨next, hnext, htowards, hstep⟩ :=
        decodeFrom_more h pos (continuation owed code ++ rest) howed
      have hpos : pos + 1 + owed + 1 = pos + (owed + 1) + 1 := by omega
      rw [continuation, List.cons_append, hstep, ih htowards (pos + 1) hnext, hpos]

end Continuation

/-! ## First octets -/

theorem utf8EncodeChar_eq (c : Char) :
    String.utf8EncodeChar c =
      if c.toNat ≤ 0x7F then [UInt8.ofNat c.toNat]
      else if c.toNat ≤ 0x7FF then
        UInt8.ofNat (c.toNat / 64 % 32 + 0xC0) :: continuation 0 c.toNat
      else if c.toNat ≤ 0xFFFF then
        UInt8.ofNat (c.toNat / 4096 % 16 + 0xE0) :: continuation 1 c.toNat
      else UInt8.ofNat (c.toNat / 262144 % 8 + 0xF0) :: continuation 2 c.toNat := by
  simp only [continuation, continuationOctet, Nat.pow_zero, Nat.div_one]
  rfl

section First

variable {code : Nat}

theorem open?_two (hlow : 0x7F < code) (hhigh : code ≤ 0x7FF) :
    ∃ s, Sequence.open? (UInt8.ofNat (code / 64 % 32 + 0xC0)) = some s ∧ s.owed = 0 ∧
      s.Towards code := by
  have hoctet : (UInt8.ofNat (code / 64 % 32 + 0xC0)).toNat = code / 64 + 0xC0 := by
    rw [UInt8.toNat_ofNat']
    omega
  unfold Sequence.open?
  rw [hoctet, if_pos (by omega)]
  exact ⟨_, rfl, rfl, by constructor <;> dsimp only <;> omega⟩

theorem open?_three (hlow : 0x7FF < code) (hhigh : code ≤ 0xFFFF)
    (hvalid : code < 0xD800 ∨ 0xDFFF < code) :
    ∃ s, Sequence.open? (UInt8.ofNat (code / 4096 % 16 + 0xE0)) = some s ∧ s.owed = 1 ∧
      s.Towards code := by
  have hoctet : (UInt8.ofNat (code / 4096 % 16 + 0xE0)).toNat = code / 4096 + 0xE0 := by
    rw [UInt8.toNat_ofNat']
    omega
  unfold Sequence.open?
  rw [hoctet, if_neg (by omega)]
  -- the next octet is bounded below after the lowest first one, and above after that of surrogates
  split
  · exact ⟨_, rfl, rfl, by constructor <;> dsimp only <;> omega⟩
  split
  · exact ⟨_, rfl, rfl, by constructor <;> dsimp only <;> omega⟩
  rw [if_pos (by omega)]
  exact ⟨_, rfl, rfl, by constructor <;> dsimp only <;> omega⟩

theorem open?_four (hlow : 0xFFFF < code) (hhigh : code < 0x110000) :
    ∃ s, Sequence.open? (UInt8.ofNat (code / 262144 % 8 + 0xF0)) = some s ∧ s.owed = 2 ∧
      s.Towards code := by
  have hoctet : (UInt8.ofNat (code / 262144 % 8 + 0xF0)).toNat = code / 262144 + 0xF0 := by
    rw [UInt8.toNat_ofNat']
    omega
  unfold Sequence.open?
  rw [hoctet, if_neg (by omega), if_neg (by omega), if_neg (by omega), if_neg (by omega)]
  split
  · exact ⟨_, rfl, rfl, by constructor <;> dsimp only <;> omega⟩
  split
  · exact ⟨_, rfl, rfl, by constructor <;> dsimp only <;> omega⟩
  rw [if_pos (by omega)]
  exact ⟨_, rfl, rfl, by constructor <;> dsimp only <;> omega⟩

end First

/-- A character is one octet of ASCII, or a first octet that opens a sequence towards its code and
the octets that complete it. -/
theorem utf8EncodeChar_cases (c : Char) :
    (c.toNat < 0x80 ∧ String.utf8EncodeChar c = [UInt8.ofNat c.toNat]) ∨
    ∃ lead s, Sequence.open? lead = some s ∧ s.Towards c.toNat ∧
      String.utf8EncodeChar c = lead :: continuation s.owed c.toNat := by
  have hvalid : c.toNat < 0xD800 ∨ 0xDFFF < c.toNat ∧ c.toNat < 0x110000 := c.valid
  rw [utf8EncodeChar_eq]
  by_cases hone : c.toNat ≤ 0x7F
  · rw [if_pos hone]
    exact .inl ⟨by omega, rfl⟩
  right
  rw [if_neg hone]
  by_cases htwo : c.toNat ≤ 0x7FF
  · obtain ⟨s, hopen, howed, htowards⟩ := open?_two (by omega) htwo
    exact ⟨_, s, hopen, htowards, by rw [if_pos htwo, howed]⟩
  rw [if_neg htwo]
  by_cases hthree : c.toNat ≤ 0xFFFF
  · obtain ⟨s, hopen, howed, htowards⟩ := open?_three (by omega) hthree (by omega)
    exact ⟨_, s, hopen, htowards, by rw [if_pos hthree, howed]⟩
  · have hfour : 0xFFFF < c.toNat := by omega
    obtain ⟨s, hopen, howed, htowards⟩ := open?_four hfour (by omega)
    exact ⟨_, s, hopen, htowards, by rw [if_neg hthree, howed]⟩

/-! ## Texts -/

theorem not_ascii_of_open? {lead : UInt8} {s : Sequence} (h : Sequence.open? lead = some s) :
    ¬lead.toNat < 0x80 := by
  intro hascii
  unfold Sequence.open? at h
  rw [if_neg (by omega), if_neg (by omega), if_neg (by omega), if_neg (by omega),
    if_neg (by omega), if_neg (by omega), if_neg (by omega)] at h
  contradiction

theorem decodeFrom_utf8EncodeChar (pos : Nat) (c : Char) (rest : List UInt8) :
    ∃ pos', decodeFrom pos none (String.utf8EncodeChar c ++ rest) =
      (decodeFrom pos' none rest).map (c :: ·) := by
  rcases utf8EncodeChar_cases c with ⟨hascii, hoctets⟩ | ⟨lead, s, hopen, htowards, hoctets⟩
  · have hoctet : (UInt8.ofNat c.toNat).toNat = c.toNat := by
      rw [UInt8.toNat_ofNat']
      omega
    refine ⟨pos + 1, ?_⟩
    rw [hoctets, List.singleton_append, decodeFrom, hoctet, if_pos hascii, Char.ofNat_toNat]
  · refine ⟨pos + 1 + s.owed + 1, ?_⟩
    rw [hoctets, List.cons_append, decodeFrom, if_neg (not_ascii_of_open? hopen), hopen]
    dsimp only
    rw [decodeFrom_continuation htowards, Char.ofNat_toNat]

theorem decodeFrom_encode (pos : Nat) (cs : List Char) :
    decodeFrom pos none (encode cs) = .ok cs := by
  induction cs generalizing pos with
  | nil => rfl
  | cons c cs ih =>
      obtain ⟨pos', hchar⟩ := decodeFrom_utf8EncodeChar pos c (encode cs)
      rw [encode, List.flatMap_cons, ← encode, hchar, ih]
      rfl

/-- What is encoded is decoded to the same text. -/
theorem decode_encode (cs : List Char) : decode (encode cs) = .ok cs :=
  decodeFrom_encode 0 cs

end SexprAsm.Text.Utf8
