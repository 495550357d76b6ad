import SexprAsm.Text.Quoted

/-!
# UTF-8

Strict decoding, one octet at a time. A state between two octets says how many continuation octets
are owed and in which range the next one must lie, so that overlong forms, surrogates and values
beyond the last code point are refused at the first octet that rules the text out.
-/

namespace SexprAsm.Text.Utf8

inductive Cause where
  | invalidStart
  | invalidContinuation
  | unexpectedEnd
  deriving DecidableEq

/-- Why and where octets are not UTF-8: `width` of them from position `start` on, of which `first`
is the first, belong to no character. -/
structure Fault where
  cause : Cause
  first : UInt8
  start : Nat
  width : Nat
  deriving DecidableEq

/-- A character under construction. -/
structure Sequence where
  first : UInt8
  /-- The octets read so far. -/
  width : Nat
  /-- The bits read so far. -/
  code : Nat
  /-- The continuation octets still owed after the next one. -/
  owed : Nat
  /-- The range of the next octet. -/
  low : Nat := 0x80
  high : Nat := 0xBF

/-- What a first octet opens, if it is not a character by itself. -/
def Sequence.open? (b : UInt8) : Option Sequence :=
  let n := b.toNat
  if 0xC2 ≤ n ∧ n ≤ 0xDF then some { first := b, width := 1, code := n - 0xC0, owed := 0 }
  else if n = 0xE0 then some { first := b, width := 1, code := 0, owed := 1, low := 0xA0 }
  else if n = 0xED then some { first := b, width := 1, code := 0xD, owed := 1, high := 0x9F }
  else if 0xE1 ≤ n ∧ n ≤ 0xEF then some { first := b, width := 1, code := n - 0xE0, owed := 1 }
  else if n = 0xF0 then some { first := b, width := 1, code := 0, owed := 2, low := 0x90 }
  else if 0xF1 ≤ n ∧ n ≤ 0xF3 then some { first := b, width := 1, code := n - 0xF0, owed := 2 }
  else if n = 0xF4 then some { first := b, width := 1, code := 4, owed := 2, high := 0x8F }
  else none

/-- The characters of the octets from a position on, after the beginning of a character if one is
under construction. -/
def decodeFrom : Nat → Option Sequence → List UInt8 → Except Fault (List Char)
  | _, none, [] => .ok []
  | pos, some s, [] => .error ⟨.unexpectedEnd, s.first, pos - s.width, s.width⟩
  | pos, none, b :: bs =>
    if b.toNat < 0x80 then (decodeFrom (pos + 1) none bs).map (Char.ofNat b.toNat :: ·)
    else match Sequence.open? b with
      | some s => decodeFrom (pos + 1) (some s) bs
      | none => .error ⟨.invalidStart, b, pos, 1⟩
  | pos, some s, b :: bs =>
    if s.low ≤ b.toNat ∧ b.toNat ≤ s.high then
      let code := 64 * s.code + (b.toNat - 0x80)
      match s.owed with
      | 0 => (decodeFrom (pos + 1) none bs).map (Char.ofNat code :: ·)
      | owed + 1 =>
        decodeFrom (pos + 1) (some { first := s.first, width := s.width + 1, code, owed }) bs
    else .error ⟨.invalidContinuation, s.first, pos - s.width, s.width⟩

def Cause.message : Cause → String
  | .invalidStart => "invalid start byte"
  | .invalidContinuation => "invalid continuation byte"
  | .unexpectedEnd => "unexpected end of data"

def Fault.message (f : Fault) : String :=
  let octets :=
    if f.width = 1 then
      "byte 0x" ++ String.ofList (hexDigits 2 f.first.toNat) ++ " in position " ++ toString f.start
    else
      "bytes in position " ++ toString f.start ++ "-" ++ toString (f.start + f.width - 1)
  "'utf-8' codec can't decode " ++ octets ++ ": " ++ f.cause.message

def decode (octets : List UInt8) : Except Fault (List Char) :=
  decodeFrom 0 none octets

def encode (cs : List Char) : List UInt8 :=
  cs.flatMap String.utf8EncodeChar

end SexprAsm.Text.Utf8
