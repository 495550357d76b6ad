import SexprAsm.Reading
import SexprAsm.Text.Blank
import SexprAsm.Token

/-!
# Scanning

Cuts a source text into tokens. Blanks separate and are dropped. Numbers and identifiers are the
longest runs of ASCII digits and letters, and strings reach to the next double quote. A run needs
a character after it that closes it, so a source that ends in a run is refused. Positions count
characters.
-/

namespace SexprAsm

inductive ScanCause where
  | illegalCharacter (c : Char)
  | unexpectedEnd
  deriving DecidableEq

structure ScanFault where
  cause : ScanCause
  pos : Nat
  deriving DecidableEq

namespace Scan

/-- The longest run of characters in a class, which some other character must close. -/
def closedRun (p : Char → Bool) (cs : List Char) : Reading Char ScanCause (List Char) :=
  match cs.dropWhile p with
  | [] => ⟨.error .unexpectedEnd, []⟩
  | c :: rest => ⟨.ok (cs.takeWhile p), c :: rest⟩

/-- The rest of a string after its opening quote, up to and with its closing quote. -/
def stringBody (cs : List Char) : Reading Char ScanCause (List Char) :=
  let run := closedRun (· ≠ '"') cs
  ⟨run.outcome, run.rest.tail⟩

/-- Reads one token, or one blank. -/
def lexeme (c : Char) (cs : List Char) : Reading Char ScanCause (Option Token) :=
  if c = '(' then ⟨.ok (some .lparen), cs⟩
  else if c = ')' then ⟨.ok (some .rparen), cs⟩
  else if Text.isBlank c then ⟨.ok none, cs⟩
  else if c.isDigit then
    (closedRun Char.isDigit (c :: cs)).map fun run => some ⟨.number, String.ofList run⟩
  else if c = '"' then
    (stringBody cs).map fun body => some ⟨.string, String.ofList body⟩
  else if c.isAlpha then
    (closedRun Char.isAlpha (c :: cs)).map fun run => some ⟨.ident, String.ofList run⟩
  else ⟨.error (.illegalCharacter c), c :: cs⟩

theorem closedRun_rest (p : Char → Bool) (cs : List Char) :
    (closedRun p cs).rest = cs.dropWhile p := by
  unfold closedRun
  split
  · next h => rw [h]
  · next h => rw [h]

theorem closedRun_rest_length_le (p : Char → Bool) (cs : List Char) :
    (closedRun p cs).rest.length ≤ cs.length := by
  rw [closedRun_rest]
  exact (List.dropWhile_suffix p).length_le

/-- A run that begins with a character of its class leaves less than it was given. -/
theorem closedRun_rest_length_lt {p : Char → Bool} {c : Char} (hc : p c) (cs : List Char) :
    (closedRun p (c :: cs)).rest.length < (c :: cs).length := by
  rw [closedRun_rest, List.dropWhile_cons_of_pos hc]
  exact Nat.lt_succ_of_le (List.dropWhile_suffix p).length_le

theorem stringBody_rest_length_le (cs : List Char) : (stringBody cs).rest.length ≤ cs.length := by
  have h := closedRun_rest_length_le (· ≠ '"') cs
  simp only [stringBody, List.length_tail]
  omega

/-- Whatever is read, at least one character is used up. -/
theorem lexeme_rest_length_lt {c : Char} {cs rest : List Char} {t : Option Token}
    (h : lexeme c cs = ⟨.ok t, rest⟩) : rest.length < (c :: cs).length := by
  have hrest : (lexeme c cs).rest = rest := by rw [h]
  have houtcome : (lexeme c cs).outcome = .ok t := by rw [h]
  unfold lexeme at hrest houtcome
  split at hrest
  · exact hrest ▸ Nat.lt_succ_self _
  split at hrest
  · exact hrest ▸ Nat.lt_succ_self _
  split at hrest
  · exact hrest ▸ Nat.lt_succ_self _
  split at hrest
  · next hc => exact hrest ▸ closedRun_rest_length_lt hc cs
  split at hrest
  · exact hrest ▸ Nat.lt_succ_of_le (stringBody_rest_length_le cs)
  split at hrest
  · next hc => exact hrest ▸ closedRun_rest_length_lt hc cs
  · simp_all

/-- Reads tokens up to the end, or up to the first place where none can be read. -/
def tokens : List Char → Reading Char ScanCause (List Token)
  | [] => ⟨.ok [], []⟩
  | c :: cs =>
    match _h : lexeme c cs with
    | ⟨.error cause, rest⟩ => ⟨.error cause, rest⟩
    | ⟨.ok t, rest⟩ => (tokens rest).map (t.toList ++ ·)
termination_by cs => cs.length
decreasing_by exact lexeme_rest_length_lt _h

theorem tokens_nil : tokens [] = ⟨.ok [], []⟩ := by
  rw [tokens]

theorem tokens_cons (c : Char) (cs : List Char) :
    tokens (c :: cs) =
      match lexeme c cs with
      | ⟨.error cause, rest⟩ => ⟨.error cause, rest⟩
      | ⟨.ok t, rest⟩ => (tokens rest).map (t.toList ++ ·) := by
  rw [tokens]
  split <;> simp_all

end Scan

/-- A source text and a position in it. -/
abbrev Scanner := Cursor Char

namespace Scanner

def ofString (source : String) : Scanner :=
  { items := source.toList }

/-- Runs a reader from the position on; its fault lies where it stopped. -/
def scan {α : Type} (s : Scanner) (read : List Char → Reading Char ScanCause α) :
    Except ScanFault α × Scanner :=
  let (outcome, s') := s.run read
  (outcome.mapError (⟨·, s'.pos⟩), s')

/-- The character at the position. -/
def peek (s : Scanner) : Except ScanFault Char :=
  match s.rest with
  | [] => .error ⟨.unexpectedEnd, s.pos⟩
  | c :: _ => .ok c

def readRun (s : Scanner) (p : Char → Bool) : Except ScanFault (List Char) × Scanner :=
  s.scan (Scan.closedRun p)

/-- Reads a string, taking the character at the position for its opening quote. -/
def readString (s : Scanner) : Except ScanFault (List Char) × Scanner :=
  Scanner.scan (s.seek (s.pos + 1)) Scan.stringBody

/-- Reads all tokens of the source, wherever the position was before. -/
def tokenize (s : Scanner) : Except ScanFault (List Token) × Scanner :=
  Scanner.scan (s.seek 0) Scan.tokens

end Scanner

def tokenize (source : String) : Except ScanFault (List Token) :=
  (Scanner.ofString source).tokenize.1

end SexprAsm
