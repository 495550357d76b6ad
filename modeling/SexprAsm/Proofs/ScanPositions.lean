import SexprAsm.Proofs.ScanFaults
import Mathlib.Order.Bounds.Basic

/-!
# Scanning by positions

From any position, also past the end of the source, a reader of the scanner goes to the first place
where it has to stop, and it fails exactly if that place has no character. Scanning is a loop of
such readings. Each round of the loop fails or goes on within the source, so the loop ends after at
most as many rounds as there are characters.
-/

namespace SexprAsm

/-! ## Where reading stops -/

namespace Scan

/-- The places from `start` on where reading has to stop: those of characters that stop it, and all
that have no character. -/
def stops (cs : List Char) (start : Nat) (stop : Char → Prop) : Set Nat :=
  {i | start ≤ i ∧ (cs.length ≤ i ∨ ∃ c, cs[i]? = some c ∧ stop c)}

section Stops

variable {cs : List Char} {start q : Nat} {stop : Char → Prop} {p : Char → Bool}

theorem le_max_of_isLeast_stops (h : IsLeast (stops cs start stop) q) : q ≤ max start cs.length :=
  h.2 ⟨Nat.le_max_left _ _, .inl (Nat.le_max_right _ _)⟩

theorem eq_max_of_isLeast_stops (h : IsLeast (stops cs start stop) q) (hq : cs.length ≤ q) :
    q = max start cs.length :=
  Nat.le_antisymm (le_max_of_isLeast_stops h) (Nat.max_le.2 ⟨h.1.1, hq⟩)

theorem isLeast_stops_of_forall (h : ∀ c ∈ cs.drop start, p c = true) :
    IsLeast (stops cs start (p · = false)) (max start cs.length) := by
  refine ⟨⟨Nat.le_max_left _ _, .inl (Nat.le_max_right _ _)⟩, ?_⟩
  rintro i ⟨hstart, hend | ⟨c, hc, hstop⟩⟩
  · exact Nat.max_le.2 ⟨hstart, hend⟩
  · have hmem : c ∈ cs.drop start := by
      apply List.mem_of_getElem? (i := i - start)
      rw [List.getElem?_drop, Nat.add_sub_cancel' hstart, hc]
    simp [h c hmem] at hstop

theorem isLeast_stops_of_append {run tail : List Char} {c : Char}
    (hcs : cs.drop start = run ++ c :: tail) (hrun : ∀ d ∈ run, p d = true) (hc : p c = false) :
    IsLeast (stops cs start (p · = false)) (start + run.length) := by
  -- from `start` on, the characters are those of the run and then the one that stops it
  have hget (k : Nat) : cs[start + k]? = (run ++ c :: tail)[k]? := by
    rw [← hcs, List.getElem?_drop]
  have hlength : cs.length - start = run.length + (tail.length + 1) := by
    rw [← List.length_drop, hcs, List.length_append, List.length_cons]
  refine ⟨⟨Nat.le_add_right _ _, .inr ⟨c, by rw [hget]; simp, hc⟩⟩, ?_⟩
  rintro i ⟨hstart, hend | ⟨d, hd, hstop⟩⟩
  · omega
  · by_contra hlt
    have hbefore : i - start < run.length := by omega
    rw [← Nat.add_sub_cancel' hstart, hget, List.getElem?_append_left hbefore] at hd
    simp [hrun d (List.mem_of_getElem? hd)] at hstop

end Stops

theorem closedRun_drop (cs : List Char) (start : Nat) (p : Char → Bool) :
    ∃ q, IsLeast (stops cs start (p · = false)) q ∧
      (q < cs.length → closedRun p (cs.drop start) = ⟨.ok (cs.extract start q), cs.drop q⟩) ∧
      (cs.length ≤ q → closedRun p (cs.drop start) = ⟨.error .unexpectedEnd, []⟩) := by
  cases hread : closedRun p (cs.drop start) with
  | mk outcome rest =>
      cases outcome with
      | error cause =>
          obtain ⟨rfl, rfl, hall⟩ := closedRun_eq_error_iff.1 hread
          refine ⟨max start cs.length, isLeast_stops_of_forall hall, fun hlt => ?_, fun _ => rfl⟩
          omega
      | ok run =>
          obtain ⟨hcs, hrun, c, tail, rfl, hc⟩ := closedRun_eq_ok_iff.1 hread
          have hlength : cs.length - start = run.length + (tail.length + 1) := by
            rw [← List.length_drop, hcs, List.length_append, List.length_cons]
          refine ⟨start + run.length, isLeast_stops_of_append hcs hrun hc, fun _ => ?_,
            fun hle => by omega⟩
          rw [List.extract_eq_take_drop, hcs, ← List.drop_drop, hcs]
          simp

theorem stringBody_drop (cs : List Char) (start : Nat) :
    ∃ r, IsLeast (stops cs start (· = '"')) r ∧
      (r < cs.length → stringBody (cs.drop start) = ⟨.ok (cs.extract start r), cs.drop (r + 1)⟩) ∧
      (cs.length ≤ r → stringBody (cs.drop start) = ⟨.error .unexpectedEnd, []⟩) := by
  obtain ⟨r, hleast, hok, herror⟩ := closedRun_drop cs start (· ≠ '"')
  refine ⟨r, by simpa using hleast, fun hlt => ?_, fun hle => ?_⟩
  · rw [stringBody, hok hlt, List.tail_drop]
  · rw [stringBody, herror hle, List.tail_nil]

theorem rest_stringBody_suffix (cs : List Char) : (stringBody cs).rest <:+ cs := by
  have hrun : (closedRun (· ≠ '"') cs).rest <:+ cs := by
    rw [closedRun_rest]
    exact List.dropWhile_suffix _
  exact (List.tail_suffix _).trans hrun

/-! ## Scanning on -/

def tokensAfter (ts : List Token) (cs : List Char) : Reading Char ScanCause (List Token) :=
  (tokens cs).map (ts ++ ·)

theorem tokensAfter_nil (ts : List Token) : tokensAfter ts [] = ⟨.ok ts, []⟩ := by
  rw [tokensAfter, tokens_nil, Reading.map, Except.map, List.append_nil]

theorem tokensAfter_of_error {c : Char} {cs rest : List Char} {cause : ScanCause}
    (h : lexeme c cs = ⟨.error cause, rest⟩) (ts : List Token) :
    tokensAfter ts (c :: cs) = ⟨.error cause, rest⟩ := by
  rw [tokensAfter, tokens_cons, h]
  rfl

theorem tokensAfter_of_ok {c : Char} {cs rest : List Char} {t : Option Token}
    (h : lexeme c cs = ⟨.ok t, rest⟩) (ts : List Token) :
    tokensAfter ts (c :: cs) = tokensAfter (ts ++ t.toList) rest := by
  rw [tokensAfter, tokens_of_lexeme h, Reading.map_map]
  simp only [tokensAfter, List.append_assoc]

end Scan

open Scan

namespace Scanner

/-! ## Readers at a position -/

section Scan

variable {α : Type} {s : Scanner} {read : List Char → Reading Char ScanCause α} {q : Nat}

theorem scan_eq {outcome : Except ScanCause α} (hread : read s.rest = ⟨outcome, s.items.drop q⟩)
    (hle : s.pos ≤ q) (hq : q ≤ max s.pos s.items.length) :
    s.scan read = (outcome.mapError (⟨·, q⟩), s.seek q) := by
  have hpos : s.pos + (s.rest.length - (s.items.drop q).length) = q := by
    rw [Cursor.rest, List.length_drop, List.length_drop]
    omega
  simp only [scan, Cursor.run, hread, hpos]
  rfl

theorem scan_of_ok {a : α} (hread : read s.rest = ⟨.ok a, s.items.drop q⟩) (hle : s.pos ≤ q)
    (hq : q ≤ max s.pos s.items.length) : s.scan read = (.ok a, s.seek q) :=
  scan_eq hread hle hq

theorem scan_of_error {cause : ScanCause} (hread : read s.rest = ⟨.error cause, s.items.drop q⟩)
    (hle : s.pos ≤ q) (hq : q ≤ max s.pos s.items.length) :
    s.scan read = (.error ⟨cause, q⟩, s.seek q) :=
  scan_eq hread hle hq

theorem scan_seek (hle : s.pos ≤ q) (hq : q ≤ s.items.length)
    (hread : (read (s.items.drop q)).rest <:+ s.items.drop q) :
    Scanner.scan (s.seek q) read = s.scan fun _ => read (s.items.drop q) := by
  obtain ⟨k, hqk, hk, hrest⟩ : ∃ k, q ≤ k ∧ k ≤ max q s.items.length ∧
      (read (s.items.drop q)).rest = s.items.drop k :=
    Cursor.exists_drop_of_suffix (c := s.seek q) hread
  have hsame : read (s.items.drop q) =
      ⟨(read (s.items.drop q)).outcome, s.items.drop k⟩ := by
    rw [← hrest]
  rw [scan_eq (s := s.seek q) hsame hqk hk, scan_eq hsame (Nat.le_trans hle hqk) (by omega)]
  rfl

end Scan

theorem readRun_exact (s : Scanner) (p : Char → Bool) :
    ∃ q, IsLeast (stops s.items s.pos (p · = false)) q ∧
      (q < s.items.length → s.readRun p = (.ok (s.items.extract s.pos q), s.seek q)) ∧
      (s.items.length ≤ q → s.readRun p = (.error ⟨.unexpectedEnd, q⟩, s.seek q)) := by
  obtain ⟨q, hleast, hok, herror⟩ := closedRun_drop s.items s.pos p
  have hmax := le_max_of_isLeast_stops hleast
  refine ⟨q, hleast, fun hlt => ?_, fun hle => ?_⟩
  · exact scan_of_ok (hok hlt) hleast.1.1 hmax
  · have hnil : s.items.drop q = [] := List.drop_eq_nil_of_le hle
    exact scan_of_error (hnil ▸ herror hle) hleast.1.1 hmax

theorem readString_exact (s : Scanner) :
    ∃ r, IsLeast (stops s.items (s.pos + 1) (· = '"')) r ∧
      (r < s.items.length →
        s.readString = (.ok (s.items.extract (s.pos + 1) r), s.seek (r + 1))) ∧
      (s.items.length ≤ r → s.readString = (.error ⟨.unexpectedEnd, r⟩, s.seek r)) := by
  obtain ⟨r, hleast, hok, herror⟩ := stringBody_drop s.items (s.pos + 1)
  have hstart : s.pos + 1 ≤ r := hleast.1.1
  have hmax := le_max_of_isLeast_stops hleast
  refine ⟨r, hleast, fun hlt => ?_, fun hle => ?_⟩
  · -- the closing quote is passed too
    exact scan_of_ok (s := s.seek (s.pos + 1)) (hok hlt) (Nat.le_succ_of_le hstart)
      (Nat.le_trans hlt (Nat.le_max_right _ _))
  · have hnil : s.items.drop r = [] := List.drop_eq_nil_of_le hle
    exact scan_of_error (s := s.seek (s.pos + 1)) (hnil ▸ herror hle) hstart hmax

/-! ## One round -/

def asToken (kind : Token.Kind) (r : Except ScanFault (List Char) × Scanner) :
    Except ScanFault (Option Token) × Scanner :=
  (r.1.map fun chars => some ⟨kind, String.ofList chars⟩, r.2)

/-- A round of the loop, for the character at the position. A parenthesis or a blank is passed, and
any other token is left to its reader. -/
def round (s : Scanner) (c : Char) : Except ScanFault (Option Token) × Scanner :=
  if c = '(' then (.ok (some .lparen), s.seek (s.pos + 1))
  else if c = ')' then (.ok (some .rparen), s.seek (s.pos + 1))
  else if Text.isBlank c then (.ok none, s.seek (s.pos + 1))
  else if c.isDigit then asToken .number (s.readRun Char.isDigit)
  else if c = '"' then asToken .string s.readString
  else if c.isAlpha then asToken .ident (s.readRun Char.isAlpha)
  else (.error ⟨.illegalCharacter c, s.pos⟩, s)

/-- The reading failed, or it went on and did not pass the end of the source. -/
def Progress {α : Type} (s : Scanner) (r : Except ScanFault α × Scanner) : Prop :=
  (∃ fault, r.1 = .error fault) ∨ (s.pos < r.2.pos ∧ r.2.pos ≤ s.items.length)

variable {s : Scanner} {c : Char}

theorem Progress.asToken {r : Except ScanFault (List Char) × Scanner} (h : s.Progress r)
    (kind : Token.Kind) : s.Progress (asToken kind r) := by
  obtain ⟨outcome, s'⟩ := r
  rcases h with ⟨fault, rfl⟩ | hpos
  · exact .inl ⟨fault, rfl⟩
  · exact .inr hpos

theorem progress_readRun {p : Char → Bool} (hc : s.items[s.pos]? = some c) (hp : p c = true) :
    s.Progress (s.readRun p) := by
  obtain ⟨q, hleast, hok, herror⟩ := s.readRun_exact p
  rcases Nat.lt_or_ge q s.items.length with hlt | hle
  · obtain ⟨hstart, hend | ⟨d, hd, hstop⟩⟩ := hleast.1
    · omega
    -- the run does not stop where it begins, at a character of its class
    · have hne : s.pos ≠ q := by
        rintro rfl
        obtain rfl : c = d := by simpa [hc] using hd
        simp [hp] at hstop
      rw [hok hlt]
      exact .inr ⟨Nat.lt_of_le_of_ne hstart hne, Nat.le_of_lt hlt⟩
  · rw [herror hle]
    exact .inl ⟨_, rfl⟩

theorem progress_readString (s : Scanner) : s.Progress s.readString := by
  obtain ⟨r, hleast, hok, herror⟩ := s.readString_exact
  rcases Nat.lt_or_ge r s.items.length with hlt | hle
  · rw [hok hlt]
    exact .inr ⟨Nat.lt_succ_of_lt hleast.1.1, hlt⟩
  · rw [herror hle]
    exact .inl ⟨_, rfl⟩

theorem progress_round (hc : s.items[s.pos]? = some c) : s.Progress (s.round c) := by
  have hpos : s.pos < s.items.length := (List.getElem?_eq_some_iff.1 hc).1
  have hnext (t : Option Token) : s.Progress (.ok t, s.seek (s.pos + 1)) :=
    .inr ⟨Nat.lt_succ_self _, hpos⟩
  unfold round
  split
  · exact hnext _
  split
  · exact hnext _
  split
  · exact hnext _
  split
  · next hdigit => exact (progress_readRun hc hdigit).asToken _
  split
  · exact s.progress_readString.asToken _
  split
  · next hletter => exact (progress_readRun hc hletter).asToken _
  · exact .inl ⟨_, rfl⟩

theorem asToken_scan (s : Scanner) (kind : Token.Kind)
    (read : List Char → Reading Char ScanCause (List Char)) :
    asToken kind (s.scan read) =
      s.scan fun cs => (read cs).map fun chars => some ⟨kind, String.ofList chars⟩ := by
  simp only [asToken, scan, Cursor.run, Reading.map]
  cases (read s.rest).outcome <;> rfl

theorem round_eq_scan (hc : s.items[s.pos]? = some c) :
    s.round c = s.scan fun _ => lexeme c (s.items.drop (s.pos + 1)) := by
  have hpos : s.pos < s.items.length := (List.getElem?_eq_some_iff.1 hc).1
  have hrest : c :: s.items.drop (s.pos + 1) = s.rest := (Cursor.rest_eq_cons hc).symm
  have hnext (t : Option Token) : (s.scan fun _ => ⟨.ok t, s.items.drop (s.pos + 1)⟩) =
      (.ok t, s.seek (s.pos + 1)) :=
    scan_of_ok rfl (Nat.le_succ _) (by omega)
  unfold round lexeme
  split
  · exact (hnext _).symm
  split
  · exact (hnext _).symm
  split
  · exact (hnext _).symm
  split
  · rw [hrest]
    exact s.asToken_scan .number _
  split
  · -- the reader of a string begins after the opening quote, the round at it
    rw [readString, scan_seek (Nat.le_succ _) hpos (rest_stringBody_suffix _)]
    exact s.asToken_scan .string _
  split
  · rw [hrest]
    exact s.asToken_scan .ident _
  · rw [hrest]
    exact (scan_of_error rfl (Nat.le_refl _) (Nat.le_max_left _ _)).symm

theorem exists_lexeme (hc : s.items[s.pos]? = some c) :
    ∃ outcome q, s.pos ≤ q ∧ q ≤ max s.pos s.items.length ∧
      lexeme c (s.items.drop (s.pos + 1)) = ⟨outcome, s.items.drop q⟩ ∧
      s.round c = (outcome.mapError (⟨·, q⟩), s.seek q) := by
  cases hlexeme : lexeme c (s.items.drop (s.pos + 1)) with
  | mk outcome rest =>
      have hsuffix : rest <:+ s.rest := Cursor.rest_eq_cons hc ▸ rest_lexeme_suffix hlexeme
      obtain ⟨q, hle, hq, rfl⟩ := Cursor.exists_drop_of_suffix hsuffix
      refine ⟨outcome, q, hle, hq, rfl, ?_⟩
      rw [round_eq_scan hc]
      exact scan_eq hlexeme hle hq

/-! ## The loop -/

/-- The loop of scanning, with the tokens so far. There is no result if it does not end within `n`
rounds. -/
def rounds (n : Nat) (ts : List Token) (s : Scanner) :
    Option (Except ScanFault (List Token) × Scanner) :=
  match s.items[s.pos]? with
  | none => some (.ok ts, s)
  | some c =>
    match n with
    | 0 => none
    | n + 1 =>
      match s.round c with
      | (.error fault, s') => some (.error fault, s')
      | (.ok t, s') => rounds n (ts ++ t.toList) s'

theorem rounds_of_end (h : s.items.length ≤ s.pos) (n : Nat) (ts : List Token) :
    rounds n ts s = some (s.scan (tokensAfter ts)) := by
  have hnil : s.items.drop s.pos = [] := List.drop_eq_nil_of_le h
  have hread : tokensAfter ts s.rest = ⟨.ok ts, s.items.drop s.pos⟩ := by
    rw [Cursor.rest, hnil, tokensAfter_nil]
  have hnone : s.items[s.pos]? = none := List.getElem?_eq_none h
  rw [scan_of_ok hread (Nat.le_refl _) (Nat.le_max_left _ _), rounds, hnone]
  rfl

/-- As many rounds as there are characters left read all tokens, or come to the first fault. -/
theorem rounds_eq {n : Nat} {ts : List Token} {s : Scanner} (h : s.items.length ≤ s.pos + n) :
    rounds n ts s = some (s.scan (tokensAfter ts)) := by
  induction n generalizing ts s with
  | zero => exact rounds_of_end h 0 ts
  | succ n ih =>
      cases hc : s.items[s.pos]? with
      | none => exact rounds_of_end (List.getElem?_eq_none_iff.1 hc) (n + 1) ts
      | some c =>
          obtain ⟨outcome, q, hle, hq, hlexeme, hround⟩ := exists_lexeme hc
          rw [rounds, hc]
          dsimp only
          rw [hround]
          cases outcome with
          | error cause =>
              have hread : tokensAfter ts s.rest = ⟨.error cause, s.items.drop q⟩ := by
                rw [Cursor.rest_eq_cons hc, tokensAfter_of_error hlexeme]
              rw [scan_of_error hread hle hq]
              rfl
          | ok t =>
              -- the round has gone on, so the rounds left suffice for the characters left
              obtain ⟨fault, hfault⟩ | ⟨hlt, hend⟩ := hround ▸ progress_round hc
              · simp [Except.mapError] at hfault
              have hlt' : s.pos < q := hlt
              have hread : tokensAfter ts s.rest =
                  tokensAfter (ts ++ t.toList) (s.items.drop q) := by
                rw [Cursor.rest_eq_cons hc, tokensAfter_of_ok hlexeme]
              have hseek : Scanner.scan (s.seek q) (tokensAfter (ts ++ t.toList)) =
                  s.scan fun _ => tokensAfter (ts ++ t.toList) (s.items.drop q) :=
                scan_seek hle hend (rest_tokens_suffix _)
              have hleft : (s.seek q).items.length ≤ (s.seek q).pos + n := by
                change s.items.length ≤ q + n
                omega
              calc rounds n (ts ++ t.toList) (s.seek q)
                  = some (Scanner.scan (s.seek q) (tokensAfter (ts ++ t.toList))) := ih hleft
                _ = some (s.scan fun _ => tokensAfter (ts ++ t.toList) (s.items.drop q)) := by
                    rw [hseek]
                _ = some (s.scan (tokensAfter ts)) := by
                    rw [← hread]
                    rfl

theorem rounds_eq_tokenize (s : Scanner) {n : Nat} (h : s.items.length ≤ n) :
    rounds n [] (s.seek 0) = some s.tokenize := by
  have hleft : (s.seek 0).items.length ≤ (s.seek 0).pos + n := by
    change s.items.length ≤ 0 + n
    omega
  have hread : tokensAfter [] = tokens := funext fun cs => Reading.map_id (tokens cs)
  rw [rounds_eq hleft, hread]
  rfl

/-- The readers are exact from every position, also past the end of the source. A run of any class
goes to the first place that has no character of the class, a string to the first quote after its
opening one. They return what lies before that place. If no character stands there, they fail right
there, at the end of the source or at the place where they began beyond it. So a round of scanning
that does not fail goes on and stays within the source, and scanning ends after at most as many
rounds as there are characters. -/
theorem readers_exact_and_scanning_ends (s : Scanner) :
    (∀ p : Char → Bool, ∃ q, IsLeast (stops s.items s.pos (p · = false)) q ∧
      (q < s.items.length → s.readRun p = (.ok (s.items.extract s.pos q), s.seek q)) ∧
      (s.items.length ≤ q → q = max s.pos s.items.length ∧
        ∃ fault, s.readRun p = (.error fault, s.seek q) ∧
          fault.diagnostic.detail = "unexpected end of input" ∧ fault.pos = q)) ∧
    (∃ r, IsLeast (stops s.items (s.pos + 1) (· = '"')) r ∧
      (r < s.items.length → r + 1 ≤ s.items.length ∧
        s.readString = (.ok (s.items.extract (s.pos + 1) r), s.seek (r + 1))) ∧
      (s.items.length ≤ r → r = max (s.pos + 1) s.items.length ∧
        ∃ fault, s.readString = (.error fault, s.seek r) ∧
          fault.diagnostic.detail = "unexpected end of input" ∧ fault.pos = r)) ∧
    (∀ c, s.items[s.pos]? = some c → s.Progress (s.round c)) ∧
    ∀ n, s.items.length ≤ n → rounds n [] (s.seek 0) = some s.tokenize := by
  refine ⟨fun p => ?_, ?_, fun c => progress_round, fun n => s.rounds_eq_tokenize⟩
  · obtain ⟨q, hleast, hok, herror⟩ := s.readRun_exact p
    refine ⟨q, hleast, hok, fun hle => ?_⟩
    exact ⟨eq_max_of_isLeast_stops hleast hle, _, herror hle, rfl, rfl⟩
  · obtain ⟨r, hleast, hok, herror⟩ := s.readString_exact
    refine ⟨r, hleast, fun hlt => ⟨hlt, hok hlt⟩, fun hle => ?_⟩
    exact ⟨eq_max_of_isLeast_stops hleast hle, _, herror hle, rfl, rfl⟩

theorem readers_exact_and_scanning_ends_openRun :
    let s := ofString "(f\"x\"7"
    Scanner.readString (s.seek 2) = (.ok ['x'], s.seek 5) ∧
      Scanner.Progress (s.seek 2) (Scanner.round (s.seek 2) '"') ∧
      (∃ fault, Scanner.readRun (s.seek 5) Char.isDigit = (.error fault, s.seek 6) ∧
        fault.pos = 6) ∧
      (∃ fault, Scanner.readRun (s.seek 9) Char.isDigit = (.error fault, s.seek 9) ∧
        fault.pos = 9) ∧
      rounds 6 [] (s.seek 0) = some s.tokenize ∧
      s.tokenize.1 = .error ⟨.unexpectedEnd, 6⟩ := by
  intro s
  have hitems : s.items = ['(', 'f', '"', 'x', '"', '7'] := rfl
  obtain ⟨-, ⟨r, hr, hclosed, -⟩, hround, hrounds⟩ := readers_exact_and_scanning_ends (s.seek 2)
  obtain ⟨q, hq, -, hopen⟩ := (readers_exact_and_scanning_ends (s.seek 5)).1 Char.isDigit
  obtain ⟨k, hk, -, hpast⟩ := (readers_exact_and_scanning_ends (s.seek 9)).1 Char.isDigit
  obtain rfl : r = 4 := by
    have hle : r ≤ 4 := hr.2 ⟨by decide, .inr ⟨'"', rfl, rfl⟩⟩
    have hne : r ≠ 3 := by
      rintro rfl
      simpa [stops, Cursor.seek, hitems] using hr.1
    have hstart : 3 ≤ r := hr.1.1
    omega
  have hend : 6 ≤ q := by
    have hne : q ≠ 5 := by
      rintro rfl
      simpa [stops, Cursor.seek, hitems] using hq.1
    have hstart : 5 ≤ q := hq.1.1
    omega
  have hbeyond : 9 ≤ k := hk.1.1
  obtain ⟨rfl, fault, hfault, -, hpos⟩ := hopen hend
  obtain ⟨rfl, fault', hfault', -, hpos'⟩ := hpast (Nat.le_trans (by decide) hbeyond)
  refine ⟨(hclosed (by decide)).2, hround '"' rfl, ⟨fault, hfault, hpos⟩, ⟨fault', hfault', hpos'⟩,
    hrounds 6 (by decide), ?_⟩
  decide +kernel

end Scanner

end SexprAsm
