import SexprAsm.Proofs.DepthLimit
import SexprAsm.Proofs.EndToEnd

/-!
# A transducer without trees

One scan over the tokens with a stack of the operators of the open calls. Lines are emitted as the
tokens come, and no tree is built. Reading a program and generating its listing comes to the same
as this scan, on token lists of any kind and with the same failures.
-/

namespace SexprAsm

namespace Transducer

/-- What the scan remembers. -/
structure State where
  /-- The operators of the open calls, innermost first. -/
  stack : List String := []
  /-- The lines emitted so far. -/
  out : List String := []

def State.emit (s : State) (lines : List String) : State :=
  { s with out := s.out ++ lines }

def refuse (detail : String) (t : Option Token) : Option Diagnostic :=
  some ⟨detail, .token t⟩

/-- Scans the tokens from left to right. The failure without a diagnostic is that of an operator
without a text, found when its call is closed. -/
def scan (style : Style) (maxDepth : Int) (s : State) :
    List Token → Except (Option Diagnostic) (List String)
  | [] =>
    if s.stack.isEmpty then .ok s.out else .error (refuse "unexpected end of tokens" none)
  | t :: ts =>
    match t.kind with
    | .number =>
      scan style maxDepth
        (s.emit (style.gapLines ++ [style.indented ("PUSH #" ++ t.text)])) ts
    | .string => scan style maxDepth (s.emit (style.gapLines ++ style.gapLines)) ts
    | .ident => .error (refuse "unknown token" t)
    | .lparen =>
      if maxDepth < s.stack.length + 1 then .error (refuse "nesting too deep" t)
      else match ts with
        | [] => .error (refuse "unexpected end of tokens" none)
        | op :: ts =>
          if op.kind = .ident then
            scan style maxDepth { s.emit style.gapLines with stack := op.text :: s.stack } ts
          else .error (refuse "missing operator" op)
    | .rparen =>
      match s.stack with
      | [] => .error (refuse "unmatched close paren" t)
      | op :: stack =>
        if op = "" then .error none
        else scan style maxDepth
          { s.emit [style.indented (Text.uppercase op)] with stack } ts

def run (style : Style) (maxDepth : Int) (ts : List Token) :
    Except (Option Diagnostic) String :=
  (scan style maxDepth {} ts).map fun lines =>
    Text.endLines (style.headerLines ++ lines ++ style.footerLines)

/-! ## The scan follows the reader -/

def pending (style : Style) : List OpenCall → List String
  | [] => []
  | inner :: outer =>
    pending style outer ++ style.gapLines ++ Node.postorderAll style inner.arguments.reverse

/-- The state of the scan when the reader has finished some forms and has calls open. -/
def tracking (style : Style) (done : List Node) (calls : List OpenCall) : State where
  stack := calls.map OpenCall.operator
  out := Node.postorderAll style done ++ pending style calls

def lines (style : Style) (done : List Node) (r : Reading Token ReadFault (List Node)) :
    Except (Option Diagnostic) (List String) :=
  (r.outcome.mapError ReadFault.diagnostic?).map fun ns => Node.postorderAll style (done ++ ns)

@[simp] theorem lines_error (style : Style) (done : List Node) (f : ReadFault)
    (rest : List Token) : lines style done ⟨.error f, rest⟩ = .error f.diagnostic? :=
  rfl

theorem lines_map_cons (style : Style) (done : List Node) (n : Node)
    (r : Reading Token ReadFault (List Node)) :
    lines style done (r.map (n :: ·)) = lines style (done ++ [n]) r := by
  obtain ⟨outcome, rest⟩ := r
  cases outcome <;> simp [lines, Reading.map, Except.map, Except.mapError]

/-- The scan of the tokens follows the reader, whatever it has read before them. -/
def Tracks (style : Style) (limit : Int) (ts : List Token) : Prop :=
  ∀ done calls, scan style limit (tracking style done calls) ts =
    lines style done (Node.readForms limit { calls } ts)

theorem scan_readOn {style : Style} {limit : Int} {ts : List Token} (ih : Tracks style limit ts)
    (done : List Node) (calls : List OpenCall) (n : Node) :
    scan style limit ((tracking style done calls).emit (n.postorder style)) ts =
      lines style done (Node.readOn limit n calls ts) := by
  cases calls with
  | nil =>
      have hstate : (tracking style done []).emit (n.postorder style) =
          tracking style (done ++ [n]) [] := by
        simp [State.emit, tracking, pending, Node.postorderAll_append, Node.postorderAll]
      rw [hstate, ih, Node.readOn, lines_map_cons]
  | cons inner outer =>
      have hstate : (tracking style done (inner :: outer)).emit (n.postorder style) =
          tracking style done ({ inner with arguments := n :: inner.arguments } :: outer) := by
        simp [State.emit, tracking, pending, Node.postorderAll_append, Node.postorderAll]
      rw [hstate, ih, Node.readOn]

theorem tracks_rparen {style : Style} {limit : Int} {text : String} {ts : List Token}
    (ih : Tracks style limit ts) : Tracks style limit (⟨.rparen, text⟩ :: ts) := by
  intro done calls
  cases calls with
  | nil =>
      rw [Node.readForms_rparen_nil rfl]
      simp [scan, tracking, refuse, ReadFault.diagnostic?]
  | cons inner outer =>
      rw [Node.readForms_rparen_cons rfl]
      by_cases hop : inner.operator = ""
      · simp [scan, tracking, hop, Operator.ofText?, ReadFault.diagnostic?]
      · have hsome : Operator.ofText? inner.operator = some ⟨inner.operator, hop⟩ := by
          simp [Operator.ofText?, hop]
        rw [hsome]
        dsimp only
        rw [← scan_readOn ih]
        simp [scan, tracking, hop, State.emit, pending, Node.postorder]

theorem tracks_lparen {style : Style} {limit : Int} {text : String} {ts : List Token}
    (ih : ∀ op rest, ts = op :: rest → Tracks style limit rest) :
    Tracks style limit (⟨.lparen, text⟩ :: ts) := by
  intro done calls
  rw [Node.readForms_lparen rfl]
  by_cases hdeep : limit < calls.length + 1
  · rw [if_pos hdeep]
    cases ts <;> simp [scan, tracking, hdeep, refuse, ReadFault.diagnostic?]
  · rw [if_neg hdeep]
    -- the scan takes the parenthesis and the operator after it in one step
    cases ts with
    | nil =>
        rw [Node.readForms_awaits_nil]
        simp [scan, tracking, hdeep, refuse, ReadFault.diagnostic?]
    | cons op rest =>
        rw [Node.readForms_awaits_cons]
        by_cases hop : op.kind = .ident
        · rw [if_pos hop, ← ih op rest rfl]
          simp [scan, tracking, hdeep, hop, State.emit, pending, Node.postorderAll]
        · rw [if_neg hop]
          simp [scan, tracking, hdeep, hop, refuse, ReadFault.diagnostic?]

theorem tracks (style : Style) (limit : Int) : ∀ ts : List Token, Tracks style limit ts
  | [] => by
      intro done calls
      rw [Node.readForms_nil]
      cases calls with
      | nil => simp [scan, tracking, pending, lines, Except.map, Except.mapError]
      | cons inner outer => simp [scan, tracking, refuse, ReadFault.diagnostic?]
  | t :: ts => by
      have ih := tracks style limit ts
      obtain ⟨kind, text⟩ := t
      cases kind with
      | number =>
          intro done calls
          rw [Node.readForms_number rfl, ← scan_readOn ih]
          simp [scan, Node.postorder]
      | string =>
          intro done calls
          rw [Node.readForms_string rfl, ← scan_readOn ih]
          simp [scan, Node.postorder]
      | ident =>
          intro done calls
          rw [Node.readForms_ident rfl]
          simp [scan, refuse, ReadFault.diagnostic?]
      | rparen => exact tracks_rparen ih
      | lparen =>
          -- the operator goes with its parenthesis, so what follows is two tokens on
          apply tracks_lparen
          rintro op rest rfl
          exact tracks style limit rest

end Transducer

/-! ## Trees make no difference -/

theorem assemble_of_belowCeiling {options : CompileOptions} {ts : List Token}
    (h : Node.BelowCeiling options.maxDepth ts) :
    assemble options ts =
      ((Node.readForms options.maxDepth {} ts).outcome.mapError .read).map fun forms =>
        Text.endLines ((Node.program forms).postorder options.style) := by
  have htree := Node.ofTokens_of_belowCeiling h
  cases houtcome : (Node.readForms options.maxDepth {} ts).outcome with
  | error f =>
      rw [houtcome] at htree
      rw [assemble, htree]
      rfl
  | ok forms =>
      rw [houtcome] at htree
      exact assemble_eq_ok_iff.2 ⟨_, htree, rfl⟩

/-- Reading a program and generating its listing, or the failure of either, is one scan of the
tokens with a stack of operators. -/
theorem assemble_eq_transducer (options : CompileOptions) (ts : List Token)
    (h : Node.BelowCeiling options.maxDepth ts) :
    (assemble options ts).mapError Fault.diagnostic? =
      Transducer.run options.style options.maxDepth ts := by
  have hscan := Transducer.tracks options.style options.maxDepth ts [] []
  have hstart : Transducer.tracking options.style [] [] = {} := rfl
  rw [hstart] at hscan
  rw [assemble_of_belowCeiling h, Transducer.run, hscan]
  cases houtcome : (Node.readForms options.maxDepth {} ts).outcome <;>
    simp [Transducer.lines, houtcome, Except.map, Except.mapError, Fault.diagnostic?,
      Node.postorder]

theorem assemble_eq_transducer_deepLimit :
    Node.BelowCeiling 100000
        [⟨.lparen, "odd"⟩, ⟨.ident, "add"⟩, ⟨.number, "2"⟩, ⟨.rparen, ""⟩, ⟨.rparen, ")"⟩] ∧
      (assemble { style := { keepBlankLines := true }, maxDepth := 100000 }
        [⟨.lparen, "odd"⟩, ⟨.ident, "add"⟩, ⟨.number, "2"⟩, ⟨.rparen, ""⟩,
          ⟨.rparen, ")"⟩]).mapError Fault.diagnostic? =
        Transducer.run { keepBlankLines := true } 100000
          [⟨.lparen, "odd"⟩, ⟨.ident, "add"⟩, ⟨.number, "2"⟩, ⟨.rparen, ""⟩, ⟨.rparen, ")"⟩] :=
  ⟨by decide, assemble_eq_transducer { style := { keepBlankLines := true }, maxDepth := 100000 } _
    (by decide)⟩

end SexprAsm
