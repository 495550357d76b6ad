import SexprAsm.Diagnostic
import SexprAsm.Listing.Visit
import SexprAsm.Proofs.Postorder

/-!
# Where a visit stops

A traversal is a sequence of events: each node is entered, then the nodes below it have their
events, then it is left. A visit goes through these events in order and adds the lines of each. It
stops at the first node that cannot be entered, which is the first such node in pre-order, and has
then added the lines of the events before it. A higher limit only lets it go further.
-/

namespace SexprAsm

namespace Node

/-- A node where it stands in a tree, with so many nodes above it. -/
structure Occurrence where
  node : Node
  ancestors : Nat

mutual

def preorder (ancestors : Nat) : Node → List Occurrence
  | program forms => ⟨program forms, ancestors⟩ :: preorderAll (ancestors + 1) forms
  | call op args => ⟨call op args, ancestors⟩ :: preorderAll (ancestors + 1) args
  | n => [⟨n, ancestors⟩]

def preorderAll (ancestors : Nat) : List Node → List Occurrence
  | [] => []
  | n :: ns => preorder ancestors n ++ preorderAll ancestors ns

end

/-- A node of unknown kind, or a call that is too deep if the root stands at `depth`. -/
def Occurrence.Offends (limit depth : Int) (o : Occurrence) : Prop :=
  o.node.kind = .other ∨ o.node.kind = .call ∧ limit < depth + o.ancestors

def Occurrence.complaint (o : Occurrence) : String :=
  if o.node.kind = .other then "unknown node kind" else "nesting too deep"

inductive Event where
  | enter (o : Occurrence)
  | leave (node : Node)

namespace Event

def lines : Event → List Line
  | enter o => o.node.enterLines
  | leave n => n.leaveLines

def entered? : Event → Option Occurrence
  | enter o => some o
  | leave _ => none

def entered (es : List Event) : List Occurrence :=
  es.filterMap entered?

def write (style : Style) (es : List Event) : List String :=
  es.flatMap fun e => style.writeLines e.lines

def obstacle? (limit depth : Int) : Event → Option ListingFault
  | enter o => o.node.obstacle? limit (depth + o.ancestors)
  | leave _ => none

/-- The emission of events, up to the first that meets an obstacle. -/
def play (limit depth : Int) : List Event → Emission
  | [] => { lines := [] }
  | e :: es =>
    match e.obstacle? limit depth with
    | some fault => ⟨[], fault⟩
    | none => (Emission.mk e.lines none).andThen (play limit depth es)

end Event

mutual

def events (ancestors : Nat) : Node → List Event
  | program forms =>
    .enter ⟨program forms, ancestors⟩ ::
      (eventsAll (ancestors + 1) forms ++ [.leave (program forms)])
  | call op args =>
    .enter ⟨call op args, ancestors⟩ :: (eventsAll (ancestors + 1) args ++ [.leave (call op args)])
  | n => [.enter ⟨n, ancestors⟩, .leave n]

def eventsAll (ancestors : Nat) : List Node → List Event
  | [] => []
  | n :: ns => events ancestors n ++ eventsAll ancestors ns

end

end Node

/-! ## Visits carry out walks -/

namespace Emission

def outcome (e : Emission) : Except ListingFault Unit :=
  match e.fault with
  | some fault => .error fault
  | none => .ok ()

theorem andThen_of_fault {first : Emission} {fault : ListingFault} (h : first.fault = some fault)
    (second : Emission) : first.andThen second = first := by
  simp [andThen, h]

theorem andThen_assoc (a b c : Emission) :
    (a.andThen b).andThen c = a.andThen (b.andThen c) := by
  obtain ⟨lines, fault⟩ := a
  obtain ⟨lines', fault'⟩ := b
  cases fault <;> cases fault' <;> simp [andThen]

end Emission

/-- A visit ends as the emission does, and adds its lines to whatever lines there are. -/
def Visit.Performs (style : Style) (v : Visit Unit) (e : Emission) : Prop :=
  ∀ out, v.run.run out = (e.outcome, out ++ style.writeLines e.lines)

namespace Visit

variable {style : Style}

theorem performs_pure : Performs style (pure ()) { lines := [] } := by
  intro out
  show (Except.ok (), out) = (Except.ok (), out ++ [])
  rw [List.append_nil]

theorem performs_add (lines : List Line) : Performs style (style.add lines) { lines } :=
  fun _ => rfl

theorem performs_throw (fault : ListingFault) :
    Performs style (throw fault) { lines := [], fault := some fault } := by
  intro out
  show (Except.error fault, out) = (Except.error fault, out ++ [])
  rw [List.append_nil]

theorem run_bind (first second : Visit Unit) (out : List String) :
    (first >>= fun _ => second).run.run out =
      match first.run.run out with
      | (.ok (), out') => second.run.run out'
      | (.error fault, out') => (.error fault, out') := by
  show (match first.run.run out with
    | (outcome, out') => (ExceptT.bindCont (fun _ => second) outcome).run out') = _
  generalize first.run.run out = result
  obtain ⟨outcome, out'⟩ := result
  cases outcome <;> rfl

theorem Performs.bind {first second : Visit Unit} {e e' : Emission} (h : Performs style first e)
    (h' : Performs style second e') :
    Performs style (first >>= fun _ => second) (e.andThen e') := by
  intro out
  rw [run_bind, h out]
  cases hfault : e.fault with
  | some fault => simp [Emission.outcome, Emission.andThen_of_fault hfault, hfault]
  | none =>
      have hdone : e.outcome = .ok () := by simp [Emission.outcome, hfault]
      rw [hdone, Emission.andThen_of_done hfault]
      dsimp only
      rw [h' (out ++ style.writeLines e.lines), style.writeLines_append, List.append_assoc]
      rfl

end Visit

namespace Node

theorem performs_visitAround {style : Style} (limit depth : Int) (n : Node) {inner : Visit Unit}
    {e : Emission} (h : inner.Performs style e) :
    (visitAround style limit depth n inner).Performs style (walkAround limit depth n e) := by
  unfold visitAround walkAround
  cases n.obstacle? limit depth with
  | some fault => exact Visit.performs_throw fault
  | none =>
      apply (Visit.performs_add n.enterLines).bind
      exact h.bind (Visit.performs_add n.leaveLines)

mutual

theorem performs_visit (style : Style) (limit : Int) :
    ∀ (n : Node) (depth : Int), (n.visit style limit depth).Performs style (n.walk limit depth)
  | program forms, depth => by
      rw [visit, walk]
      exact performs_visitAround limit depth _ (performs_visitAll style limit forms (depth + 1))
  | call _ args, depth => by
      rw [visit, walk]
      exact performs_visitAround limit depth _ (performs_visitAll style limit args (depth + 1))
  | number digits, depth => performs_visitAround limit depth (number digits) Visit.performs_pure
  | string text, depth => performs_visitAround limit depth (string text) Visit.performs_pure
  | other, depth => performs_visitAround limit depth other Visit.performs_pure

theorem performs_visitAll (style : Style) (limit : Int) :
    ∀ (ns : List Node) (depth : Int),
      (visitAll style limit depth ns).Performs style (walkAll limit depth ns)
  | [], _ => Visit.performs_pure
  | n :: ns, depth =>
      (performs_visit style limit n depth).bind (performs_visitAll style limit ns depth)

end

theorem visitFrom_eq (out : List String) (style : Style) (limit depth : Int) (n : Node) :
    n.visitFrom out style limit depth =
      ((n.walk limit depth).outcome, out ++ style.writeLines (n.walk limit depth).lines) :=
  performs_visit style limit n depth out

/-! ## Walks play events -/

section Playing

variable {limit depth : Int}

theorem Event.play_append (xs ys : List Event) :
    play limit depth (xs ++ ys) = (play limit depth xs).andThen (play limit depth ys) := by
  induction xs with
  | nil => rfl
  | cons e xs ih =>
      rw [List.cons_append, play, play]
      cases e.obstacle? limit depth with
      | some fault => rfl
      | none =>
          dsimp only
          rw [ih, Emission.andThen_assoc]

theorem Event.play_around (n : Node) (k : Nat) (es : List Event) :
    play limit depth (.enter ⟨n, k⟩ :: (es ++ [.leave n])) =
      walkAround limit (depth + k) n (play limit depth es) := by
  have hleave : play limit depth [.leave n] = { lines := n.leaveLines } := by
    simp [play, obstacle?, lines, Emission.andThen]
  rw [play, obstacle?, play_append, hleave, walkAround]
  rfl

end Playing

mutual

theorem play_events (limit depth : Int) :
    ∀ (n : Node) (k : Nat), Event.play limit depth (n.events k) = n.walk limit (depth + k)
  | program forms, k => by
      have hbelow : depth + (k + 1 : Nat) = depth + k + 1 := by omega
      rw [events, Event.play_around, play_eventsAll limit depth forms (k + 1), walk, hbelow]
  | call op args, k => by
      have hbelow : depth + (k + 1 : Nat) = depth + k + 1 := by omega
      rw [events, Event.play_around, play_eventsAll limit depth args (k + 1), walk, hbelow]
  | number digits, k => Event.play_around (number digits) k []
  | string text, k => Event.play_around (string text) k []
  | other, k => Event.play_around other k []

theorem play_eventsAll (limit depth : Int) :
    ∀ (ns : List Node) (k : Nat),
      Event.play limit depth (eventsAll k ns) = walkAll limit (depth + k) ns
  | [], _ => rfl
  | n :: ns, k => by
      rw [eventsAll, Event.play_append, play_events limit depth n k,
        play_eventsAll limit depth ns k, walkAll]

end

mutual

theorem entered_events : ∀ (n : Node) (k : Nat), Event.entered (n.events k) = n.preorder k
  | program forms, k => by
      rw [events, preorder, ← entered_eventsAll forms (k + 1)]
      simp [Event.entered, Event.entered?]
  | call op args, k => by
      rw [events, preorder, ← entered_eventsAll args (k + 1)]
      simp [Event.entered, Event.entered?]
  | number _, _ => rfl
  | string _, _ => rfl
  | other, _ => rfl

theorem entered_eventsAll :
    ∀ (ns : List Node) (k : Nat), Event.entered (eventsAll k ns) = preorderAll k ns
  | [], _ => rfl
  | n :: ns, k => by
      rw [eventsAll, preorderAll, ← entered_events n k, ← entered_eventsAll ns k]
      exact List.filterMap_append

end

/-! ## The first node that offends -/

namespace Occurrence

variable {limit depth : Int} {o : Occurrence}

theorem obstacle?_eq_none_iff :
    o.node.obstacle? limit (depth + o.ancestors) = none ↔ ¬o.Offends limit depth := by
  obtain ⟨n, k⟩ := o
  cases n <;> simp [obstacle?, Offends, kind]

theorem offends_of_obstacle? {fault : ListingFault}
    (h : o.node.obstacle? limit (depth + o.ancestors) = some fault) : o.Offends limit depth := by
  by_contra hnot
  rw [obstacle?_eq_none_iff.2 hnot] at h
  contradiction

theorem diagnostic_of_obstacle? {fault : ListingFault}
    (h : o.node.obstacle? limit (depth + o.ancestors) = some fault) :
    fault.diagnostic = ⟨o.complaint, .node (some o.node)⟩ := by
  obtain ⟨n, k⟩ := o
  cases n with
  | other =>
      obtain rfl := Option.some.inj h
      rfl
  | call op args =>
      obtain ⟨-, rfl⟩ : _ ∧ ListingFault.nestingTooDeep (call op args) = fault := by
        simpa [obstacle?] using h
      rfl
  | program _ => contradiction
  | number _ => contradiction
  | string _ => contradiction

theorem Offends.mono {limit' : Int} (hlimit : limit ≤ limit') (h : o.Offends limit' depth) :
    o.Offends limit depth := by
  rcases h with hother | ⟨hcall, hdeep⟩
  · exact .inl hother
  · exact .inr ⟨hcall, by omega⟩

end Occurrence

namespace Event

theorem entered_append (xs ys : List Event) : entered (xs ++ ys) = entered xs ++ entered ys :=
  List.filterMap_append

theorem mem_entered_split (earlier later : List Event) (o : Occurrence) :
    o ∈ entered (earlier ++ .enter o :: later) := by
  rw [entered_append]
  exact List.mem_append_right _ List.mem_cons_self

theorem write_eq (style : Style) (es : List Event) :
    style.writeLines (es.flatMap lines) = write style es := by
  induction es with
  | nil => rfl
  | cons e es ih => rw [List.flatMap_cons, style.writeLines_append, ih, write, write,
      List.flatMap_cons]

/-- What playing events can come to: all their lines, or those of the events before the first node
that offends. -/
inductive Plays (limit depth : Int) (es : List Event) : Emission → Prop
  | done (h : ∀ o ∈ entered es, ¬o.Offends limit depth) :
      Plays limit depth es { lines := es.flatMap lines }
  | stopped (earlier later : List Event) (o : Occurrence) (fault : ListingFault)
      (hsplit : es = earlier ++ .enter o :: later)
      (hearlier : ∀ q ∈ entered earlier, ¬q.Offends limit depth)
      (hfault : o.node.obstacle? limit (depth + o.ancestors) = some fault) :
      Plays limit depth es { lines := earlier.flatMap lines, fault := some fault }

variable {limit depth : Int}

theorem Plays.cons {e : Event} {es : List Event} {result : Emission}
    (he : ∀ o ∈ entered [e], ¬o.Offends limit depth) (h : Plays limit depth es result) :
    Plays limit depth (e :: es) ((Emission.mk e.lines none).andThen result) := by
  have hboth : ∀ fs : List Event, (∀ o ∈ entered fs, ¬o.Offends limit depth) →
      ∀ o ∈ entered (e :: fs), ¬o.Offends limit depth := by
    intro fs hfs o ho
    rcases List.mem_append.1 (entered_append [e] fs ▸ ho) with ho | ho
    · exact he o ho
    · exact hfs o ho
  cases h with
  | done hes => exact .done (hboth es hes)
  | stopped earlier later o fault hsplit hearlier hfault =>
      exact .stopped (e :: earlier) later o fault (by rw [hsplit]; rfl) (hboth earlier hearlier)
        hfault

theorem plays (limit depth : Int) (es : List Event) :
    Plays limit depth es (play limit depth es) := by
  induction es with
  | nil => exact .done (by simp [entered])
  | cons e es ih =>
      rw [play]
      cases e with
      | leave n => exact ih.cons (by simp [entered, entered?])
      | enter o =>
          cases hfault : o.node.obstacle? limit (depth + o.ancestors) with
          | some fault =>
              rw [obstacle?, hfault]
              exact .stopped [] es o fault rfl (by simp [entered]) hfault
          | none =>
              rw [obstacle?, hfault]
              apply ih.cons
              simpa [entered, entered?] using Occurrence.obstacle?_eq_none_iff.1 hfault

theorem obstacle?_raise {limit' : Int} (hlimit : limit ≤ limit') {e : Event}
    (h : e.obstacle? limit depth = none) : e.obstacle? limit' depth = none := by
  cases e with
  | leave n => rfl
  | enter o =>
      apply Occurrence.obstacle?_eq_none_iff.2
      intro hoffends
      exact Occurrence.obstacle?_eq_none_iff.1 h (hoffends.mono hlimit)

theorem lines_play_prefix {limit' : Int} (hlimit : limit ≤ limit') (es : List Event) :
    (play limit depth es).lines <+: (play limit' depth es).lines := by
  induction es with
  | nil => exact List.prefix_rfl
  | cons e es ih =>
      rw [play, play]
      cases h : e.obstacle? limit depth with
      | some fault => exact List.nil_prefix
      | none =>
          rw [obstacle?_raise hlimit h]
          exact (List.prefix_append_right_inj e.lines).2 ih

theorem play_congr {limit' : Int} {es : List Event}
    (h : ∀ e ∈ es, e.obstacle? limit depth = e.obstacle? limit' depth) :
    play limit depth es = play limit' depth es := by
  induction es with
  | nil => rfl
  | cons e es ih =>
      obtain ⟨he, hes⟩ := List.forall_mem_cons.1 h
      rw [play, play, he, ih hes]

end Event

theorem walk_eq_play (limit depth : Int) (n : Node) :
    n.walk limit depth = Event.play limit depth (n.events 0) := by
  have hroot : depth + (0 : Nat) = depth := by omega
  rw [play_events, hroot]

theorem plays_walk (limit depth : Int) (n : Node) :
    Event.Plays limit depth (n.events 0) (n.walk limit depth) := by
  rw [walk_eq_play]
  exact Event.plays limit depth (n.events 0)

section Visits

variable {out : List String} {style : Style} {limit depth : Int} {n : Node}

theorem visitFrom_cases (out : List String) (style : Style) (limit depth : Int) (n : Node) :
    ((∀ o ∈ n.preorder 0, ¬o.Offends limit depth) ∧
      n.visitFrom out style limit depth = (.ok (), out ++ Event.write style (n.events 0))) ∨
    ∃ earlier o later fault, n.events 0 = earlier ++ .enter o :: later ∧
      n.preorder 0 = Event.entered earlier ++ o :: Event.entered later ∧
      (∀ q ∈ Event.entered earlier, ¬q.Offends limit depth) ∧ o.Offends limit depth ∧
      fault.diagnostic = ⟨o.complaint, .node (some o.node)⟩ ∧
      n.visitFrom out style limit depth = (.error fault, out ++ Event.write style earlier) := by
  have hplays := plays_walk limit depth n
  rw [visitFrom_eq, ← entered_events]
  generalize n.walk limit depth = walked at hplays
  cases hplays with
  | done hnone =>
      left
      rw [Event.write_eq]
      exact ⟨hnone, rfl⟩
  | stopped earlier later o fault hsplit hearlier hfault =>
      right
      have hentered : Event.entered (n.events 0) =
          Event.entered earlier ++ o :: Event.entered later := by
        rw [hsplit, Event.entered_append]
        rfl
      refine ⟨earlier, o, later, fault, hsplit, hentered, hearlier, ?_, ?_, ?_⟩
      · exact Occurrence.offends_of_obstacle? hfault
      · exact Occurrence.diagnostic_of_obstacle? hfault
      · rw [Event.write_eq]
        rfl

theorem visitFrom_error_iff :
    (∃ fault, (n.visitFrom out style limit depth).1 = .error fault) ↔
      ∃ o ∈ n.preorder 0, o.Offends limit depth := by
  rcases visitFrom_cases out style limit depth n with
    ⟨hnone, hvisit⟩ | ⟨earlier, o, later, fault, -, hpreorder, -, hoffends, -, hvisit⟩
  · rw [hvisit]
    apply iff_of_false
    · rintro ⟨fault, h⟩
      contradiction
    · rintro ⟨o, ho, hoffends⟩
      exact hnone o ho hoffends
  · rw [hvisit]
    exact iff_of_true ⟨fault, rfl⟩ ⟨o, by simp [hpreorder], hoffends⟩

theorem visitFrom_prefix {limit' : Int} (hlimit : limit ≤ limit') :
    (n.visitFrom out style limit depth).2 <+: (n.visitFrom out style limit' depth).2 := by
  rw [visitFrom_eq, visitFrom_eq, walk_eq_play, walk_eq_play]
  apply (List.prefix_append_right_inj out).2
  exact (Event.lines_play_prefix hlimit (n.events 0)).filterMap style.writeLine

end Visits

/-! ## Listings -/

/-- The limit does not exceed the ceiling, or the tree does not reach it. -/
def BelowCeilingFor (limit : Int) (n : Node) : Prop :=
  limit ≤ nestingCeiling ∨ ∀ o ∈ n.preorder 0, (o.ancestors : Int) ≤ nestingCeiling

theorem walk_min_ceiling {limit : Int} {n : Node}
    (h : ∀ o ∈ n.preorder 0, (o.ancestors : Int) ≤ nestingCeiling) :
    n.walk (min limit nestingCeiling) 0 = n.walk limit 0 := by
  rw [walk_eq_play, walk_eq_play]
  apply Event.play_congr
  intro e he
  cases e with
  | leave m => rfl
  | enter o =>
      have hmem : o ∈ n.preorder 0 := by
        rw [← entered_events]
        exact List.mem_filterMap.2 ⟨.enter o, he, rfl⟩
      have hdeep := h o hmem
      obtain ⟨m, k⟩ := o
      cases m with
      | call op args =>
          have hiff : min limit nestingCeiling < 0 + (k : Int) ↔ limit < 0 + (k : Int) := by
            dsimp only at hdeep
            omega
          simp only [Event.obstacle?, obstacle?, hiff]
      | _ => rfl

theorem obstacle?_of_walk {limit depth : Int} {n : Node} {fault : ListingFault}
    (h : (n.walk limit depth).fault = some fault) :
    ∃ o ∈ n.preorder 0, o.node.obstacle? limit (depth + o.ancestors) = some fault := by
  have hplays := plays_walk limit depth n
  rw [← entered_events]
  generalize n.walk limit depth = walked at hplays h
  cases hplays with
  | done _ => contradiction
  | stopped earlier later o fault' hsplit _ hfault =>
      obtain rfl : fault' = fault := Option.some.inj h
      rw [hsplit]
      exact ⟨o, Event.mem_entered_split earlier later o, hfault⟩

theorem BelowCeilingFor.blame_eq {limit : Int} {n : Node} (h : n.BelowCeilingFor limit)
    {fault : ListingFault} (hfault : (n.walk limit 0).fault = some fault) :
    (if limit ≤ nestingCeiling then fault else fault.blame n) = fault := by
  by_cases hle : limit ≤ nestingCeiling
  · rw [if_pos hle]
  · rw [if_neg hle]
    obtain ⟨o, ho, hobstacle⟩ := obstacle?_of_walk hfault
    have hdeep := h.resolve_left hle o ho
    have hshallow : ¬limit < 0 + (o.ancestors : Int) := by omega
    have hother : o.node.kind = .other :=
      (Occurrence.offends_of_obstacle? hobstacle).resolve_right fun hcall => hshallow hcall.2
    obtain ⟨m, k⟩ := o
    cases m with
    | other =>
        obtain rfl := Option.some.inj hobstacle
        rfl
    | _ => contradiction

theorem BelowCeilingFor.walk_min {limit : Int} {n : Node} (h : n.BelowCeilingFor limit) :
    n.walk (min limit nestingCeiling) 0 = n.walk limit 0 := by
  rcases h with hle | hshallow
  · rw [Int.min_eq_left hle]
  · exact walk_min_ceiling hshallow

theorem listing_eq_visitFrom {limit : Int} {n : Node} (h : n.BelowCeilingFor limit)
    (style : Style) :
    n.listing style limit =
      match n.visitFrom [] style limit 0 with
      | (.ok (), lines) => .ok (Text.joinLines lines ++ "\n")
      | (.error fault, _) => .error fault := by
  rw [listing, h.walk_min, visitFrom_eq]
  cases hfault : (n.walk limit 0).fault with
  | none => simp [Emission.outcome, hfault, Style.write]
  | some fault => simp only [Emission.outcome, hfault, h.blame_eq hfault]

/-- Visits stop exactly at the first node that offends. Such a node is of unknown kind, or a call
below more nodes than the limit allows for the depth of the root. The visit keeps the lines there
were, and has added those of the events before that node, or of all events if there is none. So a
higher limit can only add lines after these, and a visit that stops gives no listing. -/
theorem visit_stops_at_first_offender (out : List String) (style : Style) (limit depth : Int)
    (n : Node) :
    ((∃ fault, (n.visitFrom out style limit depth).1 = .error fault) ↔
      ∃ o ∈ n.preorder 0, o.Offends limit depth) ∧
    (∀ fault, (n.visitFrom out style limit depth).1 = .error fault →
      ∃ earlier o later, n.events 0 = earlier ++ .enter o :: later ∧
        n.preorder 0 = Event.entered earlier ++ o :: Event.entered later ∧
        (∀ q ∈ Event.entered earlier, ¬q.Offends limit depth) ∧ o.Offends limit depth ∧
        fault.diagnostic = ⟨o.complaint, .node (some o.node)⟩ ∧
        (n.visitFrom out style limit depth).2 = out ++ Event.write style earlier) ∧
    ((n.visitFrom out style limit depth).1 = .ok () →
      (n.visitFrom out style limit depth).2 = out ++ Event.write style (n.events 0)) ∧
    (∀ limit', limit ≤ limit' →
      (n.visitFrom out style limit depth).2 <+: (n.visitFrom out style limit' depth).2) ∧
    (n.BelowCeilingFor limit →
      n.listing style limit =
        match n.visitFrom [] style limit 0 with
        | (.ok (), lines) => .ok (Text.joinLines lines ++ "\n")
        | (.error fault, _) => .error fault) := by
  refine ⟨visitFrom_error_iff, ?_, ?_, fun _ => visitFrom_prefix, fun h =>
    listing_eq_visitFrom h style⟩
  · intro fault hfault
    rcases visitFrom_cases out style limit depth n with
      ⟨-, hvisit⟩ | ⟨earlier, o, later, fault', hevents, hpreorder, hearlier, ho, hd, hvisit⟩
    · rw [hvisit] at hfault
      contradiction
    · rw [hvisit] at hfault
      obtain rfl : fault' = fault := Except.error.inj hfault
      exact ⟨earlier, o, later, hevents, hpreorder, hearlier, ho, hd, congrArg Prod.snd hvisit⟩
  · intro hok
    rcases visitFrom_cases out style limit depth n with
      ⟨-, hvisit⟩ | ⟨_, _, _, _, -, -, -, -, -, hvisit⟩
    · exact congrArg Prod.snd hvisit
    · rw [hvisit] at hok
      contradiction

/-- A string, and a call of `f` on a number, on a call of `g` and on a node of unknown kind. -/
def unknownAfterCall : Node :=
  program [string "s", call ⟨"f", by decide⟩ [number "1", call ⟨"g", by decide⟩ [], other]]

theorem visit_stops_at_first_offender_unknownAfterCall :
    (∃ o ∈ unknownAfterCall.preorder 0, o.Offends 1 0) ∧
      (∃ o ∈ unknownAfterCall.preorder 0, o.node = call ⟨"g", by decide⟩ [] ∧
        (unknownAfterCall.visitFrom ["kept"] {} 1 0).1 = .error (.nestingTooDeep o.node)) ∧
      (unknownAfterCall.visitFrom ["kept"] {} 1 0).2 =
        ["kept", ";; Begin program code", "\t\tSTART", "\t\tPUSH #1"] ∧
      (unknownAfterCall.visitFrom ["kept"] {} 1 0).2 <+:
        (unknownAfterCall.visitFrom ["kept"] {} 2 0).2 ∧
      (unknownAfterCall.visitFrom ["kept"] {} 2 0).1 = .error (.unknownKind other) ∧
      unknownAfterCall.listing {} 2 = .error (.unknownKind other) := by
  have hlow : (unknownAfterCall.visitFrom ["kept"] {} 1 0).1 =
      .error (.nestingTooDeep (call ⟨"g", by decide⟩ [])) := by decide +kernel
  have hhigh : (unknownAfterCall.visitFrom ["kept"] {} 2 0).1 = .error (.unknownKind other) := by
    decide +kernel
  obtain ⟨hiff, hstop, -, hprefix, -⟩ :=
    visit_stops_at_first_offender ["kept"] {} 1 0 unknownAfterCall
  obtain ⟨earlier, o, later, -, hpreorder, -, -, hdiagnostic, -⟩ := hstop _ hlow
  obtain ⟨-, -, -, -, hlisting⟩ := visit_stops_at_first_offender [] {} 2 0 unknownAfterCall
  obtain ⟨-, hnode⟩ : "nesting too deep" = o.complaint ∧ call ⟨"g", by decide⟩ [] = o.node := by
    simpa [ListingFault.diagnostic] using hdiagnostic
  refine ⟨hiff.1 ⟨_, hlow⟩, ⟨o, by simp [hpreorder], hnode.symm, ?_⟩, ?_, ?_, hhigh, ?_⟩
  · rw [hlow, hnode]
  · decide +kernel
  · exact hprefix 2 (by decide)
  · rw [hlisting (.inl (by decide))]
    decide +kernel

end Node

end SexprAsm
