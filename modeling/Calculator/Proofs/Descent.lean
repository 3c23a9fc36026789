import Calculator.Proofs.Parsing

/-!
# Reading by an index

Tokens can be read with an index into them and a counter of open groups that is put up and down by hand. A run of this
kind (`run`) is given as many calls inside one another as it may take, and it notes where groups are called for, entered
and left. The main statement, `framed_run`, says that a few calls for every token are always enough, that the run reads
what a cursor reads, that the counter is never put too high nor below zero and is put back, and how much of the tokens
the run depends on. Groups side by side therefore do not add up.
-/

namespace Calculator

/-- What a run notes about groups: a call for one, with the number of such calls that are under way; the counter when it
has been put up; the counter before it is put down. -/
inductive Descent.Event
  | call (nested : Nat)
  | enter (depth : Nat)
  | leave (depth : Nat)
deriving DecidableEq

/-- A run under way. -/
structure Descent where
  index : Nat
  depth : Nat
  events : List Descent.Event
deriving DecidableEq

namespace Descent

/-- An expression or the reason why there is none, and where the run stands then. -/
abbrev Result : Type :=
  Except ParseError Expr × Descent

/-- What a run is called for: a phrase of a level, the rest of a chain that has been read as `left`, or a group whose
opening parenthesis has been read. -/
inductive Call
  | phrase (level : Level)
  | chain (level : Level) (left : Expr)
  | group (opening : Token)

def advance (d : Descent) : Descent :=
  { d with index := d.index + 1 }

def note (event : Event) (d : Descent) : Descent :=
  { d with events := d.events ++ [event] }

def enter (d : Descent) : Descent :=
  { d with depth := d.depth + 1 }.note (.enter (d.depth + 1))

def leave (d : Descent) : Descent :=
  { d with depth := d.depth - 1 }.note (.leave d.depth)

/-- Steps over the closing parenthesis that has to follow. -/
def close (tokens : List Token) (opening : Token) (e : Expr) (d : Descent) : Result :=
  match tokens[d.index]? with
  | none => (.error .outOfTokens, d)
  | some t =>
    if t.kind = .rightParen then (.ok e, d.advance) else (.error (.unclosed opening.span t.kind t.span), d)

/-- Goes on behind an expression, if there is one. -/
def andThen (x : Option Result) (next : Expr → Descent → Option Result) : Option Result :=
  match x with
  | none => none
  | some (.error e, d) => some (.error e, d)
  | some (.ok e, d) => next e d

/-- Runs a call where `nested` calls for groups are under way, its own included, or gives up if that takes more calls
inside one another than the given number. -/
def run (tokens : List Token) : Nat → Nat → Call → Descent → Option Result
  | 0, _, _, _ => none
  | n + 1, nested, .phrase .operand, d =>
    match tokens[d.index]? with
    | none => some (.error .outOfTokens, d)
    | some t =>
      match t.kind with
      | .number =>
        match t.literal with
        | some value => some (.ok (.literal value), d.advance)
        | none => some (.error (.valueless t.span), d.advance)
      | .leftParen => run tokens n (nested + 1) (.group t) d.advance
      | kind => some (.error (.unexpected kind t.span), d)
  | n + 1, nested, .phrase level, d =>
    andThen (run tokens n nested (.phrase level.lower) d) fun e d' => run tokens n nested (.chain level e) d'
  | n + 1, nested, .chain level left, d =>
    match tokens[d.index]? with
    | none => some (.ok left, d)
    | some t =>
      match level.operator? t.kind with
      | none => some (.ok left, d)
      | some op =>
        andThen (run tokens n nested (.phrase level.lower) d.advance) fun right d' =>
          run tokens n nested (.chain level (.binary left op right)) d'
  | n + 1, nested, .group opening, d =>
    if maxDepth ≤ d.depth then some (.error (.tooDeep opening.span), d.note (.call nested))
    else
      andThen (run tokens n nested (.phrase .sum) (d.note (.call nested)).enter) fun e d' =>
        some (d'.leave.close tokens opening e)

/-- Reads all tokens up to the first end of the input. -/
def parse? (tokens : List Token) : Option (Except ParseError Expr) :=
  (run tokens (4 * tokens.length + 3) 0 (.phrase .sum) ⟨0, 0, []⟩).map fun
    | (.error e, _) => .error e
    | (.ok e, d) =>
      match tokens[d.index]? with
      | none => .error .outOfTokens
      | some t => if t.kind = .eof then .ok e else .error (.leftover t.kind t.span)

variable {tokens : List Token} {n nested : Nat} {call : Call} {level : Level} {opening : Token} {d d' : Descent}
  {outcome : Except ParseError Expr} {e : Expr}

private theorem run_chainPhrase (h : level ≠ .operand) :
    run tokens (n + 1) nested (.phrase level) d =
      andThen (run tokens n nested (.phrase level.lower) d) fun e d' => run tokens n nested (.chain level e) d' := by
  cases level with
  | operand => exact absurd rfl h
  | sum | product => rfl

private theorem andThen_eq_some {x : Option Result} {next : Expr → Descent → Option Result} {r : Result}
    (h : andThen x next = some r) :
    (∃ err d, x = some (.error err, d) ∧ r = (.error err, d)) ∨ ∃ e d, x = some (.ok e, d) ∧ next e d = some r := by
  unfold andThen at h
  split at h
  · cases h
  · exact .inl ⟨_, _, rfl, (Option.some.inj h).symm⟩
  · exact .inr ⟨_, _, rfl, h⟩

private theorem exists_andThen {x : Option Result} {next : Expr → Descent → Option Result} (hx : ∃ r, x = some r)
    (hnext : ∀ e d, x = some (.ok e, d) → ∃ r, next e d = some r) : ∃ r, andThen x next = some r := by
  obtain ⟨⟨_ | e, d⟩, rfl⟩ := hx
  · exact ⟨_, rfl⟩
  · exact hnext e d rfl

/-! ### Runs and cursors -/

/-- The cursor at the place of a run. -/
def cursor (tokens : List Token) (d : Descent) : Cursor :=
  ⟨tokens.drop d.index, d.depth⟩

private theorem cursor_of_none (h : tokens[d.index]? = none) : d.cursor tokens = ⟨[], d.depth⟩ := by
  rw [cursor, List.drop_of_length_le (List.getElem?_eq_none_iff.1 h)]

private theorem cursor_of_some {t : Token} (h : tokens[d.index]? = some t) :
    d.cursor tokens = ⟨t :: tokens.drop (d.index + 1), d.depth⟩ := by
  obtain ⟨hlt, rfl⟩ := List.getElem?_eq_some_iff.1 h
  rw [cursor, List.drop_eq_getElem_cons hlt]

/-- What a cursor reads for a call. -/
def Call.read : Call → Cursor → Cursor.Outcome
  | .phrase level, c => Cursor.read level c
  | .chain level left, c => Cursor.extend level left c
  | .group opening, c =>
    if maxDepth ≤ c.depth then .error (.tooDeep opening.span)
    else
      match Cursor.read .sum ⟨c.rest, c.depth + 1⟩ with
      | .error e => .error e
      | .ok (e, c') => Cursor.close opening e c'

/-- A run ends within the tokens, and its result is the outcome of a cursor. -/
def Reads (tokens : List Token) (outcome : Cursor.Outcome) (r : Result) : Prop :=
  r.2.index ≤ tokens.length ∧ outcome = r.1.map fun e => (e, r.2.cursor tokens)

private theorem reads_andThen {x : Option Result} {next : Expr → Descent → Option Result} {outcome : Cursor.Outcome}
    {behind : Expr → Cursor → Cursor.Outcome} {r : Result} (h : andThen x next = some r)
    (hx : ∀ r, x = some r → Reads tokens outcome r)
    (hnext : ∀ e d, d.index ≤ tokens.length → ∀ r, next e d = some r → Reads tokens (behind e (d.cursor tokens)) r) :
    Reads tokens (match outcome with | .error e => .error e | .ok (e, c) => behind e c) r := by
  rcases andThen_eq_some h with ⟨err, d, hr, rfl⟩ | ⟨e, d, hr, hnextr⟩
  · obtain ⟨hindex, rfl⟩ := hx _ hr
    exact ⟨hindex, rfl⟩
  · obtain ⟨hindex, rfl⟩ := hx _ hr
    exact hnext e d hindex r hnextr

private theorem reads_close (hd : d.index ≤ tokens.length) :
    Reads tokens (Cursor.close opening e (d.cursor tokens)) (d.leave.close tokens opening e) := by
  have hindex : d.leave.index = d.index := rfl
  unfold close
  cases ht : tokens[d.leave.index]? with
  | none =>
    rw [cursor_of_none (hindex ▸ ht)]
    exact ⟨hd, rfl⟩
  | some t =>
    rw [cursor_of_some (hindex ▸ ht)]
    by_cases hk : t.kind = .rightParen
    · simp only [Cursor.close, hk, if_true]
      exact ⟨(List.getElem?_eq_some_iff.1 ht).1, rfl⟩
    · simp only [Cursor.close, hk, if_false]
      exact ⟨hd, rfl⟩

/-- Runs that do not give up read what a cursor reads. -/
private def Faithful (tokens : List Token) (n : Nat) : Prop :=
  ∀ {nested : Nat} {call : Call} {d : Descent} {r : Result}, d.index ≤ tokens.length →
    run tokens n nested call d = some r → Reads tokens (call.read (d.cursor tokens)) r

section Step

variable {r : Result} (ih : Faithful tokens n) (hd : d.index ≤ tokens.length)
include ih hd

private theorem reads_operand (h : run tokens (n + 1) nested (.phrase .operand) d = some r) :
    Reads tokens (Cursor.read .operand (d.cursor tokens)) r := by
  rw [run] at h
  cases ht : tokens[d.index]? with
  | none =>
    rw [ht] at h
    obtain rfl := Option.some.inj h
    rw [cursor_of_none ht]
    exact ⟨hd, Cursor.read_operand_nil d.depth⟩
  | some t =>
    have hlt : d.advance.index ≤ tokens.length := (List.getElem?_eq_some_iff.1 ht).1
    simp only [ht] at h
    rw [cursor_of_some ht, Cursor.read_operand_cons]
    cases hk : t.kind with
    | number =>
      cases hv : t.literal <;> simp only [hk, hv] at h <;> obtain rfl := Option.some.inj h <;> exact ⟨hlt, rfl⟩
    | leftParen =>
      simp only [hk] at h
      exact ih hlt h
    | rightParen | plus | minus | star | slash | eof =>
      simp only [hk] at h
      obtain rfl := Option.some.inj h
      exact ⟨hd, rfl⟩

private theorem reads_chain {left : Expr} (h : run tokens (n + 1) nested (.chain level left) d = some r) :
    Reads tokens (Cursor.extend level left (d.cursor tokens)) r := by
  rw [run] at h
  cases ht : tokens[d.index]? with
  | none =>
    simp only [ht] at h
    obtain rfl := Option.some.inj h
    refine ⟨hd, ?_⟩
    rw [cursor_of_none ht]
    exact Cursor.extend_nil level left d.depth
  | some t =>
    have hlt : d.advance.index ≤ tokens.length := (List.getElem?_eq_some_iff.1 ht).1
    simp only [ht] at h
    rw [cursor_of_some ht, Cursor.extend_cons]
    cases hop : level.operator? t.kind with
    | none =>
      simp only [hop] at h
      obtain rfl := Option.some.inj h
      refine ⟨hd, ?_⟩
      rw [cursor_of_some ht]
      rfl
    | some op =>
      simp only [hop] at h
      exact reads_andThen h (fun r hr => ih hlt hr) fun right d' hd' r hr => ih hd' hr

private theorem reads_group (h : run tokens (n + 1) nested (.group opening) d = some r) :
    Reads tokens ((Call.group opening).read (d.cursor tokens)) r := by
  rw [run] at h
  rw [Call.read]
  by_cases hdeep : maxDepth ≤ d.depth
  · rw [if_pos hdeep] at h
    obtain rfl := Option.some.inj h
    exact ⟨hd, if_pos hdeep⟩
  · rw [if_neg hdeep] at h
    rw [if_neg (show ¬ maxDepth ≤ (d.cursor tokens).depth from hdeep)]
    refine reads_andThen h (fun r hr => ih (by exact hd) hr) fun e d' hd' r hr => ?_
    obtain rfl := Option.some.inj hr
    exact reads_close hd'

end Step

/-- A run that does not give up stays within the tokens and reads what a cursor reads. -/
private theorem reads_of_run {r : Result} (hd : d.index ≤ tokens.length) (h : run tokens n nested call d = some r) :
    Reads tokens (call.read (d.cursor tokens)) r := by
  have hall : Faithful tokens n := by
    clear hd h
    induction n with
    | zero => intro _ _ _ _ _ h; cases h
    | succ n ih =>
      intro nested call d r hd h
      cases call with
      | phrase level =>
        by_cases hl : level = .operand
        · subst hl
          exact reads_operand ih hd h
        · rw [run_chainPhrase hl] at h
          rw [Call.read, Cursor.read_chain hl]
          exact reads_andThen h (fun r hr => ih hd hr) fun left d' hd' r hr => ih hd' hr
      | chain level left => exact reads_chain ih hd h
      | group opening => exact reads_group ih hd h
  exact hall hd h

/-! ### Enough calls -/

/-- How many calls inside one another a call takes by itself, besides those for the tokens that it steps over: a group
takes its own and one for each level down to the operand inside. -/
def Call.height : Call → Nat
  | .phrase level => level.rank + 1
  | .chain _ _ => 1
  | .group _ => 4

/-- A phrase takes at least one token. -/
private theorem index_lt_of_run (hd : d.index ≤ tokens.length)
    (h : run tokens n nested (.phrase level) d = some (.ok e, d')) :
    d.index < d'.index := by
  obtain ⟨hindex, hread⟩ := reads_of_run hd h
  have hlt := Cursor.length_lt_of_read hread
  simp only [cursor, List.length_drop] at hindex hlt
  omega

/-- Four calls a token are enough. -/
private theorem exists_run (nested : Nat) (call : Call) (hd : d.index ≤ tokens.length)
    (hn : 4 * (tokens.length - d.index) + call.height ≤ n) : ∃ r, run tokens n nested call d = some r := by
  induction n generalizing nested call d with
  | zero => cases call <;> simp only [Call.height] at hn <;> omega
  | succ n ih =>
    have hadvance : d.advance.index = d.index + 1 := rfl
    cases call with
    | phrase level =>
      by_cases hl : level = .operand
      · subst hl
        rw [run]
        cases ht : tokens[d.index]? with
        | none => exact ⟨_, rfl⟩
        | some t =>
          have hlt : d.index < tokens.length := (List.getElem?_eq_some_iff.1 ht).1
          simp only [Call.height, Level.rank] at hn
          cases hk : t.kind with
          | number =>
            simp only [hk]
            cases t.literal <;> exact ⟨_, rfl⟩
          | leftParen =>
            simp only [hk]
            exact ih _ _ (d := d.advance) hlt (by simp only [Call.height]; omega)
          | rightParen | plus | minus | star | slash | eof =>
            simp only [hk]
            exact ⟨_, rfl⟩
      · have hrank := Level.rank_lower_lt hl
        rw [run_chainPhrase hl]
        simp only [Call.height] at hn
        refine exists_andThen (ih _ _ hd (by simp only [Call.height]; omega)) fun left d' h => ?_
        -- the chain goes on behind at least one token, so that its calls are paid for
        have hlt := index_lt_of_run hd h
        exact ih _ _ (reads_of_run hd h).1 (by simp only [Call.height]; omega)
    | chain level left =>
      rw [run]
      cases ht : tokens[d.index]? with
      | none => exact ⟨_, rfl⟩
      | some t =>
        have hlt : d.index < tokens.length := (List.getElem?_eq_some_iff.1 ht).1
        have hrank : level.lower.rank ≤ 1 := by cases level <;> decide
        simp only [Call.height] at hn
        simp only
        cases level.operator? t.kind with
        | none => exact ⟨_, rfl⟩
        | some op =>
          refine exists_andThen (ih _ _ hlt (by simp only [Call.height]; omega)) fun right d' h => ?_
          have hlt' := index_lt_of_run (d := d.advance) hlt h
          exact ih _ _ (reads_of_run (d := d.advance) hlt h).1 (by simp only [Call.height]; omega)
    | group opening =>
      rw [run]
      split
      · exact ⟨_, rfl⟩
      · refine exists_andThen (ih _ _ hd ?_) fun e d' _ => ⟨_, rfl⟩
        simp only [Call.height, Level.rank] at hn ⊢
        exact Nat.le_of_succ_le_succ hn

/-- What a cursor reads is run through. -/
private theorem run_of_read (nested : Nat) {c : Cursor} (hd : d.index ≤ tokens.length)
    (hn : 4 * (tokens.length - d.index) + 3 ≤ n) (h : Cursor.read level (d.cursor tokens) = .ok (e, c)) :
    ∃ d', run tokens n nested (.phrase level) d = some (.ok e, d') ∧ d'.index ≤ tokens.length ∧
      d'.cursor tokens = c := by
  have hheight : (Call.phrase level).height ≤ 3 := by cases level <;> decide
  obtain ⟨⟨outcome, d'⟩, hrun⟩ := exists_run (n := n) nested (.phrase level) hd (by omega)
  obtain ⟨hindex, hread⟩ := reads_of_run hd hrun
  rw [Call.read, h] at hread
  cases outcome with
  | error err => cases hread
  | ok e' =>
    injection hread with hread
    injection hread with he hc
    exact ⟨d', he ▸ hrun, hindex, hc.symm⟩

/-- Reading by an index gives the expression that the tokens stand for, or the same error. -/
private theorem parse?_eq_ofTokens (tokens : List Token) : parse? tokens = some (Expr.ofTokens tokens) := by
  have hindex : (⟨0, 0, []⟩ : Descent).index ≤ tokens.length := Nat.zero_le _
  obtain ⟨⟨outcome, d⟩, hrun⟩ := exists_run (n := 4 * tokens.length + 3) 0 (.phrase .sum) hindex (Nat.le_refl _)
  obtain ⟨-, hread⟩ := reads_of_run hindex hrun
  have hstart : Call.read (.phrase .sum) (cursor tokens ⟨0, 0, []⟩) = Cursor.read .sum ⟨tokens, 0⟩ := rfl
  rw [hstart] at hread
  rw [parse?, hrun, Cursor.ofTokens_eq_match, hread]
  cases outcome with
  | error err => rfl
  | ok e =>
    cases ht : tokens[d.index]? with
    | none =>
      have hcursor := cursor_of_none ht
      simp only [Option.map_some, Except.map, ht, hcursor]
    | some t =>
      have hcursor := cursor_of_some ht
      simp only [Option.map_some, Except.map, ht, hcursor]

/-! ### Groups -/

/-- No group is called for inside too many others, and the counter is put neither above the limit nor below zero. -/
def Event.Fits : Event → Prop
  | .call nested => nested ≤ maxDepth
  | .enter depth => depth ≤ maxDepth
  | .leave depth => 0 < depth ∧ depth ≤ maxDepth

/-- All that has been noted from `d` to `d'` fits. -/
def Noted (d d' : Descent) : Prop :=
  ∃ events, d'.events = d.events ++ events ∧ ∀ event ∈ events, event.Fits

namespace Noted

variable {d'' : Descent}

private theorem of_eq (h : d'.events = d.events) : Noted d d' :=
  ⟨[], by rw [h, List.append_nil], by simp⟩

private theorem trans (h : Noted d d') (h' : Noted d' d'') : Noted d d'' := by
  obtain ⟨events, hevents, hfits⟩ := h
  obtain ⟨events', hevents', hfits'⟩ := h'
  exact ⟨events ++ events', by rw [hevents', hevents, List.append_assoc], List.forall_mem_append.2 ⟨hfits, hfits'⟩⟩

private theorem note (h : Noted d d') {event : Event} (hfits : event.Fits) : Noted d (d'.note event) :=
  h.trans ⟨[event], rfl, List.forall_mem_singleton.2 hfits⟩

end Noted

/-- All that a run notes from `d` on fits, but for a call for one group too many, which is refused and ends the run. -/
inductive Guarded (d : Descent) : Result → Prop
  | fits {outcome : Except ParseError Expr} {d' : Descent} (h : Noted d d') : Guarded d (outcome, d')
  | refused {d' : Descent} (h : Noted d d') (opening : Token) :
      Guarded d (.error (.tooDeep opening.span), d'.note (.call (maxDepth + 1)))

namespace Guarded

private theorem noted (h : Guarded d (.ok e, d')) : Noted d d' := by
  cases h with
  | fits h => exact h

private theorem behind {r : Result} (h : Noted d d') (h' : Guarded d' r) : Guarded d r := by
  cases h' with
  | fits h' => exact .fits (h.trans h')
  | refused h' opening => exact .refused (h.trans h') opening

end Guarded

/-- A run is guarded, and the counter stands where it was if there is an expression. -/
structure Balanced (d : Descent) (r : Result) : Prop where
  guarded : Guarded d r
  depth : ∀ e, r.1 = .ok e → r.2.depth = d.depth

private theorem Balanced.of_eq (hdepth : d'.depth = d.depth) (hevents : d'.events = d.events) :
    Balanced d (outcome, d') :=
  ⟨.fits (.of_eq hevents), fun _ _ => hdepth⟩

private theorem Balanced.of_advance {r : Result} (h : Balanced d.advance r) : Balanced d r :=
  ⟨.behind (show Noted d d.advance from .of_eq rfl) h.guarded, h.depth⟩

private theorem balanced_andThen {x : Option Result} {next : Expr → Descent → Option Result} {r : Result}
    (h : andThen x next = some r) (hx : ∀ r, x = some r → Balanced d r)
    (hnext : ∀ e d', d'.depth = d.depth → ∀ r, next e d' = some r → Balanced d' r) : Balanced d r := by
  rcases andThen_eq_some h with ⟨err, d', hr, rfl⟩ | ⟨e, d', hr, hnextr⟩
  · exact hx _ hr
  · have hfirst := hx _ hr
    have hdepth := hfirst.depth e rfl
    have hlast := hnext e d' hdepth r hnextr
    exact ⟨.behind hfirst.guarded.noted hlast.guarded, fun e he => (hlast.depth e he).trans hdepth⟩

/-- The counter is put down before the closing parenthesis is looked for. -/
private theorem balanced_close (tokens : List Token) (opening : Token) (e : Expr) (d : Descent) :
    Balanced d (d.close tokens opening e) := by
  unfold close
  split
  · exact .of_eq rfl rfl
  · split <;> exact .of_eq rfl rfl

/-- How many of the calls for groups that are under way the counter does not know of yet. -/
def Call.pending : Call → Nat
  | .phrase _ => 0
  | .chain _ _ => 0
  | .group _ => 1

/-- Behind its opening parenthesis a group is refused, or it is entered and left. -/
private theorem balanced_group {r : Result} (h : run tokens (n + 1) nested (.group opening) d = some r)
    (hnested : nested = d.depth + 1) (hdepth : d.depth ≤ maxDepth)
    (hinner : ∀ d r, run tokens n nested (.phrase .sum) d = some r → nested = d.depth → d.depth ≤ maxDepth →
      Balanced d r) : Balanced d r := by
  rw [run] at h
  split at h
  · next hdeep =>
    obtain rfl := Option.some.inj h
    have hlimit : nested = maxDepth + 1 := by rw [hnested, Nat.le_antisymm hdepth hdeep]
    rw [hlimit]
    exact ⟨.refused (.of_eq rfl) opening, fun e he => by cases he⟩
  · next hdeep =>
    have hroom : d.depth + 1 ≤ maxDepth := Nat.lt_of_not_le hdeep
    have hcalled : Noted d (d.note (.call nested)) := .note (.of_eq rfl) (hnested ▸ hroom)
    have hentered : Noted d (d.note (.call nested)).enter :=
      hcalled.trans ⟨[.enter (d.depth + 1)], rfl, List.forall_mem_singleton.2 hroom⟩
    rcases andThen_eq_some h with ⟨err, d', hr, rfl⟩ | ⟨e, d', hr, hnext⟩
    · have hphrase := hinner _ _ hr hnested hroom
      exact ⟨.behind hentered hphrase.guarded, fun e he => by cases he⟩
    · have hphrase := hinner _ _ hr hnested hroom
      have hput : d'.depth = d.depth + 1 := hphrase.depth e rfl
      have hleft : Noted d d'.leave :=
        (hentered.trans hphrase.guarded.noted).trans
          ⟨[.leave d'.depth], rfl, List.forall_mem_singleton.2 (by rw [hput]; exact ⟨Nat.succ_pos _, hroom⟩)⟩
      have hleave : d'.leave.depth = d.depth := by
        show d'.depth - 1 = d.depth
        rw [hput, Nat.add_sub_cancel]
      obtain rfl := Option.some.inj hnext
      have hclose := balanced_close tokens opening e d'.leave
      exact ⟨.behind hleft hclose.guarded, fun e he => (hclose.depth e he).trans hleave⟩

/-- Runs are balanced where the counter knows of all calls for groups that are under way. -/
private theorem balanced_of_run {r : Result} (h : run tokens n nested call d = some r)
    (hnested : nested = d.depth + call.pending) (hdepth : d.depth ≤ maxDepth) : Balanced d r := by
  induction n generalizing nested call d r with
  | zero => cases h
  | succ n ih =>
    cases call with
    | phrase level =>
      by_cases hl : level = .operand
      · subst hl
        rw [run] at h
        split at h
        · obtain rfl := Option.some.inj h
          exact .of_eq rfl rfl
        · split at h
          · split at h <;> obtain rfl := Option.some.inj h <;> exact .of_eq rfl rfl
          · exact .of_advance (ih h (by rw [hnested]; rfl) hdepth)
          · obtain rfl := Option.some.inj h
            exact .of_eq rfl rfl
      · rw [run_chainPhrase hl] at h
        exact balanced_andThen h (fun r hr => ih hr hnested hdepth)
          fun left d' hd' r hr => ih hr (by rw [hnested, hd']; rfl) (hd' ▸ hdepth)
    | chain level left =>
      rw [run] at h
      split at h
      · obtain rfl := Option.some.inj h
        exact .of_eq rfl rfl
      · split at h
        · obtain rfl := Option.some.inj h
          exact .of_eq rfl rfl
        · exact balanced_andThen h (fun r hr => .of_advance (ih hr hnested hdepth))
            fun right d' hd' r hr => ih hr (by rw [hnested, hd']; rfl) (hd' ▸ hdepth)
    | group opening => exact balanced_group h hnested hdepth fun d r hr hnested hdepth => ih hr hnested hdepth

/-! ### What a run depends on -/

/-- What a run that gives an expression takes and leaves. Another run that starts with as many open groups and sees the
same tokens, up to the first one that the run leaves, gives the same expression and takes as many tokens. -/
structure Frame (tokens : List Token) (level : Level) (d : Descent) (e : Expr) (d' : Descent) : Prop where
  moved : d.index < d'.index
  within : d'.index ≤ tokens.length
  depth : d'.depth = d.depth
  noted : Noted d d'
  taken : ∀ t ∈ (tokens.drop d.index).take (d'.index - d.index), t.kind ≠ .eof
  ahead : ∀ (tokens₂ : List Token) (d₂ : Descent) (n : Nat), d₂.depth = d.depth →
    (tokens₂.drop d₂.index).take (d'.index - d.index + 1) = (tokens.drop d.index).take (d'.index - d.index + 1) →
    4 * (tokens₂.length - d₂.index) + 3 ≤ n →
    ∃ d₂', run tokens₂ n d₂.depth (.phrase level) d₂ = some (.ok e, d₂') ∧
      d₂'.index - d₂.index = d'.index - d.index

/-- What begins like `s ++ rest`, up to the first token behind `s`, is `s` and something that begins like `rest`. -/
private theorem exists_append_of_take {l s rest : List Token}
    (h : l.take (s.length + 1) = (s ++ rest).take (s.length + 1)) :
    ∃ rest', l = s ++ rest' ∧ rest'.head? = rest.head? := by
  have hs : l.take s.length = s := by
    have hshort := congrArg (List.take s.length) h
    rwa [List.take_take, List.take_take, Nat.min_eq_left (Nat.le_succ _), List.take_left] at hshort
  refine ⟨l.drop s.length, ?_, ?_⟩
  · have hsplit := List.take_append_drop s.length l
    rw [hs] at hsplit
    exact hsplit.symm
  · have hnext : l[s.length]? = (s ++ rest)[s.length]? := by
      simpa [List.getElem?_take_of_lt] using congrArg (·[s.length]?) h
    rw [List.head?_drop, hnext, ← List.head?_drop, List.drop_left]

private theorem frame_of_run (hd : d.index ≤ tokens.length) (hdepth : d.depth ≤ maxDepth)
    (h : run tokens n d.depth (.phrase level) d = some (.ok e, d')) : Frame tokens level d e d' := by
  obtain ⟨hindex, hread⟩ := reads_of_run hd h
  obtain ⟨s, hs, hrestored, hder, hdeep, hstop⟩ := Cursor.spans_of_read hdepth hread
  have hmoved := index_lt_of_run hd h
  have hlength : d'.index - d.index = s.length := by
    have := congrArg List.length hs
    simp only [cursor, List.length_drop, List.length_append] at this hindex
    omega
  have htokens : tokens.drop d.index = s ++ tokens.drop d'.index := hs
  refine ⟨hmoved, hindex, hrestored, (balanced_of_run h rfl hdepth).guarded.noted, ?taken, ?ahead⟩
  case taken =>
    rw [hlength, htokens, List.take_left]
    exact hder.kind_ne_eof
  case ahead =>
    intro tokens₂ d₂ n hd₂ hseen hn
    rw [hlength, htokens] at hseen
    obtain ⟨rest₂, hrest₂, hhead⟩ := exists_append_of_take hseen
    -- only the first token behind the phrase decides whether it stops there
    have hstop₂ : level.Stops rest₂ := by
      unfold Level.Stops
      rw [hhead]
      exact hstop
    have hread₂ := Cursor.read_of_derives hder d₂.depth rest₂ (hd₂ ▸ hdeep) hstop₂
    rw [← hrest₂] at hread₂
    have hlength₂ := congrArg List.length hrest₂
    rw [List.length_drop, List.length_append] at hlength₂
    obtain ⟨d₂', hrun₂, hindex₂, hcursor₂⟩ := run_of_read (d := d₂) d₂.depth (by omega) hn hread₂
    have hbehind := congrArg (fun c => c.rest.length) hcursor₂
    simp only [cursor, List.length_drop] at hbehind
    exact ⟨d₂', hrun₂, by omega⟩

/-! ### Side by side -/

/-- Tokens that all belong to one operand, which is read where `depth` groups are open. -/
def Alone (depth : Nat) (s : List Token) (e : Expr) : Prop :=
  ∃ n d, run s n depth (.phrase .operand) ⟨0, depth, []⟩ = some (.ok e, d) ∧ d.index = s.length

private theorem Alone.derives {depth : Nat} {s : List Token} (h : Alone depth s e) (hdepth : depth ≤ maxDepth) :
    Derives .operand s e ∧ deepest depth s ≤ maxDepth := by
  obtain ⟨n, d, hrun, hindex⟩ := h
  obtain ⟨-, hread⟩ := reads_of_run (Nat.zero_le _) hrun
  obtain ⟨s', hs, -, hder, hdeep, -⟩ := Cursor.spans_of_read hdepth hread
  have hs' : s = s' := by simpa [cursor, hindex] using hs
  rw [hs']
  exact ⟨hder, hdeep⟩

end Descent

/-- A sum, seen from its end: a product, or a sum and a product behind a sign. -/
private inductive EndsInProduct : List Token → Prop
  | product {s : List Token} {e : Expr} (h : Derives .product s e) : EndsInProduct s
  | sum {s s' : List Token} {e e' : Expr} {sign : Token} {op : Operator} (level : op.level = .sum)
      (h : Derives .sum s e) (kind : sign.kind = op.kind) (h' : Derives .product s' e') :
      EndsInProduct (s ++ sign :: s')

namespace EndsInProduct

variable {s : List Token} {l : Link}

private theorem exists_sum (h : EndsInProduct s) : ∃ e, Derives .sum s e := by
  cases h with
  | product h => exact ⟨_, h.lift (by decide)⟩
  | sum level h kind h' => exact ⟨_, level ▸ Derives.snoc (level ▸ h) kind (by rw [level]; exact h')⟩

/-- One more operand goes to the last product, or it is a product by itself. -/
private theorem append (h : EndsInProduct s) (kind : l.sign.kind = l.op.kind)
    (operand : Derives .operand l.operand l.right) : EndsInProduct (s ++ l.tokens) := by
  have hlevel : l.op.level = .sum ∨ l.op.level = .product := by cases l.op <;> decide
  rcases hlevel with hl | hl
  · obtain ⟨e, hsum⟩ := h.exists_sum
    exact .sum hl hsum kind (operand.lift (by decide) : Derives .product l.operand l.right)
  · have hextend : ∀ {s e}, Derives .product s e → Derives .product (s ++ l.tokens) (.binary e l.op l.right) :=
      fun h => hl ▸ Derives.snoc (hl ▸ h) kind (by rw [hl]; exact operand)
    cases h with
    | product h => exact .product (hextend h)
    | sum level h kind' h' =>
      rw [List.append_assoc, List.cons_append]
      exact .sum level h kind' (hextend h')

end EndsInProduct

/-- Operands with any operators between them are a sum. -/
private theorem Derives.exists_sum {s : List Token} {e : Expr} {links : List Link} (first : Derives .operand s e)
    (signs : ∀ l ∈ links, l.sign.kind = l.op.kind) (operands : ∀ l ∈ links, Derives .operand l.operand l.right) :
    ∃ e, Derives .sum (s ++ links.flatMap Link.tokens) e := by
  suffices ∀ s, EndsInProduct s → EndsInProduct (s ++ links.flatMap Link.tokens) from
    (this s (.product (first.lift (by decide)))).exists_sum
  clear first
  induction links with
  | nil => intro s h; rwa [List.flatMap_nil, List.append_nil]
  | cons l links ih =>
    intro s h
    rw [List.forall_mem_cons] at signs operands
    rw [List.flatMap_cons, ← List.append_assoc]
    exact ih signs.2 operands.2 _ (h.append signs.1 operands.1)

private theorem deepest_append_links {s : List Token} {e : Expr} {links : List Link} {level : Level} {depth : Nat}
    (first : Derives level s e) (hfirst : deepest depth s ≤ maxDepth) (signs : ∀ l ∈ links, l.sign.kind = l.op.kind)
    (operands : ∀ l ∈ links, Derives level l.operand l.right ∧ deepest depth l.operand ≤ maxDepth) :
    deepest depth (s ++ links.flatMap Link.tokens) ≤ maxDepth := by
  rw [deepest_append, first.groupsAfter_eq]
  refine Nat.max_le.2 ⟨hfirst, ?_⟩
  have hdepth : depth ≤ maxDepth := Nat.le_trans (le_deepest depth s) hfirst
  induction links with
  | nil => exact hdepth
  | cons l links ih =>
    rw [List.forall_mem_cons] at signs operands
    rw [deepest_flatMap_cons signs.1 operands.1.1]
    exact Nat.max_le.2 ⟨operands.1.2, ih signs.2 operands.2⟩

namespace Descent

/-- Operands side by side are read wherever each of them is read by itself. -/
private theorem run_of_alone {tokens first rest : List Token} {links : List Link} {d : Descent} {e : Expr} {n : Nat}
    (hd : d.index ≤ tokens.length) (hdepth : d.depth ≤ maxDepth) (hn : 4 * (tokens.length - d.index) + 3 ≤ n)
    (htokens : tokens.drop d.index = first ++ links.flatMap Link.tokens ++ rest) (hfirst : Alone d.depth first e)
    (hlinks : ∀ l ∈ links, l.sign.kind = l.op.kind ∧ Alone d.depth l.operand l.right) (hstop : Level.sum.Stops rest) :
    ∃ e d', run tokens n d.depth (.phrase .sum) d = some (.ok e, d') ∧ tokens.drop d'.index = rest ∧
      d'.depth = d.depth := by
  obtain ⟨hder, hdeep⟩ := hfirst.derives hdepth
  have hsigns : ∀ l ∈ links, l.sign.kind = l.op.kind := fun l hl => (hlinks l hl).1
  have hoperands : ∀ l ∈ links, Derives .operand l.operand l.right ∧ deepest d.depth l.operand ≤ maxDepth :=
    fun l hl => (hlinks l hl).2.derives hdepth
  obtain ⟨e', hsum⟩ := hder.exists_sum hsigns fun l hl => (hoperands l hl).1
  have hread := Cursor.read_of_derives hsum d.depth rest (deepest_append_links hder hdeep hsigns hoperands) hstop
  rw [← htokens] at hread
  obtain ⟨d', hrun, -, hcursor⟩ := run_of_read d.depth hd hn hread
  exact ⟨e', d', hrun, congrArg Cursor.rest hcursor, congrArg Cursor.depth hcursor⟩

/-- Four calls inside one another for every token, and three more, are enough for a run, and its outcome is that of a
cursor. Only a call for a group that is refused can be one too many, and the counter is never put above 256 nor below
zero. A run that gives an expression moves on, restores the counter, and depends on no more tokens than `Frame` says.
Operands that are read by themselves are read side by side, too, however many they are. So reading a whole input by an
index comes to an end, and it comes to what the input stands for. -/
theorem framed_run (tokens : List Token) (level : Level) (d : Descent) (n : Nat) (hd : d.index ≤ tokens.length)
    (hdepth : d.depth ≤ 256) (hn : 4 * (tokens.length - d.index) + 3 ≤ n) :
    (∃ outcome d', run tokens n d.depth (.phrase level) d = some (outcome, d') ∧
      Cursor.read level ⟨tokens.drop d.index, d.depth⟩ =
        outcome.map (fun e => (e, ⟨tokens.drop d'.index, d'.depth⟩)) ∧
      Guarded d (outcome, d') ∧ ∀ e, outcome = .ok e → Frame tokens level d e d') ∧
    (∀ (first rest : List Token) (links : List Link) (e : Expr),
      tokens.drop d.index = first ++ links.flatMap Link.tokens ++ rest → Alone d.depth first e →
      (∀ l ∈ links, l.sign.kind = l.op.kind ∧ Alone d.depth l.operand l.right) → Level.sum.Stops rest →
      ∃ e d', run tokens n d.depth (.phrase .sum) d = some (.ok e, d') ∧ tokens.drop d'.index = rest ∧
        d'.depth = d.depth) ∧
    parse? tokens = some (Expr.ofTokens tokens) := by
  refine ⟨?_, ?_, parse?_eq_ofTokens tokens⟩
  · have hheight : (Call.phrase level).height ≤ 3 := by cases level <;> decide
    obtain ⟨⟨outcome, d'⟩, hrun⟩ := exists_run (n := n) d.depth (.phrase level) hd (by omega)
    refine ⟨outcome, d', hrun, (reads_of_run hd hrun).2, (balanced_of_run hrun rfl hdepth).guarded, ?_⟩
    rintro e rfl
    exact frame_of_run hd hdepth hrun
  · intro first rest links e htokens hfirst hlinks hstop
    exact run_of_alone hd hdepth hn htokens hfirst hlinks hstop

/-- The tokens of `(1)`. -/
def groupOfOne : List Token :=
  [⟨.leftParen, ['('], none, 1, ⟨1, 2⟩⟩, ⟨.number, ['1'], some 1, 1, ⟨2, 3⟩⟩, ⟨.rightParen, [')'], none, 1, ⟨3, 4⟩⟩]

/-- Where 255 groups are open, `(1)*(1)` is read up to the end of the input. -/
theorem framed_run_siblings :
    let star : Token := ⟨.star, ['*'], none, 1, ⟨4, 5⟩⟩
    let eof : Token := ⟨.eof, [], none, 1, .empty 8⟩
    let tokens : List Token := groupOfOne ++ star :: groupOfOne ++ [eof]
    let d : Descent := ⟨0, 255, []⟩
    let noted : List Event := [.call 256, .enter 256, .leave 256]
    (d.index ≤ tokens.length ∧ d.depth ≤ 256 ∧ 4 * (tokens.length - d.index) + 3 ≤ 35 ∧
      Alone 255 groupOfOne (.literal 1)) ∧
    Frame tokens .sum d (.binary (.literal 1) .star (.literal 1)) ⟨7, 255, noted ++ noted⟩ ∧
    (∃ e d', run tokens 35 255 (.phrase .sum) d = some (.ok e, d') ∧ tokens.drop d'.index = [eof] ∧ d'.depth = 255) ∧
    parse? tokens = some (Expr.ofTokens tokens) := by
  intro star eof tokens d noted
  have hindex : d.index ≤ tokens.length := by decide
  have hdepth : d.depth ≤ 256 := by decide
  have hn : 4 * (tokens.length - d.index) + 3 ≤ 35 := by decide
  have halone : Alone 255 groupOfOne (.literal 1) := ⟨15, ⟨3, 255, noted⟩, by cbv, rfl⟩
  have hvalue : run tokens 35 255 (.phrase .sum) d =
      some (.ok (.binary (.literal 1) .star (.literal 1)), ⟨7, 255, noted ++ noted⟩) := by cbv
  obtain ⟨⟨outcome, d', hrun, -, -, hframe⟩, hsiblings, hparse⟩ := framed_run tokens .sum d 35 hindex hdepth hn
  rw [show d.depth = 255 from rfl, hvalue] at hrun
  obtain ⟨rfl, rfl⟩ := Prod.mk.inj (Option.some.inj hrun)
  have hstop : Level.sum.Stops [eof] := Level.stops_cons_iff.2 fun op hop => by cases op <;> cases hop
  refine ⟨⟨hindex, hdepth, hn, halone⟩, hframe _ rfl, ?_, hparse⟩
  exact hsiblings groupOfOne [eof] [⟨star, .star, groupOfOne, .literal 1⟩] (.literal 1) rfl halone
    (List.forall_mem_singleton.2 ⟨rfl, halone⟩) hstop

-- Where 256 groups are open, the call for another one is the one too many.
example : run groupOfOne 15 256 (.phrase .operand) ⟨0, 256, []⟩ =
    some (.error (.tooDeep ⟨1, 2⟩), ⟨1, 256, [.call 257]⟩) := by
  cbv

end Descent

end Calculator
