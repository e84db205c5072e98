import Conform.Pattern.Single

/-!
# Matching

`Regex.run` matches by backtracking. It takes what is to follow as a continuation: a match is
tried, and if what follows fails then the next way to match is tried. Alternatives are tried from
left to right, and a repetition chooses the number of its rounds as its greed says.

A repetition that has had its least number of rounds starts no further round at the position at
which it started the last one, so an empty round ends it.
-/

namespace Conform

/-! ## Rounds -/

/-- Rounds of `body`, as many as possible; `last` is where the last free round started. -/
def greedyRounds (body : Continuation → Continuation) (least : Nat) (most : Option Nat)
    (k : Continuation) : (fuel count : Nat) → (last : Option Nat) → Continuation
  | 0, _, _, p, s => k p s
  | fuel + 1, count, last, p, s =>
    let s := s.moveTo p
    let leave := fun (t : MatchState) => (k p t).failingAt p
    if count < least then
      (body (greedyRounds body least most k fuel (count + 1) last) p s).failingAt p
    else if allowsRound count most && last != some p then
      (body (greedyRounds body least most k fuel (count + 1) (some p)) p s).orElse fun t =>
        leave ((t.restore true s.marks).moveTo p)
    else leave s

/-- Rounds of `body`, as few as possible. -/
def lazyRounds (body : Continuation → Continuation) (least : Nat) (most : Option Nat)
    (inRounds : Bool) (k : Continuation) :
    (fuel count : Nat) → (last : Option Nat) → Continuation
  | 0, _, _, p, s => k p s
  | fuel + 1, count, last, p, s =>
    let s := s.moveTo p
    if count < least then
      (body (lazyRounds body least most inRounds k fuel (count + 1) last) p s).failingAt p
    else
      (k p s).orElse fun t =>
        let t := (t.restore inRounds s.marks).moveTo p
        if allowsRound count most && last != some p then
          (body (lazyRounds body least most inRounds k fuel (count + 1) (some p)) p t).failingAt p
        else .failure t

/-- So many rounds of `body`, each from the cursor on and in the first way in which it
matches. -/
def firmRounds (body : Continuation → Continuation) : (rounds : Nat) → MatchState → Attempt
  | 0, s => ⟨true, s⟩
  | n + 1, s => (body .stop s.cursor s).andThen (firmRounds body n)

/-- Further rounds of `body`, as long as it matches. The last one, which fails, leaves the cursor
where it came to. -/
def possessiveRounds (body : Continuation → Continuation) (most : Option Nat) :
    (fuel count : Nat) → (last : Option Nat) → MatchState → MatchState
  | 0, _, _, s => s
  | fuel + 1, count, last, s =>
    if allowsRound count most && last != some s.cursor then
      let round := body .stop s.cursor s
      if round.succeeds then
        possessiveRounds body most fuel (count + 1) (some s.cursor) round.state
      else round.state.restore true s.marks
    else s

/-! ## Looking around -/

/-- Looks for `body` from `start` on, and goes on where it was if that is found, or if it is not
found. -/
def look (body : Continuation → Continuation) (negative inRounds : Bool) (start : Nat)
    (k : Continuation) : Continuation := fun p s =>
  let found := body .stop start (s.moveTo start)
  if !negative then found.andThen (k p)
  else if found.succeeds then .failure found.state
  else k p (found.state.restore inRounds s.marks)

/-! ## Regular expressions -/

namespace Regex

/-- The free rounds that a repetition is granted: more than there are pairs of positions. -/
def roundBound (text : Array Nat) : Nat := (text.size + 2) * (text.size + 2)

/-- **Matches from a position on**, and goes on with a continuation. It is told whether it stands
inside the rounds of a repetition that can give rounds back, and the atom that follows. -/
def run (text : Array Nat) : Regex → (inRounds : Bool) → (next : Option (Atom × Flags)) →
    Continuation → Continuation
  | empty, _, _, k => k
  | atom a f, _, _, k => fun p s =>
    match a.step? text f s.marks p with
    | some q => k q s
    | none => .failure s
  | seq r s, inRounds, next, k => run text r inRounds (s.lead? next) (run text s inRounds next k)
  | alt r others, inRounds, _, k => fun p s =>
    let attempt := fun (x : Regex) (tried : Continuation) (t : MatchState) =>
      if (x.lead? none).any fun (a, f) => a.refuses f text[p]? then .failure t
      else (tried p (t.moveTo p)).orElse fun u => .failure (u.restore inRounds s.marks)
    (attempt r (run text r inRounds none k) s).orElse fun t =>
      if others.isAlternatives then run text others inRounds none k p t
      else attempt others (run text others inRounds none k) t
  | group none r, inRounds, next, k => run text r inRounds next k
  | group (some n) r, inRounds, _, k => fun p s =>
    run text r inRounds none (fun q t => k q { t with marks := t.marks.stop n q }) p
      { s with marks := s.marks.start n p }
  | conditional g r s, inRounds, next, k => fun p st =>
    if (st.marks.captured? g).isSome then
      run text r inRounds (if s.isEmpty then next else none) k p st
    else run text s inRounds next k p st
  | lookAhead negative r, inRounds, _, k => fun p s =>
    look (run text r inRounds none) negative inRounds p k p s
  | lookBehind negative distance r, inRounds, _, k => fun p s =>
    if p < distance then (if negative then k p s else .failure s)
    else look (run text r inRounds none) negative inRounds (p - distance) k p s
  | atomic r, inRounds, _, k => fun p s =>
    ((run text r inRounds none .stop p (s.moveTo p)).failingAt p).andThen fun t => k t.cursor t
  | repetition greed least most r, inRounds, next, k =>
    match r.single? with
    | some (a, f) =>
      repeatSingle text f a greed least most inRounds
        (next.bind fun (b, g) => b.verbatim? g) k
    | none => fun p s =>
      let fuel := least + roundBound text
      match greed with
      | .greedy => greedyRounds (run text r true none) least most k fuel 0 none p s
      | .lazy => lazyRounds (run text r true none) least most inRounds k fuel 0 none p s
      | .possessive =>
        let body := run text r inRounds none
        ((firmRounds body least (s.moveTo p)).failingAt p).andThen fun t =>
          let t := possessiveRounds body most (roundBound text) least none t
          k t.cursor t

end Regex

end Conform
