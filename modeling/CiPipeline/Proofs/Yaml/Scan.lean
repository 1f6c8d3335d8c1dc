import CiPipeline.Proofs.Yaml.Fetch

/-!
# Scan — the tokens of a written text

The scanner holds a token back while it may still become a key.  In a written text that is settled
within a line or at its end, so that what it gives out can be told line by line, and collections can
be closed one at a time.

* `Reaches`: the tokens given out between two states, and what they cost;
* `run_delayed`: a token that waits for its line to end might be given out at once;
* `reaches_first_name`, `reaches_next_name`, `reaches_text`, `reaches_entry`, `reaches_empty`: the
  parts of a text;
* `reaches_close`, `run_end`: where collections and the text end.
-/

namespace CiPipeline
namespace Yaml
namespace Scanner

/-! ## Steps -/

theorem run_fetch {s next : Scanner} (nothing : s.held = []) (goesOn : s.ended = false)
    (fetched : s.fetch = some next) (fuel : Nat) : run (fuel + 1) s = run fuel next := by
  rw [run, nothing, goesOn, fetched]
  rfl

theorem run_unsettled {s next : Scanner} {t : Token} {held : List Token} (first : s.held = t :: held)
    (fresh : s.dropStale = some s) (unsettled : s.headUnsettled = true) (goesOn : s.ended = false)
    (fetched : s.fetch = some next) (fuel : Nat) : run (fuel + 1) s = run fuel next := by
  rw [run, first]
  simp only [fresh, unsettled, goesOn, fetched, Bool.not_false, Bool.and_true, if_true]

theorem run_release {s settled : Scanner} {t : Token} {held : List Token}
    (first : s.held = t :: held) (dropped : s.dropStale = some settled)
    (free : (settled.headUnsettled && !settled.ended) = false) (fuel : Nat) :
    run (fuel + 1) s =
      (t :: (run fuel { settled with held := held, released := settled.released + 1 }).1,
        (run fuel { settled with held := held, released := settled.released + 1 }).2) := by
  rw [run, first]
  simp only [dropped, free, Bool.false_eq_true, if_false]

section Outside

variable {cursor : Cursor} {indent : Int} {indents : List Int} {allowed : Bool} {held : List Token}
  {released : Nat}

theorem dropStale_outside :
    (outside cursor indent indents allowed held released).dropStale =
      some (outside cursor indent indents allowed held released) := rfl

/-- Without a candidate all that is held back is given out. -/
theorem run_outside (held : List Token) (fuel : Nat) :
    run (fuel + held.length) (outside cursor indent indents allowed held released) =
      (held ++ (run fuel (outside cursor indent indents allowed [] (released + held.length))).1,
        (run fuel (outside cursor indent indents allowed [] (released + held.length))).2) := by
  induction held generalizing released with
  | nil => rfl
  | cons t rest ih =>
      have step := run_release (s := outside cursor indent indents allowed (t :: rest) released) rfl
        dropStale_outside rfl (fuel + rest.length)
      have later := @ih (released + 1)
      have count : released + 1 + rest.length = released + (rest.length + 1) := by omega
      rw [count] at later
      exact step.trans (by
        change (t :: (run _ (outside cursor indent indents allowed rest (released + 1))).1,
          (run _ (outside cursor indent indents allowed rest (released + 1))).2) = _
        rw [later]
        rfl)

end Outside

/-- States from which the same token is fetched. -/
theorem run_congr {s s' : Scanner} (nothing : s.held = [] ∧ s'.held = [])
    (goesOn : s.ended = false ∧ s'.ended = false) (same : s.fetch = s'.fetch) (fuel : Nat) :
    run (fuel + 1) s = run (fuel + 1) s' := by
  rw [run, run, nothing.1, nothing.2, goesOn.1, goesOn.2, same]

/-! ## Reaching a state -/

/-- What a state can still cost: each character of the text ahead, and each open collection. -/
def potential (s : Scanner) : Nat := 8 * s.cursor.rest.length + s.indents.length

/-- The scanner gives out tokens and reaches a state, within the potential that is used up. -/
def Reaches (s : Scanner) (tokens : List Token) (s' : Scanner) : Prop :=
  ∃ n, n + potential s' ≤ potential s ∧
    ∀ fuel, run (fuel + 1 + n) s = (tokens ++ (run (fuel + 1) s').1, (run (fuel + 1) s').2)

namespace Reaches

variable {s s' s'' : Scanner} {tokens more : List Token}

theorem refl (s : Scanner) : Reaches s [] s := ⟨0, by omega, fun _ => rfl⟩

theorem trans (first : Reaches s tokens s') (second : Reaches s' more s'') :
    Reaches s (tokens ++ more) s'' := by
  rcases first with ⟨n, used, run⟩
  rcases second with ⟨n', used', run'⟩
  refine ⟨n' + n, by omega, fun fuel => ?_⟩
  have split : fuel + 1 + (n' + n) = fuel + n' + 1 + n := by omega
  have back : fuel + n' + 1 = fuel + 1 + n' := by omega
  rw [split, run, back, run', List.append_assoc]

end Reaches

/-! ## Lines -/

section Lines

variable {indent : Int} {indents : List Int} {allowed : Bool} {released : Nat} {m : Mark}

theorem fetch_ready {held : List Token} {behind : List Char} (inside : indent ≤ m.column)
    (ready : Ready behind) :
    (outside ⟨behind, m⟩ indent indents allowed held released).fetch =
      (outside ⟨behind, m⟩ indent indents allowed held released).fetchHere := by
  rw [fetch, toNextToken_ready ready, dropStale_outside]
  change ((outside ⟨behind, m⟩ indent indents allowed held released).unrollIndent _).fetchHere = _
  rw [unrollIndent_of_le inside]

/-- Between the end of a line and the next token nothing is given out. -/
theorem run_line (allowed : Bool) (k : Nat) {behind : List Char} (ready : Ready behind) (fuel : Nat) :
    run (fuel + 1) (outside ⟨'\n' :: (blanks k ++ behind), m⟩ indent indents allowed [] released) =
      run (fuel + 1)
        (outside ⟨behind, (m.newLine 1).forward k⟩ indent indents true [] released) := by
  apply run_congr ⟨rfl, rfl⟩ ⟨rfl, rfl⟩
  rw [fetch, fetch, toNextToken_line rfl rfl ready, toNextToken_ready ready]
  rfl

theorem reaches_line (k : Nat) {behind : List Char} (ready : Ready behind) :
    Reaches (outside ⟨'\n' :: (blanks k ++ behind), m⟩ indent indents allowed [] released) []
      (outside ⟨behind, (m.newLine 1).forward k⟩ indent indents true [] released) := by
  refine ⟨0, ?_, fun fuel => run_line allowed k ready fuel⟩
  simp only [potential, outside, List.length_cons, List.length_append]
  omega

/-! ### Names -/

theorem ready_plain {text : String} {c : Char} {cs : List Char} (plain : IsPlain text c cs)
    (behind : List Char) : Ready (text.toList ++ behind) := by
  intro d mem
  rw [plain.text] at mem
  cases mem
  have notSign := plain.not_sign
  refine ⟨plain.solid, ?_, ne_of_isPrintable plain.printable (by decide)⟩
  rintro rfl
  exact notSign (by decide)

theorem ready_colon (rest : List Char) : Ready (':' :: rest) := by
  intro d mem
  cases mem
  decide

/-- The state in which the name of a field waits for its colon. -/
def named (s : Scanner) (required : Bool) (start : Mark) : Scanner :=
  { s with keys := [some ⟨required, s.released, start⟩] }

theorem named_dropStale {rest : List Char} {t : Token} {required : Bool} {start : Mark}
    (fresh : isStale m ⟨required, released, start⟩ = false) :
    (named (outside ⟨rest, m⟩ indent indents allowed [t] released) required start).dropStale =
      some (named (outside ⟨rest, m⟩ indent indents allowed [t] released) required start) := by
  simp [dropStale, named, outside, fresh]

theorem named_unsettled {rest : List Char} {t : Token} {required : Bool} {start : Mark} :
    (named (outside ⟨rest, m⟩ indent indents allowed [t] released) required
      start).headUnsettled = true := by
  simp [headUnsettled, named, outside]

/-- The colon makes a key of the name, and opens a mapping where the name stands deeper than what
is open. -/
theorem named_fetch {rest : List Char} (blank : blankAhead rest = true) {t : Token} {required : Bool}
    {start : Mark} (fresh : isStale m ⟨required, released, start⟩ = false)
    (inside : indent ≤ m.column) :
    (named (outside ⟨':' :: rest, m⟩ indent indents allowed [t] released) required start).fetch =
      some (if indent < start.column then
        outside ⟨rest, m.forward 1⟩ start.column (indent :: indents) false
          [.blockMappingStart, .key, t, .value] released
      else
        outside ⟨rest, m.forward 1⟩ indent indents false [.key, t, .value] released) := by
  have here : (named (outside ⟨':' :: rest, m⟩ indent indents allowed [t] released) required
      start).toNextToken =
        named (outside ⟨':' :: rest, m⟩ indent indents allowed [t] released) required start :=
    toNextToken_ready (ready_colon rest)
  rw [fetch, here, named_dropStale fresh]
  change ((named (outside ⟨':' :: rest, m⟩ indent indents allowed [t] released) required
    start).unrollIndent _).fetchHere = _
  rw [unrollIndent_of_le inside]
  split
  · next deeper =>
    simp [fetchHere, named, outside, markerAhead, inFlow, blank, valueSign, insertAt, rollIndent,
      deeper, allowKey, skip, emit, Cursor.skip]
  · next notDeeper =>
    simp [fetchHere, named, outside, markerAhead, inFlow, blank, valueSign, insertAt, rollIndent,
      notDeeper, allowKey, skip, emit, Cursor.skip]

/-- The name of a field up to the character after its colon. -/
theorem run_name {name : String} {c : Char} {cs : List Char} (plain : IsPlain name c cs)
    (short : name.toList.length ≤ longestKey) {rest : List Char} (blank : blankAhead rest = true)
    (inside : indent ≤ m.column) (fuel : Nat) :
    run (fuel + 2)
        (outside ⟨name.toList ++ ':' :: rest, m⟩ indent indents true [] released) =
      run fuel (if indent < m.column then
        outside ⟨rest, (m.forward name.toList.length).forward 1⟩ m.column (indent :: indents) false
          [.blockMappingStart, .key, .scalar name true, .value] released
      else
        outside ⟨rest, (m.forward name.toList.length).forward 1⟩ indent indents false
          [.key, .scalar name true, .value] released) := by
  have read : (outside ⟨name.toList ++ ':' :: rest, m⟩ indent indents true [] released).fetch =
      some (named (outside ⟨':' :: rest, m.forward name.toList.length⟩ indent indents false
        [.scalar name true] released) (indent == m.column) m) := by
    rw [fetch_ready inside (ready_plain plain _), fetchHere_name plain inside blank]
    rfl
  have fresh : isStale (m.forward name.toList.length) ⟨indent == m.column, released, m⟩ = false := by
    simp [isStale, Nat.not_lt.2 short]
  have later : indent ≤ (m.forward name.toList.length).column := by
    rw [Mark.forward_column]
    omega
  rw [run_fetch rfl rfl read (fuel + 1),
    run_unsettled rfl (named_dropStale fresh) named_unsettled rfl (named_fetch blank fresh later)]

theorem reaches_first_name {name : String} {c : Char} {cs : List Char} (plain : IsPlain name c cs)
    (short : name.toList.length ≤ longestKey) {rest : List Char} (blank : blankAhead rest = true)
    (deeper : indent < m.column) :
    Reaches (outside ⟨name.toList ++ ':' :: rest, m⟩ indent indents true [] released)
      [.blockMappingStart, .key, .scalar name true, .value]
      (outside ⟨rest, (m.forward name.toList.length).forward 1⟩ m.column (indent :: indents) false []
        (released + 4)) := by
  refine ⟨6, ?_, fun fuel => ?_⟩
  · simp only [potential, outside, List.length_append, List.length_cons]
    omega
  · have split : fuel + 1 + 6 = fuel + 1 + 4 + 2 := rfl
    rw [split, run_name plain short blank (Int.le_of_lt deeper), if_pos deeper]
    exact run_outside [.blockMappingStart, .key, .scalar name true, .value] (fuel + 1)

theorem reaches_next_name {name : String} {c : Char} {cs : List Char} (plain : IsPlain name c cs)
    (short : name.toList.length ≤ longestKey) {rest : List Char} (blank : blankAhead rest = true)
    (level : indent = m.column) :
    Reaches (outside ⟨name.toList ++ ':' :: rest, m⟩ indent indents true [] released)
      [.key, .scalar name true, .value]
      (outside ⟨rest, (m.forward name.toList.length).forward 1⟩ indent indents false []
        (released + 3)) := by
  refine ⟨5, ?_, fun fuel => ?_⟩
  · simp only [potential, outside, List.length_append, List.length_cons]
    omega
  · have split : fuel + 1 + 5 = fuel + 1 + 3 + 2 := rfl
    rw [split, run_name plain short blank (Int.le_of_eq level), if_neg (by omega)]
    exact run_outside [.key, .scalar name true, .value] (fuel + 1)

/-! ### Tokens that wait -/

/-- What follows the value of a field: another field, or nothing. -/
inductive Opens (column : Nat) : List Char → Prop
  | field {name : String} {c : Char} {cs : List Char} (plain : IsPlain name c cs)
      (short : name.toList.length ≤ longestKey) {rest : List Char} (blank : blankAhead rest = true) :
      Opens column (name.toList ++ ':' :: rest)
  | finish (start : column = 0) : Opens column []

/-- What follows an item: that, or another item at the same column. -/
inductive OpensItem (indent : Int) (column : Nat) : List Char → Prop
  | item (level : indent = column) (rest : List Char) : OpensItem indent column ('-' :: ' ' :: rest)
  | other {behind : List Char} (opens : Opens column behind) : OpensItem indent column behind

theorem Opens.ready {column : Nat} {behind : List Char} (opens : Opens column behind) :
    Ready behind := by
  cases opens with
  | field plain => exact ready_plain plain _
  | finish => intro c mem; cases mem

theorem OpensItem.ready {column : Nat} {behind : List Char}
    (opens : OpensItem indent column behind) : Ready behind := by
  cases opens with
  | item level rest => intro c mem; cases mem; decide
  | other opens => exact opens.ready

/-- A state behind which nothing becomes a key before its first token. -/
structure Waits (t : Token) (s : Scanner) : Prop where
  first : s.held.head? = some t
  fresh : s.dropStale = some s
  settled : s.headUnsettled = false

/-- The state once its first token was given out. -/
def giveOut (s : Scanner) : Scanner :=
  { s with held := s.held.tail, released := s.released + 1 }

/-- A token that waits does not change what is read next. -/
theorem fetchHere_delayed {behind : List Char} (inside : indent ≤ m.column)
    (opens : OpensItem indent m.column behind) (t : Token) (held : List Token) :
    ∃ next, Waits t next ∧
      (outside ⟨behind, m⟩ indent indents true (t :: held) released).fetchHere = some next ∧
      (outside ⟨behind, m⟩ indent indents true held (released + 1)).fetchHere =
        some next.giveOut := by
  cases opens with
  | item level rest =>
      have here : (m.column : Int) ≤ indent := by omega
      refine ⟨_, ⟨?_, ?_, ?_⟩, fetchHere_entry here rest, fetchHere_entry here rest⟩
      · rfl
      · rfl
      · rfl
  | other opens =>
      cases opens with
      | field plain short blank =>
          have number : released + 1 + held.length = released + (t :: held).length := by
            rw [List.length_cons]
            omega
          refine ⟨_, ⟨?_, ?_, ?_⟩, fetchHere_name plain inside blank, ?_⟩
          · rfl
          · simp [dropStale, outside, candidate, isStale, Nat.not_lt.2 short]
          · simp [headUnsettled, outside, candidate]
          · rw [fetchHere_name plain inside blank, number]
            rfl
      | finish start =>
          refine ⟨_, ⟨?_, ?_, ?_⟩, fetchHere_end start, fetchHere_end start⟩
          · rfl
          · rfl
          · rfl

/-- What a state gives out when its first token waits. -/
theorem run_delayed {later next : Scanner} {t : Token} (waits : Waits t next)
    (nothing : later.held = []) (goesOn : later.ended = false)
    (fetched : later.fetch = some next.giveOut) (fuel : Nat) :
    run (fuel + 1) next = (t :: (run (fuel + 1) later).1, (run (fuel + 1) later).2) := by
  have first : next.held = t :: next.held.tail := List.eq_cons_of_mem_head? waits.first
  have free : (next.headUnsettled && !next.ended) = false := by rw [waits.settled, Bool.false_and]
  rw [run_release first waits.fresh free, run_fetch nothing goesOn fetched]
  rfl

theorem fetch_outside {held : List Token} {behind : List Char} (ready : Ready behind) :
    (outside ⟨behind, m⟩ indent indents allowed held released).fetch =
      (outside ⟨behind, m⟩ (unrolled m.column indent indents).2.1
        (unrolled m.column indent indents).2.2 allowed
        (held ++ List.replicate (unrolled m.column indent indents).1 .blockEnd)
        released).fetchHere := by
  rw [fetch, toNextToken_ready ready, dropStale_outside]
  rfl

/-- The outermost indentation lies in front of all columns. -/
theorem unrolled_le {indents : List Int} (bottom : -1 ∈ indent :: indents) (column : Nat) :
    (unrolled column indent indents).2.1 ≤ column := by
  induction indents generalizing indent with
  | nil =>
      have same : -1 = indent := List.mem_singleton.1 bottom
      rw [unrolled, ← same]
      simp
  | cons outer rest ih =>
      rw [unrolled]
      split
      · next deeper =>
        have notBottom : -1 ≠ indent := by omega
        exact ih ((List.mem_cons.1 bottom).resolve_left notBottom)
      · next inside => exact Int.not_lt.1 inside

/-- What follows does not depend on a token that waits, which is given out first. -/
theorem fetch_delayed {behind : List Char} (opens : OpensItem indent m.column behind)
    (bottom : -1 ∈ indent :: indents) (t : Token) :
    ∃ next, Waits t next ∧
      (outside ⟨behind, m⟩ indent indents true [t] released).fetch = some next ∧
      (outside ⟨behind, m⟩ indent indents true [] (released + 1)).fetch = some next.giveOut := by
  have inside := unrolled_le bottom m.column
  have there : OpensItem (unrolled m.column indent indents).2.1 m.column behind := by
    cases opens with
    | item level rest =>
        rw [unrolled_of_le (Int.le_of_eq level)]
        exact .item level rest
    | other opens => exact .other opens
  rw [fetch_outside opens.ready, fetch_outside opens.ready]
  exact fetchHere_delayed inside there t _

/-- A collection that lies deeper than the next token is closed. -/
theorem reaches_close {deeper : Int} {behind : List Char} (inside : (m.column : Int) < deeper)
    (opens : Opens m.column behind) (bottom : -1 ∈ indent :: indents) :
    Reaches (outside ⟨behind, m⟩ deeper (indent :: indents) true [] released) [.blockEnd]
      (outside ⟨behind, m⟩ indent indents true [] (released + 1)) := by
  -- The end is put in front of the next token, which is the same token without it.
  rcases fetch_delayed (.other opens) bottom .blockEnd with ⟨next, waits, before, after⟩
  have fetched : (outside ⟨behind, m⟩ deeper (indent :: indents) true [] released).fetch =
      some next := by
    rw [fetch_outside opens.ready, unrolled, if_pos inside, ← before, fetch_outside opens.ready]
    rfl
  refine ⟨1, ?_, fun fuel => ?_⟩
  · simp only [potential, outside, List.length_cons]
    omega
  · rw [run_fetch rfl rfl fetched]
    exact run_delayed waits rfl rfl after fuel

theorem dropStale_stale {s : Scanner} {key : Option KeyCandidate} (only : s.keys = [key])
    (stale : ∀ c ∈ key, c.required = false ∧ isStale s.cursor.mark c = true) :
    s.dropStale = some { s with keys := [none] } := by
  cases key with
  | none => simp [dropStale, only]
  | some c =>
      rcases stale c rfl with ⟨optional, old⟩
      simp [dropStale, only, optional, old]

/-- A text that was read up to the next token is given out. -/
theorem run_text {behind : List Char} {key : Option KeyCandidate}
    (stale : ∀ c ∈ key, c.required = false ∧ c.mark.line < m.line) (t : Token) (fuel : Nat) :
    run (fuel + 2)
        { outside ⟨behind, m⟩ indent indents true [t] released with keys := [key] } =
      (t :: (run (fuel + 1) (outside ⟨behind, m⟩ indent indents true [] (released + 1))).1,
        (run (fuel + 1) (outside ⟨behind, m⟩ indent indents true [] (released + 1))).2) := by
  have old : ∀ c ∈ key, c.required = false ∧ isStale m c = true := fun c mem =>
    ⟨(stale c mem).1, by simp [isStale, (stale c mem).2]⟩
  have dropped : dropStale { outside ⟨behind, m⟩ indent indents true [t] released with
      keys := [key] } = some (outside ⟨behind, m⟩ indent indents true [t] released) :=
    dropStale_stale rfl old
  exact run_release rfl dropped rfl (fuel + 1)

/-- A candidate for a key that a text is becomes stale at the next token. -/
theorem run_text_waiting {behind : List Char} {k : Nat} (opens : OpensItem indent k behind)
    (bottom : -1 ∈ indent :: indents) {start : Mark} (line : start.line ≤ m.line)
    (fresh : isStale m ⟨false, released, start⟩ = false) (t : Token) (fuel : Nat) :
    run (fuel + 2)
        (named (outside ⟨'\n' :: (blanks k ++ behind), m⟩ indent indents allowed [t] released) false
          start) =
      (t :: (run (fuel + 1) (outside ⟨behind, (m.newLine 1).forward k⟩ indent indents true []
          (released + 1))).1,
        (run (fuel + 1) (outside ⟨behind, (m.newLine 1).forward k⟩ indent indents true []
          (released + 1))).2) := by
  have old : isStale ((m.newLine 1).forward k) ⟨false, released, start⟩ = true := by
    simp [isStale, Nat.lt_succ_of_le line]
  have dropped : dropStale { named (outside ⟨'\n' :: (blanks k ++ behind), m⟩ indent indents allowed
      [t] released) false start with
        keyAllowed := true, cursor := ⟨behind, (m.newLine 1).forward k⟩ } =
      some (outside ⟨behind, (m.newLine 1).forward k⟩ indent indents true [t] released) :=
    dropStale_stale rfl fun c mem => by cases mem; exact ⟨rfl, old⟩
  have same : (named (outside ⟨'\n' :: (blanks k ++ behind), m⟩ indent indents allowed [t]
      released) false start).fetch =
        (outside ⟨behind, (m.newLine 1).forward k⟩ indent indents true [t] released).fetch := by
    rw [fetch, fetch, toNextToken_line rfl rfl opens.ready, toNextToken_ready opens.ready,
      dropped, dropStale_outside]
  rw [← newLine_forward_column m 1 k] at opens
  rcases fetch_delayed opens bottom t with ⟨next, waits, before, after⟩
  have first := run_unsettled rfl (named_dropStale fresh) named_unsettled rfl (same.trans before)
    (fuel + 1)
  exact first.trans (run_delayed waits rfl rfl after fuel)

/-- A text that was read up to the end of its line is given out at once, or when the line is over. -/
theorem run_text_line {behind : List Char} {k : Nat} (opens : OpensItem indent k behind)
    (bottom : -1 ∈ indent :: indents) {key : Option KeyCandidate}
    (stale : ∀ c ∈ key, c.required = false ∧ c.mark.line ≤ m.line ∧ c.number = released)
    (t : Token) (fuel : Nat) :
    run (fuel + 2)
        { outside ⟨'\n' :: (blanks k ++ behind), m⟩ indent indents allowed [t] released with
          keys := [key] } =
      (t :: (run (fuel + 1) (outside ⟨behind, (m.newLine 1).forward k⟩ indent indents true []
          (released + 1))).1,
        (run (fuel + 1) (outside ⟨behind, (m.newLine 1).forward k⟩ indent indents true []
          (released + 1))).2) := by
  by_cases old : ∀ c ∈ key, isStale m c = true
  · -- There is no candidate, or the text itself goes on over several lines.
    have dropped : dropStale { outside ⟨'\n' :: (blanks k ++ behind), m⟩ indent indents allowed [t]
        released with keys := [key] } =
          some (outside ⟨'\n' :: (blanks k ++ behind), m⟩ indent indents allowed [t] released) :=
      dropStale_stale rfl fun c mem => ⟨(stale c mem).1, old c mem⟩
    rw [← run_line allowed k opens.ready]
    exact run_release rfl dropped rfl (fuel + 1)
  · simp only [not_forall, Bool.not_eq_true] at old
    rcases old with ⟨c, mem, fresh⟩
    rcases stale c mem with ⟨optional, line, number⟩
    have same : c = ⟨false, released, c.mark⟩ := by rw [← optional, ← number]
    rw [Option.mem_def] at mem
    rw [same] at fresh mem
    rw [mem]
    exact run_text_waiting opens bottom line fresh t fuel

/-- A text up to the token that follows its line. -/
theorem reaches_text (text : String) {indent : Nat} (deep : indent ≤ m.column) {k : Nat}
    (outer : k ≤ indent) {behind : List Char} (opens : OpensItem indent k behind)
    (bottom : -1 ∈ (indent : Int) :: indents) :
    ∃ m' released', m'.column = k ∧
      Reaches (outside ⟨' ' :: (scalarLine (indent + 2) text ++ (blanks k ++ behind)), m⟩ indent
          indents allowed [] released)
        [.scalar text (Style.ofText text == .plain)]
        (outside ⟨behind, m'⟩ indent indents true [] released') := by
  have ready : Ready (scalarLine (indent + 2) text ++ (blanks k ++ behind)) :=
    ready_scalarLine text _ _
  have inside : (indent : Int) ≤ (m.forward 1).column := by
    rw [Mark.forward_column]
    omega
  have within : indent < (m.forward 1).column := Nat.lt_succ_of_le deep
  have ends : EndsWith (outside ⟨scalarLine (indent + 2) text ++ (blanks k ++ behind), m.forward 1⟩
      indent indents allowed [] released) text k behind :=
    endsWith_scalarLine text within outer opens.ready
  rcases ends with ⟨key, cursor, next, place, read⟩
  have place : Behind released k behind key cursor next := place
  have fetched : (outside ⟨' ' :: (scalarLine (indent + 2) text ++ (blanks k ++ behind)), m⟩ indent
      indents allowed [] released).fetch =
        some { outside cursor indent indents next [.scalar text (Style.ofText text == .plain)]
          released with keys := [key] } := by
    have skipped : (outside ⟨' ' :: (scalarLine (indent + 2) text ++ (blanks k ++ behind)), m⟩ indent
        indents allowed [] released).toNextToken =
          outside ⟨scalarLine (indent + 2) text ++ (blanks k ++ behind), m.forward 1⟩ indent indents
            allowed [] released := toNextToken_blanks (k := 1) rfl rfl ready
    rw [fetch, skipped, dropStale_outside]
    change ((outside ⟨_, m.forward 1⟩ indent indents allowed [] released).unrollIndent _).fetchHere = _
    rw [unrollIndent_of_le inside, read]
    rfl
  have used (m' : Mark) : 2 + potential (outside ⟨behind, m'⟩ indent indents true [] (released + 1)) ≤
      potential (outside ⟨' ' :: (scalarLine (indent + 2) text ++ (blanks k ++ behind)), m⟩ indent
        indents allowed [] released) := by
    simp only [potential, outside, List.length_append, List.length_cons]
    omega
  cases place with
  | next column stale =>
      refine ⟨_, released + 1, column, 2, used _, fun fuel => ?_⟩
      exact (run_fetch rfl rfl fetched (fuel + 2)).trans (run_text stale _ fuel)
  | feed stale =>
      refine ⟨_, released + 1, ?_, 2, used _, fun fuel =>
        (run_fetch rfl rfl fetched (fuel + 2)).trans (run_text_line opens bottom stale _ fuel)⟩
      exact newLine_forward_column _ _ _

/-- The sign in front of an item. -/
theorem reaches_entry (level : indent = m.column) (rest : List Char) :
    Reaches (outside ⟨'-' :: ' ' :: rest, m⟩ indent indents true [] released) [.blockEntry]
      (outside ⟨' ' :: rest, m.forward 1⟩ indent indents true [] (released + 1)) := by
  have ready : Ready ('-' :: ' ' :: rest) := by
    intro c mem
    cases mem
    decide
  have fetched : (outside ⟨'-' :: ' ' :: rest, m⟩ indent indents true [] released).fetch =
      some (outside ⟨' ' :: rest, m.forward 1⟩ indent indents true [.blockEntry] released) := by
    rw [fetch_ready (Int.le_of_eq level) ready, fetchHere_entry (Int.le_of_eq level.symm)]
    rfl
  refine ⟨2, ?_, fun fuel => ?_⟩
  · simp only [potential, outside, List.length_cons]
    omega
  · exact (run_fetch rfl rfl fetched (fuel + 2)).trans (run_outside [.blockEntry] (fuel + 1))

/-! ### Empty collections -/

/-- What is written for a list or a record without parts. -/
def emptyLine (isList : Bool) : List Char :=
  if isList then " []\n".toList else " \x7b\x7d\n".toList

def emptyTokens (isList : Bool) : List Token :=
  if isList then [.flowSequenceStart, .flowSequenceEnd] else [.flowMappingStart, .flowMappingEnd]

/-- Between the brackets. -/
def bracketed (s : Scanner) : Scanner := { s with keys := [none, none] }

theorem fetch_open (isList : Bool) (inside : indent ≤ m.column) (rest : List Char) :
    (outside ⟨emptyLine isList ++ rest, m⟩ indent indents false [] released).fetch =
      some (bracketed (outside ⟨(emptyLine isList).drop 2 ++ rest, m.forward 2⟩ indent indents true
        ((emptyTokens isList).take 1) released)) := by
  have later : indent ≤ (m.forward 1).column := by
    rw [Mark.forward_column]
    omega
  have ready : Ready ((emptyLine isList).drop 1 ++ rest) := by
    intro c mem
    cases isList <;> (cases mem; decide)
  have skipped : (outside ⟨emptyLine isList ++ rest, m⟩ indent indents false []
      released).toNextToken = outside ⟨(emptyLine isList).drop 1 ++ rest, m.forward 1⟩ indent indents
        false [] released :=
    toNextToken_blanks (k := 1) rfl (by cases isList <;> rfl) ready
  rw [fetch, skipped, dropStale_outside]
  change ((outside ⟨_, m.forward 1⟩ indent indents false [] released).unrollIndent _).fetchHere = _
  rw [unrollIndent_of_le later]
  cases isList <;>
    simp [fetchHere, outside, bracketed, emptyLine, emptyTokens, markerAhead, openFlow, saveKey,
      allowKey, skip, emit, Cursor.skip]

theorem fetch_close (isList : Bool) (rest : List Char) :
    (bracketed (outside ⟨(emptyLine isList).drop 2 ++ rest, m⟩ indent indents true []
        released)).fetch =
      some (outside ⟨'\n' :: rest, m.forward 1⟩ indent indents false ((emptyTokens isList).drop 1)
        released) := by
  have ready : Ready ((emptyLine isList).drop 2 ++ rest) := by
    intro c mem
    cases isList <;> (cases mem; decide)
  have dropped : (bracketed (outside ⟨(emptyLine isList).drop 2 ++ rest, m⟩ indent indents true []
      released)).dropStale = some (bracketed (outside ⟨(emptyLine isList).drop 2 ++ rest, m⟩ indent
        indents true [] released)) := rfl
  rw [fetch, toNextToken_ready ready, dropped]
  cases isList <;>
    simp [fetchHere, outside, bracketed, emptyLine, emptyTokens, markerAhead, closeFlow, dropKey,
      allowKey, skip, emit, Cursor.skip, unrollIndent, inFlow]

/-- Brackets with nothing between them, up to the token that follows their line. -/
theorem reaches_empty (isList : Bool) (inside : indent ≤ m.column) (k : Nat) {behind : List Char}
    (ready : Ready behind) :
    ∃ m' released', m'.column = k ∧
      Reaches (outside ⟨emptyLine isList ++ (blanks k ++ behind), m⟩ indent indents false []
          released)
        (emptyTokens isList)
        (outside ⟨behind, m'⟩ indent indents true [] released') := by
  have tokens : ∃ t t', emptyTokens isList = [t, t'] := by cases isList <;> exact ⟨_, _, rfl⟩
  have line : (emptyLine isList).length = 4 := by cases isList <;> rfl
  rcases tokens with ⟨t, t', tokens⟩
  have opened : (outside ⟨emptyLine isList ++ (blanks k ++ behind), m⟩ indent indents false []
      released).fetch = some (bracketed (outside ⟨(emptyLine isList).drop 2 ++ (blanks k ++ behind),
        m.forward 2⟩ indent indents true [t] released)) := by
    rw [fetch_open isList inside, tokens]
    rfl
  have closed : (bracketed (outside ⟨(emptyLine isList).drop 2 ++ (blanks k ++ behind), m.forward 2⟩
      indent indents true [] (released + 1))).fetch =
        some (outside ⟨'\n' :: (blanks k ++ behind), (m.forward 2).forward 1⟩ indent indents false
          [t'] (released + 1)) := by
    rw [fetch_close isList, tokens]
    rfl
  refine ⟨(((m.forward 2).forward 1).newLine 1).forward k, released + 2,
    newLine_forward_column _ _ _, 4, ?_,
    fun fuel => ?_⟩
  · simp only [potential, outside, List.length_append, line]
    omega
  · have first := (run_fetch rfl rfl opened (fuel + 4)).trans
      (run_release rfl rfl rfl (fuel + 3))
    have second := (run_fetch rfl rfl closed (fuel + 2)).trans (run_outside [t'] (fuel + 1))
    refine first.trans ?_
    refine (congrArg (fun out : List Token × Bool => (t :: out.1, out.2)) second).trans ?_
    rw [tokens, ← run_line false k ready]
    rfl

/-! ### The end of the text -/

/-- At the end the outermost mapping is closed. -/
theorem run_end (start : m.column = 0) (fuel : Nat) :
    run (fuel + 4) (outside ⟨[], m⟩ 0 [-1] true [] released) = ([.blockEnd, .streamEnd], true) := by
  have ready : Ready [] := by
    intro c mem
    cases mem
  have fetched : (outside ⟨[], m⟩ 0 [-1] true [] released).fetch =
      some { outside ⟨[], m⟩ (-1) [] false [.blockEnd, .streamEnd] released with ended := true } := by
    rw [fetch_ready (Int.natCast_nonneg _) ready, fetchHere_end start]
    rfl
  rw [run_fetch rfl rfl fetched]
  rfl

end Lines

end Scanner
end Yaml
end CiPipeline
