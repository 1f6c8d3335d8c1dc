import CiPipeline.Text.LowerCase

/-!
# Lowering — lowercasing a text once more

What becomes of a character depends on what stands around it, and it may become two.  Nothing of this
happens in a text that is lowercase already: its characters are small, and small characters stay as they
are wherever they stand.

* `Text.isSmall`: characters that are no capitals;
* `Text.CapitalRun.apart`, `Text.apart_capitals`: the small letters of a run are no capitals of another;
* `Text.small_lowerCase`, `Text.lowerCase_of_small`: a lowercase text is small, and small texts are their
  own lowercase;
* `Text.SameLetter`: characters that lowercasing does not tell apart;
* `Text.lowerCase_map`: they may stand for each other in a text.
-/

namespace CiPipeline
namespace Text

/-! ## Runs of capitals -/

namespace CapitalRun

variable {r other : CapitalRun} {c : Char}

/-- The code point of the first small letter. -/
def smallFirst (r : CapitalRun) : Nat := ((r.first : Int) + r.offset).toNat

/-- The code point of the last small letter. -/
def smallLast (r : CapitalRun) : Nat := ((r.last : Int) + r.offset).toNat

/-- No small letter of `r` is a capital of `other`: they lie in front of these capitals, or behind them,
or in between, where both are every second character. -/
def apart (r other : CapitalRun) : Bool :=
  Nat.blt r.smallLast other.first || Nat.blt other.last r.smallFirst ||
    (other.step == 2 && (r.step == 2 || r.first == r.last) &&
      (r.smallFirst - other.first) % 2 == 1)

theorem has_iff : r.has c = true ↔
    (r.first ≤ c.toNat ∧ c.toNat ≤ r.last) ∧ (c.toNat - r.first) % r.step = 0 := by
  simp [has]

/-- Code points without a character are read as the character zero. -/
theorem toNat_lower (r : CapitalRun) (c : Char) :
    (r.lower c).toNat = ((c.toNat : Int) + r.offset).toNat ∨ r.lower c = '\x00' := by
  unfold lower
  by_cases valid : (((c.toNat : Int) + r.offset).toNat).isValidChar
  · refine .inl ?_
    rw [Char.ofNat, dif_pos valid]
    rfl
  · refine .inr ?_
    rw [Char.ofNat, dif_neg valid]
    rfl

theorem not_has_of_apart (capital : r.has c = true) (apart : r.apart other = true)
    {small : Char} (shifted : small.toNat = ((c.toNat : Int) + r.offset).toNat) :
    other.has small = false := by
  refine Bool.eq_false_iff.2 fun held => ?_
  rw [has_iff] at capital held
  simp only [CapitalRun.apart, smallFirst, smallLast, Bool.or_eq_true, Bool.and_eq_true, beq_iff_eq,
    Nat.blt_eq] at apart
  rcases apart with (before | behind) | ⟨⟨step, steps | single⟩, odd⟩
  · omega
  · omega
  · -- The distances within the two runs are even, and the distance of their beginnings is odd.
    rw [steps] at capital
    rw [step] at held
    omega
  · rw [step] at held
    omega

end CapitalRun

/-! ## Small characters -/

/-- All capitals.  The dotted one is a run of its own, without a distance that would have a meaning. -/
def capitals : List CapitalRun :=
  ⟨dottedCapitalI.toNat, dottedCapitalI.toNat, 1, 0⟩ :: capitalRuns

/-- Whether a character is no capital. -/
def isSmall (c : Char) : Bool := capitals.all fun r => !r.has c

theorem apart_capitals : (capitalRuns.all fun r => capitals.all r.apart) = true := by
  decide +kernel

theorem isSmall_iff {c : Char} : isSmall c = true ↔ ∀ r ∈ capitals, r.has c = false := by
  simp [isSmall]

/-- The small letter of a capital is no capital. -/
theorem small_lower {r : CapitalRun} {c : Char} (listed : r ∈ capitalRuns)
    (capital : r.has c = true) : isSmall (r.lower c) = true := by
  have apart := List.all_eq_true.1 apart_capitals r listed
  rcases r.toNat_lower c with shifted | zero
  · exact isSmall_iff.2 fun other mem =>
      r.not_has_of_apart capital (List.all_eq_true.1 apart other mem) shifted
  · rw [zero]
    decide +kernel

theorem ne_of_small {c capital : Char} (small : isSmall c = true)
    (other : isSmall capital = false) : c ≠ capital := by
  rintro rfl
  cases small.symm.trans other

theorem isSmall_capitalSigma : isSmall capitalSigma = false := by decide +kernel

theorem isSmall_dottedCapitalI : isSmall dottedCapitalI = false := by decide +kernel

theorem lowerChar_of_small {c : Char} (small : isSmall c = true) : lowerChar c = c := by
  have none : capitalRuns.find? (·.has c) = none := by
    refine List.find?_eq_none.2 fun r mem => ?_
    rw [isSmall_iff.1 small r (List.mem_cons_of_mem _ mem)]
    exact Bool.false_ne_true
  rw [lowerChar, none]

/-- The dotted capital apart, the lowercase of a single character is small. -/
theorem small_lowerChar {c : Char} (plain : c ≠ dottedCapitalI) : isSmall (lowerChar c) = true := by
  unfold lowerChar
  split
  case h_1 r found =>
    have capital : r.has c = true := by simpa using List.find?_some found
    exact small_lower (List.mem_of_find?_eq_some found) capital
  case h_2 none =>
    refine isSmall_iff.2 fun r mem => ?_
    rcases List.mem_cons.1 mem with rfl | mem
    · -- A run of one character holds no other character.
      refine Bool.eq_false_iff.2 fun held => plain ?_
      rw [CapitalRun.has_iff] at held
      exact Char.toNat_inj.1 (Nat.le_antisymm held.1.2 held.1.1)
    · exact Bool.eq_false_iff.2 (List.find?_eq_none.1 none r mem)

/-! ## Lowercasing twice -/

theorem lowerFrom_of_small {s : List Char} (small : ∀ c ∈ s, isSmall c = true)
    (before : List Char) : lowerFrom before s = s := by
  induction s generalizing before with
  | nil => rfl
  | cons c cs ih =>
      have first := small c List.mem_cons_self
      rw [lowerFrom, if_neg (ne_of_small first isSmall_capitalSigma),
        if_neg (ne_of_small first isSmall_dottedCapitalI), lowerChar_of_small first,
        ih fun d mem => small d (List.mem_cons_of_mem _ mem)]
      rfl

theorem small_lowerFrom (before s : List Char) : ∀ c ∈ lowerFrom before s, isSmall c = true := by
  induction s generalizing before with
  | nil => simp [lowerFrom]
  | cons c cs ih =>
      intro d mem
      rw [lowerFrom] at mem
      rcases List.mem_append.1 mem with first | rest
      · split at first
        · -- Both forms of the small sigma are small, whichever the place asks for.
          rw [List.mem_singleton.1 first]
          split
          · decide +kernel
          · decide +kernel
        · split at first
          · rcases List.mem_cons.1 first with rfl | mark
            · decide +kernel
            · rw [List.mem_singleton.1 mark]
              decide +kernel
          · rename_i plain
            rw [List.mem_singleton.1 first]
            exact small_lowerChar plain
      · exact ih (c :: before) d rest

theorem lowerCase_of_small {s : List Char} (small : ∀ c ∈ s, isSmall c = true) : lowerCase s = s :=
  lowerFrom_of_small small []

theorem small_lowerCase (s : List Char) : ∀ c ∈ lowerCase s, isSmall c = true :=
  small_lowerFrom [] s

theorem lowerCase_lowerCase (s : List Char) : lowerCase (lowerCase s) = lowerCase s :=
  lowerCase_of_small (small_lowerCase s)

/-! ## Letters in both cases -/

/-- Lowercasing does not tell two characters apart: they become the same, and they mean the same for the
characters around them. -/
structure SameLetter (c d : Char) : Prop where
  lower : lowerChar c = lowerChar d
  sigma : c = capitalSigma ↔ d = capitalSigma
  dotted : c = dottedCapitalI ↔ d = dottedCapitalI
  cased : inRanges casedRanges c = inRanges casedRanges d
  ignorable : inRanges caseIgnorableRanges c = inRanges caseIgnorableRanges d

theorem SameLetter.refl (c : Char) : SameLetter c c := ⟨rfl, .rfl, .rfl, rfl, rfl⟩

variable {f : Char → Char}

theorem casedAhead_cons (c : Char) (cs : List Char) :
    casedAhead (c :: cs) =
      if inRanges caseIgnorableRanges c then casedAhead cs else inRanges casedRanges c := by
  unfold casedAhead
  rw [List.dropWhile_cons]
  split
  · rfl
  · rfl

theorem casedAhead_map (same : ∀ c, SameLetter (f c) c) (s : List Char) :
    casedAhead (s.map f) = casedAhead s := by
  induction s with
  | nil => rfl
  | cons c cs ih =>
      rw [List.map_cons, casedAhead_cons, casedAhead_cons, ih, (same c).cased, (same c).ignorable]

theorem lowerFrom_map (same : ∀ c, SameLetter (f c) c) (before s : List Char) :
    lowerFrom (before.map f) (s.map f) = lowerFrom before s := by
  induction s generalizing before with
  | nil => rfl
  | cons c cs ih =>
      have onward := ih (c :: before)
      rw [List.map_cons] at onward
      have ends : endsWord (before.map f) (cs.map f) = endsWord before cs := by
        simp only [endsWord, casedAhead_map same]
      rw [List.map_cons, lowerFrom, lowerFrom, onward, ends, (same c).lower]
      congr 1
      by_cases sigma : c = capitalSigma
      · rw [if_pos sigma, if_pos ((same c).sigma.2 sigma)]
      · rw [if_neg sigma, if_neg (mt (same c).sigma.1 sigma)]
        by_cases dotted : c = dottedCapitalI
        · rw [if_pos dotted, if_pos ((same c).dotted.2 dotted)]
        · rw [if_neg dotted, if_neg (mt (same c).dotted.1 dotted)]

theorem lowerCase_map (same : ∀ c, SameLetter (f c) c) (s : List Char) :
    lowerCase (s.map f) = lowerCase s :=
  lowerFrom_map same [] s

/-! ## The letters from A to Z -/

theorem toList_toLower (s : String) : s.toLower.toList = s.toList.map Char.toLower :=
  String.toList_map

/-- The first of the runs. -/
def plainRun : CapitalRun := ⟨0x41, 0x5A, 1, 32⟩

theorem inRanges_of_gap {ranges : List (Nat × Nat)} {low high : Nat}
    (gap : (ranges.all fun range => range.2 < low || high < range.1) = true) {c : Char}
    (inside : low ≤ c.toNat ∧ c.toNat ≤ high) : inRanges ranges c = false := by
  refine List.any_eq_false.2 fun range mem held => ?_
  have apart := List.all_eq_true.1 gap range mem
  simp only [Bool.or_eq_true, Bool.and_eq_true, decide_eq_true_eq] at apart held
  omega

theorem ignorable_apart :
    (caseIgnorableRanges.all fun range => range.2 < 0x41 || 0x5A < range.1) = true ∧
      (caseIgnorableRanges.all fun range => range.2 < 0x61 || 0x7A < range.1) = true := by
  decide +kernel

theorem cased_letter {c : Char}
    (letter : (0x41 ≤ c.toNat ∧ c.toNat ≤ 0x5A) ∨ (0x61 ≤ c.toNat ∧ c.toNat ≤ 0x7A)) :
    inRanges casedRanges c = true := by
  rcases letter with bounds | bounds
  · exact List.any_eq_true.2 ⟨(0x41, 0x5A), by simp [casedRanges], by simpa using bounds⟩
  · exact List.any_eq_true.2 ⟨(0x61, 0x7A), by simp [casedRanges], by simpa using bounds⟩

theorem toNat_toLower {c : Char} (capital : 0x41 ≤ c.toNat ∧ c.toNat ≤ 0x5A) :
    c.toLower.toNat = c.toNat + 0x20 := by
  have bounds : c.val ≥ 'A'.val ∧ c.val ≤ 'Z'.val := capital
  have shifted : c.toLower = ⟨c.val + ('a'.val - 'A'.val), _⟩ := dif_pos bounds
  have distance : ('a'.val - 'A'.val).toNat = 0x20 := rfl
  have sum : (c.val + ('a'.val - 'A'.val)).toNat = (c.val.toNat + 0x20) % 2 ^ 32 := by
    rw [UInt32.toNat_add, distance]
  rw [shifted]
  change (c.val + ('a'.val - 'A'.val)).toNat = c.val.toNat + 0x20
  change 0x41 ≤ c.val.toNat ∧ c.val.toNat ≤ 0x5A at capital
  omega

theorem toLower_of_not_plain {c : Char} (other : ¬ (0x41 ≤ c.toNat ∧ c.toNat ≤ 0x5A)) :
    c.toLower = c := by
  have bounds : ¬ (c.val ≥ 'A'.val ∧ c.val ≤ 'Z'.val) := other
  exact dif_neg bounds

/-- The letters from A to Z are lowered as all other capitals are. -/
theorem lower_plain {c : Char} (capital : 0x41 ≤ c.toNat ∧ c.toNat ≤ 0x5A) :
    lowerChar c = c.toLower ∧ isSmall c.toLower = true := by
  have held : plainRun.has c = true := CapitalRun.has_iff.2 ⟨capital, Nat.mod_one _⟩
  have small : plainRun.lower c = c.toLower := by
    rw [← Char.ofNat_toNat c.toLower, toNat_toLower capital]
    rfl
  have begins : capitalRuns = plainRun :: capitalRuns.tail := rfl
  have found : capitalRuns.find? (·.has c) = some plainRun := by
    rw [begins]
    exact List.find?_cons_of_pos held
  have listed : plainRun ∈ capitalRuns := List.mem_cons_self
  constructor
  · rw [lowerChar, found]
    exact small
  · rw [← small]
    exact small_lower listed held

/-- A capital from A to Z and its small letter: both are cased, and neither can be overlooked at the
end of a word. -/
theorem sameLetter_toLower (c : Char) : SameLetter c.toLower c := by
  by_cases capital : 0x41 ≤ c.toNat ∧ c.toNat ≤ 0x5A
  · rcases lower_plain capital with ⟨lower, small⟩
    have code := toNat_toLower capital
    have below : ∀ d : Char, 0x80 ≤ d.toNat → (c.toLower = d ↔ c = d) := by
      refine fun d high => iff_of_false ?_ ?_
      · rintro rfl
        omega
      · rintro rfl
        omega
    refine ⟨?_, below capitalSigma (by decide), below dottedCapitalI (by decide), ?_, ?_⟩
    · rw [lower, lowerChar_of_small small]
    · rw [cased_letter (.inl capital), cased_letter (.inr (by omega))]
    · rw [inRanges_of_gap ignorable_apart.1 capital, inRanges_of_gap ignorable_apart.2 (by omega)]
  · rw [toLower_of_not_plain capital]
    exact .refl c

end Text
end CiPipeline
