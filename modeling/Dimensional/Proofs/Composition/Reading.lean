import Mathlib.Tactic.SplitIfs
import Dimensional.BaseDimension
import Dimensional.Proofs.Text.Runs

/-!
# Reading composed names back

A composed name is a list of factors over another. Nothing of the factors is lost in the text: a reader
takes them off again one by one, so a text writes one pair of lists at most.
-/

namespace Dimensional.Composition

/-- A base unit to the power `num / den`. -/
structure Factor where
  base : BaseDimension
  num : Nat
  den : Nat
deriving DecidableEq

/-! ## Writing -/

/-- The power behind a base symbol. The first power is left out. -/
def writePower (num den : Nat) : List Char :=
  if num = 1 ∧ den = 1 then []
  else if den = 1 then '^' :: Nat.toDigits 10 num
  else '^' :: '(' :: (Nat.toDigits 10 num ++ '/' :: (Nat.toDigits 10 den ++ [')']))

/-- A factor as text. -/
def Factor.write (p : Factor) : List Char :=
  p.base.symbol.toList ++ writePower p.num p.den

/-- Factors with spaces between them. -/
def writeFactors : List Factor → List Char
  | [] => []
  | [p] => p.write
  | p :: q :: ps => p.write ++ ' ' :: writeFactors (q :: ps)

/-- Factors over factors. A one stands for missing factors above the slash. -/
def writeFraction (above below : List Factor) : List Char :=
  match above, below with
  | above, [] => writeFactors above
  | [], below => '1' :: '/' :: writeFactors below
  | above, below => writeFactors above ++ '/' :: writeFactors below

/-! ## Reading -/

/-- A whole number at the front of a text, and the rest. -/
def readNat? (cs : List Char) : Option (Nat × List Char) :=
  match cs.takeWhile Char.isDigit with
  | [] => none
  | ds => some (Nat.ofDigitChars 10 ds 0, cs.dropWhile Char.isDigit)

/-- The rest of a text behind an expected character. -/
def skip? (c : Char) : List Char → Option (List Char)
  | d :: rest => if d = c then some rest else none
  | [] => none

/-- The power at the front of a text, and the rest. -/
def readPower? : List Char → Option ((Nat × Nat) × List Char)
  | '^' :: '(' :: rest => do
    let (num, rest) ← readNat? rest
    let rest ← skip? '/' rest
    let (den, rest) ← readNat? rest
    let rest ← skip? ')' rest
    return ((num, den), rest)
  | '^' :: rest => do
    let (num, rest) ← readNat? rest
    return ((num, 1), rest)
  | rest => some ((1, 1), rest)

/-- The factor at the front of a text, and the rest. -/
def readFactor? (cs : List Char) : Option (Factor × List Char) := do
  let base ← BaseDimension.all.find? fun b => b.symbol.toList = cs.takeWhile Char.isAlpha
  let ((num, den), rest) ← readPower? (cs.dropWhile Char.isAlpha)
  return (⟨base, num, den⟩, rest)

/-- Up to `count` factors at the front of a text, and the rest. -/
def readFactors? : Nat → List Char → Option (List Factor × List Char)
  | 0, _ => none
  | count + 1, cs => do
    let (p, rest) ← readFactor? cs
    match rest with
    | ' ' :: rest =>
      let (ps, rest) ← readFactors? count rest
      return (p :: ps, rest)
    | rest => return ([p], rest)

/-- The factors of a whole text. -/
def readAll? (cs : List Char) : Option (List Factor) :=
  match readFactors? 7 cs with
  | some (ps, []) => some ps
  | _ => none

/-- The factors above and below the slash of a text. -/
def read? (cs : List Char) : Option (List Factor × List Factor) :=
  match cs with
  | [] => some ([], [])
  | '1' :: '/' :: rest => (readAll? rest).map ([], ·)
  | cs => do
    match ← readFactors? 7 cs with
    | (above, []) => return (above, [])
    | (above, '/' :: rest) => return (above, ← readAll? rest)
    | _ => none

/-! ## Reading what was written -/

/-- The end of a factor: the end of the text, a space or a slash. -/
def Ends (rest : List Char) : Prop := ∀ c ∈ rest.head?, c = ' ' ∨ c = '/'

theorem ends_nil : Ends [] := by
  simp [Ends]

theorem ends_space (rest : List Char) : Ends (' ' :: rest) := by
  simp [Ends]

theorem ends_slash (rest : List Char) : Ends ('/' :: rest) := by
  simp [Ends]

theorem Ends.stops {rest : List Char} {p : Char → Bool} (h : Ends rest) (hspace : p ' ' = false)
    (hslash : p '/' = false) : Text.Stops p rest := by
  intro c hc
  rcases h c hc with rfl | rfl
  · exact hspace
  · exact hslash

theorem readNat?_append (n : Nat) {rest : List Char} (h : Text.Stops Char.isDigit rest) :
    readNat? (Nat.toDigits 10 n ++ rest) = some (n, rest) := by
  unfold readNat?
  rw [Text.takeWhile_run Text.isDigit_of_mem_decimal h, Text.dropWhile_run Text.isDigit_of_mem_decimal h]
  have hne : Nat.toDigits 10 n ≠ [] := Nat.toDigits_ne_nil
  split
  · contradiction
  · rw [Nat.ofDigitChars_ten_toDigits]

theorem readPower?_of_ends {rest : List Char} (h : Ends rest) :
    readPower? rest = some ((1, 1), rest) := by
  have hne : ∀ cs, rest ≠ '^' :: cs := by
    rintro cs rfl
    have := h '^' rfl
    simp at this
  unfold readPower?
  split
  · exact absurd rfl (hne _)
  · exact absurd rfl (hne _)
  · rfl

theorem readPower?_caret {cs rest : List Char} {n : Nat} (h : Text.Stops Char.isDigit rest)
    (hcs : cs = Nat.toDigits 10 n ++ rest) : readPower? ('^' :: cs) = some ((n, 1), rest) := by
  have hdigit : ∀ c ∈ cs.head?, c ≠ '(' := by
    obtain ⟨d, ds, hds⟩ := List.exists_cons_of_ne_nil (Nat.toDigits_ne_nil (n := n) (b := 10))
    have hd : d.isDigit := Text.isDigit_of_mem_decimal (n := n) d (by simp [hds])
    rw [hcs, hds]
    rintro c hc rfl
    cases hc
    simp at hd
  unfold readPower?
  split
  · rename_i heq
    cases heq
    exact absurd rfl (hdigit _ rfl)
  · rename_i heq
    cases heq
    rw [hcs, readNat?_append n h]
    rfl
  · rename_i hne
    exact absurd rfl (hne _)

theorem readPower?_parens (num den : Nat) (rest : List Char) :
    readPower? ('^' :: '(' :: (Nat.toDigits 10 num ++ '/' :: (Nat.toDigits 10 den ++ ')' :: rest))) =
      some ((num, den), rest) := by
  rw [readPower?, readNat?_append num (Text.stops_cons rfl)]
  simp only [Option.bind_eq_bind, Option.bind_some, skip?, ↓reduceIte]
  rw [readNat?_append den (Text.stops_cons rfl)]
  rfl

theorem readPower?_writePower (num den : Nat) {rest : List Char} (h : Ends rest) :
    readPower? (writePower num den ++ rest) = some ((num, den), rest) := by
  unfold writePower
  split_ifs with hone hwhole
  · rw [hone.1, hone.2]
    exact readPower?_of_ends h
  · rw [hwhole]
    exact readPower?_caret (h.stops rfl rfl) rfl
  · simpa using readPower?_parens num den rest

theorem writePower_stops (num den : Nat) {rest : List Char} (h : Ends rest) :
    Text.Stops Char.isAlpha (writePower num den ++ rest) := by
  unfold writePower
  split_ifs
  · exact h.stops rfl rfl
  · exact Text.stops_cons rfl
  · exact Text.stops_cons rfl

theorem isAlpha_of_mem_symbol (b : BaseDimension) : ∀ c ∈ b.symbol.toList, c.isAlpha := by
  rw [← List.all_eq_true]
  cases b <;> decide

theorem find?_symbol (b : BaseDimension) :
    (BaseDimension.all.find? fun c => c.symbol.toList = b.symbol.toList) = some b := by
  cases b <;> decide

theorem readFactor?_write (p : Factor) {rest : List Char} (h : Ends rest) :
    readFactor? (p.write ++ rest) = some (p, rest) := by
  have hstop := writePower_stops p.num p.den h
  unfold readFactor? Factor.write
  rw [List.append_assoc, Text.takeWhile_run (isAlpha_of_mem_symbol p.base) hstop,
    Text.dropWhile_run (isAlpha_of_mem_symbol p.base) hstop, find?_symbol]
  simp only [Option.bind_eq_bind, Option.bind_some, readPower?_writePower p.num p.den h]
  rfl

theorem readFactors?_write {ps : List Factor} {count : Nat} {rest : List Char} (hne : ps ≠ [])
    (hcount : ps.length ≤ count) (hrest : rest = [] ∨ ∃ cs, rest = '/' :: cs) :
    readFactors? count (writeFactors ps ++ rest) = some (ps, rest) := by
  induction ps generalizing count with
  | nil => exact absurd rfl hne
  | cons p ps ih =>
    obtain ⟨count, rfl⟩ : ∃ n, count = n + 1 := ⟨count - 1, by simp at hcount; omega⟩
    have hends : Ends rest := by
      rcases hrest with rfl | ⟨cs, rfl⟩
      · exact ends_nil
      · exact ends_slash cs
    cases ps with
    | nil =>
      rw [writeFactors, readFactors?, readFactor?_write p hends]
      rcases hrest with rfl | ⟨cs, rfl⟩ <;> rfl
    | cons q ps =>
      rw [writeFactors, List.append_assoc, List.cons_append, readFactors?,
        readFactor?_write p (ends_space _)]
      simp only [Option.bind_eq_bind, Option.bind_some]
      rw [ih (by simp) (by simpa using hcount)]
      rfl

theorem readAll?_write {ps : List Factor} (hne : ps ≠ []) (hcount : ps.length ≤ 7) :
    readAll? (writeFactors ps) = some ps := by
  have h := readFactors?_write hne hcount (.inl rfl)
  rw [List.append_nil] at h
  rw [readAll?, h]

theorem exists_write_eq_cons (p : Factor) : ∃ c cs, p.write = c :: cs ∧ c.isAlpha := by
  obtain ⟨c, cs, h⟩ : ∃ c cs, p.base.symbol.toList = c :: cs := by
    cases p.base <;> exact ⟨_, _, rfl⟩
  refine ⟨c, cs ++ writePower p.num p.den, by rw [Factor.write, h, List.cons_append], ?_⟩
  exact isAlpha_of_mem_symbol p.base c (by rw [h]; exact List.mem_cons_self)

theorem exists_writeFactors_eq_cons {ps : List Factor} (hne : ps ≠ []) :
    ∃ c cs, writeFactors ps = c :: cs ∧ c.isAlpha := by
  obtain ⟨p, ps, rfl⟩ := List.exists_cons_of_ne_nil hne
  obtain ⟨c, cs, h, hc⟩ := exists_write_eq_cons p
  cases ps with
  | nil => exact ⟨c, cs, by rw [writeFactors, h], hc⟩
  | cons q ps => exact ⟨c, _, by rw [writeFactors, h, List.cons_append], hc⟩

theorem read?_of_ne_nil {above : List Factor} (hne : above ≠ []) (rest : List Char) :
    read? (writeFactors above ++ rest) =
      (readFactors? 7 (writeFactors above ++ rest)).bind fun
        | (above, []) => some (above, [])
        | (above, '/' :: rest) => (readAll? rest).map (above, ·)
        | _ => none := by
  obtain ⟨c, cs, h, hc⟩ := exists_writeFactors_eq_cons hne
  rw [h, List.cons_append]
  unfold read?
  split
  · contradiction
  · rename_i heq
    obtain ⟨rfl, -⟩ := List.cons.inj heq
    simp at hc
  · congr 1
    funext ⟨above, rest⟩
    split <;> try rfl
    rename_i rest _
    cases readAll? rest <;> rfl

theorem read?_writeFraction {above below : List Factor} (habove : above.length ≤ 7)
    (hbelow : below.length ≤ 7) : read? (writeFraction above below) = some (above, below) := by
  by_cases hb : below = []
  · subst hb
    rw [writeFraction]
    by_cases ha : above = []
    · subst ha
      rfl
    · have h := read?_of_ne_nil ha []
      rw [readFactors?_write ha habove (.inl rfl), List.append_nil] at h
      exact h
  · by_cases ha : above = []
    · subst ha
      rw [writeFraction, read?, readAll?_write hb hbelow]
      · rfl
      · exact hb
    · rw [writeFraction, read?_of_ne_nil ha, readFactors?_write ha habove (.inr ⟨_, rfl⟩)]
      · simp only [Option.bind_some, readAll?_write hb hbelow, Option.map_some]
      · exact ha
      · exact hb

theorem writeFraction_inj {above below above' below' : List Factor} (h1 : above.length ≤ 7)
    (h2 : below.length ≤ 7) (h1' : above'.length ≤ 7) (h2' : below'.length ≤ 7)
    (h : writeFraction above below = writeFraction above' below') :
    above = above' ∧ below = below' := by
  have := read?_writeFraction h1 h2
  rw [h, read?_writeFraction h1' h2', Option.some.injEq, Prod.mk.injEq] at this
  exact ⟨this.1.symm, this.2.symm⟩

end Dimensional.Composition
