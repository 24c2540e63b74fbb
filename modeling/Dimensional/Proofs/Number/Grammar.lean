import Mathlib.Data.Rat.Defs
import Dimensional.Number.Reading
import Dimensional.Proofs.Text.Runs

/-!
# The grammar of numbers

A number is a sign, then the name of an infinity, the name of what is not a number, or a decimal: digits
with at most one point among them, and a power of ten. The reader accepts these texts and no others.
-/

namespace Dimensional.Number

open Text

/-! ## Signs -/

/-- The text of a sign, and whether it is a minus. A plus may be left out. -/
inductive WritesSign : List Char → Bool → Prop where
  | none : WritesSign [] false
  | plus : WritesSign ['+'] false
  | minus : WritesSign ['-'] true

/-- The characters of signs. -/
def isSign (c : Char) : Bool := c == '+' || c == '-'

theorem exists_sign (cs : List Char) : ∃ s, WritesSign s (takeSign cs).1 ∧ cs = s ++ (takeSign cs).2 := by
  unfold takeSign
  split
  · exact ⟨_, .minus, rfl⟩
  · exact ⟨_, .plus, rfl⟩
  · exact ⟨_, .none, rfl⟩

theorem takeSign_append {s body : List Char} {negative : Bool} (hs : WritesSign s negative)
    (hbody : Stops isSign body) : takeSign (s ++ body) = (negative, body) := by
  cases hs with
  | plus => rfl
  | minus => rfl
  | none =>
    change takeSign body = (false, body)
    unfold takeSign
    split
    · have := hbody '-' rfl
      contradiction
    · have := hbody '+' rfl
      contradiction
    · rfl

theorem isSign_of_isAlphanum {c : Char} (h : c.isAlphanum) : isSign c = false := by
  by_contra hsign
  rcases (Bool.or_eq_true _ _).mp (Bool.not_eq_false _ ▸ hsign) with hc | hc <;>
    rw [eq_of_beq hc] at h <;> contradiction

theorem isSign_of_isDigit {c : Char} (h : c.isDigit) : isSign c = false :=
  isSign_of_isAlphanum (by rw [Char.isAlphanum, h, Bool.or_true])

theorem stops_sign_digits {ds : List Char} (hds : ∀ c ∈ ds, c.isDigit) : Stops isSign ds :=
  fun c hc => isSign_of_isDigit (hds c (List.mem_of_mem_head? hc))

/-! ## Powers of ten -/

/-- The text of a power of ten. Nothing stands for the power zero. -/
inductive WritesPower : List Char → Int → Prop where
  | zero : WritesPower [] 0
  | digits {mark : Char} {s ds : List Char} {negative : Bool} (hmark : mark = 'e' ∨ mark = 'E')
      (hs : WritesSign s negative) (hne : ds ≠ []) (hds : ∀ c ∈ ds, c.isDigit) :
      WritesPower (mark :: (s ++ ds))
        (if negative then -Nat.ofDigitChars 10 ds 0 else Nat.ofDigitChars 10 ds 0)

theorem readPower_eq_some {cs : List Char} {k : Int} : readPower cs = some k ↔ WritesPower cs k := by
  constructor
  · intro h
    unfold readPower at h
    split at h
    · cases h
      exact .zero
    · rename_i c rest
      obtain ⟨s, hs, hrest⟩ := exists_sign rest
      simp only [Option.ite_none_right_eq_some, Bool.and_eq_true, List.all_eq_true] at h
      obtain ⟨hmark, ⟨hne, hds⟩, hk⟩ := h
      cases hk
      have hpower := WritesPower.digits hmark hs (by simpa using hne) hds
      rwa [← hrest] at hpower
  · intro h
    cases h with
    | zero => rfl
    | digits hmark hs hne hds =>
      unfold readPower
      dsimp only
      rw [if_pos hmark, takeSign_append hs (stops_sign_digits hds)]
      exact if_pos (by simpa [hne] using hds)

theorem WritesPower.stops {cs : List Char} {k : Int} {p : Char → Bool} (h : WritesPower cs k)
    (he : p 'e' = false) (hE : p 'E' = false) : Stops p cs := by
  cases h with
  | zero => exact stops_nil
  | digits hmark =>
    rcases hmark with rfl | rfl
    · exact stops_cons he
    · exact stops_cons hE

/-! ## Decimals -/

/-- The text of a decimal without sign. A point may stand before, among or behind the digits. -/
inductive WritesDecimal : List Char → Decimal → Prop where
  | whole {ds p : List Char} {k : Int} (hne : ds ≠ []) (hds : ∀ c ∈ ds, c.isDigit)
      (hp : WritesPower p k) : WritesDecimal (ds ++ p) ⟨Nat.ofDigitChars 10 ds 0, k⟩
  | point {ds fs p : List Char} {k : Int} (hne : ds ++ fs ≠ []) (hds : ∀ c ∈ ds ++ fs, c.isDigit)
      (hp : WritesPower p k) :
      WritesDecimal (ds ++ '.' :: (fs ++ p)) ⟨Nat.ofDigitChars 10 (ds ++ fs) 0, k - fs.length⟩

theorem readDecimal_whole {ds p : List Char} (hds : ∀ c ∈ ds, c.isDigit) (hp : Stops Char.isDigit p)
    (hpoint : Stops (· == '.') p) :
    readDecimal (ds ++ p) =
      if ds = [] then none else (readPower p).map fun k => ⟨Nat.ofDigitChars 10 ds 0, k⟩ := by
  unfold readDecimal
  dsimp only
  rw [takeWhile_run hds hp, dropWhile_run hds hp]
  split
  · have := hpoint '.' rfl
    contradiction
  · simp

theorem readDecimal_point {ds fs p : List Char} (hds : ∀ c ∈ ds, c.isDigit) (hfs : ∀ c ∈ fs, c.isDigit)
    (hp : Stops Char.isDigit p) :
    readDecimal (ds ++ '.' :: (fs ++ p)) =
      if ds ++ fs = [] then none
      else (readPower p).map fun k => ⟨Nat.ofDigitChars 10 (ds ++ fs) 0, k - fs.length⟩ := by
  have hdot : Stops Char.isDigit ('.' :: (fs ++ p)) := stops_cons (by decide)
  unfold readDecimal
  simp [takeWhile_run hds hdot, dropWhile_run hds hdot, takeWhile_run hfs hp, dropWhile_run hfs hp]

theorem readDecimal_eq_some {cs : List Char} {x : Decimal} : readDecimal cs = some x ↔ WritesDecimal cs x := by
  constructor
  · intro h
    obtain ⟨ds, rest, rfl, hds, hrest⟩ := exists_run Char.isDigit cs
    by_cases hdot : ∃ tail, rest = '.' :: tail
    · obtain ⟨tail, rfl⟩ := hdot
      obtain ⟨fs, p, rfl, hfs, hp⟩ := exists_run Char.isDigit tail
      rw [readDecimal_point hds hfs hp, Option.ite_none_left_eq_some, Option.map_eq_some_iff] at h
      obtain ⟨hne, k, hk, rfl⟩ := h
      exact .point hne (List.forall_mem_append.mpr ⟨hds, hfs⟩) (readPower_eq_some.mp hk)
    · have hpoint : Stops (· == '.') rest := by
        intro c hc
        obtain ⟨tail, rfl⟩ := List.head?_eq_some_iff.mp hc
        simpa using fun hdot' => hdot ⟨tail, by rw [hdot']⟩
      rw [readDecimal_whole hds hrest hpoint, Option.ite_none_left_eq_some, Option.map_eq_some_iff] at h
      obtain ⟨hne, k, hk, rfl⟩ := h
      exact .whole hne hds (readPower_eq_some.mp hk)
  · intro h
    cases h with
    | whole hne hds hp =>
      rw [readDecimal_whole hds (hp.stops (by decide) (by decide)) (hp.stops (by decide) (by decide)),
        if_neg hne, readPower_eq_some.mpr hp, Option.map_some]
    | point hne hds hp =>
      obtain ⟨hds, hfs⟩ := List.forall_mem_append.mp hds
      rw [readDecimal_point hds hfs (hp.stops (by decide) (by decide)), if_neg hne,
        readPower_eq_some.mpr hp, Option.map_some]

theorem WritesDecimal.head {cs : List Char} {x : Decimal} (h : WritesDecimal cs x) :
    ∃ c rest, cs = c :: rest ∧ (c.isDigit ∨ c = '.') := by
  cases h with
  | @whole ds p k hne hds hp =>
    obtain ⟨c, ds, rfl⟩ := List.exists_cons_of_ne_nil hne
    exact ⟨c, _, rfl, .inl (hds c List.mem_cons_self)⟩
  | @point ds fs p k hne hds hp =>
    cases ds with
    | nil => exact ⟨'.', _, rfl, .inr rfl⟩
    | cons c ds => exact ⟨c, _, rfl, .inl (hds c List.mem_cons_self)⟩

/-! ## Numbers -/

/-- The text of a number. A decimal stands for the double nearest to it, and names may be in any case. -/
inductive Writes : List Char → Float → Prop where
  | infinite {s name : List Char} {negative : Bool} (hs : WritesSign s negative)
      (hname : .ofList (name.map Char.toLower) ∈ infinityNames) :
      Writes (s ++ name) (Binary.infinite negative).toFloat
  | nan {s name : List Char} {negative : Bool} (hs : WritesSign s negative)
      (hname : .ofList (name.map Char.toLower) = "nan") : Writes (s ++ name) Binary.nan.toFloat
  | decimal {s body : List Char} {negative : Bool} {x : Decimal} (hs : WritesSign s negative)
      (hx : WritesDecimal body x) : Writes (s ++ body) (x.toFloat negative)

theorem toLower_of_not_isUpper {c : Char} (hc : c.isUpper = false) : c.toLower = c := by
  unfold Char.toLower
  rw [dif_neg]
  intro h
  have hupper : c.isUpper = true := decide_eq_true h
  rw [hc] at hupper
  contradiction

theorem isAlpha_of_name {c : Char} {rest : List Char}
    (h : .ofList ((c :: rest).map Char.toLower) ∈ "nan" :: infinityNames) : c.isAlpha := by
  by_cases hupper : c.isUpper
  · exact (Bool.or_eq_true _ _).mpr (.inl hupper)
  · rw [List.map_cons, toLower_of_not_isUpper (Bool.not_eq_true _ ▸ hupper)] at h
    simp only [infinityNames, List.mem_cons, List.not_mem_nil, or_false] at h
    rcases h with h | h | h <;>
    · have hname := congrArg String.toList h
      rw [String.toList_ofList] at hname
      obtain ⟨rfl, -⟩ := List.cons.inj hname
      decide

theorem not_isAlpha_of_isDigit {c : Char} (hdigit : c.isDigit) : ¬ c.isAlpha := by
  intro halpha
  have := toNat_of_isDigit hdigit
  have := toNat_of_isAlpha halpha
  omega

theorem stops_sign_name {name : List Char} (h : .ofList (name.map Char.toLower) ∈ "nan" :: infinityNames) :
    Stops isSign name := by
  intro c hc
  obtain ⟨rest, rfl⟩ := List.head?_eq_some_iff.mp hc
  exact isSign_of_isAlphanum (by rw [Char.isAlphanum, isAlpha_of_name h, Bool.true_or])

theorem WritesDecimal.plain {body : List Char} {x : Decimal} (h : WritesDecimal body x) :
    Stops isSign body ∧ .ofList (body.map Char.toLower) ∉ "nan" :: infinityNames := by
  obtain ⟨c, rest, rfl, hc⟩ := h.head
  constructor
  · refine stops_cons ?_
    rcases hc with hc | rfl
    · exact isSign_of_isDigit hc
    · decide
  · intro hname
    have halpha := isAlpha_of_name hname
    rcases hc with hc | rfl
    · exact not_isAlpha_of_isDigit hc halpha
    · contradiction

theorem read?_eq_some {cs : List Char} {x : Float} : read? cs = some x ↔ Writes cs x := by
  constructor
  · intro h
    obtain ⟨s, hs, hcs⟩ := exists_sign cs
    unfold read? at h
    dsimp only at h
    rw [hcs]
    split at h
    · cases h
      exact .infinite hs ‹_›
    · split at h
      · cases h
        exact .nan hs ‹_›
      · obtain ⟨y, hy, rfl⟩ := Option.map_eq_some_iff.mp h
        exact .decimal hs (readDecimal_eq_some.mp hy)
  · intro h
    unfold read?
    cases h with
    | infinite hs hname =>
      rw [takeSign_append hs (stops_sign_name (List.mem_cons_of_mem _ hname))]
      exact if_pos hname
    | nan hs hname =>
      rw [takeSign_append hs (stops_sign_name (hname ▸ List.mem_cons_self))]
      dsimp only
      rw [hname]
      rfl
    | decimal hs hx =>
      obtain ⟨hsign, hname⟩ := hx.plain
      rw [List.mem_cons, not_or] at hname
      rw [takeSign_append hs hsign]
      dsimp only
      rw [if_neg hname.2, if_neg hname.1, readDecimal_eq_some.mpr hx, Option.map_some]

end Dimensional.Number
