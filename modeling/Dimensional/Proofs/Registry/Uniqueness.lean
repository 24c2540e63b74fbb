import Mathlib.Data.List.Basic
import Dimensional.Proofs.Registry

/-!
# One dimension, one symbol

The check of a registry compares every two registrations, one pair after the other and their symbols byte by
byte. Its answer does not depend on their order, and if it is yes, neither does what a search finds.
-/

namespace Dimensional

/-! ## Clashes -/

variable {r s : Registration}

theorem Registration.Clashes.symm (h : r.Clashes s) : s.Clashes r :=
  h.imp Dimension.Matches.symm Eq.symm

theorem Registration.not_clashes_iff :
    ¬ r.Clashes s ↔ r.dimension.value ≠ s.dimension.value ∧ r.symbol.toUTF8 ≠ s.symbol.toUTF8 := by
  rw [Registration.Clashes, not_or, Dimension.matches_iff_value_eq, ne_eq, ne_eq,
    String.toUTF8_eq_toByteArray, String.toUTF8_eq_toByteArray, String.toByteArray_inj]

namespace Registry

variable {rs ss : List Registration} {e : Registration}

/-! ## Pair by pair -/

/-- From position `i` on, two texts of one length have the same bytes. -/
def sameFrom (a b : ByteArray) (h : a.size = b.size) (i : ℕ) : Bool :=
  if hi : i < a.size then
    if a[i] ≠ b[i] then false else sameFrom a b h (i + 1)
  else true
termination_by a.size - i

/-- The texts have the same bytes. -/
def sameText (s t : String) : Bool :=
  if h : s.toUTF8.size = t.toUTF8.size then sameFrom _ _ h 0 else false

/-- The registration clashes with one at position `j` or behind it. -/
def clashesFrom (rs : List Registration) (r : Registration) (j : ℕ) : Bool :=
  if hj : j < rs.length then
    if r.dimension.Matches rs[j].dimension || sameText r.symbol rs[j].symbol then true
    else clashesFrom rs r (j + 1)
  else false
termination_by rs.length - j

/-- From position `i` on, no registration clashes with one behind it. -/
def scanFrom (rs : List Registration) (i : ℕ) : Bool :=
  if hi : i < rs.length then
    if clashesFrom rs rs[i] (i + 1) then false else scanFrom rs (i + 1)
  else true
termination_by rs.length - i

theorem sameFrom_iff {a b : ByteArray} {h : a.size = b.size} {i : ℕ} :
    sameFrom a b h i ↔ ∀ j (hj : j < a.size), i ≤ j → a[j] = b[j] := by
  -- each turn looks at position `i` and leaves those behind it to the next
  fun_induction sameFrom a b h i with
  | case1 i hi hne =>
    simp only [Bool.false_eq_true, false_iff, not_forall]
    exact ⟨i, hi, le_rfl, hne⟩
  | case2 i hi heq ih =>
    rw [ih]
    constructor
    · intro hrest j hj hij
      obtain rfl | hlt := eq_or_lt_of_le hij
      · exact not_not.mp heq
      · exact hrest j hj hlt
    · exact fun hall j hj hij => hall j hj (by omega)
  | case3 i hi =>
    simp only [true_iff]
    intro j hj hij
    omega

theorem sameText_iff {s t : String} : sameText s t ↔ s = t := by
  rw [← String.toByteArray_inj, ← String.toUTF8_eq_toByteArray, ← String.toUTF8_eq_toByteArray, sameText]
  split
  next h =>
    rw [sameFrom_iff]
    constructor
    · exact fun hall => ByteArray.ext_getElem h fun j hj _ => hall j hj (Nat.zero_le j)
    · intro heq j hj _
      simp only [heq]
  next h =>
    simp only [Bool.false_eq_true, false_iff]
    exact fun heq => h (congrArg ByteArray.size heq)

theorem matches_or_sameText :
    (r.dimension.Matches s.dimension || sameText r.symbol s.symbol) = true ↔ r.Clashes s := by
  rw [Bool.or_eq_true, decide_eq_true_eq, sameText_iff, Registration.Clashes]

theorem clashesFrom_iff {j : ℕ} : clashesFrom rs r j ↔ ∃ s ∈ rs.drop j, r.Clashes s := by
  fun_induction clashesFrom rs r j with
  | case1 j hj h =>
    rw [List.drop_eq_getElem_cons hj]
    exact iff_of_true rfl ⟨_, List.mem_cons_self, matches_or_sameText.mp h⟩
  | case2 j hj h ih =>
    rw [List.drop_eq_getElem_cons hj, List.exists_mem_cons_iff, ← matches_or_sameText, or_iff_right h]
    exact ih
  | case3 j hj =>
    rw [List.drop_eq_nil_of_le (not_lt.mp hj)]
    simp

theorem scanFrom_eq (rs : List Registration) (i : ℕ) : scanFrom rs i = oneToOne (rs.drop i) := by
  fun_induction scanFrom rs i with
  | case1 i hi h =>
    obtain ⟨s, hs, hclash⟩ := clashesFrom_iff.mp h
    rw [List.drop_eq_getElem_cons hi, eq_comm, Bool.eq_false_iff, ne_eq, oneToOne_iff, List.pairwise_cons]
    exact fun hall => hall.1 s hs hclash
  | case2 i hi h ih =>
    have hnone : ∀ s ∈ rs.drop (i + 1), ¬ rs[i].Clashes s :=
      fun s hs hclash => h (clashesFrom_iff.mpr ⟨s, hs, hclash⟩)
    rw [ih, List.drop_eq_getElem_cons hi, Bool.eq_iff_iff, oneToOne_iff, oneToOne_iff, List.pairwise_cons,
      and_iff_right hnone]
  | case3 i hi =>
    rw [List.drop_eq_nil_of_le (not_lt.mp hi)]
    rfl

/-! ## Positions, parts and orders -/

theorem oneToOne_iff_getElem : oneToOne rs ↔
    ∀ i j (hi : i < rs.length) (hj : j < rs.length), i ≠ j → ¬ rs[i].Clashes rs[j] := by
  rw [oneToOne_iff, List.pairwise_iff_getElem]
  constructor
  · intro h i j hi hj hne
    -- a clash is mutual, so either position may be the first
    obtain hlt | hlt := lt_or_gt_of_ne hne
    · exact h i j hi hj hlt
    · exact fun hclash => h j i hj hi hlt hclash.symm
  · exact fun h i j hi hj hlt => h i j hi hj (Nat.ne_of_lt hlt)

theorem oneToOne_perm (h : rs.Perm ss) : oneToOne ss = oneToOne rs := by
  rw [Bool.eq_iff_iff, oneToOne_iff, oneToOne_iff]
  exact (h.pairwise_iff fun hnot hclash => hnot hclash.symm).symm

theorem oneToOne_sublist (hrs : oneToOne rs) (h : ss.Sublist rs) : oneToOne ss :=
  oneToOne_iff.mpr ((oneToOne_iff.mp hrs).sublist h)

theorem oneToOne_append_singleton : oneToOne (rs ++ [e]) ↔ oneToOne rs ∧ ∀ r ∈ rs, ¬ r.Clashes e := by
  rw [oneToOne_iff, oneToOne_iff, List.pairwise_append]
  simp only [List.pairwise_singleton, true_and, List.mem_singleton, forall_eq]

/-! ## Searches -/

theorem symbolIn_perm (hrs : oneToOne rs) (h : rs.Perm ss) (v : Dimension) :
    symbolIn ss v = symbolIn rs v := by
  have hss : oneToOne ss := by rwa [oneToOne_perm h]
  ext s
  simp only [symbolIn_eq_some hrs, symbolIn_eq_some hss, h.mem_iff]

theorem dimensionIn_perm (hrs : oneToOne rs) (h : rs.Perm ss) (s : String) :
    dimensionIn ss s = dimensionIn rs s := by
  have hss : oneToOne ss := by rwa [oneToOne_perm h]
  ext v
  simp only [dimensionIn_eq_some hrs, dimensionIn_eq_some hss, h.mem_iff]

/-- A registry is accepted exactly if no two positions hold one dimension or the bytes of one symbol, and the
scan pair by pair comes to the same answer. No order matters to it, parts of an accepted registry are accepted,
and so is a registration more that clashes with none. Both searches find the same in every order of an accepted
registry, and in particular in every order of the SI units. -/
theorem oneToOne_distinct_reordered (rs ss : List Registration) (e : Registration) :
    (oneToOne rs ↔ ∀ i j (hi : i < rs.length) (hj : j < rs.length), i ≠ j →
      rs[i].dimension.value ≠ rs[j].dimension.value ∧ rs[i].symbol.toUTF8 ≠ rs[j].symbol.toUTF8) ∧
    scanFrom rs 0 = oneToOne rs ∧
    (rs.Perm ss → oneToOne ss = oneToOne rs) ∧
    (oneToOne rs → ss.Sublist rs → oneToOne ss) ∧
    (oneToOne rs → (oneToOne (rs ++ [e]) ↔
      ∀ r ∈ rs, ¬ r.dimension.Matches e.dimension ∧ r.symbol ≠ e.symbol)) ∧
    (oneToOne rs → rs.Perm ss →
      (∀ v, symbolIn ss v = symbolIn rs v) ∧ ∀ s, dimensionIn ss s = dimensionIn rs s) ∧
    (entries.Perm ss → (∀ v, lookup v = symbolIn ss v) ∧
      ∀ s, findSymbol s = if s = radian then some .dimensionless else dimensionIn ss s) := by
  refine ⟨?_, scanFrom_eq rs 0, oneToOne_perm, oneToOne_sublist, fun hrs => ?_, fun hrs h => ?_, fun h => ?_⟩
  · simp only [oneToOne_iff_getElem, Registration.not_clashes_iff]
  · simp only [oneToOne_append_singleton, hrs, true_and, Registration.Clashes, not_or]
  · exact ⟨symbolIn_perm hrs h, dimensionIn_perm hrs h⟩
  · refine ⟨fun v => (symbolIn_perm oneToOne_entries h v).symm, fun s => ?_⟩
    rw [findSymbol, dimensionIn_perm oneToOne_entries h]

theorem oneToOne_distinct_reordered_energy :
    let force : Dimension := { length := .one, mass := .one, time := .whole (-2) }
    let energy : Dimension := { length := .whole 2, mass := .one, time := .whole (-2) }
    let stored : Dimension := { energy with length := ⟨4, 2, by decide, by decide, by decide, by decide⟩ }
    let rs : List Registration := [⟨force, "N"⟩, ⟨stored, "J"⟩]
    let ss : List Registration := [⟨stored, "J"⟩, ⟨force, "N"⟩]
    oneToOne rs ∧ rs.Perm ss ∧ oneToOne ss ∧ oneToOne [⟨stored, "J"⟩] ∧ scanFrom rs 0 = true ∧
      symbolIn rs energy = some "J" ∧ symbolIn ss energy = some "J" ∧ ¬ oneToOne (rs ++ [⟨energy, "N*m"⟩]) := by
  intro force energy stored rs ss
  have hrs : oneToOne rs := by decide +kernel
  have hperm : rs.Perm ss := .swap ..
  have hfound : symbolIn rs energy = some "J" := by decide +kernel
  obtain ⟨-, hscan, hreordered, -, happend, hsearch, -⟩ :=
    oneToOne_distinct_reordered rs ss ⟨energy, "N*m"⟩
  obtain ⟨-, -, -, hpart, -⟩ := oneToOne_distinct_reordered rs [⟨stored, "J"⟩] ⟨energy, "N*m"⟩
  have hmatches : stored.Matches energy := by decide +kernel
  refine ⟨hrs, hperm, (hreordered hperm).trans hrs, hpart hrs (List.sublist_cons_self ..), hscan.trans hrs,
    hfound, ((hsearch hrs hperm).1 energy).trans hfound, fun h => ?_⟩
  exact ((happend hrs).mp h ⟨stored, "J"⟩ (by simp [rs])).1 hmatches

end Registry

end Dimensional
