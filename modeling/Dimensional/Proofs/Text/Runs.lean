/-!
# Runs of characters

A run at the front of a text ends where the first other character stands.
-/

namespace Dimensional.Text

variable {α : Type} {p : α → Bool}

/-- No member of the class stands at the front. -/
def Stops (p : α → Bool) (rest : List α) : Prop := ∀ a ∈ rest.head?, p a = false

theorem stops_nil : Stops p [] := by
  simp [Stops]

theorem stops_cons {a : α} {rest : List α} (h : p a = false) : Stops p (a :: rest) := by
  simpa [Stops] using h

theorem takeWhile_run {run rest : List α} (hrun : ∀ a ∈ run, p a) (hrest : Stops p rest) :
    (run ++ rest).takeWhile p = run := by
  rw [List.takeWhile_append_of_pos hrun]
  cases rest with
  | nil => simp
  | cons a rest => simp [hrest a rfl]

theorem dropWhile_run {run rest : List α} (hrun : ∀ a ∈ run, p a) (hrest : Stops p rest) :
    (run ++ rest).dropWhile p = rest := by
  rw [List.dropWhile_append_of_pos hrun]
  cases rest with
  | nil => simp
  | cons a rest => simp [hrest a rfl]

theorem stops_dropWhile (p : α → Bool) (cs : List α) : Stops p (cs.dropWhile p) := by
  intro a ha
  have := List.head?_dropWhile_not p cs
  rw [ha] at this
  simpa using this

theorem exists_run (p : α → Bool) (cs : List α) :
    ∃ run rest, cs = run ++ rest ∧ (∀ a ∈ run, p a) ∧ Stops p rest :=
  ⟨_, _, List.takeWhile_append_dropWhile.symm, List.all_eq_true.mp List.all_takeWhile, stops_dropWhile p cs⟩

theorem run_append_inj {run run' rest rest' : List α} (hrun : ∀ a ∈ run, p a) (hrun' : ∀ a ∈ run', p a)
    (hrest : Stops p rest) (hrest' : Stops p rest') (h : run ++ rest = run' ++ rest') :
    run = run' ∧ rest = rest' := by
  constructor
  · rw [← takeWhile_run hrun hrest, h, takeWhile_run hrun' hrest']
  · rw [← dropWhile_run hrun hrest, h, dropWhile_run hrun' hrest']

theorem before_inj {c : Char} {run run' rest rest' : List Char} (h : c ∉ run) (h' : c ∉ run')
    (hrest : Stops (· ≠ c) rest) (hrest' : Stops (· ≠ c) rest') (heq : run ++ rest = run' ++ rest') :
    run = run' ∧ rest = rest' := by
  have hrun : ∀ d ∈ run, decide (d ≠ c) := fun d hd => decide_eq_true fun hdc => h (hdc ▸ hd)
  have hrun' : ∀ d ∈ run', decide (d ≠ c) := fun d hd => decide_eq_true fun hdc => h' (hdc ▸ hd)
  exact run_append_inj hrun hrun' hrest hrest' heq

/-! ## Letters and digits -/

theorem toNat_of_isDigit {c : Char} (h : c.isDigit) : 0x30 ≤ c.toNat ∧ c.toNat ≤ 0x39 :=
  ((Bool.and_eq_true _ _).mp h).imp of_decide_eq_true of_decide_eq_true

theorem toNat_of_isAlpha {c : Char} (h : c.isAlpha) : 0x41 ≤ c.toNat ∧ c.toNat ≤ 0x7A := by
  have hupper (h : c.isUpper = true) : 0x41 ≤ c.toNat ∧ c.toNat ≤ 0x5A := of_decide_eq_true h
  have hlower (h : c.isLower = true) : 0x61 ≤ c.toNat ∧ c.toNat ≤ 0x7A :=
    ((Bool.and_eq_true _ _).mp h).imp of_decide_eq_true of_decide_eq_true
  rcases (Bool.or_eq_true _ _).mp h with h | h
  · have := hupper h
    omega
  · have := hlower h
    omega

theorem isDigit_of_mem_decimal {n : Nat} : ∀ c ∈ Nat.toDigits 10 n, c.isDigit :=
  fun _ hc => Nat.isDigit_of_mem_toDigits (by decide) (by decide) hc

end Dimensional.Text
