import Dimensional.Proofs.Text.Runs
import Dimensional.Text.Blank

/-!
# Words of a text

The words are the runs between blanks. A word followed by a blank is taken off the front as it stands,
and a text that neither starts nor ends in a blank is its only word if it has just one.
-/

namespace Dimensional.Text

/-! ## Blanks -/

theorem isBlank_of_printable {c : Char} (hlow : 0x21 ≤ c.toNat) (hhigh : c.toNat ≤ 0x7E) :
    isBlank c = false := by
  simp only [isBlank, CodeRanges.contains, whiteSpace, List.any_toArray, List.any_cons, List.any_nil,
    Bool.or_false, Bool.or_eq_false_iff, Bool.and_eq_false_iff, decide_eq_false_iff_not]
  omega

theorem toNat_of_isAlphanum {c : Char} (h : c.isAlphanum) : 0x30 ≤ c.toNat ∧ c.toNat ≤ 0x7A := by
  rcases (Bool.or_eq_true _ _).mp h with h | h
  · have := toNat_of_isAlpha h
    omega
  · have := toNat_of_isDigit h
    omega

theorem isBlank_of_isAlphanum {c : Char} (h : c.isAlphanum) : isBlank c = false := by
  obtain ⟨hlow, hhigh⟩ := toNat_of_isAlphanum h
  exact isBlank_of_printable (by omega) (by omega)

theorem isBlank_of_isAlpha {c : Char} (h : c.isAlpha) : isBlank c = false :=
  isBlank_of_isAlphanum (by rw [Char.isAlphanum, h, Bool.true_or])

theorem isBlank_of_isDigit {c : Char} (h : c.isDigit) : isBlank c = false :=
  isBlank_of_isAlphanum (by rw [Char.isAlphanum, h, Bool.or_true])

theorem trimBlanks_of_not_isBlank {cs : List Char} (h : ∀ c ∈ cs, isBlank c = false) : trimBlanks cs = cs := by
  have hhead : Stops isBlank cs := fun c hc => h c (List.mem_of_mem_head? hc)
  have hlast : Stops isBlank cs.reverse := fun c hc => h c (List.mem_reverse.mp (List.mem_of_mem_head? hc))
  have hfront : cs.dropWhile isBlank = cs := dropWhile_run (List.forall_mem_nil _) hhead
  have hback : cs.reverse.dropWhile isBlank = cs.reverse := dropWhile_run (List.forall_mem_nil _) hlast
  rw [trimBlanks, hfront, hback, List.reverse_reverse]

/-! ## Trimming -/

/-- The text with blanks before it and behind it. -/
inductive Padded (core : List Char) : List Char → Prop where
  | mk {before after : List Char} (hbefore : ∀ c ∈ before, isBlank c) (hafter : ∀ c ∈ after, isBlank c) :
    Padded core (before ++ (core ++ after))

theorem padded_trimBlanks (text : List Char) : Padded (trimBlanks text) text := by
  obtain ⟨before, rest, rfl, hbefore, hrest⟩ := exists_run isBlank text
  obtain ⟨after, core, hcore, hafter, hstops⟩ := exists_run isBlank rest.reverse
  have htrim : trimBlanks (before ++ rest) = core.reverse := by
    rw [trimBlanks, dropWhile_run hbefore hrest, hcore, dropWhile_run hafter hstops]
  have hsplit : rest = core.reverse ++ after.reverse := by
    rw [← List.reverse_append, ← hcore, List.reverse_reverse]
  rw [htrim, hsplit]
  exact .mk hbefore fun c hc => hafter c (List.mem_reverse.mp hc)

theorem Padded.trimBlanks {core text : List Char} (h : Padded core text) : trimBlanks text = trimBlanks core := by
  obtain @⟨before, after, hbefore, hafter⟩ := h
  have hback : ∀ c ∈ after.reverse, isBlank c := fun c hc => hafter c (List.mem_reverse.mp hc)
  have hdrop := dropWhile_run hafter stops_nil
  rw [List.append_nil] at hdrop
  rw [Text.trimBlanks, Text.trimBlanks, List.dropWhile_append_of_pos hbefore, List.dropWhile_append]
  cases core.dropWhile isBlank with
  | nil =>
    rw [List.isEmpty_nil, if_pos rfl, hdrop]
  | cons c rest =>
    rw [List.isEmpty_cons, if_neg Bool.false_ne_true, List.reverse_append, List.dropWhile_append_of_pos hback]

/-! ## Taking words off -/

/-- A text that is one word: it is not empty and holds no blank. -/
def IsWord (w : List Char) : Prop := w ≠ [] ∧ ∀ c ∈ w, isBlank c = false

instance : DecidablePred IsWord := fun w =>
  decidable_of_iff ((!w.isEmpty && w.all (!isBlank ·)) = true) (by simp [IsWord])

@[simp]
theorem words_nil : words [] = [] := by
  rw [words]

theorem words_blank {c : Char} (h : isBlank c) (rest : List Char) : words (c :: rest) = words rest := by
  rw [words, if_pos h]

theorem words_append {w rest : List Char} (hw : IsWord w) (hrest : Stops (!isBlank ·) rest) :
    words (w ++ rest) = w :: words rest := by
  obtain ⟨hne, hrun⟩ := hw
  cases w with
  | nil => contradiction
  | cons c cs =>
    have hc : isBlank c = false := hrun c List.mem_cons_self
    have hcs : ∀ d ∈ cs, !isBlank d := fun d hd => by simp [hrun d (List.mem_cons_of_mem c hd)]
    rw [List.cons_append, words, if_neg (by simp [hc]), takeWhile_run hcs hrest,
      dropWhile_run hcs hrest]

theorem words_of_isWord {w : List Char} (hw : IsWord w) : words w = [w] := by
  have h := words_append hw (stops_nil (p := (!isBlank ·)))
  rwa [List.append_nil, words_nil] at h

@[simp]
theorem isBlank_space : isBlank ' ' := by
  decide +kernel

theorem words_space {w : List Char} (hw : IsWord w) (rest : List Char) :
    words (w ++ ' ' :: rest) = w :: words rest := by
  rw [words_append hw (stops_cons (by simp [isBlank_space])), words_blank isBlank_space]

/-! ## Texts made of words -/

theorem isWord_takeWhile {c : Char} (hc : ¬ isBlank c) (rest : List Char) :
    IsWord (c :: rest.takeWhile (!isBlank ·)) := by
  refine ⟨List.cons_ne_nil _ _, List.forall_mem_cons.mpr ⟨by simpa using hc, fun d hd => ?_⟩⟩
  simpa using List.all_eq_true.mp List.all_takeWhile d hd

/-- The text is made of these words, with blanks between them and around them. -/
inductive Consists : List (List Char) → List Char → Prop where
  | nil {blanks : List Char} (hblanks : ∀ c ∈ blanks, isBlank c) : Consists [] blanks
  | cons {blanks w rest : List Char} {ws : List (List Char)} (hblanks : ∀ c ∈ blanks, isBlank c)
      (hw : IsWord w) (hstops : Stops (!isBlank ·) rest) (hrest : Consists ws rest) :
      Consists (w :: ws) (blanks ++ (w ++ rest))

theorem words_blanks_append {blanks : List Char} (h : ∀ c ∈ blanks, isBlank c) (rest : List Char) :
    words (blanks ++ rest) = words rest := by
  induction blanks with
  | nil => rfl
  | cons c blanks ih =>
    obtain ⟨hc, hblanks⟩ := List.forall_mem_cons.mp h
    rw [List.cons_append, words_blank hc, ih hblanks]

theorem Consists.blank_cons {ws : List (List Char)} {c : Char} {rest : List Char} (hc : isBlank c)
    (h : Consists ws rest) : Consists ws (c :: rest) := by
  cases h with
  | nil hblanks => exact .nil (List.forall_mem_cons.mpr ⟨hc, hblanks⟩)
  | cons hblanks hw hstops hrest => exact .cons (List.forall_mem_cons.mpr ⟨hc, hblanks⟩) hw hstops hrest

theorem consists_words (cs : List Char) : Consists (words cs) cs := by
  fun_induction words cs with
  | case1 => exact .nil (List.forall_mem_nil _)
  | case2 c rest hc ih => exact ih.blank_cons hc
  | case3 c rest hc ih =>
    have hstops := stops_dropWhile (!isBlank ·) rest
    have h := Consists.cons (List.forall_mem_nil _) (isWord_takeWhile hc rest) hstops ih
    rwa [List.nil_append, List.cons_append, List.takeWhile_append_dropWhile] at h

/-- A text is made of one sequence of words only, and the splitter finds it. -/
theorem words_eq_iff {ws : List (List Char)} {cs : List Char} : words cs = ws ↔ Consists ws cs := by
  constructor
  · rintro rfl
    exact consists_words cs
  · intro h
    induction h with
    | @nil blanks hblanks =>
      rw [← List.append_nil blanks, words_blanks_append hblanks, words_nil]
    | cons hblanks hw hstops _ ih => rw [words_blanks_append hblanks, words_append hw hstops, ih]

theorem isBlank_of_words_eq_nil {cs : List Char} (h : words cs = []) : ∀ c ∈ cs, isBlank c := by
  cases words_eq_iff.mp h with
  | nil hblanks => exact hblanks

/-! ## Trimmed texts -/

/-- A text that starts and ends with a character that is no blank. -/
structure IsTrimmed (cs : List Char) : Prop where
  head : ∃ c ∈ cs.head?, isBlank c = false
  last : ∃ c ∈ cs.getLast?, isBlank c = false

theorem IsWord.isTrimmed {w : List Char} (h : IsWord w) : IsTrimmed w := by
  obtain ⟨hne, hw⟩ := h
  refine ⟨⟨w.head hne, ?_, hw _ (List.head_mem hne)⟩, ⟨w.getLast hne, ?_, hw _ (List.getLast_mem hne)⟩⟩
  · rw [List.head?_eq_some_head hne]
    rfl
  · rw [List.getLast?_eq_some_getLast hne]
    rfl

theorem IsTrimmed.append_cons {cs ds : List Char} (hc : IsTrimmed cs) (hd : IsTrimmed ds) (c : Char) :
    IsTrimmed (cs ++ c :: ds) := by
  obtain ⟨⟨a, ha, hblank⟩, -⟩ := hc
  obtain ⟨-, z, hz, hzblank⟩ := hd
  refine ⟨⟨a, ?_, hblank⟩, ⟨z, ?_, hzblank⟩⟩
  · rw [List.head?_append, ha]
    rfl
  · rw [List.getLast?_append, List.getLast?_cons, hz]
    rfl

theorem IsTrimmed.eq_of_words {cs w : List Char} (hcs : IsTrimmed cs) (h : words cs = [w]) : cs = w := by
  obtain ⟨⟨c, hhead, hc⟩, z, hlast, hz⟩ := hcs
  obtain ⟨rest, rfl⟩ := List.head?_eq_some_iff.mp hhead
  rw [words, if_neg (by simp [hc])] at h
  obtain ⟨rfl, hnil⟩ := List.cons.inj h
  have hsplit := List.takeWhile_append_dropWhile (p := (!isBlank ·)) (l := rest)
  -- what stands behind the word is blank, and the last character is not
  have hblank := isBlank_of_words_eq_nil hnil
  cases hdrop : rest.dropWhile (!isBlank ·) with
  | nil =>
    rw [hdrop, List.append_nil] at hsplit
    rw [hsplit]
  | cons d ds =>
    rw [hdrop] at hsplit hblank
    rw [← hsplit, ← List.cons_append, List.getLast?_append,
      List.getLast?_eq_some_getLast (List.cons_ne_nil d ds), Option.some_or, Option.mem_some_iff] at hlast
    rw [← hlast, hblank _ (List.getLast_mem _)] at hz
    contradiction

end Dimensional.Text
