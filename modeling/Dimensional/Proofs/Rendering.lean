import Mathlib.Tactic.SplitIfs
import Dimensional.Rendering

/-!
# Whole texts from their pieces

The fault of a composed text is the first fault of its parts, and without one the text is the parts one
after the other.
-/

namespace Dimensional.Rendering

variable {ε : Type}

theorem text_eq_ok {r : Rendering ε} {s : String} : r.text = .ok s ↔ r.fault = none ∧ r.written = s := by
  unfold text
  cases r.fault <;> simp

theorem text_eq_error {r : Rendering ε} {e : ε} : r.text = .error e ↔ r.fault = some e := by
  unfold text
  cases r.fault <;> simp

/-! ## Faults -/

theorem fault_append (r s : Rendering ε) : (r ++ s).fault = r.fault.or s.fault := by
  change (append r s).fault = _
  unfold append
  cases r.fault <;> rfl

@[simp]
theorem fault_empty : (empty : Rendering ε).fault = none := rfl

@[simp]
theorem fault_piece (s : String) : (piece s : Rendering ε).fault = none := rfl

@[simp]
theorem fault_piece_append (s : String) (r : Rendering ε) : (piece s ++ r).fault = r.fault := by
  rw [fault_append, fault_piece, Option.none_or]

theorem fault_concat_eq_none {rs : List (Rendering ε)} :
    (concat rs).fault = none ↔ ∀ r ∈ rs, r.fault = none := by
  induction rs with
  | nil => simp [concat]
  | cons r rs ih => rw [concat, fault_append, Option.or_eq_none_iff, ih, List.forall_mem_cons]

theorem exists_of_fault_concat {rs : List (Rendering ε)} {e : ε} (h : (concat rs).fault = some e) :
    ∃ r ∈ rs, r.fault = some e := by
  induction rs with
  | nil => simp [concat] at h
  | cons r rs ih =>
    rw [concat, fault_append, Option.or_eq_some_iff] at h
    rcases h with h | ⟨-, h⟩
    · exact ⟨r, List.mem_cons_self, h⟩
    · obtain ⟨s, hs, he⟩ := ih h
      exact ⟨s, List.mem_cons_of_mem _ hs, he⟩

theorem fault_intercalate (separator : String) (rs : List (Rendering ε)) :
    (intercalate separator rs).fault = (concat rs).fault := by
  cases rs with
  | nil => rfl
  | cons r rs =>
    rw [intercalate, concat, fault_append, fault_append]
    congr 1
    induction rs with
    | nil => rfl
    | cons s rs ih =>
      rw [List.map_cons, concat, concat, fault_append, fault_piece_append, fault_append, ih]

/-! ## Texts -/

@[simp]
theorem written_empty : (empty : Rendering ε).written = "" := String.join_nil

@[simp]
theorem written_piece (s : String) : (piece s : Rendering ε).written = s := by
  simp [piece, written]

theorem written_append {r s : Rendering ε} (h : r.fault = none) :
    (r ++ s).written = r.written ++ s.written := by
  change (append r s).written = _
  unfold append
  rw [h]
  exact String.join_append

@[simp]
theorem written_piece_append (s : String) (r : Rendering ε) : (piece s ++ r).written = s ++ r.written := by
  rw [written_append (fault_piece s), written_piece]

theorem written_intercalate (separator : String) {rs : List (Rendering ε)}
    (h : ∀ r ∈ rs, r.fault = none) :
    (intercalate separator rs).written = separator.intercalate (rs.map written) := by
  cases rs with
  | nil => simp [intercalate]
  | cons r rs =>
    rw [List.forall_mem_cons] at h
    rw [intercalate, written_append h.1]
    induction rs generalizing r with
    | nil => simp [concat]
    | cons s rs ih =>
      obtain ⟨hr, hs⟩ := h
      rw [List.forall_mem_cons] at hs
      rw [List.map_cons, concat, written_append (by simpa using hs.1), written_piece_append,
        String.append_assoc, ih s hs, List.map_cons, List.map_cons, List.map_cons,
        String.intercalate_cons_cons, String.append_assoc]

theorem append_assoc (q r s : Rendering ε) : q ++ r ++ s = q ++ (r ++ s) := by
  change append (append q r) s = append q (append r s)
  unfold append
  cases hq : q.fault with
  | some e => rfl
  | none => cases hr : r.fault <;> simp

theorem written_append_of_fault {r s : Rendering ε} {e : ε} (h : r.fault = some e) :
    (r ++ s).written = r.written := by
  change (append r s).written = _
  unfold append
  rw [h]
  rfl

theorem piece_append_intercalate (separator : String) (r : Rendering ε) (rs : List (Rendering ε)) :
    piece separator ++ intercalate separator (r :: rs) =
      concat ((r :: rs).map (piece separator ++ ·)) := by
  rw [intercalate, ← append_assoc]
  rfl

theorem written_intercalate_of_fault (separator : String) {before after : List (Rendering ε)}
    {r : Rendering ε} {e : ε} (hbefore : ∀ q ∈ before, q.fault = none) (hr : r.fault = some e) :
    (intercalate separator (before ++ r :: after)).written =
      String.join (before.map (·.written ++ separator)) ++ r.written := by
  induction before with
  | nil => simp [intercalate, written_append_of_fault hr]
  | cons q before ih =>
    obtain ⟨hq, hbefore⟩ := List.forall_mem_cons.mp hbefore
    have hrest : concat ((before ++ r :: after).map (piece separator ++ ·)) =
        piece separator ++ intercalate separator (before ++ r :: after) := by
      cases before with
      | nil => exact (piece_append_intercalate separator r after).symm
      | cons p before => exact (piece_append_intercalate separator p _).symm
    rw [List.cons_append, intercalate, written_append hq, hrest, written_piece_append, ih hbefore,
      List.map_cons, String.join_cons, String.append_assoc, String.append_assoc]

theorem written_intercalate_eq_iff (separator : String) {q r : Rendering ε} {qs rs : List (Rendering ε)} :
    (intercalate separator (q :: qs)).written = (intercalate separator (r :: rs)).written ↔
      (concat ((q :: qs).map (piece separator ++ ·))).written =
        (concat ((r :: rs).map (piece separator ++ ·))).written := by
  rw [← piece_append_intercalate, ← piece_append_intercalate, written_piece_append, written_piece_append,
    String.append_right_inj]

/-- The text is a separator and more behind it, unless a fault keeps that back. -/
def IsItem (separator : String) (r : Rendering ε) : Prop :=
  ∃ s, r.written = separator ++ s ∧ (s = "" ↔ r.fault.isSome)

theorem IsItem.written_of_fault {separator : String} {r : Rendering ε} {e : ε} (h : r.IsItem separator)
    (hr : r.fault = some e) : r.written = separator := by
  obtain ⟨s, hs, hempty⟩ := h
  have : s = "" := by simp [hempty, hr]
  rw [hs, this, String.append_empty]

theorem IsItem.written_append_ne {separator : String} {r : Rendering ε} (h : r.IsItem separator)
    (hr : r.fault = none) (s : Rendering ε) : (r ++ s).written ≠ separator := by
  obtain ⟨t, ht, hempty⟩ := h
  rw [written_append hr, ht, String.append_assoc]
  intro heq
  have : t ++ s.written = "" := by simpa using heq
  have : t = "" := by simp_all
  simp [hempty, hr] at this

theorem fault_of_find? {α : Type} {f : α → Rendering ε} {l : List α} {a : α}
    (h : l.find? (fun a => (f a).fault.isSome) = some a) : (f a).fault ≠ none := by
  have := List.find?_some h
  exact Option.isSome_iff_ne_none.mp this

/-- Two rows of items, each cut off at the first item that stops, are one text exactly if that item is
the same in both. -/
theorem written_concat_eq_iff {α : Type} {f g : α → Rendering ε} {l : List α} {separator : String}
    (hf : ∀ a ∈ l, (f a).IsItem separator) (hg : ∀ a ∈ l, (g a).IsItem separator)
    (heq : ∀ a ∈ l, (f a).fault = none → (g a).fault = none → (f a).written = (g a).written) :
    (concat (l.map f)).written = (concat (l.map g)).written ↔
      l.find? (fun a => (f a).fault.isSome) = l.find? (fun a => (g a).fault.isSome) := by
  induction l with
  | nil => simp
  | cons a l ih =>
    rw [List.forall_mem_cons] at hf hg heq
    rw [List.map_cons, List.map_cons, concat, concat, List.find?_cons, List.find?_cons]
    cases hfa : (f a).fault with
    | none =>
      cases hga : (g a).fault with
      | none =>
        rw [written_append hfa, written_append hga, heq.1 hfa hga, String.append_right_inj]
        exact ih hf.2 hg.2 heq.2
      | some e =>
        rw [written_append_of_fault hga, hg.1.written_of_fault hga]
        exact iff_of_false (hf.1.written_append_ne hfa _) fun h => fault_of_find? h hfa
    | some e =>
      rw [written_append_of_fault hfa, hf.1.written_of_fault hfa]
      cases hga : (g a).fault with
      | none =>
        exact iff_of_false (hg.1.written_append_ne hga _).symm fun h => fault_of_find? h.symm hga
      | some e' =>
        rw [written_append_of_fault hga, hg.1.written_of_fault hga]
        exact iff_of_true rfl rfl

/-! ## Comparing -/

theorem takeOff_eq_some {cs ds rest : List Char} : takeOff cs ds = some rest ↔ ds = cs ++ rest := by
  fun_induction takeOff cs ds with
  | case1 ds => simp
  | case2 => simp
  | case3 c cs ds ih => simp [ih]
  | case4 c cs d ds hne => simp [Ne.symm hne]

theorem takeOffAll_eq_some {pieces : List String} {ds rest : List Char} :
    takeOffAll pieces ds = some rest ↔ ds = (String.join pieces).toList ++ rest := by
  induction pieces generalizing ds with
  | nil => simp [takeOffAll]
  | cons s pieces ih =>
    simp only [takeOffAll, Option.bind_eq_some_iff, takeOff_eq_some, ih, String.join_cons,
      String.toList_append, List.append_assoc]
    constructor
    · rintro ⟨after, rfl, rfl⟩
      rfl
    · rintro rfl
      exact ⟨_, rfl, rfl⟩

theorem takeOffAll_pieces (r : Rendering ε) (ds : List Char) :
    takeOffAll r.pieces ds = takeOff r.written.toList ds := by
  apply Option.ext
  intro rest
  rw [takeOffAll_eq_some, takeOff_eq_some]
  rfl

/-- A comparison stops exactly if all that was written before the fault is at the front of the text. -/
theorem matchesText_eq_error {r : Rendering ε} {t : String} {e : ε} :
    r.matchesText t = .error e ↔ r.fault = some e ∧ r.written.toList <+: t.toList := by
  unfold matchesText
  rw [takeOffAll_pieces]
  cases h : takeOff r.written.toList t.toList with
  | none =>
    simp only [reduceCtorEq, false_iff, not_and]
    rintro - ⟨rest, hrest⟩
    rw [takeOff_eq_some.mpr hrest.symm] at h
    contradiction
  | some rest =>
    have hfront : r.written.toList <+: t.toList := ⟨rest, (takeOff_eq_some.mp h).symm⟩
    cases r.fault <;> simp [hfront]

theorem matchesText_eq_true {r : Rendering ε} {t : String} :
    r.matchesText t = .ok true ↔ r.fault = none ∧ r.written = t := by
  unfold matchesText
  rw [takeOffAll_pieces, ← String.toList_inj]
  cases h : takeOff r.written.toList t.toList with
  | none =>
    simp only [Except.ok.injEq, reduceCtorEq, false_iff, not_and]
    rintro - heq
    rw [heq] at h
    have := takeOff_eq_some.mpr (List.append_nil t.toList).symm
    rw [h] at this
    contradiction
  | some rest =>
    rw [takeOff_eq_some] at h
    cases r.fault <;> simp [h]

theorem matchesText_of_text {r : Rendering ε} {s : String} (h : r.text = .ok s) (t : String) :
    r.matchesText t = .ok (decide (s = t)) := by
  obtain ⟨hfault, rfl⟩ := text_eq_ok.mp h
  cases hm : r.matchesText t with
  | error e =>
    rw [(matchesText_eq_error.mp hm).1] at hfault
    contradiction
  | ok answer =>
    have htrue : answer = true ↔ r.written = t := by
      rw [← Except.ok.injEq (ε := ε), ← hm, matchesText_eq_true, and_iff_right hfault]
    rw [Except.ok.injEq, Bool.eq_iff_iff, htrue, decide_eq_true_eq]

theorem matchesText_of_fault {r : Rendering ε} {e : ε} (h : r.fault = some e) (t : String) :
    r.matchesText t = if r.written.toList <+: t.toList then .error e else .ok false := by
  split_ifs with hfront
  · exact matchesText_eq_error.mpr ⟨h, hfront⟩
  · cases hm : r.matchesText t with
    | error e => exact absurd (matchesText_eq_error.mp hm).2 hfront
    | ok answer =>
      cases answer with
      | false => rfl
      | true =>
        rw [(matchesText_eq_true.mp hm).1] at h
        contradiction

theorem matchesText_eq_iff {r s : Rendering ε} :
    (∀ t, r.matchesText t = s.matchesText t) ↔ r.fault = s.fault ∧ r.written = s.written := by
  constructor
  · intro h
    cases hr : r.fault with
    | none =>
      have htrue := (h r.written).symm.trans (matchesText_eq_true.mpr ⟨hr, rfl⟩)
      obtain ⟨hs, hwritten⟩ := matchesText_eq_true.mp htrue
      exact ⟨hs.symm, hwritten.symm⟩
    | some e =>
      -- each of the two stops at what the other has written
      have herror := (h r.written).symm.trans (matchesText_eq_error.mpr ⟨hr, List.prefix_rfl⟩)
      obtain ⟨hs, hfront⟩ := matchesText_eq_error.mp herror
      have herror' := (h s.written).trans (matchesText_eq_error.mpr ⟨hs, List.prefix_rfl⟩)
      have hfront' := (matchesText_eq_error.mp herror').2
      exact ⟨hs.symm, String.toList_inj.mp (hfront'.eq_of_length_le hfront.length_le)⟩
  · rintro ⟨hfault, hwritten⟩ t
    unfold matchesText
    rw [takeOffAll_pieces, takeOffAll_pieces, hfault, hwritten]

end Dimensional.Rendering
