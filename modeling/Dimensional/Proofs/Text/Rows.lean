import Dimensional.Proofs.Text.Runs

/-!
# Rows of items

Items with a separator between them can be told apart if none of them is empty or holds the character
with which the separator starts.
-/

namespace Dimensional.Text

/-! ## Lists of characters -/

theorem intercalate_cons {α : Type} (sep item : List α) (items : List (List α)) :
    sep.intercalate (item :: items) = item ++ items.flatMap (sep ++ ·) := by
  induction items generalizing item with
  | nil => simp
  | cons next items ih =>
    rw [List.intercalate_cons_cons, ih, List.flatMap_cons, List.append_assoc, List.append_assoc]

variable {c : Char} {sep item item' : List Char} {items items' : List (List Char)}

theorem stops_flatMap : Stops (· ≠ c) (items.flatMap (c :: sep ++ ·)) := by
  cases items with
  | nil => exact stops_nil
  | cons => exact stops_cons (by simp)

theorem append_flatMap_inj (h : c ∉ item) (h' : c ∉ item')
    (heq : item ++ items.flatMap (c :: sep ++ ·) = item' ++ items'.flatMap (c :: sep ++ ·)) :
    item = item' ∧ items.flatMap (c :: sep ++ ·) = items'.flatMap (c :: sep ++ ·) :=
  before_inj h h' stops_flatMap stops_flatMap heq

theorem flatMap_inj (h : ∀ item ∈ items, c ∉ item) (h' : ∀ item ∈ items', c ∉ item)
    (heq : items.flatMap (c :: sep ++ ·) = items'.flatMap (c :: sep ++ ·)) : items = items' := by
  induction items generalizing items' with
  | nil =>
    cases items' with
    | nil => rfl
    | cons => simp at heq
  | cons item items ih =>
    cases items' with
    | nil => simp at heq
    | cons item' items' =>
      rw [List.forall_mem_cons] at h h'
      rw [List.flatMap_cons, List.flatMap_cons, List.append_assoc, List.append_assoc,
        List.append_cancel_left_eq] at heq
      obtain ⟨rfl, hrest⟩ := append_flatMap_inj h.1 h'.1 heq
      rw [ih h.2 h'.2 hrest]

theorem intercalate_inj (h : ∀ item ∈ items, item ≠ [] ∧ c ∉ item)
    (h' : ∀ item ∈ items', item ≠ [] ∧ c ∉ item)
    (heq : (c :: sep).intercalate items = (c :: sep).intercalate items') : items = items' := by
  cases items with
  | nil =>
    cases items' with
    | nil => rfl
    | cons item' items' =>
      rw [intercalate_cons, List.intercalate_nil, eq_comm, List.append_eq_nil_iff] at heq
      exact absurd heq.1 (h' item' List.mem_cons_self).1
  | cons item items =>
    cases items' with
    | nil =>
      rw [intercalate_cons, List.intercalate_nil, List.append_eq_nil_iff] at heq
      exact absurd heq.1 (h item List.mem_cons_self).1
    | cons item' items' =>
      rw [List.forall_mem_cons] at h h'
      rw [intercalate_cons, intercalate_cons] at heq
      obtain ⟨rfl, hrest⟩ := append_flatMap_inj h.1.2 h'.1.2 heq
      have hitems := flatMap_inj (fun i hi => (h.2 i hi).2) (fun i hi => (h'.2 i hi).2) hrest
      rw [hitems]

/-! ## Texts -/

/-- The text is not empty and does not hold the character. -/
def IsItem (c : Char) (s : String) : Prop := s ≠ "" ∧ c ∉ s.toList

theorem row_inj {c : Char} {cs : List Char} {sep : String} (hsep : sep.toList = c :: cs)
    {items items' : List String} (h : ∀ s ∈ items, IsItem c s) (h' : ∀ s ∈ items', IsItem c s)
    (heq : sep.intercalate items = sep.intercalate items') : items = items' := by
  have htoList {items : List String} (h : ∀ s ∈ items, IsItem c s) :
      ∀ item ∈ items.map String.toList, item ≠ [] ∧ c ∉ item := by
    intro item hitem
    obtain ⟨s, hs, rfl⟩ := List.mem_map.mp hitem
    exact ⟨fun hnil => (h s hs).1 (String.toList_eq_nil_iff.mp hnil), (h s hs).2⟩
  rw [← String.toList_inj, String.toList_intercalate, String.toList_intercalate, hsep] at heq
  have hmap := intercalate_inj (htoList h) (htoList h') heq
  exact (List.map_inj_right fun _ _ => String.toList_injective).mp hmap

theorem row_map_inj {α : Type} {c : Char} {cs : List Char} {sep : String} (hsep : sep.toList = c :: cs)
    {f g : α → String} {xs ys : List α} (hf : ∀ x, IsItem c (f x)) (hg : ∀ y, IsItem c (g y))
    (heq : sep.intercalate (xs.map f) = sep.intercalate (ys.map g)) : xs.map f = ys.map g :=
  row_inj hsep (List.forall_mem_map.mpr fun x _ => hf x) (List.forall_mem_map.mpr fun y _ => hg y) heq

end Dimensional.Text
