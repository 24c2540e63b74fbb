import Dimensional.Marker.Annotation
import Dimensional.Proofs.Marker.Entries

/-!
# What an annotation says

Of the values that are written for a key the last one counts, whatever stands between them. An annotation
depends on nothing else, so neither the order of different keys nor the commas change it.
-/

namespace Dimensional.Marker

open Outcome

/-- The values that are written for a key, in order. Commas and entries with other keys between them leave
no trace. -/
def values (k : Key) (ws : List (WrittenEntry × Option Bool)) : List WrittenValue :=
  ws.filterMap fun w => if w.1.key = k then some w.1.value else none

/-- The exponent that a value means, or the given one if there is no value. -/
def MeansOr (default : Exponent) : Option WrittenValue → Exponent → Prop
  | none, e => e = default
  | some v, e => v.Means e

/-- The annotation holds what is written last for every key. -/
structure Annotation.Says (a : Annotation) (ws : List (WrittenEntry × Option Bool)) : Prop where
  exponent : ∀ b, MeansOr .zero (values (.slot b) ws).getLast? (a.dimension.exponent b)
  symbol : a.symbol = (values .symbol ws).getLast?.map (·.literal)

variable {k : Key} {ws ws' : List (WrittenEntry × Option Bool)} {es : List Entry}

theorem values_cons_of_key {w : WrittenEntry × Option Bool} (h : w.1.key = k) :
    values k (w :: ws) = w.1.value :: values k ws := by
  rw [values, List.filterMap_cons, if_pos h]
  rfl

theorem values_cons_of_ne {w : WrittenEntry × Option Bool} (h : w.1.key ≠ k) :
    values k (w :: ws) = values k ws := by
  rw [values, List.filterMap_cons, if_neg h]
  rfl

theorem mem_values {v : WrittenValue} :
    v ∈ values k ws ↔ ∃ w ∈ ws, w.1.key = k ∧ w.1.value = v := by
  simp [values]

/-! ## Meanings are unique -/

theorem WrittenValue.Means.unique {v : WrittenValue} {e e' : Exponent} (h : v.Means e)
    (h' : v.Means e') : e = e' := by
  have hread := takeExponent_tokens h []
  rw [takeExponent_tokens h' []] at hread
  cases hread
  rfl

theorem MeansOr.unique {default e e' : Exponent} {v : Option WrittenValue} (h : MeansOr default v e)
    (h' : MeansOr default v e') : e = e' := by
  cases v with
  | none => exact h.trans h'.symm
  | some v => exact WrittenValue.Means.unique h h'

theorem MeansOr.cons {default e e' : Exponent} {v : WrittenValue} {vs : List WrittenValue}
    (hv : v.Means e) (h : MeansOr e vs.getLast? e') : MeansOr default (v :: vs).getLast? e' := by
  rw [List.getLast?_cons]
  cases hlast : vs.getLast? with
  | none =>
    rw [hlast] at h
    cases h
    exact hv
  | some u =>
    rw [hlast] at h
    exact h

theorem WrittenEntry.Means.key {w : WrittenEntry} {e : Entry} (h : w.Means e) : e.key = w.key := by
  cases h with
  | exponent hkey => exact hkey.symm
  | symbol hkey => exact hkey.symm

theorem WrittenEntry.Means.congr {w w' : WrittenEntry} {e : Entry} (h : w.Means e)
    (hkey : w'.key = w.key) (hvalue : w'.value = w.value) : w'.Means e := by
  cases h with
  | exponent hslot hv => exact .exponent (hkey.trans hslot) (hvalue ▸ hv)
  | symbol hsymbol hv hstring => exact .symbol (hkey.trans hsymbol) (hvalue.trans hv) hstring

namespace Annotation

/-! ## One entry -/

variable {w : WrittenEntry} {e : Entry} {b : BaseDimension}

theorem set_exponent_of_ne (a : Annotation) (h : e.key ≠ .slot b) :
    (a.set e).dimension.exponent b = a.dimension.exponent b := by
  cases e with
  | exponent c x =>
    have hne : b ≠ c := by
      rintro rfl
      exact h rfl
    simp [set, hne]
  | symbol l => rfl

theorem set_exponent_of_means (a : Annotation) (h : w.Means e) (hkey : w.key = .slot b) :
    w.value.Means ((a.set e).dimension.exponent b) := by
  obtain ⟨hslot, hv⟩ | ⟨hsymbol, -⟩ := h
  · rw [hkey, Key.slot.injEq] at hslot
    simpa [set, hslot] using hv
  · rw [hkey] at hsymbol
    contradiction

theorem set_symbol_of_ne (a : Annotation) (h : e.key ≠ .symbol) : (a.set e).symbol = a.symbol := by
  cases e with
  | exponent c x => rfl
  | symbol l => exact absurd rfl h

theorem set_symbol_of_means (a : Annotation) (h : w.Means e) (hkey : w.key = .symbol) :
    (a.set e).symbol = some w.value.literal := by
  obtain ⟨hslot, -⟩ | ⟨-, hv, -⟩ := h
  · rw [hkey] at hslot
    contradiction
  · rw [hv]
    rfl

/-! ## All entries -/

theorem foldl_set_exponent (h : List.Forall₂ (fun w e => w.1.Means e) ws es) (a : Annotation)
    (b : BaseDimension) :
    MeansOr (a.dimension.exponent b) (values (.slot b) ws).getLast?
      ((es.foldl set a).dimension.exponent b) := by
  -- `a` is the annotation so far: what it says stands where no later entry has the key
  induction h generalizing a with
  | nil => rfl
  | @cons w e ws es hw _ ih =>
    have ih := ih (a.set e)
    by_cases hkey : w.1.key = .slot b
    · rw [values_cons_of_key hkey]
      exact .cons (set_exponent_of_means a hw hkey) ih
    · rw [values_cons_of_ne hkey]
      rwa [set_exponent_of_ne a (hw.key ▸ hkey)] at ih

theorem foldl_set_symbol (h : List.Forall₂ (fun w e => w.1.Means e) ws es) (a : Annotation) :
    (es.foldl set a).symbol = ((values .symbol ws).getLast?.map (·.literal)).or a.symbol := by
  induction h generalizing a with
  | nil => rfl
  | @cons w e ws es hw _ ih =>
    rw [List.foldl_cons, ih]
    by_cases hkey : w.1.key = .symbol
    · rw [values_cons_of_key hkey, List.getLast?_cons, set_symbol_of_means a hw hkey]
      cases (values .symbol ws).getLast? <;> rfl
    · rw [values_cons_of_ne hkey, set_symbol_of_ne a (hw.key ▸ hkey)]

theorem says_ofEntries (h : List.Forall₂ (fun w e => w.1.Means e) ws es) :
    (ofEntries es).Says ws where
  exponent b := by
    have hzero : ({} : Annotation).dimension.exponent b = .zero := by cases b <;> rfl
    rw [← hzero]
    exact foldl_set_exponent h {} b
  symbol := by
    rw [ofEntries, foldl_set_symbol h]
    exact Option.or_none

theorem Says.unique {a a' : Annotation} (h : a.Says ws) (h' : a'.Says ws) : a = a' := by
  obtain ⟨dimension, symbol⟩ := a
  obtain ⟨dimension', symbol'⟩ := a'
  have hdimension : dimension = dimension' :=
    Dimension.ext_exponent fun b => (h.exponent b).unique (h'.exponent b)
  have hsymbol : symbol = symbol' := h.symbol.trans h'.symbol.symm
  rw [hdimension, hsymbol]

theorem Says.congr {a : Annotation} (h : a.Says ws) (heq : ∀ k, values k ws' = values k ws) :
    a.Says ws' where
  exponent b := by
    rw [heq]
    exact h.exponent b
  symbol := by
    rw [heq]
    exact h.symbol

/-! ## Tokens -/

theorem exists_forall₂_means (h : ∀ w ∈ ws, ∃ e, w.1.Means e) :
    ∃ es, List.Forall₂ (fun w e => w.1.Means e) ws es := by
  induction ws with
  | nil => exact ⟨[], .nil⟩
  | cons w ws ih =>
    rw [List.forall_mem_cons] at h
    obtain ⟨⟨e, he⟩, h⟩ := h
    obtain ⟨es, hes⟩ := ih h
    exact ⟨e :: es, .cons he hes⟩

theorem exists_means_of_forall₂ (h : List.Forall₂ (fun w e => w.1.Means e) ws es) :
    ∀ w ∈ ws, ∃ e, w.1.Means e := by
  induction h with
  | nil => simp
  | cons hw _ ih => exact List.forall_mem_cons.mpr ⟨⟨_, hw⟩, ih⟩

/-- Tokens make an annotation exactly if they write entries that all mean something. -/
theorem ofTokens_eq_ok {tokens : List Token} {a : Annotation} :
    ofTokens tokens = .ok a ↔
      ∃ ws, tokens = writeAll ws ∧ (∀ w ∈ ws, ∃ e, w.1.Means e) ∧ a.Says ws := by
  rw [ofTokens, map_eq_ok]
  constructor
  · rintro ⟨es, h, rfl⟩
    obtain ⟨ws, htokens, hws⟩ := takeEntries_eq_ok.mp h
    exact ⟨ws, htokens, exists_means_of_forall₂ hws, says_ofEntries hws⟩
  · rintro ⟨ws, htokens, hmeans, hsays⟩
    obtain ⟨es, hes⟩ := exists_forall₂_means hmeans
    exact ⟨es, takeEntries_eq_ok.mpr ⟨ws, htokens, hes⟩, (says_ofEntries hes).unique hsays⟩

theorem ofTokens_writeAll_congr {a : Annotation} (h : ofTokens (writeAll ws) = .ok a)
    (heq : ∀ k, values k ws' = values k ws) : ofTokens (writeAll ws') = .ok a := by
  obtain ⟨ws₀, htokens, hmeans, hsays⟩ := ofTokens_eq_ok.mp h
  cases writeAll_injective htokens
  refine ofTokens_eq_ok.mpr ⟨ws', rfl, ?_, hsays.congr heq⟩
  intro w' hw'
  have hvalue : w'.1.value ∈ values w'.1.key ws := by
    rw [← heq]
    exact mem_values.mpr ⟨w', hw', rfl, rfl⟩
  obtain ⟨w, hw, hkey, hv⟩ := mem_values.mp hvalue
  obtain ⟨e, he⟩ := hmeans w hw
  exact ⟨e, he.congr hkey.symm hv.symm⟩

end Annotation

end Dimensional.Marker
