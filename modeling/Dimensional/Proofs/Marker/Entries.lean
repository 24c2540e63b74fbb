import Mathlib.Data.List.Forall2
import Dimensional.Proofs.Marker.Exponent

/-!
# Written entries

The inside of the dimension attribute is read exactly if it is a sequence of written entries that all mean
something, and what is read is what they mean. Otherwise the first entry that cannot be read decides the
error. There is one way to write a sequence of tokens as entries.
-/

namespace Dimensional.Marker

open Outcome

/-! ## Entries -/

/-- An entry as written: its key, whether another mark follows the equals sign at once, and its value. -/
structure WrittenEntry where
  key : Key
  equals : Bool
  value : WrittenValue

namespace WrittenEntry

def tokens (w : WrittenEntry) : List Token :=
  .word w.key.word :: .mark '=' w.equals :: w.value.tokens

/-- The entry that is meant. A symbol is a string without a minus. -/
inductive Means (w : WrittenEntry) : Entry → Prop where
  | exponent {b : BaseDimension} {e : Exponent} (hkey : w.key = .slot b) (h : w.value.Means e) :
    w.Means (.exponent b e)
  | symbol {l : Literal} {text : List Char} (hkey : w.key = .symbol) (hvalue : w.value = ⟨[], l⟩)
    (hstring : l.value = .string text) : w.Means (.symbol l)

end WrittenEntry

theorem ofName?_word (k : Key) : Key.ofName? { text := k.word } = some k := by
  cases k with
  | slot b => cases b <;> decide
  | symbol => decide

theorem ofName?_eq_some {n : Name} {k : Key} : Key.ofName? n = some k ↔ n = { text := k.word } := by
  constructor
  · intro h
    simpa using List.find?_some h
  · rintro rfl
    exact ofName?_word k

theorem takeName_word (k : Key) (rest : List Token) :
    takeName (.word k.word :: rest) = .ok ({ text := k.word }, rest) := by
  have h : Name.isKeyword { text := k.word } = false := by
    cases k with
    | slot b => cases b <;> decide
    | symbol => decide
  simp [takeName, Token.word, h]

theorem skipMarks?_singleton {c : Char} {tokens rest : List Token} :
    skipMarks? [c] tokens = some rest ↔ ∃ joint, tokens = .mark c joint :: rest := by
  constructor
  · intro h
    unfold skipMarks? at h
    split at h <;> simp_all
  · rintro ⟨joint, rfl⟩
    simp [skipMarks?]

theorem takeMarks_equals {tokens rest : List Token} :
    takeMarks "=" tokens = .ok rest ↔ ∃ joint, tokens = .mark '=' joint :: rest := by
  rw [← skipMarks?_singleton]
  unfold takeMarks
  split <;> simp_all

theorem ofLiteral_eq_string {l l' : Literal} {text : List Char} :
    Constant.ofLiteral l = .string text l' ↔ l = l' ∧ l.value = .string text := by
  unfold Constant.ofLiteral
  cases l.value <;> simp [and_comm]

theorem skipConstant?_string {tokens rest : List Token} {text : List Char} {l : Literal} :
    skipConstant? tokens = some (.string text l, rest) ↔
      tokens = .literal l :: rest ∧ l.value = .string text := by
  simp only [skipConstant?_eq_some, ofNegated?_eq_some]
  constructor
  · rintro (⟨l', rfl, h⟩ | ⟨_, _, -, ⟨_, _, -, h⟩ | ⟨-, h⟩⟩ | ⟨_, -, -, h⟩)
    · obtain ⟨rfl, hl⟩ := ofLiteral_eq_string.mp h.symm
      exact ⟨rfl, hl⟩
    all_goals contradiction
  · rintro ⟨rfl, hl⟩
    exact .inl ⟨l, rfl, (ofLiteral_eq_string.mpr ⟨rfl, hl⟩).symm⟩

theorem takeString_eq_ok {tokens rest : List Token} {l : Literal} :
    takeString tokens = .ok (l, rest) ↔
      tokens = .literal l :: rest ∧ ∃ text, l.value = .string text := by
  have hskip : takeString tokens = .ok (l, rest) ↔
      ∃ text, skipConstant? tokens = some (.string text l, rest) := by
    unfold takeString
    split
    next text l' rest' hfound => simp [hfound]
    next hnone =>
      simp only [reduceCtorEq, false_iff]
      rintro ⟨text, h⟩
      exact hnone _ _ _ h
  simp only [hskip, skipConstant?_string, exists_and_left]

theorem takeValue_eq_ok {key : Key} {equals : Bool} {tokens rest : List Token} {e : Entry} :
    takeValue tokens key = .ok (e, rest) ↔
      ∃ v, tokens = v.tokens ++ rest ∧ WrittenEntry.Means ⟨key, equals, v⟩ e := by
  cases key with
  | slot b =>
    simp only [takeValue, map_eq_ok, Prod.exists, Prod.mk.injEq]
    constructor
    · rintro ⟨x, _, h, rfl, rfl⟩
      obtain ⟨v, htokens, hv⟩ := takeExponent_eq_ok.mp h
      exact ⟨v, htokens, .exponent rfl hv⟩
    · rintro ⟨v, htokens, h⟩
      obtain ⟨hkey, hv⟩ | ⟨hkey, -, -⟩ := h
      · cases hkey
        exact ⟨_, rest, takeExponent_eq_ok.mpr ⟨v, htokens, hv⟩, rfl, rfl⟩
      · contradiction
  | symbol =>
    simp only [takeValue, mapError_eq_ok, map_eq_ok, Prod.exists, Prod.mk.injEq, takeString_eq_ok]
    constructor
    · rintro ⟨l, _, ⟨rfl, text, hl⟩, rfl, rfl⟩
      exact ⟨⟨[], l⟩, rfl, .symbol rfl rfl hl⟩
    · rintro ⟨v, rfl, h⟩
      obtain ⟨hkey, -⟩ | ⟨-, hvalue, hl⟩ := h
      · contradiction
      · cases hvalue
        exact ⟨_, rest, ⟨rfl, _, hl⟩, rfl, rfl⟩

theorem takeEntry_word (key : Key) (equals : Bool) (tokens : List Token) :
    takeEntry (.word key.word :: .mark '=' equals :: tokens) = takeValue tokens key := by
  have hequals : takeMarks "=" (.mark '=' equals :: tokens) = .ok tokens :=
    takeMarks_equals.mpr ⟨equals, rfl⟩
  have hname := takeName_word key (.mark '=' equals :: tokens)
  cases h : takeValue tokens key with
  | ok found =>
    simp only [takeEntry, bind_eq_ok, mapError_eq_ok]
    refine ⟨_, hname, _, hequals, ?_⟩
    rw [ofName?_word]
    exact h
  | error err =>
    simp only [takeEntry, bind_eq_error, mapError_eq_ok]
    refine .inr ⟨_, hname, .inr ⟨_, hequals, ?_⟩⟩
    rw [ofName?_word]
    exact h

/-! ## Keys -/

/-- There is no known key with an equals sign because of the token that stands behind `front`. At the end
there is no such token. -/
inductive StopsKey : List Token → Option Token → MarkerError → Prop where
  | noName {t : Option Token} (ht : ∀ n, t ≠ some (.name n)) :
    StopsKey [] t (.entry (.expected ["identifier"] t.isNone))
  | keyword {n : Name} (hn : n.isKeyword) : StopsKey [] (some (.name n)) (.entry (.keyword n.text))
  | noEquals {n : Name} {t : Option Token} (hn : n.isKeyword = false)
      (ht : ∀ joint, t ≠ some (.mark '=' joint)) :
    StopsKey [.name n] t (.entry (.expected ["`=`"] false))
  | unknownKey {n : Name} {joint : Bool} (hn : n.isKeyword = false) (hkey : ∀ k : Key, n ≠ { text := k.word }) :
    StopsKey [.name n] (some (.mark '=' joint)) (.unknownKey n)

theorem notFound_eq (wanted : List String) (tokens : List Token) :
    notFound wanted tokens = .expected wanted tokens.head?.isNone := by
  cases tokens <;> rfl

theorem takeName_of_not_isKeyword {n : Name} (h : n.isKeyword = false) (rest : List Token) :
    takeName (.name n :: rest) = .ok (n, rest) := by
  rw [takeName, h]
  rfl

theorem takeMarks_of_not_equals {rest : List Token} (h : ∀ joint, rest.head? ≠ some (.mark '=' joint)) :
    takeMarks "=" rest = .error (.expected ["`=`"] false) := by
  cases hmarks : takeMarks "=" rest with
  | ok after =>
    obtain ⟨joint, rfl⟩ := takeMarks_equals.mp hmarks
    exact absurd rfl (h joint)
  | error c =>
    unfold takeMarks at hmarks
    split at hmarks
    · contradiction
    · cases hmarks
      rfl

theorem takeEntry_of_stopsKey {front rest : List Token} {err : MarkerError}
    (h : StopsKey front rest.head? err) : takeEntry (front ++ rest) = .error err := by
  simp only [takeEntry, bind_eq_error, mapError_eq_ok, mapError_eq_error]
  generalize ht : rest.head? = t at h
  cases h with
  | noName hname =>
    subst ht
    left
    refine ⟨_, ?_, rfl⟩
    rw [← notFound_eq]
    cases rest with
    | nil => rfl
    | cons u rest =>
      cases u with
      | name n => exact absurd rfl (hname n)
      | _ => rfl
  | keyword hn =>
    obtain ⟨rest, rfl⟩ := List.head?_eq_some_iff.mp ht
    exact .inl ⟨_, if_pos hn, rfl⟩
  | noEquals hn hequals =>
    subst ht
    exact .inr ⟨_, takeName_of_not_isKeyword hn rest, .inl ⟨_, takeMarks_of_not_equals hequals, rfl⟩⟩
  | unknownKey hn hkey =>
    obtain ⟨rest, rfl⟩ := List.head?_eq_some_iff.mp ht
    have hnone : Key.ofName? _ = none :=
      Option.eq_none_iff_forall_ne_some.mpr fun k hk => hkey k (ofName?_eq_some.mp hk)
    refine .inr ⟨_, takeName_of_not_isKeyword hn _, .inr ⟨_, takeMarks_equals.mpr ⟨_, rfl⟩, ?_⟩⟩
    rw [hnone]
    rfl

theorem takeEntry_cases (tokens : List Token) :
    (∃ (key : Key) (equals : Bool) (rest : List Token), tokens = .word key.word :: .mark '=' equals :: rest) ∨
      ∃ front rest err, tokens = front ++ rest ∧ StopsKey front rest.head? err := by
  by_cases hname : ∃ n, tokens.head? = some (.name n)
  · obtain ⟨n, hn⟩ := hname
    obtain ⟨rest, rfl⟩ := List.head?_eq_some_iff.mp hn
    cases hkeyword : n.isKeyword with
    | true => exact .inr ⟨[], _, _, rfl, .keyword hkeyword⟩
    | false =>
      by_cases hequals : ∃ joint, rest.head? = some (.mark '=' joint)
      · obtain ⟨joint, hjoint⟩ := hequals
        obtain ⟨after, rfl⟩ := List.head?_eq_some_iff.mp hjoint
        by_cases hkey : ∃ k : Key, n = { text := k.word }
        · obtain ⟨k, rfl⟩ := hkey
          exact .inl ⟨k, joint, after, rfl⟩
        · exact .inr ⟨[_], _, _, rfl, .unknownKey hkeyword (not_exists.mp hkey)⟩
      · exact .inr ⟨[_], _, _, rfl, .noEquals hkeyword (not_exists.mp hequals)⟩
  · exact .inr ⟨[], _, _, rfl, .noName (not_exists.mp hname)⟩

/-! ## Whole entries -/

theorem takeEntry_eq_ok {tokens rest : List Token} {e : Entry} :
    takeEntry tokens = .ok (e, rest) ↔ ∃ w : WrittenEntry, tokens = w.tokens ++ rest ∧ w.Means e := by
  constructor
  · intro h
    obtain ⟨key, equals, after, rfl⟩ | ⟨front, after, err, rfl, hstops⟩ := takeEntry_cases tokens
    · rw [takeEntry_word] at h
      obtain ⟨v, rfl, hv⟩ := takeValue_eq_ok.mp h
      exact ⟨⟨key, equals, v⟩, rfl, hv⟩
    · rw [takeEntry_of_stopsKey hstops] at h
      contradiction
  · rintro ⟨⟨key, equals, v⟩, rfl, hw⟩
    exact (takeEntry_word key equals _).trans (takeValue_eq_ok.mpr ⟨v, rfl, hw⟩)

/-! ## Sequences of entries -/

/-- A comma, perhaps, and whether another mark follows it at once. -/
def commaTokens (comma : Option Bool) : List Token :=
  (comma.map (.mark ',')).toList

/-- Entries one after the other, each with at most one comma behind it. -/
def writeAll : List (WrittenEntry × Option Bool) → List Token
  | [] => []
  | (w, comma) :: ws => w.tokens ++ commaTokens comma ++ writeAll ws

/-- The last entry has a comma, or the rest does not start with one. -/
def TakesComma (ws : List (WrittenEntry × Option Bool)) (rest : List Token) : Prop :=
  ∀ w ∈ ws.getLast?, w.2 = none → skipComma rest = rest

section Commas

variable {w : WrittenEntry × Option Bool} {ws : List (WrittenEntry × Option Bool)} {rest : List Token}

theorem takesComma_of_skipComma (h : skipComma rest = rest) : TakesComma ws rest :=
  fun _ _ _ => h

theorem TakesComma.tail (h : TakesComma (w :: ws) rest) : TakesComma ws rest := by
  intro u hu
  apply h u
  rw [List.getLast?_cons, Option.mem_def.mp hu]
  rfl

theorem TakesComma.cons (h : TakesComma ws rest) (hnil : ws = [] → w.2 = none → skipComma rest = rest) :
    TakesComma (w :: ws) rest := by
  cases ws with
  | nil =>
    intro u hu
    cases hu
    exact hnil rfl
  | cons v ws =>
    intro u hu
    rw [List.getLast?_cons_cons] at hu
    exact h u hu

theorem skipComma_writeAll_append (h : TakesComma (w :: ws) rest) :
    skipComma (commaTokens w.2 ++ (writeAll ws ++ rest)) = writeAll ws ++ rest := by
  cases hcomma : w.2 with
  | some joint => rfl
  | none =>
    cases ws with
    | nil => exact h w rfl hcomma
    | cons => rfl

theorem skipComma_writeAll (w : WrittenEntry × Option Bool) (ws : List (WrittenEntry × Option Bool)) :
    skipComma (commaTokens w.2 ++ writeAll ws) = writeAll ws := by
  have h : TakesComma (w :: ws) [] := takesComma_of_skipComma rfl
  rw [← List.append_nil (writeAll ws), skipComma_writeAll_append h]

end Commas

theorem exists_commaTokens (tokens : List Token) :
    ∃ comma, tokens = commaTokens comma ++ skipComma tokens := by
  unfold skipComma
  split
  case h_1 joint rest => exact ⟨some joint, rfl⟩
  case h_2 => exact ⟨none, rfl⟩

theorem takeEntries_of_ok {tokens rest : List Token} {e : Entry} (h : takeEntry tokens = .ok (e, rest)) :
    takeEntries tokens = (takeEntries (skipComma rest)).map (e :: ·) := by
  have hne : tokens ≠ [] := by
    rintro rfl
    contradiction
  rw [takeEntries, if_neg (by simpa using hne)]
  split
  next herror =>
    rw [h] at herror
    contradiction
  next hok =>
    rw [h] at hok
    cases hok
    rfl

theorem takeEntries_of_error {tokens : List Token} {err : MarkerError} (hne : tokens ≠ [])
    (h : takeEntry tokens = .error err) : takeEntries tokens = .error err := by
  rw [takeEntries, if_neg (by simpa using hne)]
  split
  next herror =>
    rw [h] at herror
    cases herror
    rfl
  next hok =>
    rw [h] at hok
    contradiction

theorem takeEntries_append {ws : List (WrittenEntry × Option Bool)} {es : List Entry} {rest : List Token}
    (h : List.Forall₂ (fun w e => w.1.Means e) ws es) (hrest : TakesComma ws rest) :
    takeEntries (writeAll ws ++ rest) = (takeEntries rest).map (es ++ ·) := by
  induction h with
  | nil => cases h : takeEntries rest <;> simp [writeAll, h, Except.map]
  | @cons w e ws es hw _ ih =>
    have hentry : takeEntry (writeAll (w :: ws) ++ rest) =
        .ok (e, commaTokens w.2 ++ (writeAll ws ++ rest)) :=
      takeEntry_eq_ok.mpr ⟨w.1, by simp [writeAll], hw⟩
    rw [takeEntries_of_ok hentry, skipComma_writeAll_append hrest, ih hrest.tail]
    cases takeEntries rest <;> rfl

/-- The entries of some tokens are what these write, read one by one. -/
theorem takeEntries_eq_ok {tokens : List Token} {es : List Entry} :
    takeEntries tokens = .ok es ↔
      ∃ ws, tokens = writeAll ws ∧ List.Forall₂ (fun w e => w.1.Means e) ws es := by
  constructor
  · intro h
    fun_induction takeEntries tokens generalizing es with
    | case1 tokens hempty =>
      cases h
      exact ⟨[], List.isEmpty_iff.mp hempty, .nil⟩
    | case2 => contradiction
    | case3 tokens hempty entry rest hentry ih =>
      obtain ⟨es', h', rfl⟩ := map_eq_ok.mp h
      obtain ⟨ws, hrest, hws⟩ := ih h'
      obtain ⟨w, rfl, hw⟩ := takeEntry_eq_ok.mp hentry
      obtain ⟨comma, hcomma⟩ := exists_commaTokens rest
      refine ⟨(w, comma) :: ws, ?_, .cons hw hws⟩
      rw [writeAll, List.append_assoc, ← hrest, ← hcomma]
  · rintro ⟨ws, rfl, h⟩
    have hnil : takeEntries [] = .ok [] := by rw [takeEntries]; rfl
    rw [← List.append_nil (writeAll ws), takeEntries_append h (takesComma_of_skipComma rfl),
      hnil, Except.map, List.append_nil]

/-- The error is that of the first entry that cannot be read. -/
theorem exists_of_takeEntries_eq_error {tokens : List Token} {err : MarkerError}
    (h : takeEntries tokens = .error err) :
    ∃ ws rest, tokens = writeAll ws ++ rest ∧ (∀ w ∈ ws, ∃ e, w.1.Means e) ∧ TakesComma ws rest ∧
      rest ≠ [] ∧ takeEntry rest = .error err := by
  fun_induction takeEntries tokens with
  | case1 => contradiction
  | case2 tokens hempty err' hentry =>
    cases h
    exact ⟨[], tokens, rfl, nofun, nofun, by simpa using hempty, hentry⟩
  | case3 tokens hempty entry rest hentry ih =>
    obtain ⟨ws, rest', hrest, hws, htakes, herror⟩ := ih (map_eq_error.mp h)
    obtain ⟨w, rfl, hw⟩ := takeEntry_eq_ok.mp hentry
    obtain ⟨comma, hcomma⟩ := exists_commaTokens rest
    refine ⟨(w, comma) :: ws, rest', ?_, List.forall_mem_cons.mpr ⟨⟨entry, hw⟩, hws⟩, ?_, herror⟩
    · rw [writeAll, List.append_assoc, List.append_assoc, ← hrest, ← hcomma]
    · apply htakes.cons
      rintro rfl rfl
      rw [← (show skipComma rest = rest' from hrest), ← (show rest = skipComma rest from hcomma)]
      exact hcomma.symm

/-! ## Writing is unique -/

theorem WrittenValue.append_inj {v v' : WrittenValue} {rest rest' : List Token}
    (h : v.tokens ++ rest = v'.tokens ++ rest') : v = v' ∧ rest = rest' := by
  obtain ⟨minuses, l⟩ := v
  obtain ⟨minuses', l'⟩ := v'
  induction minuses generalizing minuses' with
  | nil => cases minuses' <;> simp_all [tokens]
  | cons joint minuses ih =>
    cases minuses' with
    | nil => simp [tokens] at h
    | cons joint' minuses' =>
      obtain ⟨hjoint, h⟩ := List.cons.inj h
      cases hjoint
      obtain ⟨hv, hrest⟩ := ih minuses' h
      cases hv
      exact ⟨rfl, hrest⟩

theorem WrittenEntry.append_inj {w w' : WrittenEntry} {rest rest' : List Token}
    (h : w.tokens ++ rest = w'.tokens ++ rest') : w = w' ∧ rest = rest' := by
  obtain ⟨key, equals, value⟩ := w
  obtain ⟨key', equals', value'⟩ := w'
  obtain ⟨hword, h⟩ := List.cons.inj h
  obtain ⟨hequals, h⟩ := List.cons.inj h
  obtain ⟨rfl, hrest⟩ := WrittenValue.append_inj h
  have hkey : some key = some key' := by
    rw [← ofName?_word key, ← ofName?_word key', Token.name.inj hword]
  cases hkey
  cases hequals
  exact ⟨rfl, hrest⟩

theorem commaTokens_injective : Function.Injective commaTokens := by
  intro comma comma' h
  cases comma <;> cases comma' <;> simp_all [commaTokens]

theorem writeAll_injective : Function.Injective writeAll := by
  intro ws ws' h
  induction ws generalizing ws' with
  | nil =>
    cases ws' with
    | nil => rfl
    | cons => contradiction
  | cons w ws ih =>
    cases ws' with
    | nil => contradiction
    | cons w' ws' =>
      rw [writeAll, writeAll, List.append_assoc, List.append_assoc] at h
      obtain ⟨hw, h⟩ := WrittenEntry.append_inj h
      have hws : writeAll ws = writeAll ws' := by
        rw [← skipComma_writeAll w ws, h, skipComma_writeAll]
      rw [hws, List.append_left_inj] at h
      exact congrArg₂ _ (Prod.ext hw (commaTokens_injective h)) (ih hws)

end Dimensional.Marker
