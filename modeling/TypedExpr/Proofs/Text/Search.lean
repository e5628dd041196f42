import TypedExpr.Text.Search

/-! Searching a list for a list, and a text for a text by its UTF-8 bytes: a needle occurs in the
bytes only where a character starts, so the byte search is the character search
(`Text.find?_utf8`). -/

namespace TypedExpr.Text

/-- The needle occurs at index `k`: the elements `k` to `k + m - 1` of the text, `m` being the
length of the needle, are the needle. -/
def OccursAt {α : Type} (needle hay : List α) (k : Nat) : Prop :=
  k + needle.length ≤ hay.length ∧ hay.extract k (k + needle.length) = needle

/-- `k` is the least index at which the needle occurs. -/
def IsFirst {α : Type} (needle hay : List α) (k : Nat) : Prop :=
  OccursAt needle hay k ∧ ∀ l < k, ¬OccursAt needle hay l

section Occurrence

variable {α : Type} {needle hay : List α}

theorem occursAt_iff_prefix_drop {k : Nat} :
    OccursAt needle hay k ↔ k ≤ hay.length ∧ needle <+: hay.drop k := by
  simp only [OccursAt, List.extract_eq_take_drop, Nat.add_sub_cancel_left]
  constructor
  · rintro ⟨hl, h⟩
    exact ⟨by omega, h ▸ List.take_prefix _ _⟩
  · rintro ⟨hk, h⟩
    have hl := h.length_le
    rw [List.length_drop] at hl
    exact ⟨by omega, (List.prefix_iff_eq_take.mp h).symm⟩

theorem occursAt_zero : OccursAt needle hay 0 ↔ needle <+: hay := by
  simp [occursAt_iff_prefix_drop]

theorem occursAt_succ {c : α} {k : Nat} :
    OccursAt needle (c :: hay) (k + 1) ↔ OccursAt needle hay k := by
  simp [occursAt_iff_prefix_drop]

theorem occursAt_nil {k : Nat} : OccursAt needle [] k ↔ k = 0 ∧ needle = [] := by
  simp [occursAt_iff_prefix_drop]

theorem isFirst_succ {c : α} (h : ¬needle <+: c :: hay) {k : Nat} :
    IsFirst needle (c :: hay) (k + 1) ↔ IsFirst needle hay k := by
  unfold IsFirst
  rw [occursAt_succ]
  refine and_congr_right fun _ => ⟨fun hl l hlk => ?_, fun hl l hlk => ?_⟩
  · rw [← occursAt_succ (c := c)]
    exact hl (l + 1) (by omega)
  · cases l with
    | zero => exact fun h0 => h (occursAt_zero.mp h0)
    | succ l =>
      rw [occursAt_succ]
      exact hl l (by omega)

theorem isFirst_unique {k l : Nat} (hk : IsFirst needle hay k) (hl : IsFirst needle hay l) :
    k = l := by
  rcases Nat.lt_trichotomy k l with h | h | h
  · exact absurd hk.1 (hl.2 k h)
  · exact h
  · exact absurd hl.1 (hk.2 l h)

variable [BEq α]

theorem find?_nil_needle : find? ([] : List α) hay = some 0 := by
  cases hay <;> rfl

variable [LawfulBEq α]

theorem findFrom_spec (i : Nat) :
    (∀ j, findFrom needle hay i = some j → ∃ k, j = i + k ∧ IsFirst needle hay k) ∧
      (findFrom needle hay i = none → ∀ k, ¬OccursAt needle hay k) := by
  induction hay generalizing i with
  | nil =>
    cases needle with
    | nil =>
      refine ⟨fun j h => ⟨0, ?_, ?_⟩, fun h => by simp [findFrom] at h⟩
      · simp only [findFrom, List.isEmpty_nil, if_true, Option.some.injEq] at h
        omega
      · exact ⟨occursAt_nil.mpr ⟨rfl, rfl⟩, fun l hl => absurd hl (Nat.not_lt_zero l)⟩
    | cons d ds =>
      refine ⟨fun j h => by simp [findFrom] at h, fun _ k hk => ?_⟩
      exact List.cons_ne_nil d ds (occursAt_nil.mp hk).2
  | cons c rest ih =>
    by_cases hp : needle <+: c :: rest
    · have hf : findFrom needle (c :: rest) i = some i := by
        simp [findFrom, List.isPrefixOf_iff_prefix.mpr hp]
      refine ⟨fun j h => ⟨0, ?_, occursAt_zero.mpr hp, fun l hl => absurd hl (Nat.not_lt_zero l)⟩,
        fun h => by rw [hf] at h; cases h⟩
      rw [hf] at h
      cases h
      rfl
    · have hf : findFrom needle (c :: rest) i = findFrom needle rest (i + 1) := by
        have hp' : needle.isPrefixOf (c :: rest) = false := by
          rw [Bool.eq_false_iff]
          exact fun h => hp (List.isPrefixOf_iff_prefix.mp h)
        simp [findFrom, hp']
      obtain ⟨hsome, hnone⟩ := ih (i + 1)
      rw [hf]
      refine ⟨fun j h => ?_, fun h k hk => ?_⟩
      · obtain ⟨k, rfl, hk⟩ := hsome j h
        exact ⟨k + 1, by omega, (isFirst_succ hp).mpr hk⟩
      · cases k with
        | zero => exact hp (occursAt_zero.mp hk)
        | succ k => exact hnone h k (occursAt_succ.mp hk)

theorem find?_eq_some_iff {k : Nat} : find? needle hay = some k ↔ IsFirst needle hay k := by
  constructor
  · intro h
    obtain ⟨l, rfl, hl⟩ := (findFrom_spec 0).1 k h
    rwa [Nat.zero_add]
  · intro hk
    cases h : find? needle hay with
    | none => exact absurd hk.1 ((findFrom_spec 0).2 h k)
    | some j =>
      obtain ⟨l, rfl, hl⟩ := (findFrom_spec 0).1 j h
      rw [Nat.zero_add, isFirst_unique hl hk]

theorem find?_eq_none_iff : find? needle hay = none ↔ ∀ k, ¬OccursAt needle hay k := by
  refine ⟨(findFrom_spec 0).2, fun h => ?_⟩
  cases hf : find? needle hay with
  | none => rfl
  | some k => exact absurd (find?_eq_some_iff.mp hf).1 (h k)

theorem occurs_iff : occurs needle hay = true ↔ ∃ k, OccursAt needle hay k := by
  unfold occurs
  cases hf : find? needle hay with
  | none => simpa using find?_eq_none_iff.mp hf
  | some k => simpa using ⟨k, (find?_eq_some_iff.mp hf).1⟩

end Occurrence

section Utf8

def utf8 (cs : List Char) : List UInt8 := cs.flatMap String.utf8EncodeChar

@[simp] theorem utf8_nil : utf8 [] = [] := rfl

@[simp] theorem utf8_cons (c : Char) (cs : List Char) :
    utf8 (c :: cs) = String.utf8EncodeChar c ++ utf8 cs :=
  List.flatMap_cons

@[simp] theorem utf8_append (xs ys : List Char) : utf8 (xs ++ ys) = utf8 xs ++ utf8 ys :=
  List.flatMap_append

theorem bytes_eq_utf8 (s : String) : bytes s = utf8 s.toList := by
  conv => lhs; rw [← String.ofList_toList (s := s)]
  rw [bytes, String.toUTF8_eq_toByteArray, String.toByteArray_ofList, List.utf8Encode,
    List.data_toByteArray, List.toList_toArray]
  rfl

theorem utf8_eq_nil {cs : List Char} : utf8 cs = [] ↔ cs = [] := by
  cases cs with
  | nil => exact iff_of_true rfl rfl
  | cons c cs => simp

theorem utf8_prefix_utf8 {xs ys : List Char} (h : xs <+: ys) : utf8 xs <+: utf8 ys := by
  obtain ⟨u, rfl⟩ := h
  exact ⟨utf8 u, (utf8_append xs u).symm⟩

theorem prefix_of_utf8 {xs ys : List Char} (h : utf8 xs <+: utf8 ys) : xs <+: ys := by
  obtain ⟨u, hu⟩ := h
  refine List.isPrefix_of_utf8Encode_append_eq_utf8Encode u.toByteArray ?_
  rw [List.utf8Encode, List.utf8Encode, ← List.toByteArray_append]
  exact congrArg List.toByteArray hu

theorem utf8EncodeChar_eq_cons (c : Char) :
    ∃ b bs, String.utf8EncodeChar c = b :: bs ∧ b.IsUTF8FirstByte ∧
      ∀ x ∈ bs, ¬x.IsUTF8FirstByte := by
  obtain ⟨b, bs, e⟩ := List.exists_cons_of_ne_nil (String.utf8EncodeChar_ne_nil (c := c))
  refine ⟨b, bs, e, ?_, fun x hx => ?_⟩
  · have h0 := (@UInt8.isUTF8FirstByte_getElem_utf8EncodeChar c 0 (by simp [e])).mpr rfl
    simpa only [e, List.getElem_cons_zero] using h0
  · obtain ⟨j, hj, rfl⟩ := List.getElem_of_mem hx
    have hj' := @UInt8.isUTF8FirstByte_getElem_utf8EncodeChar c (j + 1) (by simp [e]; omega)
    simp only [e, List.getElem_cons_succ] at hj'
    exact fun h => Nat.succ_ne_zero j (hj'.mp h)

theorem countP_utf8EncodeChar (c : Char) :
    (String.utf8EncodeChar c).countP (fun b => decide b.IsUTF8FirstByte) = 1 := by
  obtain ⟨b, bs, e, hb, hbs⟩ := utf8EncodeChar_eq_cons c
  rw [e, List.countP_cons, List.countP_eq_zero.mpr fun x hx => by simpa using hbs x hx]
  simp [hb]

theorem charCount_utf8 (cs : List Char) : charCount (utf8 cs) = cs.length := by
  induction cs with
  | nil => rfl
  | cons c cs ih =>
    rw [utf8_cons, charCount, List.countP_append, countP_utf8EncodeChar]
    rw [charCount] at ih
    rw [ih, List.length_cons, Nat.add_comm]

theorem not_prefix_inside {c d : Char} {rest tail : List UInt8} {b : Nat} (h0 : 0 < b)
    (hb : b < (String.utf8EncodeChar c).length) :
    ¬String.utf8EncodeChar d ++ tail <+: (String.utf8EncodeChar c ++ rest).drop b := by
  obtain ⟨u, us, eu, hu, -⟩ := utf8EncodeChar_eq_cons d
  obtain ⟨v, vs, ev, -, hvs⟩ := utf8EncodeChar_eq_cons c
  obtain ⟨b, rfl⟩ : ∃ b', b = b' + 1 := ⟨b - 1, by omega⟩
  rw [ev, List.length_cons] at hb
  -- the byte at `b + 1` is one of the bytes after the first
  rw [eu, ev, List.cons_append, List.cons_append, List.drop_succ_cons,
    List.drop_append_of_le_length (by omega), List.drop_eq_getElem_cons (by omega),
    List.cons_append, List.cons_prefix_cons]
  rintro ⟨rfl, -⟩
  exact hvs _ (List.getElem_mem _) hu

theorem exists_of_utf8_prefix_drop {n : List Char} (hn : n ≠ []) :
    ∀ {s : List Char} {b : Nat}, b ≤ (utf8 s).length → utf8 n <+: (utf8 s).drop b →
      ∃ k ≤ s.length, b = (utf8 (s.take k)).length ∧ n <+: s.drop k
  | [], b, hb, h => by
    rw [utf8_nil, List.drop_nil, List.prefix_nil, utf8_eq_nil] at h
    exact absurd h hn
  | c :: s, b, hb, h => by
    by_cases h0 : b = 0
    · subst h0
      exact ⟨0, Nat.zero_le _, rfl, prefix_of_utf8 h⟩
    by_cases hin : b < (String.utf8EncodeChar c).length
    · obtain ⟨d, n', rfl⟩ := List.exists_cons_of_ne_nil hn
      rw [utf8_cons, utf8_cons] at h
      exact absurd h (not_prefix_inside (Nat.pos_of_ne_zero h0) hin)
    · -- the needle begins past the first character
      have hw := String.length_utf8EncodeChar c
      rw [utf8_cons, List.length_append] at hb
      rw [utf8_cons, List.drop_append, List.drop_eq_nil_of_le (Nat.le_of_not_lt hin),
        List.nil_append] at h
      obtain ⟨k, hk, hbk, hp⟩ := exists_of_utf8_prefix_drop hn (by omega) h
      refine ⟨k + 1, by simp only [List.length_cons]; omega, ?_, by simpa using hp⟩
      rw [List.take_succ_cons, utf8_cons, List.length_append, ← hbk]
      omega

theorem utf8_eq_take_append_drop (s : List Char) (k : Nat) :
    utf8 s = utf8 (s.take k) ++ utf8 (s.drop k) := by
  rw [← utf8_append, List.take_append_drop]

variable {n s : List Char}

theorem occursAt_of_utf8 (hn : n ≠ []) {b : Nat} (h : OccursAt (utf8 n) (utf8 s) b) :
    ∃ k, b = (utf8 (s.take k)).length ∧ OccursAt n s k := by
  obtain ⟨hb, hp⟩ := occursAt_iff_prefix_drop.mp h
  obtain ⟨k, hk, rfl, hk'⟩ := exists_of_utf8_prefix_drop hn hb hp
  exact ⟨k, rfl, occursAt_iff_prefix_drop.mpr ⟨hk, hk'⟩⟩

theorem utf8_occursAt {k : Nat} (h : OccursAt n s k) :
    OccursAt (utf8 n) (utf8 s) (utf8 (s.take k)).length := by
  obtain ⟨hk, hp⟩ := occursAt_iff_prefix_drop.mp h
  refine occursAt_iff_prefix_drop.mpr ⟨?_, ?_⟩
  · rw [utf8_eq_take_append_drop s k, List.length_append]
    exact Nat.le_add_right _ _
  · rw [utf8_eq_take_append_drop s k, List.drop_left' rfl]
    exact utf8_prefix_utf8 hp

theorem length_utf8_take_le {k l : Nat} (h : k ≤ l) :
    (utf8 (s.take k)).length ≤ (utf8 (s.take l)).length :=
  (utf8_prefix_utf8 (List.take_prefix_take_left h)).length_le

theorem isFirst_utf8 (hn : n ≠ []) {k : Nat} (h : IsFirst n s k) :
    IsFirst (utf8 n) (utf8 s) (utf8 (s.take k)).length := by
  refine ⟨utf8_occursAt h.1, fun b hb hocc => ?_⟩
  obtain ⟨k', rfl, hk'⟩ := occursAt_of_utf8 hn hocc
  -- an occurrence at a character before `k` would be one
  have hlt : k' < k := Nat.lt_of_not_le fun hle => Nat.not_le.mpr hb (length_utf8_take_le hle)
  exact h.2 k' hlt hk'

theorem find?_utf8 (n s : List Char) :
    (find? (utf8 n) (utf8 s)).map (fun b => charCount ((utf8 s).take b)) = find? n s := by
  by_cases hn : n = []
  · subst hn
    rw [utf8_nil, find?_nil_needle, find?_nil_needle]
    rfl
  cases hf : find? n s with
  | none =>
    have hnone : ∀ b, ¬OccursAt (utf8 n) (utf8 s) b := fun b hb => by
      obtain ⟨k, -, hk⟩ := occursAt_of_utf8 hn hb
      exact find?_eq_none_iff.mp hf k hk
    rw [find?_eq_none_iff.mpr hnone]
    rfl
  | some k =>
    have hk := find?_eq_some_iff.mp hf
    have hlen : k ≤ s.length := by
      have := hk.1.1
      omega
    -- the bytes before the occurrence are those of the characters before it
    have htake : (utf8 s).take (utf8 (s.take k)).length = utf8 (s.take k) := by
      rw [utf8_eq_take_append_drop s k, List.take_left' rfl]
    rw [find?_eq_some_iff.mpr (isFirst_utf8 hn hk), Option.map_some, htake, charCount_utf8,
      List.length_take, Nat.min_eq_left hlen]

theorem occurs_utf8 (n s : List Char) : occurs (utf8 n) (utf8 s) = occurs n s := by
  rw [occurs, occurs, ← find?_utf8, Option.isSome_map]

end Utf8

end TypedExpr.Text
