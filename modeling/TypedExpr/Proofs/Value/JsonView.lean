import TypedExpr.Proofs.Eval.Equality

/-! Values and JSON documents, read into each other: the two readings are inverse on what both can
hold, and reading a document builds maps that hold each key once. -/

namespace TypedExpr

namespace Json

@[elab_as_elim]
theorem induction {P : Json → Prop} (null : P .null) (bool : ∀ b, P (.bool b))
    (num : ∀ n, P (.num n)) (str : ∀ s, P (.str s))
    (arr : ∀ items, (∀ j ∈ items, P j) → P (.arr items))
    (obj : ∀ ms, (∀ m ∈ ms, P m.2) → P (.obj ms)) (j : Json) : P j :=
  @Json.rec P (fun items => ∀ j ∈ items, P j) (fun ms => ∀ m ∈ ms, P m.2) (fun m => P m.2)
    null bool num str arr obj
    (by simp) (fun a as ha has => by simpa [ha] using has) (by simp)
    (fun m ms hm hms => by simpa [hm] using hms) (fun _ _ h => h) j

mutual
/-- The integer numbers written in a document, in order. -/
def integers : Json → List Int
  | .num (.int n) => [n]
  | .arr items => integersItems items
  | .obj ms => integersMembers ms
  | _ => []

def integersItems : List Json → List Int
  | [] => []
  | j :: rest => integers j ++ integersItems rest

def integersMembers : List (String × Json) → List Int
  | [] => []
  | (_, j) :: rest => integers j ++ integersMembers rest
end

theorem integers_arr (items : List Json) : (Json.arr items).integers = items.flatMap integers := by
  rw [integers]
  induction items with
  | nil => rfl
  | cons j rest ih => rw [integersItems, ih, List.flatMap_cons]

theorem integers_obj (ms : List (String × Json)) :
    (Json.obj ms).integers = ms.flatMap fun m => m.2.integers := by
  rw [integers]
  induction ms with
  | nil => rfl
  | cons m rest ih =>
    obtain ⟨k, j⟩ := m
    rw [integersMembers, ih, List.flatMap_cons]

/-- A document as a reader that keeps objects sorted holds it: each integer within the range of
64-bit integers, signed or unsigned; each double finite; each object with its keys in increasing
order, so each key once. -/
inductive Held : Json → Prop
  | null : Held .null
  | bool (b : Bool) : Held (.bool b)
  | int {n : Int} : -2 ^ 63 ≤ n → n < 2 ^ 64 → Held (.num (.int n))
  | float {x : Float} : Binary64.isFinite x = true → Held (.num (.float x))
  | str (s : String) : Held (.str s)
  | arr {items : List Json} : (∀ j ∈ items, Held j) → Held (.arr items)
  | obj {ms : List (String × Json)} : (ms.map Prod.fst).Pairwise (· < ·) →
      (∀ m ∈ ms, Held m.2) → Held (.obj ms)

/-! ### The canonical member order -/

section Canonical

variable {k : String} {v : Json} {ms acc : List (String × Json)}

theorem insertMember_of_lt (h : ∀ k' ∈ ms.map Prod.fst, k' < k) :
    insertMember k v ms = ms ++ [(k, v)] := by
  induction ms with
  | nil => rfl
  | cons m rest ih =>
    obtain ⟨k', v'⟩ := m
    have hk' : k' < k := h k' List.mem_cons_self
    have hrest : ∀ k'' ∈ rest.map Prod.fst, k'' < k := fun k'' hk => h k'' (List.mem_cons_of_mem _ hk)
    simp only [insertMember, String.lt_asymm hk', (String.ne_of_lt hk').symm, if_false, ih hrest,
      List.cons_append]

theorem foldl_insertMember_of_sorted (h : ((acc ++ ms).map Prod.fst).Pairwise (· < ·)) :
    ms.foldl (fun a kv => insertMember kv.1 kv.2 a) acc = acc ++ ms := by
  induction ms generalizing acc with
  | nil => simp
  | cons m rest ih =>
    rw [List.foldl_cons, insertMember_of_lt fun k' hk => ?_]
    · rw [ih (by simpa using h), List.append_assoc, List.singleton_append]
    · rw [List.map_append, List.pairwise_append] at h
      exact h.2.2 k' hk m.1 (List.mem_map_of_mem List.mem_cons_self)

theorem canonical_of_sorted (h : (ms.map Prod.fst).Pairwise (· < ·)) : canonical ms = ms := by
  have h' : (([] ++ ms).map Prod.fst).Pairwise (· < ·) := by simpa using h
  unfold canonical
  simpa using foldl_insertMember_of_sorted h'

theorem insertMember_perm (h : k ∉ ms.map Prod.fst) : (insertMember k v ms).Perm ((k, v) :: ms) := by
  induction ms with
  | nil => exact List.Perm.refl _
  | cons m rest ih =>
    obtain ⟨k', v'⟩ := m
    have hne : k ≠ k' := fun e => h (e ▸ List.mem_cons_self)
    have hrest : k ∉ rest.map Prod.fst := fun hk => h (List.mem_cons_of_mem _ hk)
    by_cases hlt : k < k'
    · simp only [insertMember, if_pos hlt]
      exact List.Perm.refl _
    · simp only [insertMember, if_neg hlt, if_neg hne]
      exact ((ih hrest).cons _).trans (List.Perm.swap _ _ _)

theorem foldl_insertMember_perm (h : ((acc ++ ms).map Prod.fst).Nodup) :
    (ms.foldl (fun a kv => insertMember kv.1 kv.2 a) acc).Perm (acc ++ ms) := by
  induction ms generalizing acc with
  | nil => simp
  | cons m rest ih =>
    rw [List.map_append, List.map_cons, List.nodup_append, List.nodup_cons] at h
    have hm : m.1 ∉ acc.map Prod.fst := fun hk => h.2.2 m.1 hk m.1 List.mem_cons_self rfl
    have hins := insertMember_perm (v := m.2) hm
    have hkeys : ((insertMember m.1 m.2 acc ++ rest).map Prod.fst).Nodup := by
      refine ((hins.append_right rest).map Prod.fst).nodup_iff.mpr ?_
      rw [List.cons_append, List.map_cons, List.nodup_cons, List.map_append, List.nodup_append]
      refine ⟨fun hk => ?_, h.1, h.2.1.2, fun a ha b hb => h.2.2 a ha b (List.mem_cons_of_mem _ hb)⟩
      rcases List.mem_append.mp hk with hk | hk
      · exact hm hk
      · exact h.2.1.1 hk
    rw [List.foldl_cons]
    exact (ih hkeys).trans ((hins.append_right rest).trans List.perm_middle.symm)

theorem canonical_perm (h : (ms.map Prod.fst).Nodup) : (canonical ms).Perm ms := by
  have h' : (([] ++ ms).map Prod.fst).Nodup := by simpa using h
  unfold canonical
  simpa using foldl_insertMember_perm h'

end Canonical

end Json

namespace Value

def jsonNative : Value → Bool
  | .null | .bool _ | .int _ | .str _ | .list _ | .map _ => true
  | .float x => Binary64.isFinite x
  | _ => false

/-- Every value inside is one JSON can carry. -/
abbrev JsonNative (v : Value) : Prop := everywhere jsonNative v = true

theorem itemsJson_eq_map (items : List Value) : itemsJson items = items.map toJson := by
  induction items with
  | nil => rfl
  | cons v rest ih => rw [itemsJson, ih, List.map_cons]

theorem entriesJson_eq_map (es : List (String × Value)) :
    entriesJson es = es.map fun e => (e.1, e.2.toJson) := by
  induction es with
  | nil => rfl
  | cons e rest ih =>
    obtain ⟨k, v⟩ := e
    rw [entriesJson, ih, List.map_cons]

theorem ofJsonItems_eq_map (items : List Json) : ofJsonItems items = items.map ofJson := by
  induction items with
  | nil => rfl
  | cons j rest ih => rw [ofJsonItems, ih, List.map_cons]

theorem ofJsonMembers_eq_map (ms : List (String × Json)) :
    ofJsonMembers ms = ms.map fun m => (m.1, ofJson m.2) := by
  induction ms with
  | nil => rfl
  | cons m rest ih =>
    obtain ⟨k, j⟩ := m
    rw [ofJsonMembers, ih, List.map_cons]

theorem sameItems_map {items : List Value} {f : Value → Value}
    (h : ∀ v ∈ items, same (f v) v = true) : sameItems (items.map f) items = true := by
  induction items with
  | nil => rfl
  | cons v rest ih =>
    simp only [List.map_cons, sameItems, h v List.mem_cons_self, Bool.true_and]
    exact ih fun w hw => h w (List.mem_cons_of_mem v hw)

theorem sameEntries_iff {a b : List (String × Value)} :
    sameEntries a b = true ↔ ∀ e ∈ a, ∃ w, lookup e.1 b = some w ∧ same e.2 w = true := by
  induction a with
  | nil => simp [sameEntries]
  | cons e rest ih =>
    obtain ⟨k, v⟩ := e
    simp only [sameEntries, Bool.and_eq_true, ih, List.forall_mem_cons]
    refine and_congr_left fun _ => ?_
    cases lookup k b <;> simp

theorem ofJsonNumber_int (n : Int64) : ofJsonNumber (.int n.toInt) = .int n := by
  rw [ofJsonNumber, if_pos ⟨Int64.le_toInt n, Int64.toInt_lt n⟩, Int64.ofInt_toInt]

theorem classify_ne_nan {x : Float} (h : Binary64.isFinite x = true) :
    Binary64.classify x ≠ .nan := by
  unfold Binary64.isFinite at h
  intro hx
  rw [hx] at h
  cases h

theorem same_ofJson_map {es : List (String × Value)} (hk : (es.map Prod.fst).Nodup)
    (ih : ∀ e ∈ es, same (ofJson e.2.toJson) e.2 = true) :
    same (ofJson (Value.map es).toJson) (.map es) = true := by
  have hkeys : ((entriesJson es).map Prod.fst).Nodup := by
    rw [entriesJson_eq_map, List.map_map]
    exact hk
  -- the entries read back, in canonical order, are the entries each read back, permuted
  have hperm := (Json.canonical_perm hkeys).map fun m => (m.1, ofJson m.2)
  have hback : (entriesJson es).map (fun m => (m.1, ofJson m.2)) =
      es.map fun e => (e.1, ofJson e.2.toJson) := by
    rw [entriesJson_eq_map, List.map_map]
    rfl
  rw [hback] at hperm
  simp only [toJson, ofJson, ofJsonMembers_eq_map, same, Bool.and_eq_true, beq_iff_eq]
  refine ⟨by simpa using hperm.length_eq, sameEntries_iff.mpr fun e he => ?_⟩
  obtain ⟨⟨k, v⟩, hmem, rfl⟩ := List.mem_map.mp (hperm.mem_iff.mp he)
  exact ⟨v, lookup_of_mem hk hmem, ih (k, v) hmem⟩

theorem same_ofJson_toJson {v : Value} (hk : v.Keyed) (hn : v.JsonNative) :
    same (ofJson v.toJson) v = true := by
  induction v using Value.induction with
  | null => rfl
  | bool b => exact beq_self_eq_true b
  | int n => rw [toJson, ofJson, ofJsonNumber_int]; exact beq_self_eq_true n
  | float x =>
    have hx : Binary64.isFinite x = true := everywhere_self hn
    rw [toJson, floatJson, if_pos hx]
    exact Binary64.eq_self (classify_ne_nan hx)
  | str s => exact beq_self_eq_true s
  | list items ih =>
    rw [toJson, ofJson, ofJsonItems_eq_map, itemsJson_eq_map, List.map_map]
    exact sameItems_map fun v hv =>
      ih v hv (everywhere_children hk v hv) (everywhere_children hn v hv)
  | map es ih =>
    refine same_ofJson_map hk.nodup fun e he => ?_
    have hv : e.2 ∈ (Value.map es).children := List.mem_map_of_mem he
    exact ih e he (everywhere_children hk e.2 hv) (everywhere_children hn e.2 hv)
  | dec _ | char _ | date _ | dateTime _ | set _ => cases hn

theorem toJson_ofJson {j : Json} (hj : j.Held) (hi : ∀ n ∈ j.integers, n < 2 ^ 63) :
    (ofJson j).toJson = j := by
  induction j using Json.induction with
  | null => rfl
  | bool b => rfl
  | str s => rfl
  | num n =>
    cases hj with
    | @int n hlo _ =>
      have hhi : n < 2 ^ 63 := hi n (by simp [Json.integers])
      rw [ofJson, ofJsonNumber, if_pos ⟨hlo, hhi⟩, toJson, Int64.toInt_ofInt_of_le hlo hhi]
    | float hx => rw [ofJson, ofJsonNumber, toJson, floatJson, if_pos hx]
  | arr items ih =>
    cases hj with
    | arr hs =>
      rw [Json.integers_arr] at hi
      have hitems : ∀ j ∈ items, (toJson ∘ ofJson) j = j := fun j hj' =>
        ih j hj' (hs j hj') fun n hn => hi n (List.mem_flatMap.mpr ⟨j, hj', hn⟩)
      rw [ofJson, toJson, ofJsonItems_eq_map, itemsJson_eq_map, List.map_map,
        List.map_congr_left hitems, List.map_id']
  | obj ms ih =>
    cases hj with
    | obj hsorted hs =>
      rw [Json.integers_obj] at hi
      have hvals : ∀ m ∈ ms,
          ((fun e : String × Value => (e.1, e.2.toJson)) ∘ fun m => (m.1, ofJson m.2)) m = m :=
        fun m hm =>
        Prod.ext rfl (ih m hm (hs m hm) fun n hn => hi n (List.mem_flatMap.mpr ⟨m, hm, hn⟩))
      rw [ofJson, toJson, ofJsonMembers_eq_map, entriesJson_eq_map, List.map_map]
      rw [List.map_congr_left hvals, List.map_id', Json.canonical_of_sorted hsorted]

theorem keyed_ofJson {j : Json} (hj : j.Held) : (ofJson j).Keyed := by
  induction j using Json.induction with
  | null | bool _ | str _ => rfl
  | num n =>
    rw [ofJson, ofJsonNumber.eq_def]
    split
    · split <;> rfl
    · rfl
  | arr items ih =>
    cases hj with
    | arr hs =>
      refine everywhere_iff.mpr ⟨rfl, fun w hw => ?_⟩
      rw [ofJson, ofJsonItems_eq_map, children] at hw
      obtain ⟨j, hj', rfl⟩ := List.mem_map.mp hw
      exact ih j hj' (hs j hj')
  | obj ms ih =>
    cases hj with
    | obj hsorted hs =>
      have hkeys : ((ofJsonMembers ms).map Prod.fst) = ms.map Prod.fst := by
        rw [ofJsonMembers_eq_map, List.map_map]
        rfl
      refine everywhere_iff.mpr ⟨?_, fun w hw => ?_⟩
      · -- keys in increasing order are keys that differ
        rw [ofJson, distinctKeys, hkeys, decide_eq_true_eq, List.Nodup]
        refine hsorted.imp fun {a b} hlt heq => ?_
        subst heq
        exact String.lt_irrefl a hlt
      · rw [ofJson, children, ofJsonMembers_eq_map, List.map_map] at hw
        obtain ⟨m, hm, rfl⟩ := List.mem_map.mp hw
        exact ih m hm (hs m hm)

end Value

/-- The JSON view and reading JSON are inverse on what both can hold: keyed values JSON can carry,
and documents a reader holds with no integer above the largest signed 64-bit one. -/
theorem ofJson_toJson_inverse :
    (∀ v : KeyedValue, v.val.JsonNative → Value.same (Value.ofJson v.val.toJson) v = true) ∧
    (∀ j : Json, j.Held → (∀ n ∈ j.integers, n < 2 ^ 63) → (Value.ofJson j).toJson = j) :=
  ⟨fun v hn => Value.same_ofJson_toJson v.keyed hn, fun _ hj hi => Value.toJson_ofJson hj hi⟩

theorem ofJson_toJson_inverse_nested :
    (Value.map [("b", .list [.int 1, .null]), ("a", .str "x")]).Keyed ∧
      (Value.map [("b", .list [.int 1, .null]), ("a", .str "x")]).JsonNative ∧
      Value.same (Value.ofJson (Value.map [("b", .list [.int 1, .null]), ("a", .str "x")]).toJson)
        (.map [("b", .list [.int 1, .null]), ("a", .str "x")]) = true ∧
      (Json.obj [("a", .num (.int (-2 ^ 63))), ("b", .arr [.bool true, .null])]).Held ∧
      (∀ n ∈ (Json.obj [("a", .num (.int (-2 ^ 63))), ("b", .arr [.bool true, .null])]).integers,
        n < 2 ^ 63) ∧
      (Value.ofJson (.obj [("a", .num (.int (-2 ^ 63))), ("b", .arr [.bool true, .null])])).toJson =
        .obj [("a", .num (.int (-2 ^ 63))), ("b", .arr [.bool true, .null])] := by
  have hk : (Value.map [("b", .list [.int 1, .null]), ("a", .str "x")]).Keyed := by decide
  have hn : (Value.map [("b", .list [.int 1, .null]), ("a", .str "x")]).JsonNative := by decide
  have hj : (Json.obj [("a", .num (.int (-2 ^ 63))), ("b", .arr [.bool true, .null])]).Held := by
    refine .obj (by decide) fun m hm => ?_
    simp only [List.mem_cons, List.not_mem_nil, or_false] at hm
    rcases hm with rfl | rfl
    · exact .int (by decide) (by decide)
    · refine .arr fun j hj => ?_
      simp only [List.mem_cons, List.not_mem_nil, or_false] at hj
      rcases hj with rfl | rfl
      · exact .bool true
      · exact .null
  have hi : ∀ n ∈ (Json.obj [("a", .num (.int (-2 ^ 63))), ("b", .arr [.bool true, .null])]).integers,
      n < 2 ^ 63 := by
    simp [Json.integers, Json.integersMembers, Json.integersItems]
  exact ⟨hk, hn, ofJson_toJson_inverse.1 ⟨_, hk⟩ hn, hj, hi, ofJson_toJson_inverse.2 _ hj hi⟩

end TypedExpr
