import VmLaunch.Json.Basic

/-!
# Members in another order

An object says the same whatever the order of its members. `Rearranges` is what may be done to a
value so that it still says the same, and sorting its members is such a thing.
-/

namespace VmLaunch.Json

/-- The members of the objects of a value, at any depth, come to stand in another order, and
everything else stays. -/
structure Rearranges (order : Json → Json) : Prop where
  isNull (value : Json) : (order value).isNull = value.isNull
  bool (flag : Bool) : order (.bool flag) = .bool flag
  num (number : JsonNumber) : order (.num number) = .num number
  str (text : String) : order (.str text) = .str text
  arr (items : List Json) : order (.arr items) = .arr (items.map order)
  obj (members : List (String × Json)) (distinct : (members.map Prod.fst).Nodup) :
    ∃ entries, order (.obj members) = .obj entries ∧
      entries.Perm (members.map (Prod.map id order))

/-- To leave a value as it is rearranges it. -/
theorem rearranges_id : Rearranges id where
  isNull _ := rfl
  bool _ := rfl
  num _ := rfl
  str _ := rfl
  arr items := by simp
  obj members _ := ⟨members, rfl, by simp⟩

/-- A member of a new key is added. -/
theorem insertMember_perm {key : String} (value : Json) {kept : List (String × Json)}
    (fresh : key ∉ kept.map Prod.fst) :
    (insertMember key value kept).Perm ((key, value) :: kept) := by
  induction kept with
  | nil => rfl
  | cons first rest ih =>
    obtain ⟨other, present⟩ := first
    obtain ⟨differs, unused⟩ : key ≠ other ∧ key ∉ rest.map Prod.fst := by simpa using fresh
    rw [insertMember, if_neg differs]
    split
    · rfl
    · exact ((ih unused).cons _).trans (.swap _ _ _)

/-- Members of distinct keys are inserted without loss, in some order. -/
theorem foldl_insertMember_perm {kept members : List (String × Json)}
    (distinct : ((kept ++ members).map Prod.fst).Nodup) :
    (members.foldl (fun kept (key, value) => insertMember key value kept) kept).Perm
      (kept ++ members) := by
  induction members generalizing kept with
  | nil => simp
  | cons first rest ih =>
    obtain ⟨key, value⟩ := first
    have moved : (kept ++ (key, value) :: rest).Perm ((key, value) :: kept ++ rest) :=
      List.perm_middle
    have apart := (moved.map Prod.fst).nodup_iff.1 distinct
    have fresh : key ∉ kept.map Prod.fst := by
      intro member
      exact (List.nodup_cons.1 apart).1 (by simpa using .inl (by simpa using member))
    have added := (insertMember_perm value fresh).append_right rest
    refine (ih ?_).trans (added.trans moved.symm)
    exact ((added.map Prod.fst).nodup_iff).2 apart

/-- Members of distinct keys are sorted without a loss. -/
theorem sortMembers_perm {members : List (String × Json)}
    (distinct : (members.map Prod.fst).Nodup) : (sortMembers members).Perm members :=
  foldl_insertMember_perm distinct

/-- Items are brought into order one by one. -/
theorem normalItems_eq_map (items : List Json) : normalItems items = items.map normal := by
  induction items with
  | nil => rfl
  | cons first rest ih => rw [normalItems, ih, List.map_cons]

/-- The values of members are brought into order one by one. -/
theorem normalMembers_eq_map (members : List (String × Json)) :
    normalMembers members = members.map (Prod.map id normal) := by
  induction members with
  | nil => rfl
  | cons first rest ih => rw [normalMembers, ih, List.map_cons, Prod.map, id]

/-- To bring the members of a value into order rearranges it. -/
theorem rearranges_normal : Rearranges normal where
  isNull value := by cases value <;> rfl
  bool _ := rfl
  num _ := rfl
  str _ := rfl
  arr items := by rw [normal, normalItems_eq_map]
  obj members distinct := by
    refine ⟨_, by rw [normal, normalMembers_eq_map], sortMembers_perm ?_⟩
    rwa [List.map_map, show Prod.fst ∘ Prod.map id normal = Prod.fst from rfl]

end VmLaunch.Json
