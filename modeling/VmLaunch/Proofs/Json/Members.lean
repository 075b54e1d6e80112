import VmLaunch.Json.Basic

/-!
# Members of an object

Objects are written as several lists of members behind one another, some of them present
only on a condition. These lemmas say which of them a look-up reaches.
-/

namespace VmLaunch.Json

variable {α : Type}

@[simp]
theorem get?_obj (key : String) (members : List (String × Json)) :
    (Json.obj members).get? key = members.lookup key :=
  rfl

/-- A member of another key does not hide the one that is looked up. -/
@[simp]
theorem lookup_cons_of_ne {key other : String} (differs : other ≠ key) (value : Json)
    (rest : List (String × Json)) : ((key, value) :: rest).lookup other = rest.lookup other := by
  rw [List.lookup_cons, beq_false_of_ne differs]

/-- A member that is there when its value is has that value. -/
@[simp]
theorem lookup_memberWhen_self (key : String) (encode : α → Json) (value : Option α) :
    (memberWhen key encode value).lookup key = value.map encode := by
  cases value with
  | none => rfl
  | some value => exact List.lookup_cons_self

/-- A member that is there when its value is tells nothing of other keys. -/
@[simp]
theorem lookup_memberWhen_of_ne {key other : String} (differs : other ≠ key)
    (encode : α → Json) (value : Option α) :
    (memberWhen key encode value).lookup other = none := by
  cases value with
  | none => rfl
  | some value => exact lookup_cons_of_ne differs _ []

/-- A member that is there when its list has entries tells nothing of other keys. -/
@[simp]
theorem lookup_memberWhenAny_of_ne {key other : String} (differs : other ≠ key)
    (encode : List α → Json) (values : List α) :
    (memberWhenAny key encode values).lookup other = none := by
  cases values with
  | nil => rfl
  | cons first rest => exact lookup_cons_of_ne differs _ []

/-- A member that is there when its list has entries has that list. -/
@[simp]
theorem lookup_memberWhenAny_self (key : String) (encode : List α → Json) (values : List α) :
    (memberWhenAny key encode values).lookup key =
      if values.isEmpty then none else some (encode values) := by
  cases values with
  | nil => rfl
  | cons first rest => exact List.lookup_cons_self

end VmLaunch.Json
