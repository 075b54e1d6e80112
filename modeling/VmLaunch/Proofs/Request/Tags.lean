import Mathlib.Data.List.Induction
import VmLaunch.Firewall.Ensure
import VmLaunch.Request.Insert

/-!
# Tags of a request

A request carries every tag once, so it does not matter whether the tags of rules
are collected once each before they reach it.
-/

namespace VmLaunch

namespace Text

variable {α : Type} [BEq α] [LawfulBEq α]

omit [LawfulBEq α] in
/-- To keep each value once keeps the order. -/
theorem eraseDups_sublist : ∀ values : List α, values.eraseDups.Sublist values
  | [] => .slnil
  | first :: rest => by
    rw [List.eraseDups_cons]
    exact ((eraseDups_sublist (rest.filter fun other => !other == first)).trans
      List.filter_sublist).cons_cons first
termination_by values => values.length
decreasing_by exact Nat.lt_succ_of_le (List.length_filter_le _ _)

/-- Values that are kept once are distinct. -/
theorem nodup_eraseDups : ∀ values : List α, values.eraseDups.Nodup
  | [] => .nil
  | first :: rest => by
    rw [List.eraseDups_cons]
    exact List.nodup_cons.mpr
      ⟨by simp, nodup_eraseDups (rest.filter fun other => !other == first)⟩
termination_by values => values.length
decreasing_by exact Nat.lt_succ_of_le (List.length_filter_le _ _)

/-- One more value is kept unless it stands earlier. -/
theorem eraseDups_concat (values : List α) (value : α) :
    (values ++ [value]).eraseDups =
      if value ∈ values then values.eraseDups else values.eraseDups ++ [value] := by
  rw [List.eraseDups_append]
  by_cases known : value ∈ values <;> simp [List.removeAll, known, List.eraseDups_cons]

/-- Distinct values are all kept. -/
theorem eraseDups_of_nodup {values : List α} (once : values.Nodup) : values.eraseDups = values := by
  induction values using List.reverseRecOn with
  | nil => rfl
  | append_singleton values value inductionHypothesis =>
    obtain ⟨front, -, apart⟩ := List.nodup_append.mp once
    have fresh : value ∉ values := fun member => apart value member value (by simp) rfl
    rw [eraseDups_concat, if_neg fresh, inductionHypothesis front]

end Text

namespace Tags

private theorem eraseDups_repeat {front back : List String} {tag : String}
    (repeated : tag ∈ front) : (front ++ tag :: back).eraseDups = (front ++ back).eraseDups := by
  rw [List.eraseDups_append, List.eraseDups_append]
  simp [List.removeAll, repeated]

/-- A text that stands earlier adds no tag. -/
theorem ofTexts_repeat {texts rest : List String} {text : String} (repeated : text ∈ texts) :
    ofTexts (texts ++ text :: rest) = ofTexts (texts ++ rest) := by
  unfold ofTexts Text.filledAll
  rw [List.filterMap_append, List.filterMap_append]
  cases filled : Text.filled? text with
  | none => rw [List.filterMap_cons_none filled]
  | some tag =>
    have present : tag ∈ texts.filterMap Text.filled? :=
      List.mem_filterMap.mpr ⟨text, repeated, filled⟩
    rw [List.filterMap_cons_some filled]
    exact eraseDups_repeat present

/-- Collecting texts once each before they become tags changes no tag. -/
theorem ofTexts_foldl_addTag (texts tags rest : List String) :
    ofTexts (texts ++ rest.foldl Firewall.addTag tags) = ofTexts (texts ++ tags ++ rest) := by
  induction rest generalizing tags with
  | nil => simp
  | cons text rest inductionHypothesis =>
    rw [List.foldl_cons, inductionHypothesis]
    unfold Firewall.addTag
    by_cases known : tags.contains text
    · have repeated : text ∈ texts ++ tags := by
        simpa using Or.inr (List.contains_iff_mem.mp known)
      simp only [known, if_true]
      exact (ofTexts_repeat repeated).symm
    · simp only [known]
      simp

end Tags

/-- Tags that are added in turn are kept once each, in order of first appearance. -/
theorem Firewall.foldl_addTag (tags : List String) : tags.foldl addTag [] = tags.eraseDups := by
  induction tags using List.reverseRecOn with
  | nil => rfl
  | append_singleton tags tag inductionHypothesis =>
    rw [List.foldl_append, inductionHypothesis, Text.eraseDups_concat]
    simp only [List.foldl_cons, List.foldl_nil, addTag, List.contains_iff_mem, List.mem_eraseDups]

/-- A request does not tell rule tags that are collected once each from repeated ones. -/
theorem InsertRequest.assemble_foldl_addTag (spec : MachineSpec) (scope : Scope)
    (resolved : Resolved) (tags : List String) :
    assemble spec scope resolved (tags.foldl Firewall.addTag []) =
      assemble spec scope resolved tags := by
  simp only [assemble, Tags.ofTexts_foldl_addTag, List.append_nil]

end VmLaunch
