import PayloadCheck.Check.Basic

/-!
# Arrays, element by element

`Check.offending` lists the elements that do not pass, with their indices. An array of which none
is listed gets one verdict, and any other gets one for each element of the list
(`elementwise_of_all`, `elementwise_of_offending`).
-/

namespace PayloadCheck

namespace Check

/-- The elements that do not pass, with their indices. -/
def offending (passes : Json → Bool) (items : List Json) : List (Json × Nat) :=
  items.zipIdx.filter fun (item, _) => !passes item

/-- The elements are numbered before they are filtered, so each keeps its own index. -/
theorem mem_offending_iff (passes : Json → Bool) (items : List Json) (item : Json) (i : Nat) :
    (item, i) ∈ offending passes items ↔ items[i]? = some item ∧ passes item = false := by
  unfold offending
  rw [List.mem_filter, List.mk_mem_zipIdx_iff_getElem?]
  simp

theorem offending_eq_nil_iff (passes : Json → Bool) (items : List Json) :
    offending passes items = [] ↔ ∀ item ∈ items, passes item = true := by
  constructor
  · intro h item hi
    obtain ⟨i, hlt, rfl⟩ := List.mem_iff_getElem.mp hi
    cases hp : passes items[i] with
    | true => rfl
    | false =>
      have hm := (mem_offending_iff passes items items[i] i).mpr
        ⟨List.getElem?_eq_getElem hlt, hp⟩
      rw [h] at hm
      cases hm
  · intro h
    apply List.eq_nil_iff_forall_not_mem.mpr
    rintro ⟨item, i⟩ hm
    obtain ⟨hi, hp⟩ := (mem_offending_iff passes items item i).mp hm
    rw [h item (List.mem_of_getElem? hi)] at hp
    cases hp

theorem pairwise_offending (passes : Json → Bool) (items : List Json) :
    ((offending passes items).map Prod.snd).Pairwise (· < ·) := by
  have hz : (items.zipIdx.map Prod.snd).Pairwise (· < ·) := by
    rw [List.zipIdx_map_snd]
    exact List.pairwise_lt_range' 1
  exact hz.sublist (List.filter_sublist.map Prod.snd)

/-! ## The verdicts -/

variable {passes : Json → Bool} {items : List Json}

theorem elementwise_of_all (h : ∀ item ∈ items, passes item = true)
    (offence : Json → Path → Verdict) (whole : Verdict) (path : Path) :
    elementwise passes offence whole items path = [whole] := by
  have hn := (offending_eq_nil_iff passes items).mpr h
  unfold offending at hn
  simp [elementwise, hn]

theorem elementwise_of_offending (h : ¬ ∀ item ∈ items, passes item = true)
    (offence : Json → Path → Verdict) (whole : Verdict) (path : Path) :
    elementwise passes offence whole items path =
      (offending passes items).map fun (item, i) => offence item (path ++ [.index i]) := by
  have hn := mt (offending_eq_nil_iff passes items).mp h
  unfold offending at hn ⊢
  simp only [elementwise, List.isEmpty_iff, List.map_eq_nil_iff]
  rw [if_neg hn]

end Check

end PayloadCheck
