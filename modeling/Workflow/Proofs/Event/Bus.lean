import Mathlib.Data.List.Infix
import Workflow.Event.Bus

/-!
# What readers of a ring receive

A ring holds the end of everything that was ever published.  So a reader
receives the item at its position, or learns that this has been overwritten and
goes on later.
-/

namespace Workflow.Bus

variable {α : Type} {bus : Bus α} {all : List α} {value : α}
variable {reader next : BusReader} {received : Received α}

/-- A ring on which so many items have been published. -/
structure Holds (bus : Bus α) (all : List α) : Prop where
  published : bus.published = all.length
  kept : bus.kept <:+ all

theorem holds_create (capacity : Nat) : (create capacity : Bus α).Holds [] :=
  ⟨rfl, List.suffix_rfl⟩

theorem Holds.publish (hholds : bus.Holds all) (value : α) :
    (bus.publish value).Holds (all ++ [value]) := by
  refine ⟨by simp [Bus.publish, hholds.published], ?_⟩
  have hkept : bus.kept ++ [value] <:+ all ++ [value] := by
    obtain ⟨front, rfl⟩ := hholds.kept
    exact ⟨front, by simp⟩
  exact (List.drop_suffix _ _).trans hkept

theorem Holds.getElem?_kept (hholds : bus.Holds all) {position : Nat}
    (hle : bus.published - bus.kept.length ≤ position) :
    bus.kept[position - (bus.published - bus.kept.length)]? = all[position]? := by
  obtain ⟨front, rfl⟩ := hholds.kept
  have hlength : bus.published - bus.kept.length = front.length := by
    rw [hholds.published, List.length_append]
    omega
  rw [hlength] at hle ⊢
  exact (List.getElem?_append_right hle).symm

/-- A reader receives the item at its position. -/
theorem Holds.next?_item (hholds : bus.Holds all)
    (hnext : bus.next? reader = some (.item value, next)) :
    all[reader.position]? = some value ∧ next.position = reader.position + 1 := by
  simp only [next?] at hnext
  split at hnext
  next => simp at hnext
  next hlate =>
    obtain ⟨found, hfound, heq⟩ := Option.map_eq_some_iff.mp hnext
    obtain ⟨hvalue, rfl⟩ := Prod.mk.inj heq
    obtain rfl := Received.item.inj hvalue
    rw [← hholds.getElem?_kept (Nat.le_of_not_lt hlate)]
    exact ⟨hfound, rfl⟩

/-- A reader that has lost items goes on later. -/
theorem Holds.next?_lagged (hholds : bus.Holds all) {count : Nat}
    (hnext : bus.next? reader = some (.lagged count, next)) :
    reader.position ≤ next.position ∧ next.position ≤ all.length := by
  simp only [next?] at hnext
  split at hnext
  next hlost =>
    obtain ⟨-, rfl⟩ := Prod.mk.inj (Option.some.inj hnext)
    have hpublished := hholds.published
    exact ⟨hlost.le, by simp only; omega⟩
  next => simp at hnext

/-- Everything that waits for a reader is what waits first, and the rest. -/
theorem drain_of_next? (hnext : bus.next? reader = some (received, next)) :
    bus.drain reader = (received :: (bus.drain next).1, (bus.drain next).2) := by
  simp only [next?] at hnext
  split at hnext
  next hlost =>
    obtain ⟨rfl, rfl⟩ := Prod.mk.inj (Option.some.inj hnext)
    have hgone : reader.position - (bus.published - bus.kept.length) = 0 :=
      Nat.sub_eq_zero_of_le hlost.le
    simp [drain, hlost, hgone]
  next hlate =>
    obtain ⟨found, hfound, heq⟩ := Option.map_eq_some_iff.mp hnext
    obtain ⟨rfl, rfl⟩ := Prod.mk.inj heq
    have hlater : ¬ reader.position + 1 < bus.published - bus.kept.length := by omega
    have hindex : reader.position + 1 - (bus.published - bus.kept.length) =
        reader.position - (bus.published - bus.kept.length) + 1 := by omega
    obtain ⟨hlt, hget⟩ := List.getElem?_eq_some_iff.mp hfound
    simp only [drain, if_neg hlate, if_neg hlater, hindex, List.nil_append]
    rw [List.drop_eq_getElem_cons hlt, hget, List.map_cons]

/-- Nothing waits for a reader that has nothing waiting first. -/
theorem Holds.drain_of_next?_eq_none (hholds : bus.Holds all)
    (hle : reader.position ≤ bus.published) (hnone : bus.next? reader = none) :
    bus.drain reader = ([], reader) := by
  simp only [next?] at hnone
  split at hnone
  next => contradiction
  next hlate =>
    have hend := List.getElem?_eq_none_iff.mp (Option.map_eq_none_iff.mp hnone)
    have hkept : bus.kept.length ≤ bus.published :=
      hholds.published ▸ hholds.kept.length_le
    have hposition : bus.published = reader.position := by omega
    simp only [drain, if_neg hlate, List.drop_eq_nil_of_le hend]
    rw [hposition, List.map_nil, List.append_nil]

end Workflow.Bus
