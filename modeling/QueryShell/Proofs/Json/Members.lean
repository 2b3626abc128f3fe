import QueryShell.Json.Basic
import Mathlib.Data.List.Induction
import Mathlib.Data.String.Basic

/-
Members sorted by key, as a map: what is put in under a key is found under this key, all else is where
it was, and the members stay sorted. So each map has one list of members.
-/
namespace QueryShell.Json

variable {α : Type} {key name : String} {value : α} {members : List (String × α)}

/-- The keys stand in strictly increasing order. -/
def Sorted (members : List (String × α)) : Prop :=
  members.Pairwise (·.1 < ·.1)

theorem mem_insert {member : String × α} (h : member ∈ insert key value members) :
    member = (key, value) ∨ member ∈ members := by
  induction members with
  | nil => exact .inl (List.mem_singleton.1 h)
  | cons first rest ih =>
    unfold insert at h
    split at h
    · exact List.mem_cons.1 h
    split at h
    · exact (List.mem_cons.1 h).imp_right (List.mem_cons_of_mem _)
    · rcases List.mem_cons.1 h with rfl | h
      · exact .inr List.mem_cons_self
      · exact (ih h).imp_right (List.mem_cons_of_mem _)

theorem Sorted.insert (h : Sorted members) : Sorted (insert key value members) := by
  induction members with
  | nil => exact List.pairwise_singleton _ _
  | cons first rest ih =>
    obtain ⟨hfirst, hrest⟩ := List.pairwise_cons.1 h
    unfold Json.insert
    split
    · rename_i hlt
      refine List.pairwise_cons.2 ⟨fun member hmember => ?_, h⟩
      rcases List.mem_cons.1 hmember with rfl | hmember
      · exact hlt
      · exact hlt.trans (hfirst member hmember)
    split
    · rename_i heq
      exact List.pairwise_cons.2 ⟨heq ▸ hfirst, hrest⟩
    · rename_i hnot hne
      have hlt : first.1 < key := lt_of_le_of_ne (not_lt.1 hnot) (Ne.symm hne)
      refine List.pairwise_cons.2 ⟨fun member hmember => ?_, ih hrest⟩
      rcases mem_insert hmember with rfl | hmember
      · exact hlt
      · exact hfirst member hmember

theorem lookup_cons_of_ne (h : name ≠ key) :
    List.lookup name ((key, value) :: members) = members.lookup name := by
  rw [List.lookup_cons, beq_false_of_ne h]

theorem lookup_insert_self (key : String) (value : α) (members : List (String × α)) :
    (insert key value members).lookup key = some value := by
  induction members with
  | nil => exact List.lookup_cons_self
  | cons first rest ih =>
    unfold insert
    split
    · exact List.lookup_cons_self
    split
    · exact List.lookup_cons_self
    · rename_i hne
      exact (lookup_cons_of_ne hne).trans ih

theorem lookup_insert_of_ne (h : name ≠ key) :
    (insert key value members).lookup name = members.lookup name := by
  induction members with
  | nil => exact lookup_cons_of_ne h
  | cons first rest ih =>
    unfold insert
    split
    · exact lookup_cons_of_ne h
    split
    · rename_i heq
      rw [lookup_cons_of_ne h]
      exact (lookup_cons_of_ne (heq ▸ h)).symm
    · rw [List.lookup_cons, List.lookup_cons, ih]

/-! ## Sorting -/

/-- A member whose key comes after all others is put in at the end. -/
theorem insert_of_forall_lt (h : ∀ member ∈ members, member.1 < key) :
    insert key value members = members ++ [(key, value)] := by
  induction members with
  | nil => rfl
  | cons first rest ih =>
    have hlt := h first List.mem_cons_self
    rw [insert, if_neg (lt_asymm hlt), if_neg hlt.ne', ih fun member hmember =>
      h member (List.mem_cons_of_mem _ hmember), List.cons_append]

/-- A later member is put in last. -/
theorem sortMembers_concat (members : List (String × α)) (member : String × α) :
    sortMembers (members ++ [member]) = insert member.1 member.2 (sortMembers members) :=
  List.foldl_concat _ _ _ _

/-- Sorting leaves sorted members as they are. -/
theorem sortMembers_of_sorted (h : Sorted members) : sortMembers members = members := by
  induction members using List.reverseRecOn with
  | nil => rfl
  | append_singleton members last ih =>
    obtain ⟨hsorted, -, hlast⟩ := List.pairwise_append.1 h
    have hlt : ∀ member ∈ members, member.1 < last.1 := fun member hmember =>
      hlast member hmember last List.mem_cons_self
    rw [sortMembers_concat, ih hsorted, insert_of_forall_lt hlt]

theorem sorted_sortMembers (members : List (String × α)) : Sorted (sortMembers members) := by
  induction members using List.reverseRecOn with
  | nil => exact List.Pairwise.nil
  | append_singleton members last ih =>
    rw [sortMembers_concat]
    exact ih.insert

theorem mem_sortMembers {member : String × α} (h : member ∈ sortMembers members) : member ∈ members := by
  induction members using List.reverseRecOn with
  | nil => exact h
  | append_singleton members last ih =>
    rw [sortMembers_concat] at h
    rcases mem_insert h with rfl | hmember
    · exact List.mem_concat_self
    · exact List.mem_append_left _ (ih hmember)

end QueryShell.Json
