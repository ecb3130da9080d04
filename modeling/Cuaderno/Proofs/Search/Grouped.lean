import Cuaderno.Proofs.Snapshot.SharedIds
import Cuaderno.Proofs.Sorting.Distinct
import Cuaderno.Search.Groups

/-!
# Results grouped by type

The groups of some results are a partition of them (`groups_partition`): each result is in the group
of its type, as often as it was found, in the order of the results. The groups are in the order of
the names that their types are shown with, and of the ids under which these are equal; a type that
nobody declared is shown with its id.
-/

namespace Cuaderno.Search

/-- Collecting distinct texts is leaving out the ones that came before. -/
theorem distinct_eq (ids : List String) : distinct ids = ids.eraseDups := by
  induction ids using List.reverseRecOn with
  | nil => rfl
  | append_singleton ids id ih =>
    have hstep : distinct (ids ++ [id]) =
        if id ∈ distinct ids then distinct ids else distinct ids ++ [id] := by
      rw [distinct, List.foldl_append]
      rfl
    by_cases hid : id ∈ ids
    · rw [hstep, ih, if_pos (List.mem_eraseDups.2 hid), Sorting.eraseDups_concat_of_mem hid]
    · rw [hstep, ih, if_neg (mt List.mem_eraseDups.1 hid),
        Sorting.eraseDups_concat_of_not_mem hid]

/-- The name that a type is shown with: that of the first type with its id, or its id when there is
no such type. -/
def shownName (types : List ItemType) (id : String) : String :=
  match types.find? (·.id == id) with
  | some t => t.name
  | none => if id = "" then "Objeto" else id

private theorem name_display (types : List ItemType) (id : String) :
    ((Catalog.ofTypes types).display id).name = shownName types id := by
  rw [Catalog.display, Catalog.type?_ofTypes, shownName]
  cases types.find? (·.id == id) with
  | none => rfl
  | some t => rfl

theorem orders_typeOrder (catalog : Catalog) :
    Sorting.Orders (typeOrder catalog) fun _ => True :=
  Sorting.orders_text.behind (fun id => Text.key (catalog.display id).name)
    (fun a b => decide (a < b))
    (fun _ _ _ hab hbc =>
      decide_eq_true (String.lt_trans (of_decide_eq_true hab) (of_decide_eq_true hbc)))
    fun a b => by simpa only [decide_eq_true_eq] using Sorting.text_trichotomy a b

variable {results : List Result} {ids : List String}

/-- The results of distinct types, type by type, are those whose type is one of them. -/
theorem perm_flatMap_filter (hn : ids.Nodup) (results : List Result) :
    (ids.flatMap fun id => results.filter (·.item.typeId == id)).Perm
      (results.filter fun r => ids.contains r.item.typeId) := by
  induction ids with
  | nil => simp
  | cons id ids ih =>
    obtain ⟨hid, hn⟩ := List.nodup_cons.1 hn
    -- the results of all these types are those of the first one and those of the others
    have hsplit := List.filter_append_perm (fun r => r.item.typeId == id)
      (results.filter fun r => (id :: ids).contains r.item.typeId)
    have hown : (results.filter fun r => (id :: ids).contains r.item.typeId).filter
        (fun r => r.item.typeId == id) = results.filter fun r => r.item.typeId == id := by
      rw [List.filter_filter]
      refine List.filter_congr fun r _ => ?_
      rw [List.contains_cons]
      cases r.item.typeId == id <;> rfl
    have hothers : (results.filter fun r => (id :: ids).contains r.item.typeId).filter
        (fun r => !(r.item.typeId == id)) =
          results.filter fun r => ids.contains r.item.typeId := by
      rw [List.filter_filter]
      refine List.filter_congr fun r _ => ?_
      rw [List.contains_cons]
      by_cases hr : r.item.typeId = id
      · simp [hr, hid]
      · rw [beq_eq_false_iff_ne.2 hr]
        rfl
    rw [hown, hothers] at hsplit
    rw [List.flatMap_cons]
    exact ((ih hn).append_left _).trans hsplit

/-- The ids of the types of some results, in the order of the groups. -/
def groupIds (catalog : Catalog) (results : List Result) : List String :=
  (distinct (results.map (·.item.typeId))).mergeSort (typeOrder catalog)

private theorem groups_eq (catalog : Catalog) (results : List Result) : groups catalog results =
    (groupIds catalog results).map fun id => (id, results.filter (·.item.typeId == id)) := rfl

private theorem map_fst_groups (catalog : Catalog) (results : List Result) :
    (groups catalog results).map Prod.fst = groupIds catalog results := by
  rw [groups_eq, List.map_map]
  exact List.map_id _

theorem perm_groupIds (catalog : Catalog) (results : List Result) :
    (groupIds catalog results).Perm (results.map (·.item.typeId)).eraseDups := by
  rw [← distinct_eq]
  exact List.mergeSort_perm _ _

private theorem nodup_groupIds (catalog : Catalog) (results : List Result) :
    (groupIds catalog results).Nodup :=
  (perm_groupIds catalog results).nodup_iff.2 (Sorting.nodup_eraseDups _)

private theorem mem_groupIds {catalog : Catalog} {id : String} :
    id ∈ groupIds catalog results ↔ ∃ r ∈ results, r.item.typeId = id := by
  rw [(perm_groupIds catalog results).mem_iff, List.mem_eraseDups, List.mem_map]

private theorem pairwise_groupIds (catalog : Catalog) (results : List Result) :
    (groupIds catalog results).Pairwise fun a b =>
      Text.key (catalog.display a).name < Text.key (catalog.display b).name ∨
        Text.key (catalog.display a).name = Text.key (catalog.display b).name ∧ a < b := by
  rw [groupIds, distinct_eq]
  refine (orders_typeOrder catalog).pairwise_mergeSort_of_nodup (fun _ _ => trivial)
    (Sorting.nodup_eraseDups _) fun a b hab hne => ?_
  simp only [typeOrder, Bool.or_eq_true, Bool.and_eq_true, decide_eq_true_eq] at hab
  exact hab.imp_right fun ⟨heq, hle⟩ => ⟨heq, Sorting.lt_of_text_le hle hne⟩

/-- No result is lost, and none comes twice. -/
theorem perm_flatMap_groups (catalog : Catalog) (results : List Result) :
    ((groups catalog results).flatMap Prod.snd).Perm results := by
  have hall : results.filter (fun r => (groupIds catalog results).contains r.item.typeId) =
      results := by
    rw [List.filter_eq_self]
    intro r hr
    exact List.contains_iff_mem.2 (mem_groupIds.2 ⟨r, hr, rfl⟩)
  have hperm := perm_flatMap_filter (nodup_groupIds catalog results) results
  rw [hall] at hperm
  rw [groups_eq, List.flatMap_map]
  exact hperm

private theorem group_eq {catalog : Catalog} {group : String × List Result}
    (h : group ∈ groups catalog results) :
    group.2 = results.filter (·.item.typeId = group.1) := by
  obtain ⟨id, -, rfl⟩ := List.mem_map.1 h
  exact List.filter_congr fun r _ => Bool.beq_eq_decide_eq _ _

private theorem group_ext {catalog : Catalog} {a b : String × List Result}
    (ha : a ∈ groups catalog results) (hb : b ∈ groups catalog results) (hid : a.1 = b.1) :
    a = b := by
  refine Prod.ext hid ?_
  rw [group_eq ha, group_eq hb, hid]

private theorem mem_group {catalog : Catalog} {group : String × List Result} {r : Result}
    (h : group ∈ groups catalog results) :
    r ∈ group.2 ↔ r ∈ results ∧ r.item.typeId = group.1 := by
  rw [group_eq h, List.mem_filter, decide_eq_true_eq]

/-- Whatever types there are, the groups of some results are a partition of them: each result is in
the group of its type and in no other, no group is empty, and each has the results of its type in
their order. The groups have distinct ids and stand in the order of the names that these are shown
with, and then of the ids. -/
theorem groups_partition (types : List ItemType) (results : List Result) :
    ((groups (.ofTypes types) results).flatMap Prod.snd).Perm results ∧
    (∀ r ∈ results, ∃ group ∈ groups (.ofTypes types) results, r ∈ group.2 ∧
      group.1 = r.item.typeId ∧ ∀ other ∈ groups (.ofTypes types) results,
        r ∈ other.2 → other = group) ∧
    (∀ group ∈ groups (.ofTypes types) results, group.2 ≠ [] ∧
      group.2 = results.filter (·.item.typeId = group.1)) ∧
    ((groups (.ofTypes types) results).map Prod.fst).Nodup ∧
    (groups (.ofTypes types) results).Pairwise fun a b =>
      Text.key (shownName types a.1) < Text.key (shownName types b.1) ∨
        Text.key (shownName types a.1) = Text.key (shownName types b.1) ∧ a.1 < b.1 := by
  have hids := pairwise_groupIds (.ofTypes types) results
  simp only [name_display, ← map_fst_groups, List.pairwise_map] at hids
  refine ⟨perm_flatMap_groups _ results, ?_, ?_, ?_, hids⟩
  · intro r hr
    have hid : r.item.typeId ∈ groupIds (.ofTypes types) results := mem_groupIds.2 ⟨r, hr, rfl⟩
    rw [← map_fst_groups] at hid
    obtain ⟨group, hgroup, hid⟩ := List.mem_map.1 hid
    refine ⟨group, hgroup, (mem_group hgroup).2 ⟨hr, hid.symm⟩, hid, fun other hother hmem => ?_⟩
    exact group_ext hother hgroup (((mem_group hother).1 hmem).2.symm.trans hid.symm)
  · intro group hgroup
    have hid := List.mem_map_of_mem hgroup (f := Prod.fst)
    rw [map_fst_groups] at hid
    obtain ⟨r, hr, hid⟩ := mem_groupIds.1 hid
    exact ⟨List.ne_nil_of_mem ((mem_group hgroup).2 ⟨hr, hid⟩), group_eq hgroup⟩
  · rw [map_fst_groups]
    exact nodup_groupIds _ results

end Cuaderno.Search
