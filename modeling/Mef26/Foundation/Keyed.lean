import Mathlib.Data.List.Nodup
import Mathlib.Tactic.TypeStar

namespace Mef26

/-! # Tables whose entries have names

A table is a list. What is found or removed under a name is its first entry of that
name; while names are distinct there is no other. -/

namespace Keyed

variable {Entry Name : Type*} (name : Entry → Name)

def Distinct (entries : List Entry) : Prop := (entries.map name).Nodup

theorem distinct_concat {name : Entry → Name} {entries : List Entry} {entry : Entry}
    (distinct : Distinct name entries) (unused : name entry ∉ entries.map name) :
    Distinct name (entries ++ [entry]) := by
  rw [Distinct, List.map_append, List.nodup_append]
  refine ⟨distinct, List.nodup_singleton _, ?_⟩
  intro earlier member last isLast same
  rw [List.map_singleton, List.mem_singleton] at isLast
  exact unused (isLast ▸ same ▸ member)

variable [DecidableEq Name]

def find (entries : List Entry) (wanted : Name) : Option Entry :=
  entries.find? fun entry => name entry = wanted

def remove (entries : List Entry) (wanted : Name) : List Entry :=
  entries.eraseP fun entry => name entry = wanted

variable {name} {entries : List Entry} {wanted : Name} {entry : Entry}

theorem mem_of_find (found : find name entries wanted = some entry) :
    entry ∈ entries ∧ name entry = wanted :=
  ⟨List.mem_of_find?_eq_some found, by simpa using List.find?_some found⟩

theorem find_eq_none : find name entries wanted = none ↔ wanted ∉ entries.map name := by
  simp [find]

theorem find_eq_some (distinct : Distinct name entries) :
    find name entries wanted = some entry ↔ entry ∈ entries ∧ name entry = wanted := by
  constructor
  · exact mem_of_find
  · intro held
    rcases held with ⟨member, named⟩
    cases found : find name entries wanted with
    | none => exact absurd (List.mem_map.mpr ⟨entry, member, named⟩) (find_eq_none.mp found)
    | some other =>
        rcases mem_of_find found with ⟨otherMember, otherNamed⟩
        exact congrArg some
          (List.inj_on_of_nodup_map distinct otherMember member (otherNamed.trans named.symm))

theorem findIdx?_eq_some {index : Nat}
    (found : (entries.findIdx? fun entry => name entry = wanted) = some index) :
    ∃ entry, entries[index]? = some entry ∧ find name entries wanted = some entry ∧
      entries.eraseIdx index = remove name entries wanted := by
  rcases List.findIdx?_eq_some_iff_getElem.mp found with ⟨inside, here, _⟩
  refine ⟨entries[index], List.getElem?_eq_getElem inside, ?_, ?_⟩
  · rw [find, List.find?_eq_getElem?_findIdx,
      (List.findIdx?_eq_some_iff_findIdx_eq.mp found).2, List.getElem?_eq_getElem inside]
  · rw [remove, List.eraseP_eq_eraseIdx, found]

theorem findIdx?_eq_none :
    (entries.findIdx? fun entry => name entry = wanted) = none ↔
      find name entries wanted = none := by
  simp [find]

theorem remove_sublist : (remove name entries wanted).Sublist entries :=
  List.eraseP_sublist

theorem exists_removed (member : entry ∈ entries) (named : name entry = wanted) :
    ∃ first before after, name first = wanted ∧ (∀ earlier ∈ before, name earlier ≠ wanted) ∧
      entries = before ++ first :: after ∧ remove name entries wanted = before ++ after := by
  rcases @List.exists_of_eraseP _ (fun entry => decide (name entry = wanted)) _ _ member
    (decide_eq_true named) with ⟨first, before, after, others, isFirst, split, removed⟩
  refine ⟨first, before, after, of_decide_eq_true isFirst, ?_, split, removed⟩
  intro earlier isEarlier same
  exact others earlier isEarlier (decide_eq_true same)

theorem mem_remove (distinct : Distinct name entries) :
    entry ∈ remove name entries wanted ↔ entry ∈ entries ∧ name entry ≠ wanted := by
  by_cases named : name entry = wanted
  · simp only [named, ne_eq, not_true, and_false, iff_false]
    intro remaining
    rcases exists_removed (remove_sublist.subset remaining) named
      with ⟨first, before, after, isFirst, _, split, removed⟩
    rw [removed] at remaining
    rw [Distinct, split, List.map_append, List.map_cons, List.nodup_append] at distinct
    have same : name first = name entry := isFirst.trans named.symm
    rcases List.mem_append.mp remaining with earlier | later
    · exact distinct.2.2 _ (List.mem_map_of_mem earlier) _ (List.mem_cons_self ..) same.symm
    · exact (List.nodup_cons.mp distinct.2.1).1 (same ▸ List.mem_map_of_mem later)
  · simp only [named, ne_eq, not_false_eq_true, and_true]
    exact List.mem_eraseP_of_neg (mt of_decide_eq_true named)

end Keyed

end Mef26
