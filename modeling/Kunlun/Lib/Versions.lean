import Kunlun.Lib.Table

/-!
# Versioned records

The rows of one name have the versions 1, 2, 3, …, and the last of them alone is in force. A
new version retires the one before it, and no row is taken out.
-/

variable {α : Type}

theorem Table.firstDesc_concat {f : α → Int} {rows : List α} {a : α} (h : ∀ b ∈ rows, f b < f a) :
    Table.firstDesc f (rows ++ [a]) = some a := by
  induction rows with
  | nil => rfl
  | cons b rows ih =>
    rw [List.cons_append, Table.firstDesc, ih fun x hx => h x (.tail _ hx)]
    exact if_pos (h b (.head _))

structure Versioned (version : α → Nat) (active : α → Bool) (rows : List α) : Prop where
  gapless : rows.map version = List.range' 1 rows.length
  inForce : rows.filter active = rows.getLast?.toList

/-- The version after that of the latest row. -/
def nextVersion (version : α → Nat) (latest : Option α) : Nat :=
  latest.elim 1 fun a => version a + 1

namespace Versioned

variable {version : α → Nat} {active : α → Bool} {rows : List α}

theorem nil : Versioned version active [] := ⟨rfl, rfl⟩

theorem gapless_concat {a : α} : (rows ++ [a]).map version = List.range' 1 (rows ++ [a]).length ↔
    rows.map version = List.range' 1 rows.length ∧ version a = rows.length + 1 := by
  rw [List.map_append, List.length_append, List.map_singleton, List.length_singleton,
    List.range'_1_concat, List.append_singleton_inj, Nat.add_comm 1]

theorem nextVersion_eq (h : Versioned version active rows) :
    nextVersion version rows.getLast? = rows.length + 1 := by
  rcases List.eq_nil_or_concat rows with rfl | ⟨before, a, rfl⟩
  · rfl
  · rw [List.concat_eq_append] at h ⊢
    rw [List.getLast?_concat, nextVersion, Option.elim_some, (gapless_concat.1 h.gapless).2,
      List.length_append, List.length_singleton]

/-- `ORDER BY version DESC` finds the last row. -/
theorem firstDesc_eq (h : Versioned version active rows) :
    Table.firstDesc (fun a => (version a : Int)) rows = rows.getLast? := by
  rcases List.eq_nil_or_concat rows with rfl | ⟨before, a, rfl⟩
  · rfl
  · rw [List.concat_eq_append] at h ⊢
    obtain ⟨hbefore, hlast⟩ := gapless_concat.1 h.gapless
    rw [List.getLast?_concat]
    apply Table.firstDesc_concat
    intro b hb
    have hmem := List.mem_map_of_mem (f := version) hb
    rw [hbefore, List.mem_range'_1] at hmem
    omega

theorem firstDesc_inForce (h : Versioned version active rows) :
    Table.firstDesc (fun a => (version a : Int)) (rows.filter active) = rows.getLast? := by
  rw [h.inForce]
  cases rows.getLast? with
  | none => rfl
  | some a => rfl

theorem succeed (h : Versioned version active rows) {retire : α → α} {a : α}
    (hversion : ∀ b, version (retire b) = version b)
    (hretired : ∀ b, active (retire b) = false) (ha : active a)
    (hnext : version a = nextVersion version rows.getLast?) :
    Versioned version active (rows.map retire ++ [a]) := by
  constructor
  · rw [gapless_concat, List.map_map, List.length_map, ← h.nextVersion_eq]
    refine ⟨?_, hnext⟩
    rw [← h.gapless]
    exact List.map_congr_left fun b _ => hversion b
  · have hnone : (rows.map retire).filter active = [] := by
      rw [List.filter_eq_nil_iff]
      intro b hb
      obtain ⟨x, -, rfl⟩ := List.mem_map.1 hb
      rw [hretired]
      exact Bool.false_ne_true
    rw [List.filter_append, hnone, List.getLast?_concat, List.nil_append, List.filter_singleton, ha]
    rfl

end Versioned
