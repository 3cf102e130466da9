import Mathlib.Data.List.Sort
import Mathlib.Tactic

/-!
# Tables in the order of their keys

An ordered map is the list of its entries, in which the keys strictly increase.  A table is
determined by its entries (`Increasing.ext`), and a new key is inserted in its place.
-/

namespace Lib

variable {κ α : Type} [LinearOrder κ]

/-- The keys of the table increase. -/
def Increasing (table : List (κ × α)) : Prop := table.Pairwise fun a b => a.1 < b.1

/-- A key has one entry. -/
theorem Increasing.key_inj {table : List (κ × α)} (h : Increasing table) {k : κ} {a b : α}
    (ha : (k, a) ∈ table) (hb : (k, b) ∈ table) : a = b := by
  have hkeys : (table.map Prod.fst).Nodup := by
    rw [List.Nodup, List.pairwise_map]
    exact h.imp fun hlt => hlt.ne
  exact congrArg Prod.snd (List.inj_on_of_nodup_map hkeys ha hb rfl)

/-- A table is determined by its entries. -/
theorem Increasing.ext {t t' : List (κ × α)} (h : Increasing t) (h' : Increasing t')
    (hmem : ∀ q, q ∈ t ↔ q ∈ t') : t = t' := by
  have nodup : ∀ {u : List (κ × α)}, Increasing u → u.Nodup :=
    fun hu => hu.imp fun hlt he => absurd (congrArg Prod.fst he) hlt.ne
  exact List.Perm.eq_of_pairwise (fun _ _ _ _ hab hba => absurd hab hba.asymm) h h'
    ((List.perm_ext_iff_of_nodup (nodup h) (nodup h')).mpr hmem)

/-- The values come in the order of their keys. -/
theorem Increasing.values {table : List (κ × α)} (h : Increasing table) {key : α → κ}
    (hkey : ∀ q ∈ table, q.1 = key q.2) :
    (table.map Prod.snd).Pairwise fun a b => key a < key b := by
  rw [List.pairwise_map]
  refine List.Pairwise.imp_of_mem ?_ h
  intro a b ha hb hlt
  rw [← hkey a ha, ← hkey b hb]
  exact hlt

/-- A new key is inserted in its place. -/
theorem Increasing.orderedInsert {table : List (κ × α)} (h : Increasing table) {k : κ} (a : α)
    (hk : k ∉ table.map Prod.fst) :
    Increasing (table.orderedInsert (fun x y => x.1 ≤ y.1) (k, a)) := by
  induction table with
  | nil => exact List.pairwise_singleton ..
  | cons q table ih =>
      rw [List.map_cons, List.mem_cons, not_or] at hk
      obtain ⟨hq, hrest⟩ := List.pairwise_cons.mp h
      rw [List.orderedInsert_cons]
      split
      · next hle =>
        have hlt : k < q.1 := lt_of_le_of_ne hle hk.1
        refine List.pairwise_cons.mpr ⟨?_, h⟩
        intro x hx
        rcases List.mem_cons.mp hx with rfl | hx
        · exact hlt
        · exact hlt.trans (hq x hx)
      · next hle =>
        refine List.pairwise_cons.mpr ⟨?_, ih hrest hk.2⟩
        intro x hx
        rcases (List.mem_orderedInsert _).mp hx with rfl | hx
        · exact not_le.mp hle
        · exact hq x hx

end Lib
