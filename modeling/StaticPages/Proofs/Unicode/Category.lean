import Mathlib.Data.List.Chain
import StaticPages.Unicode.Category

namespace StaticPages.Unicode

/-- Whether a range ends before another one begins. -/
def Precedes (x y : Nat × Nat × Nat) : Prop :=
  x.1 ≤ x.2.1 ∧ x.2.1 < y.1

instance (x y : Nat × Nat × Nat) : Decidable (Precedes x y) :=
  inferInstanceAs (Decidable (_ ∧ _))

instance : Trans Precedes Precedes Precedes where
  trans hxy hyz := ⟨hxy.1, Nat.lt_of_lt_of_le hxy.2 (Nat.le_trans hyz.1 (Nat.le_of_lt hyz.2))⟩

/-- Whether two ranges have no code point in common. Only where neither ends before the other
    begins are the code points themselves looked at. -/
def apart (x y : Nat × Nat × Nat) : Bool :=
  x.2.1.blt y.1 || y.2.1.blt x.1 ||
    (List.range' x.1 (x.2.1 + 1 - x.1)).all fun n =>
      !(steps n x.1 x.2.1 x.2.2 && steps n y.1 y.2.1 y.2.2)

theorem apart_of_lt {x y : Nat × Nat × Nat} (h : x.2.1 < y.1 ∨ y.2.1 < x.1) : apart x y = true := by
  simp only [apart, Bool.or_eq_true, Nat.blt_eq]
  exact .inl h

theorem not_steps_of_apart {n : Nat} {x y : Nat × Nat × Nat} (h : apart x y = true)
    (hx : steps n x.1 x.2.1 x.2.2 = true) : steps n y.1 y.2.1 y.2.2 = false := by
  rw [Bool.eq_false_iff]
  intro hy
  have hwithin := hx
  have hwithin' := hy
  simp only [steps, Bool.and_eq_true, decide_eq_true_eq] at hwithin hwithin'
  simp only [apart, Bool.or_eq_true, Nat.blt_eq, List.all_eq_true] at h
  rcases h with (hbefore | hbehind) | hall
  · omega
  · omega
  · have hmem : n ∈ List.range' x.1 (x.2.1 + 1 - x.1) := List.mem_range'_1.mpr (by omega)
    simpa [hx, hy] using hall n hmem

/-- Whether no range of one table meets a range of another. The tables are gone through side by
    side: the range that ends first meets nothing that is still to come in the other table. -/
def Ranges.areApart : Ranges → Ranges → Bool
  | x :: a, y :: b =>
    apart x y && if x.2.1 ≤ y.2.1 then areApart a (y :: b) else areApart (x :: a) b
  | _, _ => true
termination_by a b => a.length + b.length

theorem Ranges.apart_of_areApart {a b : Ranges} (ha : a.IsChain Precedes)
    (hb : b.IsChain Precedes) (h : a.areApart b = true) : ∀ x ∈ a, ∀ y ∈ b, apart x y = true := by
  rw [List.isChain_iff_pairwise] at ha hb
  fun_induction areApart a b with
  | case1 x a y b ihLeft ihRight =>
    obtain ⟨hxy, hrest⟩ := Bool.and_eq_true_iff.mp h
    obtain ⟨hx, ha'⟩ := List.pairwise_cons.mp ha
    obtain ⟨hy, hb'⟩ := List.pairwise_cons.mp hb
    split at hrest
    · next hle =>
      refine List.forall_mem_cons.mpr ⟨List.forall_mem_cons.mpr ⟨hxy, fun y' hy' => ?_⟩,
        ihLeft ha' hb hrest⟩
      exact apart_of_lt (.inl (Nat.lt_of_le_of_lt hle (hy y' hy').2))
    · next hlt =>
      have hall := ihRight ha hb' hrest
      refine List.forall_mem_cons.mpr ⟨List.forall_mem_cons.mpr ⟨hxy, hall x List.mem_cons_self⟩,
        fun x' hx' => List.forall_mem_cons.mpr ⟨?_, hall x' (List.mem_cons_of_mem _ hx')⟩⟩
      exact apart_of_lt (.inr (Nat.lt_trans (Nat.lt_of_not_le hlt) (hx x' hx').2))
  | case2 a b hnone =>
    cases a with
    | nil => nofun
    | cons x a =>
      cases b with
      | nil => nofun
      | cons y b => exact absurd rfl (hnone x a y b rfl)

theorem Ranges.has_eq_false {a b : Ranges} (ha : a.IsChain Precedes) (hb : b.IsChain Precedes)
    (h : a.areApart b = true) {n : Nat} (hn : a.has n = true) : b.has n = false := by
  obtain ⟨x, hx, hsteps⟩ := List.any_eq_true.mp hn
  refine List.any_eq_false.mpr fun y hy => ?_
  exact Bool.eq_false_iff.mp (not_steps_of_apart (apart_of_areApart ha hb h x hx y hy) hsteps)

theorem isChain_upperCaseLetters : upperCaseLetters.IsChain Precedes := by
  decide +kernel

/-- No upper-case letter is a lower-case letter as well. -/
theorem isLower_of_isUpper {c : Char} (h : isUpper c = true) : isLower c = false := by
  have hchain : lowerCaseLetters.IsChain Precedes := by decide +kernel
  exact Ranges.has_eq_false isChain_upperCaseLetters hchain (by decide +kernel) h

/-- No upper-case letter is a number. -/
theorem isNumber_of_isUpper {c : Char} (h : isUpper c = true) : isNumber c = false := by
  have hchain : numbers.IsChain Precedes := by decide +kernel
  exact Ranges.has_eq_false isChain_upperCaseLetters hchain (by decide +kernel) h

end StaticPages.Unicode
