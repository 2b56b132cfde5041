import Mathlib.Data.Nat.Digits
import Recathon.Builder.Request

/-!
# Recathon.Text.Digits — what `%d` and `%ld` print

`sprintf` prints an integer as an optional minus sign followed by its decimal digits,
which is `toString` on `Int` (`Nat.repr` of the magnitude). The text layer needs two
facts about it:

* the digits of `10·n + d` are those of `n` followed by `d` (`repr_ten_mul_add`), which
  is why `%ld%ld` does not tell readings apart;
* every character printed is a minus sign or a decimal digit (`mem_toString_int`), so
  never a quote, and one byte long (`numeral_ne_quote`, `numeral_utf8Size`).
-/

namespace Recathon

set_option autoImplicit false

/-- `toDigitsCore` puts the digits of `n` in front of what it has accumulated. -/
theorem toDigitsCore_append {f n : Nat} (ds : List Char) (fuel : n < f) :
    Nat.toDigitsCore 10 f n ds = Nat.toDigitsCore 10 f n [] ++ ds := by
  induction f generalizing n ds with
  | zero => omega
  | succ f ih =>
      simp only [Nat.toDigitsCore]
      split
      · rfl
      · rw [ih (_ :: ds) (by omega), ih [_] (by omega), List.append_assoc]
        rfl

/-- Any fuel above `n` gives the same digits. -/
theorem toDigitsCore_fuel {f g n : Nat} (ds : List Char) (fuelF : n < f) (fuelG : n < g) :
    Nat.toDigitsCore 10 f n ds = Nat.toDigitsCore 10 g n ds := by
  induction f generalizing g n ds with
  | zero => omega
  | succ f ih =>
      cases g with
      | zero => omega
      | succ g =>
          simp only [Nat.toDigitsCore]
          split
          · rfl
          · exact ih _ (by omega) (by omega)

/-- The decimal digits of `10·n + d` are those of `n` followed by `d`. -/
theorem repr_ten_mul_add {n d : Nat} (pos : 0 < n) (digit : d < 10) :
    Nat.repr (10 * n + d) = Nat.repr n ++ Nat.repr d := by
  have last : Nat.toDigits 10 d = [Nat.digitChar d] := by
    simp [Nat.toDigits, Nat.toDigitsCore, Nat.div_eq_of_lt digit, Nat.mod_eq_of_lt digit]
  have front : Nat.toDigits 10 (10 * n + d) = Nat.toDigits 10 n ++ [Nat.digitChar d] := by
    have quot : (10 * n + d) / 10 = n := by omega
    have rem : (10 * n + d) % 10 = d := by omega
    rw [Nat.toDigits, Nat.toDigitsCore]
    simp only [quot, rem, if_neg (Nat.ne_of_gt pos)]
    rw [toDigitsCore_append _ (by omega), toDigitsCore_fuel [] (by omega : n < 10 * n + d)
      (by omega : n < n + 1)]
    rfl
  simp only [Nat.repr, front, last]
  rfl

/-- A character `%d` can print. -/
def IsNumeral (c : Char) : Prop := c = '-' ∨ ∃ k < 10, c = Nat.digitChar k

/-- Every character `toDigitsCore` adds is a decimal digit. -/
theorem mem_toDigitsCore {f n : Nat} {ds : List Char} {c : Char}
    (mem : c ∈ Nat.toDigitsCore 10 f n ds) : c ∈ ds ∨ IsNumeral c := by
  induction f generalizing n ds with
  | zero => exact .inl mem
  | succ f ih =>
      have digit : IsNumeral (Nat.digitChar (n % 10)) := .inr ⟨n % 10, Nat.mod_lt _ (by decide), rfl⟩
      have head : c ∈ Nat.digitChar (n % 10) :: ds → c ∈ ds ∨ IsNumeral c := by
        rintro (_ | ⟨_, mem⟩)
        · exact .inr digit
        · exact .inl mem
      simp only [Nat.toDigitsCore] at mem
      split at mem
      · exact head mem
      · exact (ih mem).elim head .inr

theorem mem_toString_nat {n : Nat} {c : Char} (mem : c ∈ (toString n).data) : IsNumeral c :=
  (mem_toDigitsCore mem).resolve_left (List.not_mem_nil c)

/-- Every character `%d` prints is a minus sign or a digit. -/
theorem mem_toString_int {n : Int} {c : Char} (mem : c ∈ (toString n).data) : IsNumeral c := by
  cases n with
  | ofNat m => exact mem_toString_nat mem
  | negSucc m =>
      rcases List.mem_cons.1 mem with rfl | mem
      · exact .inl rfl
      · exact mem_toString_nat mem

theorem numeral_ne_quote {c : Char} (numeral : IsNumeral c) : c ≠ Char.ofNat 39 := by
  rcases numeral with rfl | ⟨k, lt, rfl⟩
  · decide
  · exact (by decide : ∀ k < 10, Nat.digitChar k ≠ Char.ofNat 39) k lt

theorem numeral_utf8Size {c : Char} (numeral : IsNumeral c) : c.utf8Size = 1 := by
  rcases numeral with rfl | ⟨k, lt, rfl⟩
  · rfl
  · exact (by decide : ∀ k < 10, (Nat.digitChar k).utf8Size = 1) k lt

end Recathon
