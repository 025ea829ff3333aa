/-!
# Decimal digits of naturals

`digits` lists the decimal digits of a natural number, most significant
first and without leading zeros (zero is the one digit 0), `ofDigits` reads
such a list back. Main statement: `ofDigits_digits`.
-/

namespace Switchboard.Decimal

/-- The value of a list of decimal digits, most significant first. -/
def ofDigits (ds : List Nat) : Nat :=
  ds.foldl (fun n d => 10 * n + d) 0

/-- The decimal digits, most significant first. -/
def digits (n : Nat) : List Nat :=
  if n < 10 then [n] else digits (n / 10) ++ [n % 10]

theorem ofDigits_append_singleton (ds : List Nat) (d : Nat) :
    ofDigits (ds ++ [d]) = 10 * ofDigits ds + d := by
  simp [ofDigits]

theorem ofDigits_digits (n : Nat) : ofDigits (digits n) = n := by
  fun_induction digits n with
  | case1 n _ => simp [ofDigits]
  | case2 n _ ih => rw [ofDigits_append_singleton, ih]; omega

theorem digits_lt_ten (n : Nat) : ∀ d ∈ digits n, d < 10 := by
  fun_induction digits n with
  | case1 n h => simpa using h
  | case2 n _ ih =>
      intro d hd
      rcases List.mem_append.mp hd with hd | hd
      · exact ih d hd
      · obtain rfl := List.mem_singleton.mp hd
        omega

theorem digits_ne_nil (n : Nat) : digits n ≠ [] := by
  unfold digits; split <;> simp

/-- The character of a decimal digit. -/
def digitChar (d : Nat) : Char :=
  Char.ofNat (48 + d)

/-- The value of a decimal digit character. -/
def digitValue? (c : Char) : Option Nat :=
  if '0' ≤ c ∧ c ≤ '9' then some (c.toNat - 48) else none

theorem digitValue?_digitChar : ∀ d < 10, digitValue? (digitChar d) = some d := by
  decide

theorem digitChar_of_digitValue? {c : Char} {d : Nat} (h : digitValue? c = some d) :
    d < 10 ∧ c = digitChar d := by
  unfold digitValue? at h
  split at h
  · rename_i hc
    obtain ⟨hlow, hhigh⟩ := hc
    rw [Char.le_def, UInt32.le_iff_toNat_le] at hlow hhigh
    have hlow : 48 ≤ c.toNat := hlow
    have hhigh : c.toNat ≤ 57 := hhigh
    cases h
    refine ⟨by omega, ?_⟩
    rw [digitChar, Nat.add_sub_cancel' hlow, Char.ofNat_toNat]
  · cases h

/-- The decimal form of a natural number. -/
def format (n : Nat) : String :=
  String.ofList ((digits n).map digitChar)

/-- The decimal form of an integer, with a minus sign where it is negative. -/
def formatInt (n : Int) : String :=
  if n < 0 then "-" ++ format n.natAbs else format n.natAbs

end Switchboard.Decimal
