import Mathlib.Algebra.Order.Ring.Nat
import Brokerage.Time.Reader

namespace Brokerage

/-!
How far an instant that is read can lie.

Every part of the text of an instant has a fixed number of digits, so the
instant lies before the one that stands for a missing instant.
-/

namespace InstantReader

/-- Decimal digits write a number below the power of ten that has one digit more. -/
theorem foldl_digits_lt {digits : List Char} (decimal : digits.all Char.isDigit = true)
    (total : Nat) :
    digits.foldl (fun total c => 10 * total + (c.toNat - 48)) total <
      (total + 1) * 10 ^ digits.length := by
  induction digits generalizing total with
  | nil => simp
  | cons c rest ih =>
      rw [List.all_cons, Bool.and_eq_true] at decimal
      have digit : c.toNat ≤ 57 := by
        have range := decimal.1
        unfold Char.isDigit at range
        rw [Bool.and_eq_true, decide_eq_true_eq, decide_eq_true_eq] at range
        exact UInt32.le_iff_toNat_le.mp range.2
      have later := ih decimal.2 (10 * total + (c.toNat - 48))
      have grows : 10 * total + (c.toNat - 48) + 1 ≤ (total + 1) * 10 := by omega
      have scaled := Nat.mul_le_mul_right (10 ^ rest.length) grows
      rw [List.foldl_cons, List.length_cons, Nat.pow_succ']
      rw [Nat.mul_assoc] at scaled
      omega

section Parts

variable {text rest : List Char}

theorem fixedDigits?_lt {count value : Nat} (read : fixedDigits? count text = some (value, rest)) :
    value < 10 ^ count := by
  unfold fixedDigits? at read
  dsimp only at read
  split at read
  · rename_i fits
    cases read
    rw [Bool.and_eq_true, decide_eq_true_eq] at fits
    have below := foldl_digits_lt fits.2 0
    rw [fits.1] at below
    omega
  · cases read

theorem date?_lt {day : Int} (read : date? text = some (day, rest)) : day < 10000000 := by
  simp only [date?, Option.bind_eq_bind, Option.bind_eq_some_iff] at read
  rcases read with ⟨⟨year, _⟩, years, _, _, ⟨month, _⟩, months, _, _, ⟨number, _⟩, days, valid⟩
  have earliest := fixedDigits?_lt years
  have latest := fixedDigits?_lt days
  split at valid
  · cases valid
    unfold Date.dayNumber
    dsimp only
    split <;> omega
  · cases valid

theorem decimals?_lt {nanoseconds : Nat} (read : decimals? text = some (nanoseconds, rest)) :
    nanoseconds < 1000000000 := by
  unfold decimals? at read
  dsimp only at read
  split at read
  · cases read
  · rename_i short
    simp only [Option.bind_eq_bind, Option.bind_eq_some_iff] at read
    rcases read with ⟨⟨value, _⟩, digits, same⟩
    cases same
    have below := fixedDigits?_lt digits
    generalize (text.takeWhile Char.isDigit).length = length at short below
    have few : length ≤ 9 := by simp at short; omega
    have places : 0 < 10 ^ (9 - length) := Nat.pow_pos (by decide)
    have scaled := Nat.mul_lt_mul_of_pos_right below places
    rw [← Nat.pow_add, Nat.add_sub_cancel' few] at scaled
    exact scaled

theorem hoursAndMinutes?_lt {seconds : Nat}
    (read : hoursAndMinutes? text = some (seconds, rest)) : seconds < 86400 := by
  simp only [hoursAndMinutes?, Option.bind_eq_bind, Option.bind_eq_some_iff] at read
  rcases read with ⟨⟨hours, _⟩, -, _, -, ⟨minutes, _⟩, -, valid⟩
  split at valid
  · rename_i bounded
    cases valid
    rw [Bool.and_eq_true, decide_eq_true_eq, decide_eq_true_eq] at bounded
    omega
  · cases valid

theorem seconds?_lt {nanoseconds : Nat} (read : seconds? text = some (nanoseconds, rest)) :
    nanoseconds < 61000000000 := by
  unfold seconds? at read
  split at read
  · simp only [Option.bind_eq_bind, Option.bind_eq_some_iff] at read
    rcases read with ⟨⟨seconds, _⟩, -, valid⟩
    split at valid
    · cases valid
    · split at valid
      · simp only [Option.bind_eq_some_iff] at valid
        rcases valid with ⟨⟨fraction, _⟩, decimals, same⟩
        have below := decimals?_lt decimals
        cases same
        omega
      · cases valid
        omega
  · cases read
    omega

theorem time?_lt {nanoseconds : Nat} (read : time? text = some (nanoseconds, rest)) :
    nanoseconds < 90000000000000 := by
  unfold time? at read
  split at read
  · split at read
    · simp only [Option.bind_eq_bind, Option.bind_eq_some_iff] at read
      rcases read with ⟨⟨minutes, _⟩, first, ⟨seconds, _⟩, second, same⟩
      have early := hoursAndMinutes?_lt first
      have late := seconds?_lt second
      cases same
      omega
    · cases read
      omega
  · cases read
    omega

theorem zone?_gt {offset : Int} (read : zone? text = some offset) : -86400 < offset := by
  unfold zone? at read
  split at read
  · cases read
    omega
  · cases read
    omega
  · split at read
    · cases read
      omega
    · cases read
  · split at read
    · rename_i ahead
      have bounded := hoursAndMinutes?_lt ahead
      cases read
      omega
    · cases read
  · cases read

end Parts
end InstantReader

namespace Instant

theorem nanoseconds_missing : missing.nanoseconds = 1000000000000000000000000000000 := by
  decide

theorem lt_missing_of_known? {instant known : Instant} (found : instant.known? = some known) :
    known < missing := by
  unfold known? at found
  split at found
  · rename_i before
    cases found
    exact before
  · cases found

theorem known?_of_lt_missing {instant : Instant} (before : instant < missing) :
    instant.known? = some instant :=
  if_pos before

/-- A count of nanoseconds that fits into a word lies before the instant that stands for a missing
one. -/
theorem lt_missing_of_fits {count : Int} (fits : count.natAbs ≤ Duration.largest) :
    (⟨count⟩ : Instant) < missing := by
  have largest : Duration.largest = 9223372036854775807 := by decide
  change count < missing.nanoseconds
  rw [nanoseconds_missing]
  omega

/-- What is read lies before the instant that stands for a missing one. -/
theorem lt_missing_of_ofText? {text : String} {instant : Instant}
    (read : ofText? text = some instant) : instant < missing := by
  simp only [ofText?, Option.bind_eq_bind, Option.bind_eq_some_iff] at read
  rcases read with ⟨⟨day, _⟩, dated, ⟨nanoseconds, _⟩, timed, offset, zoned, same⟩
  have days := InstantReader.date?_lt dated
  have fraction := InstantReader.time?_lt timed
  have zone := InstantReader.zone?_gt zoned
  cases same
  change day * 86400000000000 + nanoseconds - offset * 1000000000 < missing.nanoseconds
  rw [nanoseconds_missing]
  omega

end Instant

end Brokerage
