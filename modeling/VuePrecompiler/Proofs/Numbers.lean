import VuePrecompiler.Text.Bytes
import VuePrecompiler.Text.Number

/-!
# Numbers read back

Digits are read from the front, whatever their letter case is, and those that a
number is written with give the number again.  Every digit is one byte.
-/

namespace VuePrecompiler.Text

theorem digitValue?_digitChar {base digit : Nat} (atMost : base ≤ 16)
    (small : digit < base) : digitValue? base digit.digitChar = some digit := by
  have value : ∀ digit < 16, digitValue? 16 digit.digitChar = some digit := by decide
  have known := value digit (by omega)
  unfold digitValue? at known ⊢
  simp only [Option.ite_none_right_eq_some, Option.some.injEq] at known
  simp only [known.2, small, ↓reduceIte]

/-- A character is a capital letter of ASCII, or it is in lower case already. -/
theorem capital_or_toLower_eq (c : Char) :
    (∃ code, 65 ≤ code ∧ code < 91 ∧ c = Char.ofNat code) ∨ c.toLower = c := by
  by_cases capital : 'A'.val ≤ c.val ∧ c.val ≤ 'Z'.val
  · have least : 65 ≤ c.toNat := UInt32.le_iff_toNat_le.mp capital.1
    have most : c.toNat ≤ 90 := UInt32.le_iff_toNat_le.mp capital.2
    exact .inl ⟨c.toNat, least, by omega, (Char.ofNat_toNat c).symm⟩
  · exact .inr (dif_neg capital)

/-- The letter case of a digit does not matter. -/
theorem digitValue?_toLower (c : Char) :
    digitValue? 16 c.toLower = digitValue? 16 c := by
  have capitals : ∀ code < 91, 65 ≤ code →
      digitValue? 16 (Char.ofNat code).toLower = digitValue? 16 (Char.ofNat code) := by
    decide
  rcases capital_or_toLower_eq c with ⟨code, least, most, rfl⟩ | same
  · exact capitals code most least
  · rw [same]

/-- The digits stand between zero and a small F. -/
theorem bounds_of_digitValue? {base digit : Nat} {c : Char} (atMost : base ≤ 16)
    (known : digitValue? base c = some digit) : '0' ≤ c ∧ c ≤ 'f' := by
  unfold digitValue? at known
  simp only [Bool.and_eq_true, decide_eq_true_eq] at known
  split at known
  · next decimal => exact ⟨decimal.1, Char.le_trans decimal.2 (by decide)⟩
  split at known
  · next letter => exact ⟨Char.le_trans (by decide) letter.1, letter.2⟩
  split at known
  · next capital =>
    exact ⟨Char.le_trans (by decide) capital.1, Char.le_trans capital.2 (by decide)⟩
  · simp only [Option.ite_none_right_eq_some] at known
    omega

/-- Every digit is one byte. -/
theorem utf8Size_of_digitValue? {base digit : Nat} {c : Char} (atMost : base ≤ 16)
    (known : digitValue? base c = some digit) : c.utf8Size = 1 := by
  have small : c.val ≤ 'f'.val := (bounds_of_digitValue? atMost known).2
  exact Char.utf8Size_eq_one_iff.mpr (UInt32.le_trans small (by decide))

/-- Digits are read from the front, so the last one is added at the end. -/
theorem numberBehind?_concat (base before : Nat) (digits : List Char) (c : Char) :
    numberBehind? base before (digits ++ [c]) =
      (numberBehind? base before digits).bind fun front =>
        (digitValue? base c).map fun digit => front * base + digit := by
  induction digits generalizing before with
  | nil =>
      rw [List.nil_append, numberBehind?, numberBehind?, Option.bind_some,
        Option.map_eq_bind]
      rfl
  | cons first rest induction =>
      rw [List.cons_append, numberBehind?, numberBehind?]
      cases digitValue? base first with
      | none => rfl
      | some digit => exact induction _

theorem numberBehind?_toDigits {base : Nat} (atLeast : 1 < base)
    (atMost : base ≤ 16) (n : Nat) :
    numberBehind? base 0 (Nat.toDigits base n) = some n := by
  induction n using Nat.strongRecOn with
  | ind n induction =>
      have last : digitValue? base (n % base).digitChar = some (n % base) :=
        digitValue?_digitChar atMost (Nat.mod_lt n (by omega))
      rw [Nat.toDigits_eq_if atLeast]
      split
      · next small =>
        rw [numberBehind?, digitValue?_digitChar atMost small, Option.bind_some,
          numberBehind?, Nat.zero_mul, Nat.zero_add]
      · next large =>
        have shorter : n / base < n := Nat.div_lt_self (by omega) atLeast
        rw [numberBehind?_concat, induction _ shorter, last, Option.bind_some,
          Option.map_some, Nat.div_add_mod' n base]

theorem numberBehind?_zeros {base : Nat} (positive : 0 < base) (zeros : Nat)
    (digits : List Char) :
    numberBehind? base 0 (List.replicate zeros '0' ++ digits) =
      numberBehind? base 0 digits := by
  have zero : digitValue? base '0' = some 0 := by
    simpa [digitValue?] using Nat.ne_of_gt positive
  induction zeros with
  | zero => simp
  | succ zeros induction =>
      simpa [List.replicate_succ, numberBehind?, zero] using induction

theorem numberBehind?_map_toLower (before : Nat) (digits : List Char) :
    numberBehind? 16 before (digits.map Char.toLower) =
      numberBehind? 16 before digits := by
  induction digits generalizing before with
  | nil => rfl
  | cons first rest induction =>
      rw [List.map_cons, numberBehind?, numberBehind?, digitValue?_toLower]
      exact Option.bind_congr fun digit _ => induction _

section

variable {base before n : Nat} {digits : List Char}

theorem exists_digitValue? (number : numberBehind? base before digits = some n) :
    ∀ c ∈ digits, ∃ digit, digitValue? base c = some digit := by
  induction digits generalizing before with
  | nil => simp
  | cons first rest induction =>
      obtain ⟨digit, value, later⟩ := Option.bind_eq_some_iff.mp number
      exact List.forall_mem_cons.mpr ⟨⟨digit, value⟩, induction later⟩

/-- What has no value as a digit is in no number. -/
theorem notMem_of_numberBehind? (number : numberBehind? base before digits = some n)
    {c : Char} (other : digitValue? base c = none) : c ∉ digits := by
  intro member
  obtain ⟨digit, value⟩ := exists_digitValue? number c member
  rw [other] at value
  contradiction

theorem byteLength_of_numberBehind? (atMost : base ≤ 16)
    (number : numberBehind? base before digits = some n) :
    byteLength digits = digits.length := by
  induction digits generalizing before with
  | nil => rfl
  | cons first rest induction =>
      obtain ⟨digit, value, later⟩ := Option.bind_eq_some_iff.mp number
      rw [byteLength_cons, utf8Size_of_digitValue? atMost value, induction later,
        List.length_cons, Nat.add_comm]

theorem word32?_of_numberBehind? (noSign : digitValue? base '+' = none)
    (number : numberBehind? base 0 digits = some n) (nonempty : digits ≠ [])
    (small : n < 0x100000000) : word32? base digits = some n := by
  have digitsRead : number? base digits = some n := by
    cases digits with
    | nil => contradiction
    | cons first rest => exact number
  unfold word32?
  dsimp only
  split
  · exact absurd List.mem_cons_self (notMem_of_numberBehind? number noSign)
  · rw [digitsRead, Option.filter_some, if_pos (decide_eq_true small)]

end

end VuePrecompiler.Text
