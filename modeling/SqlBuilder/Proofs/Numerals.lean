import SqlBuilder.Decimal.Integer
import SqlBuilder.Proofs.Window

/-!
# Numbers are read back from their numerals

The numeral of a natural number consists of digits, most significant first. Reading takes them one
by one, so it finds the number again, and white space in front of a numeral makes no difference.
-/

namespace SqlBuilder

theorem Text.digit?_of_isDigit {c : Char} (h : c.isDigit = true) :
    digit? c = some (c.toNat - '0'.toNat) := by
  rw [Char.isDigit, Bool.and_eq_true, decide_eq_true_eq, decide_eq_true_eq] at h
  have hlow : 48 ≤ c.toNat := UInt32.le_iff_toNat_le.1 h.1
  have hhigh : c.toNat ≤ 57 := UInt32.le_iff_toNat_le.1 h.2
  have hzeros : digitZeros = '0'.toNat :: digitZeros.tail := rfl
  have hfirst : (decide ('0'.toNat ≤ c.toNat) && decide (c.toNat < '0'.toNat + 10)) = true := by
    simp only [Bool.and_eq_true, decide_eq_true_eq]
    exact ⟨hlow, Nat.lt_succ_of_le hhigh⟩
  rw [digit?, hzeros, List.find?_cons, hfirst, Option.map_some]

theorem Text.isSpace_of_isDigit {c : Char} (h : c.isDigit = true) : isSpace c = false :=
  (Bool.or_eq_false_iff.1 (isBlank_of_isDigit h)).1

theorem Text.stripped_space (cs : List Char) : stripped (' ' :: cs) = stripped cs :=
  rfl

theorem Text.stripped_eq_self {cs : List Char} (h : ∀ c ∈ cs, isSpace c = false) :
    stripped cs = cs := by
  have hkept : ∀ cs : List Char, (∀ c ∈ cs, isSpace c = false) → cs.dropWhile isSpace = cs := by
    intro cs hcs
    refine List.dropWhile_eq_self_iff.2 fun hlength hfirst => ?_
    exact Bool.false_ne_true ((hcs _ (List.getElem_mem hlength)).symm.trans hfirst)
  rw [stripped, hkept cs h, hkept _ fun c hc => h c (List.mem_reverse.1 hc), List.reverse_reverse]

namespace Decimal

theorem tenTo_pos (exponent : Nat) : 0 < tenTo exponent :=
  Nat.pow_pos (by decide)

theorem tenTo_add (exponent other : Nat) :
    tenTo (exponent + other) = tenTo exponent * tenTo other :=
  Nat.pow_add 10 exponent other

/-- Digits that stand next to each other are read one by one. -/
theorem digitValues_digits {cs : List Char} (hne : cs ≠ []) (h : ∀ c ∈ cs, c.isDigit = true) :
    digitValues cs = some (cs.map fun c => c.toNat - '0'.toNat) := by
  fun_induction digitValues cs with
  | case1 => exact absurd rfl hne
  | case2 c => rw [Text.digit?_of_isDigit (h c (by simp))]; rfl
  | case3 c rest ih => cases h '_' (by simp)
  | case4 c rest hsingle hunder ih =>
      have hrest : rest ≠ [] := by
        rintro rfl
        exact hsingle rfl
      rw [Text.digit?_of_isDigit (h c (by simp)),
        ih hrest fun other hother => h other (List.mem_cons_of_mem c hother)]
      rfl

theorem digitValues_toDigits {number : Nat} (h : number < tenTo digitLimit) :
    ∃ values, digitValues (Nat.toDigits 10 number) = some values ∧
      values.length ≤ digitLimit ∧ ofDigitValues values = number := by
  have hpow : ∀ n, tenTo n = 10 ^ n := fun _ => rfl
  rw [hpow] at h
  refine ⟨_, digitValues_digits Nat.toDigits_ne_nil
    fun c hc => Nat.isDigit_of_mem_toDigits (by decide) (by decide) hc, ?_, ?_⟩
  · rw [List.length_map]
    exact (Nat.length_toDigits_le_iff (by decide) (by simp [digitLimit])).2 h
  · rw [ofDigitValues, List.foldl_map]
    exact Nat.ofDigitChars_ten_toDigits

/-- A sign and digits that are not too many make a number. -/
theorem readInteger?_of_values {text : String} {negative : Bool} {cs : List Char}
    {values : List Nat} (hsign : splitSign (Text.stripped text.toList) = (negative, cs))
    (hvalues : digitValues cs = some values) (hlength : values.length ≤ digitLimit) :
    readInteger? text =
      some (if negative then -(ofDigitValues values : Int) else ofDigitValues values) := by
  rw [readInteger?, hsign]
  dsimp only
  rw [hvalues]
  change ((if values.length ≤ digitLimit then pure () else failure : Option Unit) >>= _) = _
  rw [if_pos hlength]
  rfl

theorem readInteger?_digits {number : Nat} (h : number < tenTo digitLimit) :
    readInteger? (String.ofList (Nat.toDigits 10 number)) = some (number : Int) := by
  have hdigits : ∀ c ∈ Nat.toDigits 10 number, c.isDigit = true :=
    fun c hc => Nat.isDigit_of_mem_toDigits (by decide) (by decide) hc
  obtain ⟨values, hvalues, hlength, hnumber⟩ := digitValues_toDigits h
  have hplain : splitSign (Text.stripped (String.ofList (Nat.toDigits 10 number)).toList) =
      (false, Nat.toDigits 10 number) := by
    rw [String.toList_ofList,
      Text.stripped_eq_self fun c hc => Text.isSpace_of_isDigit (hdigits c hc), splitSign.eq_def]
    split
    · next rest hcons => cases hdigits '-' (hcons ▸ List.mem_cons_self)
    · next rest hcons => cases hdigits '+' (hcons ▸ List.mem_cons_self)
    · rfl
  rw [readInteger?_of_values hplain hvalues hlength, hnumber]
  rfl

end Decimal

end SqlBuilder
