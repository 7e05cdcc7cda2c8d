import PullReport.Text.Base64
import PullReport.Text.Blank
import PullReport.Text.Percent

/-!
# Reading base64 back

Whatever bytes are written in base64, reading gives the same bytes. None of the characters written
is blank, so that reading may drop blanks first, and bytes that are the UTF-8 form of a text are
read as this text.

## Main results

* `Base64.decode?_encode`: written bytes are read back.
* `Base64.isBlank_of_mem_encode`: nothing that is written is blank.
* `Text.fromUTF8?_utf8`: the UTF-8 form of a text is read back.
-/

namespace PullReport

namespace Base64

/-! ### Single digits -/

theorem value?_digit {n : Nat} (h : n < 64) : value? (digit n) = some n := by
  have hall : ∀ m < 64, value? (digit m) = some m := by decide
  exact hall n h

/-- No digit is the padding character. -/
theorem digit_ne_pad {n : Nat} (h : n < 64) : digit n ≠ '=' := by
  intro hpad
  have hvalue := value?_digit h
  have hnone : value? '=' = none := by decide
  rw [hpad, hnone] at hvalue
  cases hvalue

theorem isBlank_digit {n : Nat} (h : n < 64) : Text.isBlank (digit n) = false := by
  have hall : ∀ m < 64, Text.isBlank (digit m) = false := by decide
  exact hall n h

/-! ### Groups -/

variable {m n p q : Nat}

theorem decodeOne?_digits (hm : m < 64) (hn : n < 64) (hrest : n % 16 = 0) :
    decodeOne? (digit m) (digit n) = some [UInt8.ofNat (m * 4 + n / 16)] := by
  simp [decodeOne?, value?_digit hm, value?_digit hn, hrest]

theorem decodeTwo?_digits (hm : m < 64) (hn : n < 64) (hp : p < 64) (hrest : p % 4 = 0) :
    decodeTwo? (digit m) (digit n) (digit p) =
      some [UInt8.ofNat (m * 4 + n / 16), UInt8.ofNat (n % 16 * 16 + p / 4)] := by
  simp [decodeTwo?, value?_digit hm, value?_digit hn, value?_digit hp, hrest]

theorem decodeThree?_digits (hm : m < 64) (hn : n < 64) (hp : p < 64) (hq : q < 64) :
    decodeThree? (digit m) (digit n) (digit p) (digit q) =
      some [UInt8.ofNat (m * 4 + n / 16), UInt8.ofNat (n % 16 * 16 + p / 4),
        UInt8.ofNat (p % 4 * 64 + q)] := by
  simp [decodeThree?, value?_digit hm, value?_digit hn, value?_digit hp, value?_digit hq]

/-- A group with one padding character is the last one. -/
theorem decode?_pad {a b c : Char} (h : c ≠ '=') :
    decode? [a, b, c, '='] = decodeTwo? a b c := by
  rw [decode?]
  exact h

/-- A group that does not end in padding is a full one, also at the end of a text. -/
theorem decode?_cons {a b c d : Char} (h : d ≠ '=') (rest : List Char) :
    decode? (a :: b :: c :: d :: rest) = do
      return (← decodeThree? a b c d) ++ (← decode? rest) := by
  rw [decode?]
  · rintro rfl rfl rfl
    exact h rfl
  · rintro rfl rfl
    exact h rfl

/-! ### Texts -/

/-- A byte that has been cut into pieces. -/
theorem ofNat_eq (byte : UInt8) (h : n = byte.toNat) : UInt8.ofNat n = byte := by
  rw [h, UInt8.ofNat_toNat]

/-- **Written bytes** are read back. -/
theorem decode?_encode (bytes : List UInt8) : decode? (encode bytes) = some bytes := by
  induction bytes using encode.induct with
  | case1 => rfl
  | case2 a =>
    have ha := a.toNat_lt
    rw [encode, decode?, decodeOne?_digits (by omega) (by omega) (by omega)]
    rw [ofNat_eq a (by omega)]
  | case3 a b =>
    have ha := a.toNat_lt
    have hb := b.toNat_lt
    rw [encode, decode?_pad (digit_ne_pad (by omega)),
      decodeTwo?_digits (by omega) (by omega) (by omega) (by omega)]
    rw [ofNat_eq a (by omega), ofNat_eq b (by omega)]
  | case4 a b c rest ih =>
    have ha := a.toNat_lt
    have hb := b.toNat_lt
    have hc := c.toNat_lt
    rw [encode, decode?_cons (digit_ne_pad (by omega)), ih,
      decodeThree?_digits (by omega) (by omega) (by omega) (by omega)]
    rw [ofNat_eq a (by omega), ofNat_eq b (by omega),
      ofNat_eq c (by omega)]
    rfl

/-- Nothing that is written is blank. -/
theorem isBlank_of_mem_encode {bytes : List UInt8} :
    ∀ c ∈ encode bytes, Text.isBlank c = false := by
  have hpad : Text.isBlank '=' = false := by decide
  induction bytes using encode.induct with
  | case1 => exact List.forall_mem_nil _
  | case2 a =>
    have ha := a.toNat_lt
    simp only [encode, List.forall_mem_cons]
    exact ⟨isBlank_digit (by omega), isBlank_digit (by omega), hpad, hpad, List.forall_mem_nil _⟩
  | case3 a b =>
    have ha := a.toNat_lt
    have hb := b.toNat_lt
    simp only [encode, List.forall_mem_cons]
    exact ⟨isBlank_digit (by omega), isBlank_digit (by omega), isBlank_digit (by omega), hpad,
      List.forall_mem_nil _⟩
  | case4 a b c rest ih =>
    have ha := a.toNat_lt
    have hb := b.toNat_lt
    have hc := c.toNat_lt
    simp only [encode, List.forall_mem_cons]
    exact ⟨isBlank_digit (by omega), isBlank_digit (by omega), isBlank_digit (by omega),
      isBlank_digit (by omega), ih⟩

end Base64

/-! ### Blanks and bytes of texts -/

namespace Text

/-- A text without blanks has none at its start. -/
theorem trimStart_eq_self {cs : List Char} (h : ∀ c ∈ cs, isBlank c = false) :
    trimStart cs = cs := by
  cases cs with
  | nil => rfl
  | cons c cs =>
    have hc : ¬ isBlank c = true := by rw [h c List.mem_cons_self]; exact Bool.false_ne_true
    exact List.dropWhile_cons_of_neg hc

/-- A text without blanks has none at its ends. -/
theorem trim_eq_self {cs : List Char} (h : ∀ c ∈ cs, isBlank c = false) : trim cs = cs := by
  have hreverse : ∀ c ∈ cs.reverse, isBlank c = false := fun c hc => h c (List.mem_reverse.1 hc)
  rw [trim, trimStart_eq_self h, trimEnd, ← trimStart, trimStart_eq_self hreverse,
    List.reverse_reverse]

/-- The UTF-8 form of a text is read back. -/
theorem fromUTF8?_utf8 (text : String) :
    String.fromUTF8? (utf8 text.toList).toByteArray = some text := by
  have hbytes : (utf8 text.toList).toByteArray = text.toByteArray := String.utf8Encode_toList
  rw [hbytes, String.fromUTF8?, dif_pos text.isValidUTF8]
  rfl

end Text

end PullReport
