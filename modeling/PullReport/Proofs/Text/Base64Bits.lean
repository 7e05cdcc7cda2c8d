import Mathlib.Algebra.Group.Nat.Defs
import Mathlib.Tactic.SplitIfs
import PullReport.Proofs.Text.Base64

/-!
# Base64 bit by bit

What the standard says of base64. The bits of the bytes, most significant first, are cut into groups
of six, and zeros fill up the last group. Each group is a digit of the alphabet, and padding
characters behind the digits make up the last four characters. So every sequence of bytes has one
encoding, however many bytes there are, and a text is read as the bytes of which it is the encoding:
a text with too little padding, with other bits in place of the zeros, or with a character outside
the alphabet is the encoding of nothing.

## Main definitions

* `Base64.alphabet`: the digits, in the order of what they stand for.
* `Base64.bits`: the last bits of a number.
* `Base64.IsEncoding`: a text is the encoding of some bytes.

## Main results

* `Base64.isEncoding_iff`: the encoding of some bytes is what is written for them.
* `Base64.decode?_eq_some_iff`: a text is read as the bytes of which it is the encoding.
-/

namespace PullReport

namespace Base64

/-! ### What the standard says -/

/-- The digits, in the order of what they stand for. -/
def alphabet : String := "ABCDEFGHIJKLMNOPQRSTUVWXYZabcdefghijklmnopqrstuvwxyz0123456789+/"

/-- The last bits of a number, most significant first. -/
def bits : Nat → Nat → List Bool
  | 0, _ => []
  | width + 1, n => n.testBit width :: bits width n

/-- The bits of some bytes. -/
def bitsOf (bytes : List UInt8) : List Bool := bytes.flatMap fun byte => bits 8 byte.toNat

/-- A text is the encoding of some bytes: symbols for groups of six bits, in which fewer than six
zeros stand behind the bits of the bytes, and fewer than four padding characters behind the symbols,
which make the number of characters a multiple of four. -/
def IsEncoding (bytes : List UInt8) (text : List Char) : Prop :=
  ∃ (digits : List Nat) (symbols : List Char) (zeros padding : Nat),
    digits.map (alphabet.toList[·]?) = symbols.map some ∧
    digits.flatMap (bits 6) = bitsOf bytes ++ List.replicate zeros false ∧ zeros < 6 ∧
    text = symbols ++ List.replicate padding '=' ∧ padding < 4 ∧ text.length % 4 = 0

/-! ### Bits -/

variable {m n j k : Nat}

@[simp] theorem length_bits (width n : Nat) : (bits width n).length = width := by
  induction width with
  | zero => rfl
  | succ width ih => rw [bits, List.length_cons, ih]

theorem bits_congr (h : ∀ i < k, m.testBit i = n.testBit i) : bits k m = bits k n := by
  induction k with
  | zero => rfl
  | succ k ih =>
    rw [bits, bits, h k (Nat.lt_succ_self k), ih fun i hi => h i (Nat.lt_succ_of_lt hi)]

theorem testBit_of_bits_eq (h : bits k m = bits k n) : ∀ i < k, m.testBit i = n.testBit i := by
  induction k with
  | zero =>
    intro i hi
    exact absurd hi (Nat.not_lt_zero i)
  | succ k ih =>
    rw [bits, bits, List.cons.injEq] at h
    intro i hi
    rcases Nat.lt_succ_iff_lt_or_eq.1 hi with hi | rfl
    · exact ih h.2 i hi
    · exact h.1

/-- Bits that are enough for two numbers tell them apart. -/
theorem eq_of_bits_eq (hm : m < 2 ^ k) (hn : n < 2 ^ k) (h : bits k m = bits k n) : m = n := by
  refine Nat.eq_of_testBit_eq fun i => ?_
  rcases Nat.lt_or_ge i k with hi | hi
  · exact testBit_of_bits_eq h i hi
  · have hbound : 2 ^ k ≤ 2 ^ i := Nat.pow_le_pow_right (by decide) hi
    rw [Nat.testBit_lt_two_pow (Nat.lt_of_lt_of_le hm hbound),
      Nat.testBit_lt_two_pow (Nat.lt_of_lt_of_le hn hbound)]

theorem bits_mod (k n : Nat) : bits k (n % 2 ^ k) = bits k n :=
  bits_congr fun i hi => by rw [Nat.testBit_mod_two_pow, decide_eq_true hi, Bool.true_and]

theorem bits_add (j k n : Nat) : bits (j + k) n = bits j (n / 2 ^ k) ++ bits k n := by
  induction j with
  | zero => rw [Nat.zero_add, bits, List.nil_append]
  | succ j ih =>
    rw [Nat.succ_add, bits, bits, ih, List.cons_append, Nat.testBit_div_two_pow, Nat.add_comm]

/-- The last bits of one number in front of all the bits of another. -/
theorem bits_concat (j k m : Nat) (h : n < 2 ^ k) :
    bits (j + k) (m % 2 ^ j * 2 ^ k + n) = bits j m ++ bits k n := by
  rw [bits_add, Nat.mul_comm, Nat.mul_add_div (Nat.two_pow_pos k), Nat.div_eq_of_lt h,
    Nat.add_zero, bits_mod, ← bits_mod k, Nat.mul_add_mod, bits_mod]

theorem bits_zero (k : Nat) : bits k 0 = List.replicate k false := by
  induction k with
  | zero => rfl
  | succ k ih => rw [bits, ih, Nat.zero_testBit, List.replicate_succ]

/-- The last bits of a number in front of zeros. -/
theorem bits_shift (j k m : Nat) :
    bits (j + k) (m % 2 ^ j * 2 ^ k) = bits j m ++ List.replicate k false := by
  rw [← bits_zero, ← bits_concat j k m (Nat.two_pow_pos k), Nat.add_zero]

theorem length_flatMap_bits (width : Nat) (ns : List Nat) :
    (ns.flatMap (bits width)).length = width * ns.length := by
  induction ns with
  | nil => rfl
  | cons n ns ih =>
    rw [List.flatMap_cons, List.length_append, length_bits, ih, List.length_cons, Nat.mul_succ,
      Nat.add_comm]

/-- Numbers are told apart by the row of their bits. -/
theorem eq_of_flatMap_bits_eq {ms ns : List Nat} (hlength : ms.length = ns.length)
    (hms : ∀ m ∈ ms, m < 2 ^ k) (hns : ∀ n ∈ ns, n < 2 ^ k)
    (h : ms.flatMap (bits k) = ns.flatMap (bits k)) : ms = ns := by
  induction ms generalizing ns with
  | nil => exact (List.length_eq_zero_iff.1 hlength.symm).symm
  | cons m ms ih =>
    cases ns with
    | nil => cases hlength
    | cons n ns =>
      rw [List.flatMap_cons, List.flatMap_cons] at h
      obtain ⟨hhead, htail⟩ := List.append_inj h (by rw [length_bits, length_bits])
      rw [eq_of_bits_eq (hms m List.mem_cons_self) (hns n List.mem_cons_self) hhead,
        ih (Nat.succ.inj hlength) (fun m hm => hms m (List.mem_cons_of_mem _ hm))
          (fun n hn => hns n (List.mem_cons_of_mem _ hn)) htail]

/-! ### Digits -/

theorem getElem?_alphabet (h : n < 64) : alphabet.toList[n]? = some (digit n) := by
  have hall : ∀ m < 64, alphabet.toList[m]? = some (digit m) := by decide
  exact hall n h

theorem lt_of_map_alphabet {digits : List Nat} {symbols : List Char}
    (h : digits.map (alphabet.toList[·]?) = symbols.map some) : ∀ n ∈ digits, n < 64 := by
  intro n hn
  have hmem : alphabet.toList[n]? ∈ symbols.map some := h ▸ List.mem_map_of_mem hn
  obtain ⟨c, -, hc⟩ := List.mem_map.1 hmem
  obtain ⟨hlt, -⟩ := List.getElem?_eq_some_iff.1 hc.symm
  exact hlt

theorem map_alphabet {digits : List Nat} (h : ∀ n ∈ digits, n < 64) :
    digits.map (alphabet.toList[·]?) = (digits.map digit).map some := by
  rw [List.map_map]
  exact List.map_congr_left fun n hn => getElem?_alphabet (h n hn)

/-- A character of a range, found by its place in that range. -/
theorem eq_ofNat_add {low c : Char} (h : low ≤ c) :
    c = Char.ofNat (low.toNat + (c.toNat - low.toNat)) := by
  have hle : low.toNat ≤ c.toNat := h
  rw [Nat.add_sub_cancel' hle, Char.ofNat_toNat]

/-- A character that stands for a number is the digit of that number. -/
theorem value?_eq_some {c : Char} (h : value? c = some n) : n < 64 ∧ c = digit n := by
  rw [value?] at h
  split_ifs at h with hupper hlower hdigit hplus hslash <;> obtain rfl := Option.some.inj h
  · have hhigh : c.toNat ≤ 90 := hupper.2
    have hn : c.toNat - 'A'.toNat < 26 := Nat.lt_succ_of_le (Nat.sub_le_sub_right hhigh 65)
    exact ⟨by omega, by rw [digit, if_pos hn]; exact eq_ofNat_add hupper.1⟩
  · have hhigh : c.toNat ≤ 122 := hlower.2
    have hn : c.toNat - 'a'.toNat < 26 := Nat.lt_succ_of_le (Nat.sub_le_sub_right hhigh 97)
    refine ⟨by omega, ?_⟩
    rw [digit, if_neg (by omega), if_pos (by omega), Nat.add_sub_cancel]
    exact eq_ofNat_add hlower.1
  · have hhigh : c.toNat ≤ 57 := hdigit.2
    have hn : c.toNat - '0'.toNat < 10 := Nat.lt_succ_of_le (Nat.sub_le_sub_right hhigh 48)
    refine ⟨by omega, ?_⟩
    rw [digit, if_neg (by omega), if_neg (by omega), if_pos (by omega), Nat.add_sub_cancel]
    exact eq_ofNat_add hdigit.1
  · exact ⟨by decide, hplus⟩
  · exact ⟨by decide, hslash⟩

/-! ### One encoding for some bytes -/

/-- Bytes have one encoding. -/
theorem IsEncoding.unique {bytes : List UInt8} {text other : List Char}
    (h : IsEncoding bytes text) (hother : IsEncoding bytes other) : text = other := by
  obtain ⟨digits, symbols, zeros, padding, hsymbols, hbits, hzeros, rfl, hpadding, hfour⟩ := h
  obtain ⟨digits', symbols', zeros', padding', hsymbols', hbits', hzeros', rfl, hpadding',
    hfour'⟩ := hother
  -- there is only one number of digits that is large enough and not too large
  have hlength := congrArg List.length hbits
  have hlength' := congrArg List.length hbits'
  rw [length_flatMap_bits, List.length_append, List.length_replicate] at hlength hlength'
  obtain rfl : zeros = zeros' := by omega
  have hdigits : digits = digits' :=
    eq_of_flatMap_bits_eq (by omega) (lt_of_map_alphabet hsymbols) (lt_of_map_alphabet hsymbols')
      (hbits.trans hbits'.symm)
  subst hdigits
  have hsame : symbols = symbols' :=
    List.map_inj_right (fun _ _ h => Option.some.inj h) |>.1 (hsymbols.symm.trans hsymbols')
  subst hsame
  rw [List.length_append, List.length_replicate] at hfour hfour'
  obtain rfl : padding = padding' := by omega
  rfl

/-- Three bytes in front of others are a group of four digits in front. -/
theorem IsEncoding.cons {bytes : List UInt8} {text : List Char} (h : IsEncoding bytes text)
    (front : List UInt8) (group : List Nat) (hgroup : ∀ n ∈ group, n < 64)
    (hfour : group.length = 4) (hbits : group.flatMap (bits 6) = bitsOf front) :
    IsEncoding (front ++ bytes) (group.map digit ++ text) := by
  obtain ⟨digits, symbols, zeros, padding, hsymbols, hrest, hzeros, rfl, hpadding, hlength⟩ := h
  refine ⟨group ++ digits, group.map digit ++ symbols, zeros, padding, ?_, ?_, hzeros,
    (List.append_assoc _ _ _).symm, hpadding, ?_⟩
  · rw [List.map_append, List.map_append, map_alphabet hgroup, hsymbols]
  · rw [List.flatMap_append, hbits, hrest, bitsOf, bitsOf, bitsOf, List.flatMap_append,
      List.append_assoc]
  · rw [List.length_append, List.length_map, hfour]
    omega

/-- What is written for some bytes is their encoding. -/
theorem isEncoding_encode (bytes : List UInt8) : IsEncoding bytes (encode bytes) := by
  -- a byte cut behind its second, fourth and sixth bit
  have htwo (n : Nat) : bits 8 n = bits 2 (n / 64) ++ bits 6 n := bits_add 2 6 n
  have hfour (n : Nat) : bits 8 n = bits 4 (n / 16) ++ bits 4 n := bits_add 4 4 n
  have hsix (n : Nat) : bits 8 n = bits 6 (n / 4) ++ bits 2 n := bits_add 6 2 n
  induction bytes using encode.induct with
  | case1 => exact ⟨[], [], 0, 0, rfl, rfl, by decide, rfl, by decide, rfl⟩
  | case2 a =>
    have ha := a.toNat_lt
    have hlast : bits 6 (a.toNat % 4 * 16) = bits 2 a.toNat ++ List.replicate 4 false :=
      bits_shift 2 4 a.toNat
    rw [encode]
    refine ⟨[a.toNat / 4, a.toNat % 4 * 16], _, 4, 2, map_alphabet ?_, ?_, by decide, rfl,
      by decide, by simp⟩
    · simp only [List.forall_mem_cons]
      exact ⟨by omega, by omega, List.forall_mem_nil _⟩
    · simp [bitsOf, hsix, hlast]
  | case3 a b =>
    have ha := a.toNat_lt
    have hb := b.toNat_lt
    have hsecond : bits 6 (a.toNat % 4 * 16 + b.toNat / 16) =
        bits 2 a.toNat ++ bits 4 (b.toNat / 16) := bits_concat 2 4 a.toNat (by omega)
    have hlast : bits 6 (b.toNat % 16 * 4) = bits 4 b.toNat ++ List.replicate 2 false :=
      bits_shift 4 2 b.toNat
    rw [encode]
    refine ⟨[a.toNat / 4, a.toNat % 4 * 16 + b.toNat / 16, b.toNat % 16 * 4], _, 2, 1,
      map_alphabet ?_, ?_, by decide, rfl, by decide, by simp⟩
    · simp only [List.forall_mem_cons]
      exact ⟨by omega, by omega, by omega, List.forall_mem_nil _⟩
    · simp [bitsOf, hsix a.toNat, hfour b.toNat, hsecond, hlast]
  | case4 a b c rest ih =>
    have ha := a.toNat_lt
    have hb := b.toNat_lt
    have hc := c.toNat_lt
    have hsecond : bits 6 (a.toNat % 4 * 16 + b.toNat / 16) =
        bits 2 a.toNat ++ bits 4 (b.toNat / 16) := bits_concat 2 4 a.toNat (by omega)
    have hthird : bits 6 (b.toNat % 16 * 4 + c.toNat / 64) =
        bits 4 b.toNat ++ bits 2 (c.toNat / 64) := bits_concat 4 2 b.toNat (by omega)
    have hlast : bits 6 (c.toNat % 64) = bits 6 c.toNat := bits_mod 6 c.toNat
    rw [encode]
    refine ih.cons [a, b, c] [a.toNat / 4, a.toNat % 4 * 16 + b.toNat / 16,
      b.toNat % 16 * 4 + c.toNat / 64, c.toNat % 64] ?_ rfl ?_
    · simp only [List.forall_mem_cons]
      exact ⟨by omega, by omega, by omega, by omega, List.forall_mem_nil _⟩
    · simp [bitsOf, hsix a.toNat, hfour b.toNat, htwo c.toNat, hsecond, hthird, hlast]

/-- **The encoding of some bytes** is what is written for them. -/
theorem isEncoding_iff {bytes : List UInt8} {text : List Char} :
    IsEncoding bytes text ↔ text = encode bytes := by
  refine ⟨fun h => h.unique (isEncoding_encode bytes), ?_⟩
  rintro rfl
  exact isEncoding_encode bytes

/-! ### What is read -/

/-- What is read as one byte has been written for it. -/
theorem encode_of_decodeOne? {a b : Char} {bytes : List UInt8} (h : decodeOne? a b = some bytes) :
    encode bytes = [a, b, '=', '='] := by
  simp only [decodeOne?, Option.bind_eq_bind, Option.bind_eq_some_iff,
    Option.ite_none_right_eq_some, Option.some.injEq] at h
  obtain ⟨m, hm, n, hn, hzero, rfl⟩ := h
  obtain ⟨hm, rfl⟩ := value?_eq_some hm
  obtain ⟨hn, rfl⟩ := value?_eq_some hn
  have hbyte : (UInt8.ofNat (m * 4 + n / 16)).toNat = m * 4 + n / 16 :=
    UInt8.toNat_ofNat_of_lt' (show _ < 256 by omega)
  rw [encode, hbyte, show (m * 4 + n / 16) / 4 = m by omega,
    show (m * 4 + n / 16) % 4 * 16 = n by omega]

theorem encode_of_decodeTwo? {a b c : Char} {bytes : List UInt8}
    (h : decodeTwo? a b c = some bytes) : encode bytes = [a, b, c, '='] := by
  simp only [decodeTwo?, Option.bind_eq_bind, Option.bind_eq_some_iff,
    Option.ite_none_right_eq_some, Option.some.injEq] at h
  obtain ⟨m, hm, n, hn, p, hp, hzero, rfl⟩ := h
  obtain ⟨hm, rfl⟩ := value?_eq_some hm
  obtain ⟨hn, rfl⟩ := value?_eq_some hn
  obtain ⟨hp, rfl⟩ := value?_eq_some hp
  have hfirst : (UInt8.ofNat (m * 4 + n / 16)).toNat = m * 4 + n / 16 :=
    UInt8.toNat_ofNat_of_lt' (show _ < 256 by omega)
  have hsecond : (UInt8.ofNat (n % 16 * 16 + p / 4)).toNat = n % 16 * 16 + p / 4 :=
    UInt8.toNat_ofNat_of_lt' (show _ < 256 by omega)
  rw [encode, hfirst, hsecond, show (m * 4 + n / 16) / 4 = m by omega,
    show (m * 4 + n / 16) % 4 * 16 + (n % 16 * 16 + p / 4) / 16 = n by omega,
    show (n % 16 * 16 + p / 4) % 16 * 4 = p by omega]

theorem encode_of_decodeThree? {a b c d : Char} {bytes : List UInt8}
    (h : decodeThree? a b c d = some bytes) (rest : List UInt8) :
    encode (bytes ++ rest) = a :: b :: c :: d :: encode rest := by
  simp only [decodeThree?, Option.bind_eq_bind, Option.bind_eq_some_iff, Option.pure_def,
    Option.some.injEq] at h
  obtain ⟨m, hm, n, hn, p, hp, q, hq, rfl⟩ := h
  obtain ⟨hm, rfl⟩ := value?_eq_some hm
  obtain ⟨hn, rfl⟩ := value?_eq_some hn
  obtain ⟨hp, rfl⟩ := value?_eq_some hp
  obtain ⟨hq, rfl⟩ := value?_eq_some hq
  have hfirst : (UInt8.ofNat (m * 4 + n / 16)).toNat = m * 4 + n / 16 :=
    UInt8.toNat_ofNat_of_lt' (show _ < 256 by omega)
  have hsecond : (UInt8.ofNat (n % 16 * 16 + p / 4)).toNat = n % 16 * 16 + p / 4 :=
    UInt8.toNat_ofNat_of_lt' (show _ < 256 by omega)
  have hthird : (UInt8.ofNat (p % 4 * 64 + q)).toNat = p % 4 * 64 + q :=
    UInt8.toNat_ofNat_of_lt' (show _ < 256 by omega)
  rw [List.cons_append, List.cons_append, List.cons_append, List.nil_append, encode, hfirst,
    hsecond, hthird, show (m * 4 + n / 16) / 4 = m by omega,
    show (m * 4 + n / 16) % 4 * 16 + (n % 16 * 16 + p / 4) / 16 = n by omega,
    show (n % 16 * 16 + p / 4) % 16 * 4 + (p % 4 * 64 + q) / 64 = p by omega,
    show (p % 4 * 64 + q) % 64 = q by omega]

/-- What is read as some bytes has been written for them. -/
theorem encode_of_decode? {text : List Char} {bytes : List UInt8}
    (h : decode? text = some bytes) : encode bytes = text := by
  fun_induction decode? text generalizing bytes with
  | case1 =>
    obtain rfl := Option.some.inj h
    rfl
  | case2 a b => exact encode_of_decodeOne? h
  | case3 a b c => exact encode_of_decodeTwo? h
  | case4 a b c d rest hone htwo ih =>
    simp only [Option.bind_eq_bind, Option.bind_eq_some_iff, Option.pure_def,
      Option.some.injEq] at h
    obtain ⟨front, hfront, back, hback, rfl⟩ := h
    rw [encode_of_decodeThree? hfront, ih hback]
  | case5 => cases h

/-- **A text is read** as the bytes of which it is the encoding. -/
theorem decode?_eq_some_iff {text : List Char} {bytes : List UInt8} :
    decode? text = some bytes ↔ IsEncoding bytes text := by
  rw [isEncoding_iff]
  refine ⟨fun h => (encode_of_decode? h).symm, ?_⟩
  rintro rfl
  exact decode?_encode bytes

/-- A text is the encoding of some bytes only. -/
theorem IsEncoding.bytes_unique {bytes others : List UInt8} {text : List Char}
    (h : IsEncoding bytes text) (hothers : IsEncoding others text) : bytes = others :=
  Option.some.inj ((decode?_eq_some_iff.2 h).symm.trans (decode?_eq_some_iff.2 hothers))

end Base64

end PullReport
