import Mathlib.Tactic.SplitIfs
import PullReport.Json.Reader

/-!
# Spellings of texts in JSON

Between its quotes a JSON string has characters that stand for themselves, escapes of one letter and
escapes by number. The numbers are code units of 16 bits, so a character beyond them takes two of
them, a surrogate pair, and a surrogate without its other half stands for nothing. How a string is
written and what it stands for are therefore two questions: a string spells a row of units,
and the units denote a text or they do not. Most texts have many spellings.

The lexer reads a string unit by unit, whichever way each of them is spelled, and looks only at the
end whether they denote a text.

## Main definitions

* `Json.SpellsUnit`, `Json.SpellsUnits`: how units are written between quotes.
* `Json.Denotes`: the text that units stand for.
* `Json.WritesString`: the whole string, for a text and for units that denote none.

## Main results

* `Json.ofUnits?_eq_some_iff`: what the lexer makes of units is the text that they denote.
* `Json.SpellsUnits.scan?_append`, `Json.WritesString.scan?_append`: units between quotes, and a
  whole string, are read with anything behind them.
-/

namespace PullReport

namespace Json

open Text

/-! ### How strings are written -/

/-- Four hexadecimal digits, of either case, and what they stand for. -/
inductive IsHexUnit : Nat → List Char → Prop
  | mk {a b c d : Char} {i j k l : Nat} (ha : hexValue? a = some i) (hb : hexValue? b = some j)
      (hc : hexValue? c = some k) (hd : hexValue? d = some l) :
      IsHexUnit (0x1000 * i + 0x100 * j + 0x10 * k + l) [a, b, c, d]

/-- One unit, written out or escaped. -/
inductive SpellsUnit : Nat → List Char → Prop
  | plain {c : Char} (hquote : c ≠ '"') (hbackslash : c ≠ '\\') (hcontrol : 0x20 ≤ c.toNat) :
      SpellsUnit c.toNat [c]
  | short {c d : Char} (h : simpleEscape? c = some d) : SpellsUnit d.toNat ['\\', c]
  | number {unit : Nat} {digits : List Char} (h : IsHexUnit unit digits) :
      SpellsUnit unit ('\\' :: 'u' :: digits)

/-- Units, one behind the other. -/
inductive SpellsUnits : List Nat → List Char → Prop
  | nil : SpellsUnits [] []
  | cons {unit : Nat} {units : List Nat} {front rest : List Char} (h : SpellsUnit unit front)
      (hrest : SpellsUnits units rest) : SpellsUnits (unit :: units) (front ++ rest)

/-- The text that units stand for, if every surrogate has its other half. -/
inductive Denotes : List Nat → List Char → Prop
  | nil : Denotes [] []
  | char {units : List Nat} {cs : List Char} (c : Char) (hrest : Denotes units cs) :
      Denotes (c.toNat :: units) (c :: cs)
  | pair {high low : Nat} {units : List Nat} {c : Char} {cs : List Char}
      (hhigh : 0xD800 ≤ high ∧ high ≤ 0xDBFF) (hlow : 0xDC00 ≤ low ∧ low ≤ 0xDFFF)
      (hc : c.toNat = 0x10000 + (high - 0xD800) * 0x400 + (low - 0xDC00))
      (hrest : Denotes units cs) : Denotes (high :: low :: units) (c :: cs)

/-- A string in quotes: one that spells a text, or one of which the units denote none. -/
inductive WritesString : Option String → List Char → Prop
  | text {text : String} {units : List Nat} {body : List Char} (hbody : SpellsUnits units body)
      (h : Denotes units text.toList) : WritesString (some text) ('"' :: body ++ ['"'])
  | broken {units : List Nat} {body : List Char} (hbody : SpellsUnits units body)
      (h : ∀ cs, ¬ Denotes units cs) : WritesString none ('"' :: body ++ ['"'])

/-! ### What units stand for -/

/-- No character is half of a surrogate pair. -/
theorem isSurrogate_eq_false (c : Char) :
    isHighSurrogate c.toNat = false ∧ isLowSurrogate c.toNat = false := by
  have hvalid : c.toNat < 0xD800 ∨ (0xDFFF < c.toNat ∧ c.toNat < 0x110000) := c.valid
  constructor
  · simp only [isHighSurrogate, Bool.and_eq_false_iff, decide_eq_false_iff_not]
    omega
  · simp only [isLowSurrogate, Bool.and_eq_false_iff, decide_eq_false_iff_not]
    omega

theorem isHighSurrogate_iff {unit : Nat} :
    isHighSurrogate unit = true ↔ 0xD800 ≤ unit ∧ unit ≤ 0xDBFF := by
  rw [isHighSurrogate, Bool.and_eq_true, decide_eq_true_eq, decide_eq_true_eq]

theorem isLowSurrogate_iff {unit : Nat} :
    isLowSurrogate unit = true ↔ 0xDC00 ≤ unit ∧ unit ≤ 0xDFFF := by
  rw [isLowSurrogate, Bool.and_eq_true, decide_eq_true_eq, decide_eq_true_eq]

theorem toNat_ofNat {n : Nat} (h : n < 0xD800 ∨ (0xDFFF < n ∧ n < 0x110000)) :
    (Char.ofNat n).toNat = n := by
  have hvalid : n.isValidChar := h
  rw [Char.ofNat, dif_pos hvalid]
  rfl

theorem Denotes.append {units others : List Nat} {cs ds : List Char} (h : Denotes units cs)
    (hothers : Denotes others ds) : Denotes (units ++ others) (cs ++ ds) := by
  induction h with
  | nil => exact hothers
  | char c _ ih => exact .char c ih
  | pair hhigh hlow hc _ ih => exact .pair hhigh hlow hc ih

theorem denotes_map_toNat (cs : List Char) : Denotes (cs.map Char.toNat) cs := by
  induction cs with
  | nil => exact .nil
  | cons c cs ih => exact .char c ih

/-- The unit of a character is that character. -/
theorem ofUnits?_char (behind : List Char) (c : Char) (before : List Nat) :
    ofUnits? behind (c.toNat :: before) = ofUnits? (c :: behind) before := by
  obtain ⟨hhigh, hlow⟩ := isSurrogate_eq_false c
  rw [ofUnits?.eq_def]
  dsimp only
  rw [if_neg (by simp [hlow]), if_neg (by simp [hhigh]), Char.ofNat_toNat]

theorem ofUnits?_pair {high low : Nat} (behind : List Char)
    (hhigh : isHighSurrogate high = true) (hlow : isLowSurrogate low = true) (before : List Nat) :
    ofUnits? behind (low :: high :: before) =
      ofUnits? (ofSurrogates high low :: behind) before := by
  rw [ofUnits?.eq_def]
  dsimp only
  rw [if_pos hlow, if_pos hhigh]

theorem Denotes.ofUnits?_reverse_append {units : List Nat} {cs : List Char} (h : Denotes units cs)
    (behind : List Char) (before : List Nat) :
    ofUnits? behind (units.reverse ++ before) = ofUnits? (cs ++ behind) before := by
  induction h generalizing before with
  | nil => rfl
  | char c _ ih =>
    rw [List.reverse_cons, List.append_assoc, ih, List.singleton_append, ofUnits?_char,
      List.cons_append]
  | pair hhigh hlow hc _ ih =>
    rw [List.reverse_cons, List.reverse_cons, List.append_assoc, List.append_assoc, ih,
      List.singleton_append, List.singleton_append,
      ofUnits?_pair _ (isHighSurrogate_iff.2 hhigh) (isLowSurrogate_iff.2 hlow), ofSurrogates,
      ← hc, Char.ofNat_toNat, List.cons_append]

/-- What is made of units that are no larger than they may be is denoted by them. -/
theorem exists_denotes_of_ofUnits? {units : List Nat} {behind cs : List Char}
    (hunits : ∀ unit ∈ units, unit < 0x110000) (h : ofUnits? behind units = some cs) :
    ∃ front, cs = front ++ behind ∧ Denotes units.reverse front := by
  fun_induction ofUnits? behind units with
  | case1 => exact ⟨[], (Option.some.inj h).symm, .nil⟩
  | case2 => cases h
  | case3 behind low hlow high before hhigh ih =>
    have hbefore : ∀ unit ∈ before, unit < 0x110000 := fun unit hunit =>
      hunits unit (List.mem_cons_of_mem _ (List.mem_cons_of_mem _ hunit))
    obtain ⟨front, rfl, hfront⟩ := ih hbefore h
    have hhigh' := isHighSurrogate_iff.1 hhigh
    have hlow' := isLowSurrogate_iff.1 hlow
    have hpair : Denotes [high, low] [ofSurrogates high low] :=
      .pair hhigh' hlow' (toNat_ofNat (by omega)) .nil
    refine ⟨front ++ [ofSurrogates high low], List.append_cons _ _ _, ?_⟩
    rw [List.reverse_cons, List.reverse_cons, List.append_assoc]
    exact hfront.append hpair
  | case4 => cases h
  | case5 => cases h
  | case6 behind unit before hlow hhigh ih =>
    have hbefore : ∀ unit ∈ before, unit < 0x110000 := fun unit hunit =>
      hunits unit (List.mem_cons_of_mem _ hunit)
    obtain ⟨front, rfl, hfront⟩ := ih hbefore h
    have hvalid : unit < 0xD800 ∨ (0xDFFF < unit ∧ unit < 0x110000) := by
      have hunit := hunits unit List.mem_cons_self
      rw [isHighSurrogate_iff] at hhigh
      rw [isLowSurrogate_iff] at hlow
      omega
    have hchar : Denotes [unit] [Char.ofNat unit] := by
      have hone := Denotes.char (Char.ofNat unit) .nil
      rwa [toNat_ofNat hvalid] at hone
    refine ⟨front ++ [Char.ofNat unit], List.append_cons _ _ _, ?_⟩
    rw [List.reverse_cons]
    exact hfront.append hchar

/-- **What is made of units** is the text that they denote. -/
theorem ofUnits?_eq_some_iff {units : List Nat} {cs : List Char}
    (hunits : ∀ unit ∈ units, unit < 0x110000) :
    ofUnits? [] units.reverse = some cs ↔ Denotes units cs := by
  constructor
  · intro h
    obtain ⟨front, rfl, hfront⟩ :=
      exists_denotes_of_ofUnits? (fun unit hunit => hunits unit (List.mem_reverse.1 hunit)) h
    rwa [List.append_nil, ← List.reverse_reverse units]
  · intro h
    have hread := h.ofUnits?_reverse_append [] []
    rwa [List.append_nil, List.append_nil, ofUnits?] at hread

/-! ### The lexer inside a string -/

/-- A character that completes no token takes the lexer one state further. -/
theorem scan?_cons_of_step {lexer next : Lexer} {c : Char} (h : lexer.step c = some ([], next))
    (reader : Reader) (cs : List Char) : scan? lexer reader (c :: cs) = scan? next reader cs := by
  rw [scan?, h]
  rfl

theorem simpleEscape?_ne {c d : Char} (h : simpleEscape? c = some d) : c ≠ 'u' := by
  rintro rfl
  cases h

theorem hexValue?_lt {c : Char} {n : Nat} (h : hexValue? c = some n) : n < 16 := by
  rw [hexValue?] at h
  split_ifs at h with hdigit hlower hupper <;> obtain rfl := Option.some.inj h
  · have hhigh : c.toNat ≤ 57 := hdigit.2
    exact Nat.lt_of_le_of_lt (Nat.sub_le_sub_right hhigh 48) (by decide)
  · have hhigh : c.toNat ≤ 102 := hlower.2
    exact Nat.lt_of_le_of_lt (Nat.add_le_add_right (Nat.sub_le_sub_right hhigh 97) 10) (by decide)
  · have hhigh : c.toNat ≤ 70 := hupper.2
    exact Nat.lt_of_le_of_lt (Nat.add_le_add_right (Nat.sub_le_sub_right hhigh 65) 10) (by decide)

theorem SpellsUnit.lt {unit : Nat} {cs : List Char} (h : SpellsUnit unit cs) : unit < 0x110000 := by
  have hvalid (c : Char) : c.toNat < 0x110000 := by
    have hc : c.toNat < 0xD800 ∨ (0xDFFF < c.toNat ∧ c.toNat < 0x110000) := c.valid
    omega
  cases h with
  | @plain c => exact hvalid c
  | @short _ d => exact hvalid d
  | number hunit =>
    obtain ⟨ha, hb, hc, hd⟩ := hunit
    have hi := hexValue?_lt ha
    have hj := hexValue?_lt hb
    have hk := hexValue?_lt hc
    have hl := hexValue?_lt hd
    omega

theorem step_inUnicode {c : Char} {n : Nat} (h : hexValue? c = some n) (units : List Nat)
    (value missing : Nat) :
    Lexer.step (.inUnicode units value (missing + 2)) c =
      some ([], .inUnicode units (16 * value + n) (missing + 1)) := by
  rw [Lexer.step, h]
  rfl

theorem step_inUnicode_last {c : Char} {n : Nat} (h : hexValue? c = some n) (units : List Nat)
    (value : Nat) :
    Lexer.step (.inUnicode units value 1) c = some ([], .inString ((16 * value + n) :: units)) := by
  rw [Lexer.step, h]
  rfl

/-- **One unit.** Wherever the lexer is in a string, it takes what a unit is spelled as for that
unit. -/
theorem SpellsUnit.scan?_append {unit : Nat} {front : List Char} (h : SpellsUnit unit front)
    (units : List Nat) (reader : Reader) (rest : List Char) :
    scan? (.inString units) reader (front ++ rest) =
      scan? (.inString (unit :: units)) reader rest := by
  cases h with
  | plain hquote hbackslash hcontrol =>
    refine scan?_cons_of_step ?_ reader rest
    rw [Lexer.step, if_neg hquote, if_neg hbackslash, if_neg (Nat.not_lt.2 hcontrol)]
  | @short c d hescape =>
    have hstep : Lexer.step (.afterBackslash units) c =
        some ([], .inString (d.toNat :: units)) := by
      rw [Lexer.step, if_neg (simpleEscape?_ne hescape), hescape]
      rfl
    exact (scan?_cons_of_step rfl reader _).trans (scan?_cons_of_step hstep reader rest)
  | number hunit =>
    obtain @⟨a, b, c, d, i, j, k, l, ha, hb, hc, hd⟩ := hunit
    have hvalue : 16 * (16 * (16 * (16 * 0 + i) + j) + k) + l =
        0x1000 * i + 0x100 * j + 0x10 * k + l := by omega
    rw [← hvalue]
    calc scan? (.inString units) reader ('\\' :: 'u' :: a :: b :: c :: d :: rest)
      _ = scan? (.inUnicode units 0 4) reader (a :: b :: c :: d :: rest) :=
        (scan?_cons_of_step rfl reader _).trans (scan?_cons_of_step rfl reader _)
      _ = scan? (.inUnicode units (16 * 0 + i) 3) reader (b :: c :: d :: rest) :=
        scan?_cons_of_step (step_inUnicode ha units 0 2) reader _
      _ = scan? (.inUnicode units (16 * (16 * 0 + i) + j) 2) reader (c :: d :: rest) :=
        scan?_cons_of_step (step_inUnicode hb units _ 1) reader _
      _ = scan? (.inUnicode units (16 * (16 * (16 * 0 + i) + j) + k) 1) reader (d :: rest) :=
        scan?_cons_of_step (step_inUnicode hc units _ 0) reader _
      _ = scan? (.inString ((16 * (16 * (16 * (16 * 0 + i) + j) + k) + l) :: units)) reader rest :=
        scan?_cons_of_step (step_inUnicode_last hd units _) reader _

/-- **Units** are read one by one. -/
theorem SpellsUnits.scan?_append {units : List Nat} {body : List Char} (h : SpellsUnits units body)
    (before : List Nat) (reader : Reader) (rest : List Char) :
    scan? (.inString before) reader (body ++ rest) =
      scan? (.inString (units.reverse ++ before)) reader rest := by
  induction h generalizing before with
  | nil => rfl
  | cons hunit _ ih =>
    rw [List.append_assoc, hunit.scan?_append, ih, List.reverse_cons, List.append_assoc]
    rfl

theorem SpellsUnits.lt {units : List Nat} {body : List Char} (h : SpellsUnits units body) :
    ∀ unit ∈ units, unit < 0x110000 := by
  induction h with
  | nil => exact List.forall_mem_nil _
  | cons hunit _ ih => exact List.forall_mem_cons.2 ⟨hunit.lt, ih⟩

/-- **A string** is read as one token, wherever a string may stand. -/
theorem WritesString.scan?_append {text : Option String} {cs : List Char}
    (h : WritesString text cs) {reader next : Reader} (hstep : reader.step (.text text) = some next)
    (rest : List Char) : scan? .between reader (cs ++ rest) = scan? .between next rest := by
  have hrun : reader.run? [.text text] = some next := by
    rw [Reader.run?, hstep]
    rfl
  have hbody {units : List Nat} {body : List Char} (hunits : SpellsUnits units body)
      (htext : (ofUnits? [] units.reverse).map String.ofList = text) :
      scan? .between reader (('"' :: body ++ ['"']) ++ rest) = scan? .between next rest := by
    have hend : Lexer.step (.inString units.reverse) '"' = some ([.text text], .between) := by
      rw [Lexer.step, if_pos rfl, htext]
    rw [List.cons_append, List.cons_append, List.append_assoc, scan?_cons_of_step rfl,
      hunits.scan?_append, List.append_nil, List.singleton_append, scan?, hend]
    dsimp only
    rw [hrun]
  cases h with
  | text hunits hdenotes =>
    refine hbody hunits ?_
    rw [(ofUnits?_eq_some_iff hunits.lt).2 hdenotes, Option.map_some, String.ofList_toList]
  | @broken units body hunits hnone =>
    refine hbody hunits ?_
    cases hread : ofUnits? [] units.reverse with
    | none => rfl
    | some cs => exact absurd ((ofUnits?_eq_some_iff hunits.lt).1 hread) (hnone cs)

end Json

end PullReport
