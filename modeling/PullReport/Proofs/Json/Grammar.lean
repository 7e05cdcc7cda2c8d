import PullReport.Proofs.Json.Spelling
import PullReport.Proofs.Text.Runs

/-!
# How values are written in JSON

The grammar of JSON: blanks may stand around every value and every name, strings may be spelled in
any way, numbers have the usual form, and arrays and objects hold values of any depth. A text that
is written by this grammar is read as the value that it was written for.

A numeral or a word has no end of its own, so that the reader knows it to be complete only by what
stands behind it. That is why a value is read with the rest of the text behind it, and why the rest
must not go on with the numeral or the word.

## Main definitions

* `Json.IsNumber`: the numerals.
* `Json.Part`, `Json.Writes`: the parts of a text, and how they are written.
* `Json.Reads`: what the reader is to make of a part.

## Main results

* `Json.IsNumber.isNumeral_eq`: numerals are what the lexer takes for them.
* `Json.Writes.reads`: every part of a text is read as what it was written for.
* `Json.read?_of_writes`: so is a whole text.
-/

namespace PullReport

namespace Json

open Text

/-! ### The grammar -/

/-- The blanks that may stand between the parts of a text. -/
def IsSpace (cs : List Char) : Prop := ∀ c ∈ cs, c = ' ' ∨ c = '\n' ∨ c = '\r' ∨ c = '\t'

/-- Any number of digits. -/
def AreDigits (cs : List Char) : Prop := ∀ c ∈ cs, isDigit c = true

/-- The digits in front of the point: no zero in front of others. -/
inductive IsWhole : List Char → Prop
  | zero : IsWhole ['0']
  | cons {d : Char} {ds : List Char} (hd : isDigit d = true) (hzero : d ≠ '0')
      (hds : AreDigits ds) : IsWhole (d :: ds)

/-- The part of a numeral from its point, if there is one. -/
inductive IsFraction : List Char → Prop
  | none : IsFraction []
  | some {ds : List Char} (hne : ds ≠ []) (hds : AreDigits ds) : IsFraction ('.' :: ds)

/-- The part of a numeral from the letter of its exponent, if there is one. -/
inductive IsPower : List Char → Prop
  | none : IsPower []
  | some {e : Char} {sign ds : List Char} (he : e = 'e' ∨ e = 'E')
      (hsign : sign = [] ∨ sign = ['+'] ∨ sign = ['-']) (hne : ds ≠ []) (hds : AreDigits ds) :
      IsPower (e :: (sign ++ ds))

/-- A numeral. -/
inductive IsNumber : List Char → Prop
  | mk {sign whole fraction power : List Char} (hsign : sign = [] ∨ sign = ['-'])
      (hwhole : IsWhole whole) (hfraction : IsFraction fraction) (hpower : IsPower power) :
      IsNumber (sign ++ (whole ++ (fraction ++ power)))

/-- The parts of a text: a value, a value with blanks around it, and what stands between the
brackets of an array and of an object. -/
inductive Part where
  | value (value : Json)
  | spaced (value : Json)
  | items (items : List Json)
  | member (name : Option String) (value : Json)
  | members (members : List (Option String × Json))

/-- How the parts of a text are written. -/
inductive Writes : Part → List Char → Prop
  | nullWord : Writes (.value .null) "null".toList
  | trueWord : Writes (.value (.bool true)) "true".toList
  | falseWord : Writes (.value (.bool false)) "false".toList
  | number {cs : List Char} (h : IsNumber cs) : Writes (.value (.number cs)) cs
  | string {text : Option String} {cs : List Char} (h : WritesString text cs) :
      Writes (.value (.string text)) cs
  | array {items : List Json} {cs : List Char} (h : Writes (.items items) cs) :
      Writes (.value (.array items)) ('[' :: (cs ++ [']']))
  | object {members : List (Option String × Json)} {cs : List Char}
      (h : Writes (.members members) cs) :
      Writes (.value (.object members)) ('\x7b' :: (cs ++ ['\x7d']))
  | spaced {value : Json} {before cs after : List Char} (hbefore : IsSpace before)
      (h : Writes (.value value) cs) (hafter : IsSpace after) :
      Writes (.spaced value) (before ++ (cs ++ after))
  | noItems {cs : List Char} (h : IsSpace cs) : Writes (.items []) cs
  | lastItem {value : Json} {cs : List Char} (h : Writes (.spaced value) cs) :
      Writes (.items [value]) cs
  | moreItems {value : Json} {items : List Json} {cs rest : List Char}
      (h : Writes (.spaced value) cs) (hne : items ≠ []) (hrest : Writes (.items items) rest) :
      Writes (.items (value :: items)) (cs ++ ',' :: rest)
  | noMembers {cs : List Char} (h : IsSpace cs) : Writes (.members []) cs
  | member {name : Option String} {value : Json} {before quoted after cs : List Char}
      (hbefore : IsSpace before) (hname : WritesString name quoted) (hafter : IsSpace after)
      (h : Writes (.spaced value) cs) :
      Writes (.member name value) (before ++ (quoted ++ (after ++ ':' :: cs)))
  | lastMember {name : Option String} {value : Json} {cs : List Char}
      (h : Writes (.member name value) cs) : Writes (.members [(name, value)]) cs
  | moreMembers {name : Option String} {value : Json} {members : List (Option String × Json)}
      {cs rest : List Char} (h : Writes (.member name value) cs) (hne : members ≠ [])
      (hrest : Writes (.members members) rest) :
      Writes (.members ((name, value) :: members)) (cs ++ ',' :: rest)

/-- The characters of a part may be given in another form. -/
theorem Writes.of_eq {part : Part} {cs ds : List Char} (h : Writes part cs) (heq : cs = ds) :
    Writes part ds := heq ▸ h

/-- A value without blanks around it. -/
theorem Writes.bare {value : Json} {cs : List Char} (h : Writes (.value value) cs) :
    Writes (.spaced value) cs := by
  have hspace : IsSpace [] := List.forall_mem_nil _
  simpa using Writes.spaced hspace h hspace

/-- A member without blanks in it. -/
theorem Writes.bareMember {name : Option String} {value : Json} {quoted cs : List Char}
    (hname : WritesString name quoted) (h : Writes (.value value) cs) :
    Writes (.member name value) (quoted ++ ':' :: cs) := by
  have hspace : IsSpace [] := List.forall_mem_nil _
  exact Writes.member hspace hname hspace h.bare

/-! ### Numerals -/

theorem AreDigits.head? {cs : List Char} {c : Char} (h : AreDigits cs) (hc : isDigit c = false) :
    cs.head? ≠ some c := by
  intro hhead
  rw [h c (List.mem_of_mem_head? hhead)] at hc
  cases hc

theorem IsPower.isExponent_eq {cs : List Char} (h : IsPower cs) : isExponent cs = true := by
  cases h with
  | none => rfl
  | @some e sign ds he hsign hne hds =>
    have hdigits : ((e == 'e' || e == 'E') && decide (ds ≠ []) && ds.all isDigit) = true := by
      rw [Bool.and_eq_true, Bool.and_eq_true, Bool.or_eq_true, beq_iff_eq, beq_iff_eq,
        decide_eq_true_eq, List.all_eq_true]
      exact ⟨⟨he, hne⟩, hds⟩
    rcases hsign with rfl | rfl | rfl
    · rw [List.nil_append, isExponent.eq_def]
      split
      · rfl
      · rename_i heq
        rw [List.cons.injEq] at heq
        exact absurd (by rw [heq.2]; rfl) (hds.head? (c := '+') (by decide))
      · rename_i heq
        rw [List.cons.injEq] at heq
        exact absurd (by rw [heq.2]; rfl) (hds.head? (c := '-') (by decide))
      · rename_i heq
        rw [List.cons.injEq] at heq
        obtain ⟨rfl, rfl⟩ := heq
        exact hdigits
    · exact hdigits
    · exact hdigits

theorem IsPower.head? {cs : List Char} (h : IsPower cs) :
    ∀ c ∈ cs.head?, isDigit c = false ∧ c ≠ '.' := by
  intro c hc
  cases h with
  | none => cases hc
  | some he =>
    obtain rfl := Option.some.inj hc
    rcases he with rfl | rfl <;> decide

theorem isFractionAndExponent_append {fraction power : List Char} (hfraction : IsFraction fraction)
    (hpower : IsPower power) : isFractionAndExponent (fraction ++ power) = true := by
  cases hfraction with
  | none =>
    rw [List.nil_append, isFractionAndExponent.eq_def]
    split
    · exact absurd rfl (hpower.head? '.' rfl).2
    · exact hpower.isExponent_eq
  | @some ds hne hds =>
    have hhead : ∀ c ∈ power.head?, isDigit c = false := fun c hc => (hpower.head? c hc).1
    rw [List.cons_append, isFractionAndExponent, takeWhile_append_of_head hds hhead,
      dropWhile_append_of_head hds hhead, hpower.isExponent_eq]
    simpa using hne

theorem IsWhole.areDigits {cs : List Char} (h : IsWhole cs) : AreDigits cs := by
  cases h with
  | zero => simp [AreDigits, isDigit]
  | cons hd _ hds => exact List.forall_mem_cons.2 ⟨hd, hds⟩

theorem IsWhole.isIntegerPart_eq {cs : List Char} (h : IsWhole cs) : isIntegerPart cs = true := by
  cases h with
  | zero => rfl
  | @cons d ds hd hzero hds =>
    rw [isIntegerPart.eq_def]
    split
    · rfl
    · rename_i heq
      exact absurd (List.cons.inj heq).1 hzero
    · rw [Bool.and_eq_true, decide_eq_true_eq, List.all_eq_true]
      exact ⟨List.cons_ne_nil d ds, List.forall_mem_cons.2 ⟨hd, hds⟩⟩

theorem IsWhole.isUnsignedNumeral_append {whole fraction power : List Char} (h : IsWhole whole)
    (hfraction : IsFraction fraction) (hpower : IsPower power) :
    isUnsignedNumeral (whole ++ (fraction ++ power)) = true := by
  have hhead : ∀ c ∈ (fraction ++ power).head?, isDigit c = false := by
    cases hfraction with
    | none => exact fun c hc => (hpower.head? c hc).1
    | some => simp [isDigit]
  rw [isUnsignedNumeral, takeWhile_append_of_head h.areDigits hhead,
    dropWhile_append_of_head h.areDigits hhead, h.isIntegerPart_eq,
    isFractionAndExponent_append hfraction hpower]
  rfl

/-- **Numerals** are what the lexer takes for them. -/
theorem IsNumber.isNumeral_eq {cs : List Char} (h : IsNumber cs) : isNumeral cs = true := by
  obtain ⟨hsign, hwhole, hfraction, hpower⟩ := h
  have hunsigned := hwhole.isUnsignedNumeral_append hfraction hpower
  rcases hsign with rfl | rfl
  · rw [List.nil_append, isNumeral.eq_def]
    split
    · rename_i heq
      have hhead := hwhole.areDigits.head? (c := '-') (by decide)
      cases hwhole with
      | zero => cases heq
      | cons => exact absurd (by rw [(List.cons.inj heq).1]; rfl) hhead
    · exact hunsigned
  · exact hunsigned

theorem AreDigits.isNumeralChar {cs : List Char} (h : AreDigits cs) :
    ∀ c ∈ cs, isNumeralChar c = true := by
  intro c hc
  simp [Json.isNumeralChar, h c hc]

theorem IsNumber.isNumeralChar {cs : List Char} (h : IsNumber cs) :
    ∀ c ∈ cs, isNumeralChar c = true := by
  obtain ⟨hsign, hwhole, hfraction, hpower⟩ := h
  simp only [List.forall_mem_append]
  refine ⟨?_, hwhole.areDigits.isNumeralChar, ?_, ?_⟩
  · rcases hsign with rfl | rfl
    · exact List.forall_mem_nil _
    · exact List.forall_mem_singleton.2 rfl
  · cases hfraction with
    | none => exact List.forall_mem_nil _
    | some _ hds => exact List.forall_mem_cons.2 ⟨rfl, hds.isNumeralChar⟩
  · cases hpower with
    | none => exact List.forall_mem_nil _
    | some he hsign _ hds =>
      rw [List.forall_mem_cons, List.forall_mem_append]
      refine ⟨?_, ?_, hds.isNumeralChar⟩
      · rcases he with rfl | rfl <;> rfl
      · rcases hsign with rfl | rfl | rfl
        · exact List.forall_mem_nil _
        · exact List.forall_mem_singleton.2 rfl
        · exact List.forall_mem_singleton.2 rfl

/-- A numeral starts with its sign or a digit. -/
theorem IsNumber.exists_cons {cs : List Char} (h : IsNumber cs) :
    ∃ c rest, cs = c :: rest ∧ (c = '-' ∨ isDigit c = true) := by
  obtain ⟨rfl | rfl, hwhole, hfraction, hpower⟩ := h
  · cases hwhole with
    | zero => exact ⟨_, _, rfl, .inr rfl⟩
    | cons hd => exact ⟨_, _, rfl, .inr hd⟩
  · exact ⟨_, _, rfl, .inl rfl⟩

/-! ### The lexer between strings -/

/-- Blanks between tokens make no difference. -/
theorem scan?_space {space : List Char} (h : IsSpace space) (reader : Reader) (rest : List Char) :
    scan? .between reader (space ++ rest) = scan? .between reader rest := by
  induction space with
  | nil => rfl
  | cons c space ih =>
    obtain ⟨hc, hspace⟩ := List.forall_mem_cons.1 h
    have hstep : Lexer.step .between c = some ([], .between) := if_pos hc
    rw [List.cons_append, scan?_cons_of_step hstep, ih hspace]

/-- A bracket, a comma or a colon is a token by itself. -/
theorem scan?_sign {c : Char} (token : Token) {reader next : Reader}
    (h : Lexer.step .between c = some ([token], .between)) (hstep : reader.step token = some next)
    (rest : List Char) : scan? .between reader (c :: rest) = scan? .between next rest := by
  have hrun : reader.run? [token] = some next := by
    rw [Reader.run?, hstep]
    rfl
  rw [scan?, h]
  simp only [hrun]

section Scalar

variable {state : List Char → Lexer} {chars cs rest : List Char}

/-- The lexer goes on with a numeral or a word as long as there are characters for it. -/
theorem scan?_run (h : ∀ c ∈ cs, ∀ chars, (state chars).step c = some ([], state (c :: chars)))
    (reader : Reader) :
    scan? (state chars) reader (cs ++ rest) = scan? (state (cs.reverse ++ chars)) reader rest := by
  induction cs generalizing chars with
  | nil => rfl
  | cons c cs ih =>
    obtain ⟨hc, hcs⟩ := List.forall_mem_cons.1 h
    rw [List.cons_append, scan?_cons_of_step (hc chars), ih hcs, List.reverse_cons,
      List.append_assoc]
    rfl

/-- Where it does not go on, the token is complete, and the next character is read as if it stood
by itself. -/
theorem scan?_completed {lexer : Lexer} {token : Token} {reader next : Reader}
    (hcompleted : lexer.completed? = some [token])
    (hend : ∀ c ∈ rest.head?, lexer.step c =
      (Lexer.start? c).map fun (tokens, next) => (token :: tokens, next))
    (hstep : reader.step token = some next) :
    scan? lexer reader rest = scan? .between next rest := by
  have hrun (tokens : List Token) : reader.run? (token :: tokens) = next.run? tokens := by
    rw [Reader.run?, hstep]
  cases rest with
  | nil =>
    rw [scan?, hcompleted]
    exact hrun []
  | cons c rest =>
    rw [scan?, scan?, hend c rfl, show Lexer.step .between c = Lexer.start? c from rfl]
    cases Lexer.start? c with
    | none => rfl
    | some found => simp only [Option.map_some, hrun]

/-- **A scalar** is read as a value, if something stands behind it with which it does not go on. -/
theorem scan?_scalar (state : List Char → Lexer) {c : Char} {value : Json}
    (hstart : Lexer.step .between c = some ([], state [c]))
    (hrun : ∀ c ∈ cs, ∀ chars, (state chars).step c = some ([], state (c :: chars)))
    (hcompleted : (state (c :: cs).reverse).completed? = some [.scalar value])
    (hend : ∀ d ∈ rest.head?, (state (c :: cs).reverse).step d =
      (Lexer.start? d).map fun (tokens, next) => (.scalar value :: tokens, next))
    (frames : List Frame) (mayClose : Bool) :
    scan? .between (.value frames mayClose) (c :: cs ++ rest) =
      scan? .between (.complete value frames) rest := by
  rw [List.cons_append, scan?_cons_of_step hstart, scan?_run hrun, ← List.reverse_cons]
  exact scan?_completed hcompleted hend rfl

end Scalar

/-! ### The reader -/

/-- What stands behind a value and goes on with no numeral and no word. -/
def IsEnd (rest : List Char) : Prop :=
  ∀ c ∈ rest.head?, isNumeralChar c = false ∧ c.isLower = false

theorem IsSpace.isEnd_append {space rest : List Char} (h : IsSpace space) (hrest : IsEnd rest) :
    IsEnd (space ++ rest) := by
  cases space with
  | nil => exact hrest
  | cons c space =>
    intro d hd
    obtain rfl := Option.some.inj hd
    rcases h c List.mem_cons_self with rfl | rfl | rfl | rfl <;> decide

theorem start?_of_isDigit {c : Char} (h : isDigit c = true) :
    Lexer.start? c = some ([], .inNumeral [c]) := by
  have hne {d : Char} (hd : isDigit d = false) : c ≠ d := by
    rintro rfl
    rw [h] at hd
    cases hd
  rw [Lexer.start?, if_neg (by rintro (hc | hc | hc | hc) <;> exact hne (by decide) hc),
    if_neg (hne (by decide)), if_neg (hne (by decide)), if_neg (hne (by decide)),
    if_neg (hne (by decide)), if_neg (hne (by decide)), if_neg (hne (by decide)),
    if_neg (hne (by decide)), if_pos (.inr h)]

/-- **A numeral** is read as a number. -/
theorem IsNumber.scan?_append {cs rest : List Char} (h : IsNumber cs) (hrest : IsEnd rest)
    (frames : List Frame) (mayClose : Bool) :
    scan? .between (.value frames mayClose) (cs ++ rest) =
      scan? .between (.complete (.number cs) frames) rest := by
  have hcompleted : (Lexer.inNumeral cs.reverse).completed? = some [.scalar (.number cs)] := by
    rw [Lexer.completed?, List.reverse_reverse, if_pos h.isNumeral_eq]
  have hchars := h.isNumeralChar
  obtain ⟨c, cs, rfl, hc⟩ := h.exists_cons
  refine scan?_scalar .inNumeral ?_ ?_ hcompleted ?_ frames mayClose
  · rcases hc with rfl | hc
    · rfl
    · exact start?_of_isDigit hc
  · intro d hd chars
    rw [Lexer.step, if_pos (hchars d (List.mem_cons_of_mem _ hd))]
  · intro d hd
    rw [Lexer.step, if_neg (by rw [(hrest d hd).1]; exact Bool.false_ne_true), hcompleted]
    cases Lexer.start? d <;> rfl

/-- **A word** is read as the scalar that it stands for. -/
theorem scan?_word {c : Char} {cs rest : List Char} {value : Json}
    (hstart : Lexer.step .between c = some ([], .inWord [c]))
    (hchars : cs.all Char.isLower = true) (hword : ofWord? (c :: cs) = some value)
    (hrest : IsEnd rest) (frames : List Frame) (mayClose : Bool) :
    scan? .between (.value frames mayClose) (c :: cs ++ rest) =
      scan? .between (.complete value frames) rest := by
  have hcompleted : (Lexer.inWord (c :: cs).reverse).completed? = some [.scalar value] := by
    rw [Lexer.completed?, List.reverse_reverse, hword]
    rfl
  refine scan?_scalar .inWord hstart ?_ hcompleted ?_ frames mayClose
  · intro d hd chars
    rw [Lexer.step, if_pos (List.all_eq_true.1 hchars d hd)]
  · intro d hd
    rw [Lexer.step, if_neg (by rw [(hrest d hd).2]; exact Bool.false_ne_true), hcompleted]
    cases Lexer.start? d <;> rfl

/-- What the reader is to make of a part of a text, whatever has been read before it and whatever
stands behind it. A container may be closed at once only if there is nothing in it. -/
def Reads : Part → List Char → Prop
  | .value value, cs | .spaced value, cs => ∀ frames mayClose rest, IsEnd rest →
    scan? .between (.value frames mayClose) (cs ++ rest) =
      scan? .between (.complete value frames) rest
  | .items items, cs => ∀ before frames mayClose rest, (items = [] → mayClose = true) →
    scan? .between (.value (.array before :: frames) mayClose) (cs ++ ']' :: rest) =
      scan? .between (.complete (.array (before.reverse ++ items)) frames) rest
  | .member name value, cs => ∀ before frames mayClose rest, IsEnd rest →
    scan? .between (.name before frames mayClose) (cs ++ rest) =
      scan? .between (.complete value (.object before name :: frames)) rest
  | .members members, cs => ∀ before frames mayClose rest, (members = [] → mayClose = true) →
    scan? .between (.name before frames mayClose) (cs ++ '\x7d' :: rest) =
      scan? .between (.complete (.object (before.reverse ++ members)) frames) rest

theorem isEnd_cons {c : Char} (h : isNumeralChar c = false ∧ c.isLower = false)
    (rest : List Char) : IsEnd (c :: rest) := by
  intro d hd
  rwa [← Option.some.inj hd]

/-- **Every part of a text** is read as what it was written for. -/
theorem Writes.reads {part : Part} {cs : List Char} (h : Writes part cs) : Reads part cs := by
  induction h with
  | nullWord =>
    exact fun frames mayClose rest hrest => scan?_word rfl (by decide) rfl hrest frames mayClose
  | trueWord =>
    exact fun frames mayClose rest hrest => scan?_word rfl (by decide) rfl hrest frames mayClose
  | falseWord =>
    exact fun frames mayClose rest hrest => scan?_word rfl (by decide) rfl hrest frames mayClose
  | number hnumber =>
    exact fun frames mayClose rest hrest => hnumber.scan?_append hrest frames mayClose
  | string hstring => exact fun frames mayClose rest _ => hstring.scan?_append rfl rest
  | array _ ih =>
    intro frames mayClose rest _
    rw [List.cons_append, List.append_assoc, List.singleton_append,
      scan?_sign .openArray rfl rfl, ih [] frames true rest fun _ => rfl]
    rfl
  | object _ ih =>
    intro frames mayClose rest _
    rw [List.cons_append, List.append_assoc, List.singleton_append,
      scan?_sign .openObject rfl rfl, ih [] frames true rest fun _ => rfl]
    rfl
  | spaced hbefore _ hafter ih =>
    intro frames mayClose rest hrest
    rw [List.append_assoc, List.append_assoc, scan?_space hbefore,
      ih frames mayClose _ (hafter.isEnd_append hrest), scan?_space hafter]
  | noItems hspace =>
    intro before frames mayClose rest hclose
    obtain rfl := hclose rfl
    rw [scan?_space hspace, List.append_nil]
    exact scan?_sign .closeArray rfl rfl rest
  | lastItem _ ih =>
    intro before frames mayClose rest _
    rw [ih (.array before :: frames) mayClose _ (isEnd_cons (by decide) rest), ← List.reverse_cons]
    exact scan?_sign .closeArray rfl rfl rest
  | @moreItems value items cs rest _ hne _ ih ihrest =>
    intro before frames mayClose behind _
    rw [List.append_assoc, List.cons_append,
      ih (.array before :: frames) mayClose _ (isEnd_cons (by decide) _),
      scan?_sign .comma rfl rfl,
      ihrest (value :: before) frames false behind fun hnil => absurd hnil hne, List.reverse_cons,
      List.append_assoc]
    rfl
  | member hbefore hname hafter _ ih =>
    intro before frames mayClose rest hrest
    rw [List.append_assoc, List.append_assoc, List.append_assoc, scan?_space hbefore,
      hname.scan?_append rfl, scan?_space hafter, List.cons_append,
      scan?_sign .colon rfl rfl, ih _ _ rest hrest]
  | noMembers hspace =>
    intro before frames mayClose rest hclose
    obtain rfl := hclose rfl
    rw [scan?_space hspace, List.append_nil]
    exact scan?_sign .closeObject rfl rfl rest
  | lastMember _ ih =>
    intro before frames mayClose rest _
    rw [ih before frames mayClose _ (isEnd_cons (by decide) rest), ← List.reverse_cons]
    exact scan?_sign .closeObject rfl rfl rest
  | @moreMembers name value members cs rest _ hne _ ih ihrest =>
    intro before frames mayClose behind _
    rw [List.append_assoc, List.cons_append,
      ih before frames mayClose _ (isEnd_cons (by decide) _), scan?_sign .comma rfl rfl,
      ihrest ((name, value) :: before) frames false behind fun hnil => absurd hnil hne,
      List.reverse_cons, List.append_assoc]
    rfl

/-- **A text** is read as the value for which it was written. -/
theorem read?_of_writes {value : Json} {text : String}
    (h : Writes (.spaced value) text.toList) : read? text = some value := by
  have hscan := h.reads [] false [] (by simp [IsEnd])
  rw [List.append_nil] at hscan
  rw [read?, hscan]
  rfl

end Json

end PullReport
