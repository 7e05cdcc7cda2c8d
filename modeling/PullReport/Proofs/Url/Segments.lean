import Mathlib.Data.List.Infix
import PullReport.Proofs.Text.Numeral
import PullReport.Proofs.Text.Pieces
import PullReport.Url.Basic

/-!
# The segments of a path

What stands between the slashes of a path when an address has been read. All its characters may
stand in a path, no slash is among them, and no segment is a dot segment, since those have been
resolved. Under the schemes of the web and under `file` there is no backslash either. Under any
other scheme a backslash is a character like others and is kept, so a segment that is taken from
such an address and put into an address of the web comes apart there. Nothing else in a segment
changes on the way.

## Main definitions

* `Url.IsPiece`: what stands between two slashes of a text once it is percent-encoded.
* `Url.IsSegment`: what stands between two slashes of a path; `Url.HasSegments`.
* `Url.IsPlainName`: names of letters, digits and three marks.
* `Url.ReadsPath`: an address is read from the text of a path.

## Main results

* `Url.IsPlainName.isSegment`: plain names are segments.
* `Url.Segments.isSegment_of_mem_ofText`: the segments of a path that is read from a text.
* `Url.hasSegments_of_parse?`: the path of an address consists of segments.
* `Url.Segments.pieces_append_slash`, `Url.Segments.resolve_append`: a path behind another.
* `Url.Segments.ofText_intercalate_eq_iff`: when segments are read as they are.
-/

namespace PullReport

namespace Text

/-! ### Percent-encoding -/

variable {keeps : Char → Bool} {cs : List Char} {c : Char}

/-- A text of which everything is kept stands for itself. -/
theorem percentEncode_eq_self (h : ∀ c ∈ cs, keeps c = true) : percentEncode keeps cs = cs := by
  induction cs with
  | nil => rfl
  | cons c cs ih =>
    rw [percentEncode, List.flatMap_cons, if_pos (h c List.mem_cons_self)]
    exact congrArg (c :: ·) (ih fun d hd => h d (List.mem_cons_of_mem c hd))

/-- Encoding adds nothing but percent signs and digits. -/
theorem mem_percentEncode (h : c ∈ percentEncode keeps cs) :
    (c ∈ cs ∧ keeps c = true) ∨ c = '%' ∨ ∃ n < 16, c = upperHexDigit n := by
  rw [percentEncode, List.mem_flatMap] at h
  obtain ⟨d, hd, hc⟩ := h
  split at hc
  · rename_i hkeeps
    obtain rfl := List.mem_singleton.1 hc
    exact .inl ⟨hd, hkeeps⟩
  · obtain ⟨byte, -, hc⟩ := List.mem_flatMap.1 hc
    have hbyte : byte.toNat < 256 := byte.toNat_lt
    rcases List.mem_cons.1 hc with rfl | hc
    · exact .inr (.inl rfl)
    · rcases List.mem_cons.1 hc with rfl | hc
      · exact .inr (.inr ⟨_, by omega, rfl⟩)
      · obtain rfl := List.mem_singleton.1 hc
        exact .inr (.inr ⟨_, Nat.mod_lt _ (by decide), rfl⟩)

end Text

namespace Url

open Text

/-! ### Pieces and segments -/

/-- A text that may stand between two slashes of a path. Under some schemes a backslash is a slash,
and then it has none of these either. -/
structure IsPiece (special : Bool) (piece : List Char) : Prop where
  kept : ∀ c ∈ piece, keptInPath c = true
  slash_not_mem : '/' ∉ piece
  backslash_not_mem : special = true → '\\' ∉ piece

/-- A piece that means no other directory. -/
structure IsSegment (special : Bool) (segment : List Char) : Prop extends
    IsPiece special segment where
  not_single : isSingleDot segment = false
  not_double : isDoubleDot segment = false

variable {special : Bool} {scheme : Scheme} {path rest : List (List Char)} {cs : List Char}

theorem isSegment_nil (special : Bool) : IsSegment special [] where
  kept := nofun
  slash_not_mem := nofun
  backslash_not_mem := nofun
  not_single := rfl
  not_double := rfl

/-- The letter of a drive with a colon behind it is a segment. -/
theorem IsPiece.isSegment_drive {letter c : Char} (h : IsPiece special [letter, c]) :
    IsSegment special [letter, ':'] where
  kept := by
    have hletter := h.kept letter List.mem_cons_self
    have hcolon : keptInPath ':' = true := by decide
    simp_all
  slash_not_mem := by
    have hslash := h.slash_not_mem
    simp_all
  backslash_not_mem := fun hspecial => by
    have hbackslash := h.backslash_not_mem hspecial
    simp_all
  not_single := by simp [isSingleDot]
  not_double := by simp [isDoubleDot]

instance (special : Bool) (segment : List Char) : Decidable (IsSegment special segment) :=
  decidable_of_iff (segment.all keptInPath = true ∧ '/' ∉ segment ∧
      (special = true → '\\' ∉ segment) ∧ isSingleDot segment = false ∧
      isDoubleDot segment = false)
    ⟨fun ⟨hkept, hslash, hbackslash, hsingle, hdouble⟩ =>
      ⟨⟨List.all_eq_true.1 hkept, hslash, hbackslash⟩, hsingle, hdouble⟩,
    fun h => ⟨List.all_eq_true.2 h.kept, h.slash_not_mem, h.backslash_not_mem, h.not_single,
      h.not_double⟩⟩

/-- A segment in which a backslash may not stand is one in which it may. -/
theorem IsSegment.weaken {special : Bool} {segment : List Char} (h : IsSegment special segment) :
    IsSegment false segment :=
  ⟨⟨h.kept, h.slash_not_mem, nofun⟩, h.not_single, h.not_double⟩

/-! ### Plain names -/

/-- The characters of plain names: letters, digits and three marks. -/
def isPlainChar (c : Char) : Bool := c.isAlphanum || c == '-' || c == '_' || c == '.'

/-- A text of such characters that means no other directory. It may be empty. -/
structure IsPlainName (name : List Char) : Prop where
  plain : ∀ c ∈ name, isPlainChar c = true
  ne_single : name ≠ ['.']
  ne_double : name ≠ ['.', '.']

instance (name : List Char) : Decidable (IsPlainName name) :=
  decidable_of_iff (name.all isPlainChar = true ∧ name ≠ ['.'] ∧ name ≠ ['.', '.'])
    ⟨fun ⟨hplain, hsingle, hdouble⟩ => ⟨List.all_eq_true.1 hplain, hsingle, hdouble⟩,
    fun h => ⟨List.all_eq_true.2 h.plain, h.ne_single, h.ne_double⟩⟩

theorem toNat_lt_of_isPlainChar {c : Char} (h : isPlainChar c = true) : c.toNat < 128 := by
  change (((((c.isUpper || c.isLower) || c.isDigit) || c == '-') || c == '_') || c == '.') = true
    at h
  simp only [Bool.or_eq_true, beq_iff_eq] at h
  rcases h with ((((hupper | hlower) | hdigit) | rfl) | rfl) | rfl
  · have hrange : 65 ≤ c.toNat ∧ c.toNat ≤ 90 := of_decide_eq_true hupper
    omega
  · have hrange : (decide (97 ≤ c.toNat) && decide (c.toNat ≤ 122)) = true := hlower
    rw [Bool.and_eq_true, decide_eq_true_eq, decide_eq_true_eq] at hrange
    omega
  · have hrange : (decide (48 ≤ c.toNat) && decide (c.toNat ≤ 57)) = true := hdigit
    rw [Bool.and_eq_true, decide_eq_true_eq, decide_eq_true_eq] at hrange
    omega
  all_goals decide

/-- What has to be known about these characters, which are few. -/
theorem of_isPlainChar {c : Char} (h : isPlainChar c = true) :
    keptInPath c = true ∧ c ≠ '/' ∧ c ≠ '\\' ∧ c.toLower ≠ '%' ∧ (c.toLower = '.' → c = '.') := by
  have hall : ∀ n < 128, isPlainChar (Char.ofNat n) = true →
      keptInPath (Char.ofNat n) = true ∧ Char.ofNat n ≠ '/' ∧ Char.ofNat n ≠ '\\' ∧
        (Char.ofNat n).toLower ≠ '%' ∧ ((Char.ofNat n).toLower = '.' → Char.ofNat n = '.') := by
    decide +kernel
  have hc := hall c.toNat (toNat_lt_of_isPlainChar h)
  rw [Char.ofNat_toNat] at hc
  exact hc h

/-- **Plain names are segments**, under every scheme. -/
theorem IsPlainName.isSegment {name : List Char} (h : IsPlainName name) (special : Bool) :
    IsSegment special name := by
  have hplain : ∀ c ∈ name, _ := fun c hc => of_isPlainChar (h.plain c hc)
  -- a dot that is encoded begins with a percent sign
  have hpercent : '%' ∉ name.map Char.toLower := by
    intro hmem
    obtain ⟨c, hc, hlower⟩ := List.mem_map.1 hmem
    exact (hplain c hc).2.2.2.1 hlower
  refine ⟨⟨fun c hc => (hplain c hc).1, fun hc => (hplain _ hc).2.1 rfl,
    fun _ hc => (hplain _ hc).2.2.1 rfl⟩, Bool.eq_false_iff.2 fun hsingle => ?_,
    Bool.eq_false_iff.2 fun hdouble => ?_⟩
  · rw [isSingleDot, Bool.or_eq_true, beq_iff_eq, beq_iff_eq] at hsingle
    rcases hsingle with hname | hlower
    · exact h.ne_single hname
    · exact hpercent (hlower ▸ by decide)
  · simp only [isDoubleDot, Bool.or_eq_true, beq_iff_eq] at hdouble
    rcases hdouble with ((hlower | hlower) | hlower) | hlower
    · obtain ⟨a, rest, rfl, ha, hrest⟩ := List.map_eq_cons_iff.1 hlower
      obtain ⟨b, rest, rfl, hb, hrest⟩ := List.map_eq_cons_iff.1 hrest
      obtain rfl := List.map_eq_nil_iff.1 hrest
      obtain rfl := (hplain a (by simp)).2.2.2.2 ha
      obtain rfl := (hplain b (by simp)).2.2.2.2 hb
      exact h.ne_double rfl
    · exact hpercent (hlower ▸ by decide)
    · exact hpercent (hlower ▸ by decide)
    · exact hpercent (hlower ▸ by decide)

/-- The digits of a number are a plain name. -/
theorem isPlainName_toString (n : Nat) : IsPlainName (toString n).toList := by
  have hstop : '.' ∉ (toString n).toList := fun hmem => by cases isDigit_of_mem_toString hmem
  refine ⟨fun c hc => ?_, fun hname => hstop (hname ▸ List.mem_cons_self),
    fun hname => hstop (hname ▸ List.mem_cons_self)⟩
  rw [isPlainChar, Char.isAlphanum, isDigit_of_mem_toString hc, Bool.or_true]
  rfl

theorem isSegment_toString (special : Bool) (n : Nat) :
    IsSegment special (toString n).toList :=
  (isPlainName_toString n).isSegment special

/-! ### From a text to segments -/

/-- Encoding a text without slashes leaves a piece. -/
theorem isPiece_percentEncode (hslash : '/' ∉ cs) (hbackslash : special = true → '\\' ∉ cs) :
    IsPiece special (percentEncode keptInPath cs) := by
  have hdigits : ∀ n < 16, keptInPath (upperHexDigit n) = true ∧ upperHexDigit n ≠ '/' ∧
      upperHexDigit n ≠ '\\' := by
    decide
  have hnot_mem {c : Char} (hc : c ∉ cs) (hpercent : c ≠ '%')
      (hdigit : ∀ n < 16, upperHexDigit n ≠ c) : c ∉ percentEncode keptInPath cs := by
    intro hmem
    rcases mem_percentEncode hmem with ⟨hmem, -⟩ | rfl | ⟨n, hn, rfl⟩
    · exact hc hmem
    · exact hpercent rfl
    · exact hdigit n hn rfl
  refine ⟨fun c hc => ?_, hnot_mem hslash (by decide) fun n hn => (hdigits n hn).2.1,
    fun hspecial => hnot_mem (hbackslash hspecial) (by decide) fun n hn => (hdigits n hn).2.2⟩
  rcases mem_percentEncode hc with ⟨-, hkept⟩ | rfl | ⟨n, hn, rfl⟩
  · exact hkept
  · decide
  · exact (hdigits n hn).1

namespace Segments

/-- Cutting a text leaves no slash in a piece, and no backslash where that is a slash. -/
theorem isPiece_of_mem_cut {piece : List Char} (h : piece ∈ cut special cs) :
    IsPiece special (percentEncode keptInPath piece) := by
  refine isPiece_percentEncode (not_mem_of_mem_splitOn h) fun hspecial hmem => ?_
  obtain ⟨c, -, hc⟩ := List.mem_map.1 (mem_of_mem_splitOn h hmem)
  simp only [hspecial, Bool.true_and, beq_iff_eq] at hc
  split at hc
  · cases hc
  · rename_i hne
    exact hne hc

theorem mem_of_mem_shorten {segment : List Char} (h : segment ∈ shorten path) :
    segment ∈ path := by
  rw [shorten] at h
  split at h
  · split at h
    · exact h
    · exact List.mem_of_mem_dropLast h
  · cases h

/-- A piece is stored as a segment unless it is a dot segment. -/
theorem isSegment_stored {piece : List Char} (h : IsPiece special piece)
    (hsingle : isSingleDot piece = false) (hdouble : isDoubleDot piece = false) :
    IsSegment special (stored scheme path piece) := by
  rw [stored.eq_def]
  split
  · split
    · exact h.isSegment_drive
    · exact ⟨h, hsingle, hdouble⟩
  · exact ⟨h, hsingle, hdouble⟩

/-- What one more piece makes of a path: a piece that means another directory is gone behind it. -/
theorem isSegment_of_mem_push {piece : List Char}
    (hpath : ∀ segment ∈ path, IsSegment special segment) (h : IsPiece special piece) :
    ∀ segment ∈ push scheme path piece, IsSegment special segment := by
  intro segment hmem
  rw [push] at hmem
  split at hmem
  · exact hpath segment (mem_of_mem_shorten hmem)
  · rename_i hdouble
    split at hmem
    · exact hpath segment hmem
    · rename_i hsingle
      rcases List.mem_append.1 hmem with hmem | hmem
      · exact hpath segment hmem
      · obtain rfl := List.mem_singleton.1 hmem
        exact isSegment_stored h (Bool.eq_false_iff.2 hsingle) (Bool.eq_false_iff.2 hdouble)

/-- The last piece adds what any other would, and perhaps an empty segment. -/
theorem mem_of_mem_pushLast {piece segment : List Char}
    (h : segment ∈ pushLast scheme path piece) :
    segment ∈ push scheme path piece ∨ segment = [] := by
  rw [pushLast] at h
  rw [push]
  split at h
  · rename_i hdouble
    rw [if_pos hdouble]
    simpa using h
  · rename_i hdouble
    rw [if_neg hdouble]
    split at h
    · rename_i hsingle
      rw [if_pos hsingle]
      simpa using h
    · rename_i hsingle
      rw [if_neg hsingle]
      exact .inl h

theorem isSegment_of_mem_resolve (hpath : ∀ segment ∈ path, IsSegment special segment)
    (hrest : ∀ piece ∈ rest, IsPiece special piece) :
    ∀ segment ∈ resolve scheme path rest, IsSegment special segment := by
  induction rest generalizing path with
  | nil => exact hpath
  | cons piece rest ih =>
    have hpush : ∀ segment ∈ push scheme path piece, IsSegment special segment :=
      isSegment_of_mem_push hpath (hrest piece List.mem_cons_self)
    cases rest with
    | nil =>
      intro segment hmem
      rcases mem_of_mem_pushLast hmem with hmem | rfl
      · exact hpush segment hmem
      · exact isSegment_nil special
    | cons next rest => exact ih hpush fun p hp => hrest p (List.mem_cons_of_mem piece hp)

/-- **The segments of a path** that is read from a text. -/
theorem isSegment_of_mem_ofText :
    ∀ segment ∈ ofText scheme cs, IsSegment scheme.isSpecial segment := by
  refine isSegment_of_mem_resolve nofun fun piece hpiece => ?_
  obtain ⟨cutPiece, hcut, rfl⟩ := List.mem_map.1 hpiece
  exact isPiece_of_mem_cut hcut

/-! ### From segments to a text and back -/

/-- Segments are stored as they are, unless the first may be a drive. -/
theorem resolve_eq_append (hscheme : scheme ≠ .file)
    (hrest : ∀ segment ∈ rest, IsSegment special segment) :
    resolve scheme path rest = path ++ rest := by
  have hstored (path : List (List Char)) (segment : List Char) :
      stored scheme path segment = segment := by
    rw [stored.eq_def]
    split
    · exact absurd rfl hscheme
    · rfl
  induction rest generalizing path with
  | nil => exact (List.append_nil path).symm
  | cons segment rest ih =>
    have hsegment := hrest segment List.mem_cons_self
    cases rest with
    | nil =>
      rw [resolve, pushLast, hsegment.not_double, hsegment.not_single, hstored]
      rfl
    | cons next rest =>
      rw [resolve, push, hsegment.not_double, hsegment.not_single, hstored,
        ih fun s hs => hrest s (List.mem_cons_of_mem segment hs)]
      · exact List.append_assoc path [segment] (next :: rest)
      · nofun

/-- What is left to be resolved when the text of a path is cut at its slashes and encoded. -/
def pieces (special : Bool) (cs : List Char) : List (List Char) :=
  (cut special cs).map (percentEncode keptInPath)

theorem ofText_eq (scheme : Scheme) (cs : List Char) :
    ofText scheme cs = resolve scheme [] (pieces scheme.isSpecial cs) := rfl

theorem pieces_ne_nil (special : Bool) (cs : List Char) : pieces special cs ≠ [] := by
  rw [pieces, Ne, List.map_eq_nil_iff]
  exact List.splitOn_ne_nil _ _

/-- A slash parts what is before it from what is behind it. -/
theorem pieces_append_slash (special : Bool) (front cs : List Char) :
    pieces special (front ++ '/' :: cs) = pieces special front ++ pieces special cs := by
  rw [pieces, pieces, pieces, ← List.map_append, cut, cut, cut, List.map_append, List.map_cons,
    List.splitOn, List.splitOnP_append_cons _ _ (by simp)]
  rfl

/-- Resolving goes on from where it has got. -/
theorem resolve_append (path front : List (List Char)) (hrest : rest ≠ []) :
    resolve scheme path (front ++ rest) =
      resolve scheme (front.foldl (push scheme) path) rest := by
  induction front generalizing path with
  | nil => rfl
  | cons piece front ih =>
    have hne : front ++ rest ≠ [] := List.append_ne_nil_of_right_ne_nil front hrest
    obtain ⟨next, more, hmore⟩ := List.exists_cons_of_ne_nil hne
    rw [List.cons_append, hmore, resolve, ← hmore, ih, List.foldl_cons]
    nofun

/-- Pieces that are joined by slashes are found again. -/
theorem pieces_intercalate (hne : path ≠ []) (hpath : ∀ piece ∈ path, IsPiece special piece) :
    pieces special (['/'].intercalate path) = path := by
  have hcut : cut special (['/'].intercalate path) = path := by
    have hmap : ∀ c ∈ ['/'].intercalate path,
        (if special && c == '\\' then '/' else c) = id c := by
      intro c hc
      refine if_neg fun hslash => ?_
      obtain ⟨hspecial, rfl⟩ : special = true ∧ c = '\\' := by simpa using hslash
      obtain ⟨piece, hmem, hpiece⟩ :=
        (mem_or_mem_of_mem_intercalate hc).resolve_left (by decide)
      exact (hpath piece hmem).backslash_not_mem hspecial hpiece
    rw [cut, List.map_congr_left hmap, List.map_id,
      List.splitOn_intercalate '/' (fun p hp => (hpath p hp).slash_not_mem) hne]
  rw [pieces, hcut, List.map_congr_left fun p hp => percentEncode_eq_self (hpath p hp).kept]
  exact List.map_id path

/-- **Segments that are joined by slashes** and read again, under a scheme where a backslash is a
slash, are what they were just when there is no backslash in them. -/
theorem ofText_intercalate_eq_iff (hspecial : scheme.isSpecial = true) (hscheme : scheme ≠ .file)
    (hne : path ≠ []) (hpath : ∀ segment ∈ path, IsSegment special segment) :
    ofText scheme (['/'].intercalate path) = path ↔ ∀ segment ∈ path, '\\' ∉ segment := by
  constructor
  · intro h segment hmem
    rw [← h] at hmem
    exact (isSegment_of_mem_ofText segment hmem).backslash_not_mem hspecial
  · intro hbackslash
    have hpieces : ∀ piece ∈ path, IsPiece scheme.isSpecial piece := fun piece hmem =>
      ⟨(hpath piece hmem).kept, (hpath piece hmem).slash_not_mem, fun _ => hbackslash piece hmem⟩
    rw [ofText_eq, pieces_intercalate hne hpieces, resolve_eq_append hscheme hpath, List.nil_append]

end Segments

/-! ### Addresses -/

/-- The path of an address consists of segments, unless it is no hierarchy. -/
def HasSegments (url : Url) : Prop :=
  ∀ list, url.path = .segments list → ∀ segment ∈ list, IsSegment url.scheme.isSpecial segment

/-- An address is read from the text of its path, whatever its host has been read from. -/
def ReadsPath (scheme : Scheme) (url : Url) : Prop :=
  ∃ host text, url = ofPathText scheme host text

variable {url : Url} {host : Option Host}

theorem readsPath_ofPathText (scheme : Scheme) (host : Option Host) (cs : List Char) :
    ReadsPath scheme (ofPathText scheme host cs) :=
  ⟨host, cs, rfl⟩

theorem ReadsPath.scheme_eq (h : ReadsPath scheme url) : url.scheme = scheme := by
  obtain ⟨host, text, rfl⟩ := h
  rfl

theorem hasSegments_ofPathText (scheme : Scheme) (host : Option Host) (cs : List Char) :
    (ofPathText scheme host cs).HasSegments := by
  rintro list hlist segment hmem
  obtain rfl := Path.segments.inj hlist
  change IsSegment scheme.isSpecial segment
  split at hmem
  · split at hmem
    · obtain rfl := List.mem_singleton.1 hmem
      exact isSegment_nil _
    · cases hmem
  · exact Segments.isSegment_of_mem_ofText segment hmem
  · exact Segments.isSegment_of_mem_ofText segment hmem

theorem ReadsPath.hasSegments (h : ReadsPath scheme url) : url.HasSegments := by
  obtain ⟨host, text, rfl⟩ := h
  exact hasSegments_ofPathText scheme host text

/-- A host that does not count is left out, and nothing else. -/
theorem ReadsPath.withoutDriveHost (h : ReadsPath scheme url) :
    ReadsPath scheme url.withoutDriveHost := by
  obtain ⟨host, text, rfl⟩ := h
  rw [Url.withoutDriveHost.eq_def]
  split
  · split
    · exact readsPath_ofPathText scheme none text
    · exact readsPath_ofPathText scheme host text
  · exact readsPath_ofPathText scheme host text

theorem readsPath_of_ofAuthority? (h : ofAuthority? scheme cs = some url) :
    ReadsPath scheme url := by
  rw [ofAuthority?] at h
  simp only [Option.bind_eq_bind, Option.bind_eq_some_iff] at h
  obtain ⟨rest, -, h⟩ := h
  split at h
  · split at h
    · cases h
    · obtain rfl := Option.some.inj h
      exact readsPath_ofPathText _ _ _
  · split at h <;>
    · obtain ⟨host, -, h⟩ := Option.bind_eq_some_iff.1 h
      obtain rfl := Option.some.inj h
      exact readsPath_ofPathText _ _ _

theorem readsPath_of_ofFile? (h : ofFile? cs = some url) : ReadsPath .file url := by
  rw [ofFile?.eq_def] at h
  split at h
  · split at h
    · dsimp only at h
      split at h
      · obtain rfl := Option.some.inj h
        exact readsPath_ofPathText _ _ _
      · split at h
        · obtain rfl := Option.some.inj h
          exact readsPath_ofPathText _ _ _
        · obtain ⟨host, -, rfl⟩ := Option.map_eq_some_iff.1 h
          split
          · exact readsPath_ofPathText _ _ _
          · exact (readsPath_ofPathText _ _ _).withoutDriveHost
    · obtain rfl := Option.some.inj h
      exact readsPath_ofPathText _ _ _
  · obtain rfl := Option.some.inj h
    exact readsPath_ofPathText _ _ _

/-- Under another scheme there may be an address that is no hierarchy. -/
theorem of_ofOther? (h : ofOther? scheme cs = some url) :
    url.scheme = scheme ∧ url.HasSegments := by
  rw [ofOther?.eq_def] at h
  split at h
  · have hread := readsPath_of_ofAuthority? h
    exact ⟨hread.scheme_eq, hread.hasSegments⟩
  · obtain rfl := Option.some.inj h
    exact ⟨rfl, hasSegments_ofPathText _ _ _⟩
  · obtain rfl := Option.some.inj h
    exact ⟨rfl, nofun⟩

/-- **The path of an address** consists of segments. -/
theorem hasSegments_of_parse? (h : parse? cs = some url) : url.HasSegments := by
  rw [parse?] at h
  split at h
  · cases h
  · exact (readsPath_of_ofAuthority? h).hasSegments
  · exact (readsPath_of_ofFile? h).hasSegments
  · exact (of_ofOther? h).2

end Url

end PullReport
