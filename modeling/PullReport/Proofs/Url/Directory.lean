import Mathlib.Data.List.TakeWhile
import PullReport.Proofs.Text.Runs
import PullReport.Proofs.Url.Segments

/-!
# Addresses under a directory

What a text denotes when a path is added behind it. A text that denotes a directory once there is a
slash behind it, and that does not begin a fragment, has said all about scheme, host and directory
by then: what is added behind the slash is read as a path from there, and a query or a fragment
behind that path does not matter for it.

The slash is what makes this so. It ends whatever the text has begun, be it a scheme, an authority
or a segment, and nothing behind it changes how the text in front of it is read. Only the ends of an
address are looked at without regard for it, for padding, and a slash is no padding.

The text itself need not have been written plainly: it may have credentials, dot segments or blanks
in it. What counts is what it denotes with the slash behind it, since without one its last segment
might still go on, and a dot segment might yet become another.

## Main definitions

* `Url.IsDirectory`: a text is the address of a directory, up to the slash behind it.

## Main results

* `Url.scheme?_append_slash`, `Url.ofAuthority?_append_slash`, `Url.exists_ofPathText_slash`: what
  the characters in front of a slash say on their own.
* `Url.IsDirectory.parse?_slash`: what is added to a directory.
* `Url.IsDirectory.parse?_segments`: what segments behind a directory denote, with a query or not.
* `Url.IsDirectory.append`: a directory in a directory.
-/

namespace PullReport

namespace Url

open Text

variable {scheme : Scheme} {url : Url} {host : Host}
  {base name cs rest front location tail extra : List Char} {path segments : List (List Char)}

/-- A text is the address of a directory of a server, under one of the schemes in which requests are
made: with a slash behind it, it denotes that directory. In a fragment the slash would not count. -/
structure IsDirectory (base name : List Char) (host : Host) (path : List (List Char)) : Prop where
  scheme : name = "http".toList ∨ name = "https".toList
  hash_not_mem : '#' ∉ base
  denotes : parse? (base ++ ['/']) = some ⟨.web name, some host, .segments (path ++ [[]]), none⟩

/-! ### Padding -/

/-- The end of an address, as far as it counts. -/
def ending (cs : List Char) : List Char :=
  (cs.reverse.dropWhile isPadding).reverse.filter (!isLineBreak ·)

theorem isLineBreak_of_not_isPadding {c : Char} (hc : isPadding c = false) :
    isLineBreak c = false := by
  refine Bool.eq_false_iff.2 fun hbreak => ?_
  simp only [isLineBreak, Bool.or_eq_true, beq_iff_eq] at hbreak
  rcases hbreak with (rfl | rfl) | rfl <;> cases hc

theorem isPadding_of_endsPath {c : Char} (hc : endsPath c = true) : isPadding c = false := by
  simp only [endsPath, Bool.or_eq_true, beq_iff_eq] at hc
  rcases hc with rfl | rfl <;> rfl

theorem ending_append_cons {c : Char} (hc : isPadding c = false) (front back : List Char) :
    ending (front ++ c :: back) = front.filter (!isLineBreak ·) ++ c :: ending back := by
  rw [ending, List.reverse_append, List.reverse_cons, List.append_assoc, List.singleton_append,
    dropWhile_append_cons hc, List.reverse_append, List.reverse_cons, List.reverse_reverse,
    List.append_assoc, List.singleton_append, List.filter_append,
    List.filter_cons_of_pos (by simp [isLineBreak_of_not_isPadding hc]), ending]

/-- A character that is no padding parts the two ends at which padding is looked for. -/
theorem significant_append_cons {c : Char} (hc : isPadding c = false) (front back : List Char) :
    significant (front ++ c :: back) =
      (front.dropWhile isPadding).filter (!isLineBreak ·) ++ c :: ending back := by
  rw [significant, dropWhile_append_cons hc, ← ending_append_cons hc]
  rfl

/-- A text without padding counts as a whole, whatever ends it. -/
theorem ending_append (htail : ∀ c ∈ tail, isPadding c = false)
    (hextra : ∀ c ∈ extra.head?, isPadding c = false) :
    ending (tail ++ extra) = tail ++ ending extra := by
  have hkept : tail.filter (!isLineBreak ·) = tail :=
    List.filter_eq_self.2 fun c hc => by simp [isLineBreak_of_not_isPadding (htail c hc)]
  cases extra with
  | nil =>
    have hreverse : tail.reverse.dropWhile isPadding = tail.reverse := by
      cases hlast : tail.reverse with
      | nil => rfl
      | cons c front =>
        have hc : c ∈ tail := List.mem_reverse.1 (hlast ▸ List.mem_cons_self)
        exact List.dropWhile_cons_of_neg (by simp [htail c hc])
    rw [List.append_nil, ending, hreverse, List.reverse_reverse, hkept]
    exact (List.append_nil tail).symm
  | cons c extra =>
    rw [ending_append_cons (hextra c rfl), hkept, ← List.nil_append (c :: extra),
      ending_append_cons (hextra c rfl)]
    rfl

theorem head?_ending (h : ∀ c ∈ cs.head?, isPadding c = false) : (ending cs).head? = cs.head? := by
  cases cs with
  | nil => rfl
  | cons c cs =>
    rw [← List.nil_append (c :: cs), ending_append_cons (h c rfl)]
    rfl

/-! ### Schemes -/

/-- The scheme is read in front of the first slash. -/
theorem scheme?_append_slash (front tail : List Char) :
    scheme? (front ++ '/' :: tail) =
      (scheme? front).map fun found => (found.1, found.2 ++ '/' :: tail) := by
  have hslash : isSchemeChar '/' = false := by decide
  rw [scheme?, scheme?, dropWhile_append_cons hslash, takeWhile_append_cons hslash]
  cases front with
  | nil => rfl
  | cons first front =>
    cases (first :: front).dropWhile isSchemeChar with
    | nil => rfl
    | cons d behind =>
      by_cases hd : d = ':'
      · subst hd
        simp only [List.cons_append, List.head?_cons]
        split <;> rfl
      · simp [hd]

theorem suffix_of_scheme? (h : scheme? cs = some (scheme, rest)) : rest <:+ cs := by
  rw [scheme?.eq_def] at h
  split at h
  · rename_i hdrop
    obtain ⟨-, hfound⟩ := Option.ite_none_right_eq_some.1 h
    obtain rfl := (Prod.mk.inj (Option.some.inj hfound)).2
    exact (List.suffix_cons ':' _).trans (hdrop ▸ List.dropWhile_suffix _)
  · cases h

/-- An address of the web is read from its authority on. -/
theorem exists_scheme?_of_web (h : parse? cs = some url)
    (hscheme : url.scheme = .web name) :
    ∃ rest, scheme? (significant cs) = some (.web name, rest) ∧
      ofAuthority? (.web name) (rest.dropWhile isSlash) = some url := by
  rw [parse?] at h
  split at h
  · cases h
  · rename_i web rest hfound
    have hweb := (readsPath_of_ofAuthority? h).scheme_eq
    obtain rfl : web = name := Scheme.web.inj (hweb.symm.trans hscheme)
    exact ⟨rest, hfound, h⟩
  · cases (readsPath_of_ofFile? h).scheme_eq.symm.trans hscheme
  · cases (of_ofOther? h).1.symm.trans hscheme

/-! ### Authorities -/

theorem afterCredentials_suffix (authority : List Char) :
    (afterCredentials authority).1 <:+ authority := by
  rw [afterCredentials]
  split
  · exact List.reverse_prefix.1 (by rw [List.reverse_reverse]; exact List.takeWhile_prefix _)
  · exact List.suffix_rfl

/-- What follows a host is the end of the text, and begins with a colon if there is anything. -/
theorem splitHost_snd (inBrackets : Bool) (cs : List Char) :
    (splitHost inBrackets cs).2 <:+ cs ∧
      ((splitHost inBrackets cs).2 = [] ∨ (splitHost inBrackets cs).2.head? = some ':') := by
  induction cs generalizing inBrackets with
  | nil => exact ⟨List.suffix_rfl, .inl rfl⟩
  | cons c cs ih =>
    rw [splitHost]
    split
    · rename_i hcolon
      exact ⟨List.suffix_rfl, .inr (congrArg some hcolon.1)⟩
    · have hrest := ih (if c = '[' then true else if c = ']' then false else inBrackets)
      exact ⟨hrest.1.trans (List.suffix_cons c cs), hrest.2⟩

/-- Nothing is left behind a service number if there is no backslash to end it. -/
theorem afterServiceNumber?_eq_nil (hbackslash : '\\' ∉ cs)
    (hcolon : cs = [] ∨ cs.head? = some ':') (h : afterServiceNumber? cs = some rest) :
    rest = [] := by
  rw [afterServiceNumber?.eq_def] at h
  split at h
  · obtain ⟨⟨-, hrest⟩, hsome⟩ := Option.ite_none_right_eq_some.1 h
    obtain rfl := Option.some.inj hsome
    refine hrest.resolve_right fun hhead => hbackslash (List.mem_cons_of_mem _ ?_)
    exact (List.dropWhile_suffix _).mem (List.mem_of_mem_head? hhead)
  · rename_i hne
    obtain rfl := Option.some.inj h
    refine hcolon.resolve_right fun hhead => ?_
    obtain ⟨digits, hdigits⟩ := List.head?_eq_some_iff.1 hhead
    exact hne digits hdigits

/-- The host is read in front of the first slash, and the path goes on behind it. -/
theorem ofAuthority?_append_slash (hspecial : scheme.isSpecial = true)
    (h : ofAuthority? scheme (location ++ ['/']) = some url) :
    ∃ front, front <:+ location ∧ ∀ tail,
      ofAuthority? scheme (location ++ '/' :: tail) =
        some (ofPathText scheme url.host (front ++ '/' :: tail)) := by
  refine ⟨location.dropWhile (!endsAuthority true ·), List.dropWhile_suffix _, fun tail => ?_⟩
  have htake (tail : List Char) : (location ++ '/' :: tail).takeWhile (!endsAuthority true ·) =
      location.takeWhile (!endsAuthority true ·) :=
    takeWhile_append_cons rfl location tail
  have hdrop (tail : List Char) : (location ++ '/' :: tail).dropWhile (!endsAuthority true ·) =
      location.dropWhile (!endsAuthority true ·) ++ '/' :: tail :=
    dropWhile_append_cons rfl location tail
  generalize hauthority : location.takeWhile (!endsAuthority true ·) = authority at htake
  rw [ofAuthority?] at h ⊢
  simp only [hspecial, htake, hdrop, Option.bind_eq_bind, Option.bind_eq_some_iff, true_or,
    if_true] at h ⊢
  obtain ⟨rest, hrest, h⟩ := h
  obtain ⟨hsuffix, hcolon⟩ := splitHost_snd false (afterCredentials authority).1
  -- an authority of the web has no backslash, so it is used up
  have hbackslash : '\\' ∉ (splitHost false (afterCredentials authority).1).2 := fun hmem => by
    have hmem := (hsuffix.trans (afterCredentials_suffix authority)).mem hmem
    exact absurd (of_mem_takeWhile (hauthority ▸ hmem)) (by decide)
  obtain rfl := afterServiceNumber?_eq_nil hbackslash hcolon hrest
  refine ⟨[], hrest, ?_⟩
  split at h
  · cases h
  · rename_i hhost
    obtain ⟨host, hof, hurl⟩ := Option.bind_eq_some_iff.1 h
    obtain rfl := Option.some.inj hurl
    rw [if_neg hhost, hof]
    rfl

/-! ### Paths -/

/-- A path that is rooted, and what ends it. -/
theorem ofPathText_slash (scheme : Scheme) (host : Option Host)
    (htail : ∀ c ∈ tail, endsPath c = false) (hextra : ∀ c ∈ extra.head?, endsPath c = true) :
    ofPathText scheme host ('/' :: (tail ++ extra)) =
      ⟨scheme, host, .segments (Segments.ofText scheme tail), query? scheme.isSpecial extra⟩ := by
  have htext : ∀ c ∈ '/' :: tail, (!endsPath c) = true :=
    List.forall_mem_cons.2 ⟨rfl, fun c hc => by rw [htail c hc]; rfl⟩
  have hends : ∀ c ∈ extra.head?, (!endsPath c) = false := fun c hc => by rw [hextra c hc]; rfl
  rw [ofPathText, ← List.cons_append, takeWhile_append_of_head htext hends,
    dropWhile_append_of_head htext hends]
  rfl

/-- Under the schemes of the web a path is rooted, be it written so or not. -/
theorem ofPathText_cons (hspecial : scheme.isSpecial = true) (host : Option Host) {c : Char}
    (hc : endsPath c = false) (cs : List Char) :
    ofPathText scheme host (c :: cs) =
      ofPathText scheme host ('/' :: if isSlash c then cs else c :: cs) := by
  have htake : (c :: cs).takeWhile (!endsPath ·) = c :: cs.takeWhile (!endsPath ·) :=
    List.takeWhile_cons_of_pos (by rw [hc]; rfl)
  have hdrop : (c :: cs).dropWhile (!endsPath ·) = cs.dropWhile (!endsPath ·) :=
    List.dropWhile_cons_of_pos (by rw [hc]; rfl)
  have hslash (cs : List Char) :
      ofPathText scheme host ('/' :: cs) = ⟨scheme, host,
        .segments (Segments.ofText scheme (cs.takeWhile (!endsPath ·))),
        query? scheme.isSpecial (cs.dropWhile (!endsPath ·))⟩ := rfl
  by_cases hroot : c = '/'
  · subst hroot
    rfl
  · by_cases hbackslash : c = '\\'
    · subst hbackslash
      rw [hslash, ofPathText, htake, hdrop]
      simp [hspecial, isSlash]
    · rw [if_neg (by simp [isSlash, hroot, hbackslash]), hslash, htake, hdrop, ofPathText, htake,
        hdrop]
      simp [hbackslash]

/-- A path is read in front of each slash and goes on behind it: what is behind the slash is
resolved where the text in front of it leads. -/
theorem exists_ofPathText_slash (hspecial : scheme.isSpecial = true) (host : Option Host)
    (hfront : ∀ c ∈ front, endsPath c = false) :
    ∃ path, ∀ tail, (∀ c ∈ tail, endsPath c = false) → ∀ extra,
      (∀ c ∈ extra.head?, endsPath c = true) →
      ofPathText scheme host (front ++ '/' :: (tail ++ extra)) =
        ⟨scheme, host, .segments (Segments.resolve scheme path (Segments.pieces true tail)),
          query? true extra⟩ := by
  cases front with
  | nil =>
    refine ⟨[], fun tail htail extra hextra => ?_⟩
    rw [List.nil_append, ofPathText_slash scheme host htail hextra, Segments.ofText_eq, hspecial]
  | cons c front =>
    obtain ⟨hc, hfront⟩ := List.forall_mem_cons.1 hfront
    -- the first of its characters may be the slash at the root, or stand behind that
    obtain ⟨rooted, hends, hroot⟩ : ∃ rooted, (∀ c ∈ rooted, endsPath c = false) ∧ ∀ cs,
        ofPathText scheme host (c :: (front ++ cs)) =
          ofPathText scheme host ('/' :: (rooted ++ cs)) := by
      by_cases hslash : isSlash c = true
      · exact ⟨front, hfront, fun cs => by rw [ofPathText_cons hspecial host hc, if_pos hslash]⟩
      · exact ⟨c :: front, List.forall_mem_cons.2 ⟨hc, hfront⟩,
          fun cs => by rw [ofPathText_cons hspecial host hc, if_neg hslash, List.cons_append]⟩
    refine ⟨(Segments.pieces true rooted).foldl (Segments.push scheme) [],
      fun tail htail extra hextra => ?_⟩
    have htext : ∀ c ∈ rooted ++ '/' :: tail, endsPath c = false :=
      List.forall_mem_append.2 ⟨hends, List.forall_mem_cons.2 ⟨rfl, htail⟩⟩
    have happend : rooted ++ '/' :: (tail ++ extra) = (rooted ++ '/' :: tail) ++ extra := by simp
    rw [List.cons_append, hroot, happend, ofPathText_slash scheme host htext hextra,
      Segments.ofText_eq, hspecial, Segments.pieces_append_slash,
      Segments.resolve_append _ _ (Segments.pieces_ne_nil true tail)]

/-- Where no query is read and no fragment begins, nothing ends the path. -/
theorem endsPath_of_query_eq_none (hhash : '#' ∉ cs)
    (h : (ofPathText scheme (some host) cs).query = none) : ∀ c ∈ cs, endsPath c = false := by
  change query? scheme.isSpecial (cs.dropWhile (!endsPath ·)) = none at h
  cases hdrop : cs.dropWhile (!endsPath ·) with
  | nil => exact fun c hc => by simpa using List.dropWhile_eq_nil_iff.1 hdrop c hc
  | cons d rest =>
    have hhead : d ∈ (cs.dropWhile (!endsPath ·)).head? := hdrop ▸ rfl
    have hends : (!endsPath d) = false := head?_dropWhile hhead
    have hd : d ∈ cs := (List.dropWhile_suffix _).mem (hdrop ▸ List.mem_cons_self)
    simp only [endsPath, Bool.not_eq_false', Bool.or_eq_true, beq_iff_eq] at hends
    rcases hends with rfl | rfl
    · rw [hdrop] at h
      cases h
    · exact absurd hd hhash

/-- What may stand in a path is no padding and does not end the path. -/
theorem of_keptInPath {c : Char} (h : keptInPath c = true) :
    isPadding c = false ∧ endsPath c = false := by
  simp only [keptInPath, isEncodedEverywhere, Bool.not_eq_true', Bool.or_eq_false_iff,
    beq_eq_false_iff_ne] at h
  simp_all [isPadding, endsPath]

/-- Joined pieces are the text of a path. -/
theorem of_mem_intercalate {special : Bool} {pieces : List (List Char)} {c : Char}
    (hpieces : ∀ piece ∈ pieces, IsPiece special piece) (hc : c ∈ ['/'].intercalate pieces) :
    isPadding c = false ∧ endsPath c = false := by
  rcases mem_or_mem_of_mem_intercalate hc with hc | ⟨piece, hmem, hc⟩
  · obtain rfl := List.mem_singleton.1 hc
    decide
  · exact of_keptInPath ((hpieces piece hmem).kept c hc)

/-! ### What is added to a directory -/

/-- What a text says in front of a slash is the same for whatever is behind the slash. If it is an
address of the web, its authority has begun by then. -/
theorem exists_location (h : parse? (base ++ ['/']) = some url) (hscheme : url.scheme = .web name) :
    ∃ location, (∀ c ∈ location, c ∈ base) ∧ ∀ cs,
      parse? (base ++ '/' :: cs) = ofAuthority? (.web name) (location ++ '/' :: ending cs) := by
  have hsignificant (cs : List Char) :=
    significant_append_cons (show isPadding '/' = false from rfl) base cs
  generalize hfront : (base.dropWhile isPadding).filter (!isLineBreak ·) = front at hsignificant
  obtain ⟨rest, hfound, hread⟩ := exists_scheme?_of_web h hscheme
  rw [hsignificant, scheme?_append_slash] at hfound
  obtain ⟨⟨found, begun⟩, hbegun, heq⟩ := Option.map_eq_some_iff.1 hfound
  obtain ⟨rfl, rfl⟩ := Prod.mk.inj heq
  have hlocation : begun.dropWhile isSlash ≠ [] := by
    intro hslashes
    rw [List.dropWhile_append, hslashes] at hread
    cases hread
  refine ⟨begun.dropWhile isSlash, fun c hc => ?_, fun cs => ?_⟩
  · have hmem : c ∈ front :=
      ((List.dropWhile_suffix _).trans (suffix_of_scheme? hbegun)).mem hc
    rw [← hfront] at hmem
    exact (List.dropWhile_suffix _).mem (List.mem_of_mem_filter hmem)
  · rw [parse?, hsignificant, scheme?_append_slash, hbegun]
    show ofAuthority? _ _ = _
    rw [List.dropWhile_append, if_neg (by simpa using hlocation)]

namespace IsDirectory

/-- **What is added to a directory** is a path from there, with what ends it as its query. -/
theorem parse?_slash (h : IsDirectory base name host path)
    (htail : ∀ c ∈ tail, isPadding c = false ∧ endsPath c = false)
    (hextra : ∀ c ∈ extra.head?, endsPath c = true) :
    parse? (base ++ '/' :: (tail ++ extra)) =
      some ⟨.web name, some host,
        .segments (Segments.resolve (.web name) path (Segments.pieces true tail)),
        query? true (ending extra)⟩ := by
  obtain ⟨-, hhash, hdenotes⟩ := h
  obtain ⟨location, hmem, hlocation⟩ := exists_location hdenotes rfl
  rw [hlocation [], show ending [] = [] from rfl] at hdenotes
  obtain ⟨front, hsuffix, hfront⟩ := ofAuthority?_append_slash rfl hdenotes
  rw [hfront []] at hdenotes
  have hroot := Option.some.inj hdenotes
  have hends : ∀ c ∈ front ++ ['/'], endsPath c = false := by
    refine endsPath_of_query_eq_none ?_ (congrArg Url.query hroot)
    simpa using fun hc => hhash (hmem _ (hsuffix.mem hc))
  have hspecial : (Scheme.web name).isSpecial = true := rfl
  obtain ⟨behind, hbehind⟩ :=
    exists_ofPathText_slash hspecial (some host) (List.forall_mem_append.1 hends).1
  -- the slash alone adds an empty segment, so the text in front of it leads to the directory
  have hpath : behind = path := by
    have hnone := (hbehind [] nofun [] nofun).symm.trans hroot
    exact List.append_cancel_right (Path.segments.inj (Url.mk.inj hnone).2.2.1)
  have hextraPadding : ∀ c ∈ extra.head?, isPadding c = false :=
    fun c hc => isPadding_of_endsPath (hextra c hc)
  rw [hlocation, hfront, ending_append (fun c hc => (htail c hc).1) hextraPadding, hbehind, hpath]
  · exact fun c hc => (htail c hc).2
  · rwa [head?_ending hextraPadding]

/-- **Segments behind a directory** are segments of a path that goes through it. -/
theorem parse?_segments (h : IsDirectory base name host path) (hne : segments ≠ [])
    (hsegments : ∀ segment ∈ segments, IsSegment true segment)
    (hextra : ∀ c ∈ extra.head?, endsPath c = true) :
    parse? (base ++ '/' :: (['/'].intercalate segments ++ extra)) =
      some ⟨.web name, some host, .segments (path ++ segments), query? true (ending extra)⟩ := by
  have hpieces : ∀ segment ∈ segments, IsPiece true segment :=
    fun segment hmem => (hsegments segment hmem).toIsPiece
  have hscheme : Scheme.web name ≠ .file := nofun
  rw [h.parse?_slash (fun c hc => of_mem_intercalate hpieces hc) hextra,
    Segments.pieces_intercalate hne hpieces, Segments.resolve_eq_append hscheme hsegments]

theorem parse?_intercalate (h : IsDirectory base name host path) (hne : segments ≠ [])
    (hsegments : ∀ segment ∈ segments, IsSegment true segment) :
    parse? (base ++ '/' :: ['/'].intercalate segments) =
      some ⟨.web name, some host, .segments (path ++ segments), none⟩ := by
  have hnone : ∀ c ∈ ([] : List Char).head?, endsPath c = true := nofun
  have hdenotes := h.parse?_segments hne hsegments hnone
  rwa [List.append_nil] at hdenotes

/-- A directory in a directory. -/
theorem append (h : IsDirectory base name host path) (hne : segments ≠ [])
    (hsegments : ∀ segment ∈ segments, IsSegment true segment) :
    IsDirectory (base ++ '/' :: ['/'].intercalate segments) name host (path ++ segments) := by
  have hpieces : ∀ segment ∈ segments, IsPiece true segment :=
    fun segment hmem => (hsegments segment hmem).toIsPiece
  refine ⟨h.scheme, ?_, ?_⟩
  · rw [List.mem_append, List.mem_cons, not_or, not_or]
    refine ⟨h.hash_not_mem, by decide, fun hmem => ?_⟩
    cases (of_mem_intercalate hpieces hmem).2
  · have hslash : ['/'].intercalate segments ++ ['/'] = ['/'].intercalate (segments ++ [[]]) := by
      obtain ⟨first, rest, rfl⟩ := List.exists_cons_of_ne_nil hne
      rw [List.cons_append, intercalate_cons_eq_flatMap, intercalate_cons_eq_flatMap,
        List.flatMap_append, List.append_assoc]
      rfl
    have hall : ∀ segment ∈ segments ++ [[]], IsSegment true segment :=
      List.forall_mem_append.2 ⟨hsegments, List.forall_mem_singleton.2 (isSegment_nil true)⟩
    rw [List.append_assoc, List.cons_append, hslash, List.append_assoc]
    exact h.parse?_intercalate (List.append_ne_nil_of_left_ne_nil hne _) hall

end IsDirectory

end Url

end PullReport
