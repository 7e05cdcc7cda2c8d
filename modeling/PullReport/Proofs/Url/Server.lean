import PullReport.Proofs.Url.Directory

/-!
# Addresses under a server

The address of a server is a scheme of the web and the place where the server is, which is a host
and perhaps a service number. It is the directory at the root of its host, so whatever is added
behind it, beginning with a slash, is read as a path and nothing else: it cannot change which server
is meant. What the path is depends on the text that is added alone.

The slash behind the place has to be the first character that can end it. A place that is empty, or
has nothing but line breaks in it, would not do, since then the slashes in front of the path would
be taken for the ones behind the scheme. Such a base is no server: with one slash behind it, it is
no address at all.

## Main definitions

* `Url.IsServer`: a text is the address of a server, up to the first slash of a path.
* `Url.LeadsTo`: an address denotes just some segments of a host.

## Main results

* `Url.IsServer.isDirectory`: a server is the directory at its root.
* `Url.IsServer.parse?_append`: what segments behind the address of a server denote.
* `Url.IsServer.leadsTo_iff`: when they denote just themselves.
-/

namespace PullReport

namespace Url

variable {host : Host}

/-- A text is the address of a server: behind one of the schemes in which requests are made there is
a place without any character that would end it, and with a slash behind it the text denotes the
root of a host. -/
structure IsServer (base name : List Char) (host : Host) : Prop where
  scheme : name = "http".toList ∨ name = "https".toList
  parts : ∃ location, base = name ++ "://".toList ++ location ∧
    ∀ c ∈ location, endsAuthority true c = false
  root : parse? (base ++ ['/']) = some ⟨.web name, some host, .segments [[]], none⟩

/-- An address leads to a path of a host: it denotes just the segments of that path, and has neither
a query nor a fragment. -/
structure LeadsTo (address name : List Char) (host : Host) (segments : List (List Char)) :
    Prop where
  denotes : parse? address = some ⟨.web name, some host, .segments segments, none⟩
  hash_not_mem : '#' ∉ address

namespace IsServer

variable {base name : List Char} {segments : List (List Char)} {special : Bool}

theorem hash_not_mem (h : IsServer base name host) : '#' ∉ base := by
  obtain ⟨hname, ⟨location, rfl, hlocation⟩, -⟩ := h
  rw [List.mem_append, not_or]
  refine ⟨?_, fun hmem => absurd (hlocation '#' hmem) (by decide)⟩
  rcases hname with rfl | rfl <;> decide

/-- A server is the directory at its root. -/
theorem isDirectory (h : IsServer base name host) : IsDirectory base name host [] :=
  ⟨h.scheme, h.hash_not_mem, h.root⟩

/-- **Segments behind a server**: the address denotes a path of the same host, without a query. -/
theorem parse?_append (h : IsServer base name host)
    (hsegments : ∀ segment ∈ segments, IsSegment special segment) :
    parse? (base ++ '/' :: ['/'].intercalate segments) =
      some ⟨.web name, some host,
        .segments (Segments.ofText (.web name) (['/'].intercalate segments)), none⟩ := by
  have hpieces : ∀ segment ∈ segments, IsPiece special segment :=
    fun segment hmem => (hsegments segment hmem).toIsPiece
  have hnone : ∀ c ∈ ([] : List Char).head?, endsPath c = true := nofun
  have hdenotes := h.isDirectory.parse?_slash (fun c => of_mem_intercalate hpieces) hnone
  rwa [List.append_nil] at hdenotes

/-- **Which segments behind a server** are found there as they are: those without backslashes. -/
theorem leadsTo_iff (h : IsServer base name host) (hne : segments ≠ [])
    (hsegments : ∀ segment ∈ segments, IsSegment special segment) :
    LeadsTo (base ++ '/' :: ['/'].intercalate segments) name host segments ↔
      ∀ segment ∈ segments, '\\' ∉ segment := by
  have hscheme : Scheme.web name ≠ .file := nofun
  rw [← Segments.ofText_intercalate_eq_iff rfl hscheme hne hsegments]
  constructor
  · intro hleads
    have hdenotes := (h.parse?_append hsegments).symm.trans hleads.denotes
    exact Path.segments.inj (Url.mk.inj (Option.some.inj hdenotes)).2.2.1
  · intro hread
    refine ⟨by rw [h.parse?_append hsegments, hread], ?_⟩
    rw [List.mem_append, List.mem_cons, not_or, not_or]
    refine ⟨h.hash_not_mem, by decide, fun hmem => ?_⟩
    obtain ⟨segment, hsegment, hmem⟩ :=
      (mem_or_mem_of_mem_intercalate hmem).resolve_left (by decide)
    exact absurd ((hsegments segment hsegment).kept '#' hmem) (by decide)

end IsServer

end Url

end PullReport
