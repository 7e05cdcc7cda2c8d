import Mathlib.Logic.ExistsUnique
import PullReport.GitHub.Client
import PullReport.Proofs.Text.Numeral

/-!
# Asking for the pages of a list

The changed files are asked for page by page until a page is not full. What is asked and what comes
of it depends on the replies alone: there is one reply that is the first not to be a full page, the
requests are those for the pages up to it, and it decides whether the outcome is an error or all
that has been listed.

## Main definitions

* `Reply.files?`, `Reply.IsFullPage`: what a reply lists, and whether it has to be asked on.
* `Reply.IsLastPage`: where asking ends.
* `Reply.filesUpTo`: what has been listed by then.

## Main results

* `GitHub.Client.pageRequest_target`: which query asks for a page.
* `GitHub.Client.filesFrom_of_full`, `GitHub.Client.filesFrom_of_not_full`: what one reply does.
* `GitHub.Client.filesFrom_of_isLastPage`: what the replies up to the last page do.
* `GitHub.Client.changedFiles_asks_and_lists`: the requests and the outcome for any replies.
-/

namespace PullReport

open GitHub

namespace Reply

/-! ### Pages -/

/-- The files that a reply lists. A reply that is no success, or that cannot be read, lists none. -/
def files? : Reply → Option (List ChangedFile)
  | answer code body => if isSuccess code then ChangedFile.listing? body else none
  | unreachable => none

/-- The reply lists so many files that there may be more. -/
def IsFullPage (reply : Reply) : Prop :=
  ∃ files, reply.files? = some files ∧ pageSize ≤ files.length

/-- The reply behind `k` others is the first that is not a full page. -/
structure IsLastPage (replies : List Reply) (k : Nat) : Prop where
  full : ∀ i < k, (nth replies i).IsFullPage
  last : ¬ (nth replies k).IsFullPage

/-- The files that the replies up to some place list, in order. -/
def filesUpTo (replies : List Reply) (k : Nat) : List ChangedFile :=
  (List.range k).flatMap fun i => (nth replies i).files?.getD []

theorem not_isFullPage_exhausted : ¬ exhausted.IsFullPage := by
  rintro ⟨files, hfiles, -⟩
  cases hfiles

theorem IsLastPage.unique {replies : List Reply} {k l : Nat} (hk : IsLastPage replies k)
    (hl : IsLastPage replies l) : k = l := by
  rcases Nat.lt_trichotomy k l with h | h | h
  · exact absurd (hl.full k h) hk.last
  · exact h
  · exact absurd (hk.full l h) hl.last

theorem isLastPage_cons_succ_iff {reply : Reply} {replies : List Reply} {k : Nat} :
    IsLastPage (reply :: replies) (k + 1) ↔ reply.IsFullPage ∧ IsLastPage replies k := by
  constructor
  · intro h
    exact ⟨h.full 0 (Nat.succ_pos k), fun i hi => h.full (i + 1) (Nat.succ_lt_succ hi), h.last⟩
  · rintro ⟨hfull, h⟩
    refine ⟨fun i hi => ?_, h.last⟩
    cases i with
    | zero => exact hfull
    | succ i => exact h.full i (Nat.lt_of_succ_lt_succ hi)

/-- Replies run out, so one of them is the first that is not a full page. -/
theorem exists_isLastPage (replies : List Reply) : ∃ k, IsLastPage replies k := by
  induction replies with
  | nil => exact ⟨0, fun i hi => absurd hi (Nat.not_lt_zero i), not_isFullPage_exhausted⟩
  | cons reply replies ih =>
    by_cases hfull : reply.IsFullPage
    · obtain ⟨k, hk⟩ := ih
      exact ⟨k + 1, isLastPage_cons_succ_iff.2 ⟨hfull, hk⟩⟩
    · exact ⟨0, fun i hi => absurd hi (Nat.not_lt_zero i), hfull⟩

theorem filesUpTo_cons_succ (reply : Reply) (replies : List Reply) (k : Nat) :
    filesUpTo (reply :: replies) (k + 1) = reply.files?.getD [] ++ filesUpTo replies k := by
  rw [filesUpTo, List.range_succ_eq_map, List.flatMap_cons, List.flatMap_map]
  rfl

theorem filesUpTo_succ (replies : List Reply) (k : Nat) :
    filesUpTo replies (k + 1) = filesUpTo replies k ++ (nth replies k).files?.getD [] := by
  rw [filesUpTo, List.range_succ, List.flatMap_append, List.flatMap_singleton]
  rfl

/-! ### Files served in pages -/

/-- The replies list some files page by page: each lists the ones behind those on the pages before
it, as many as fit, and the last one that matters lists what is left. -/
def Serves (replies : List Reply) (files : List ChangedFile) : Prop :=
  ∀ i ≤ files.length / pageSize,
    (nth replies i).files? = some ((files.drop (i * pageSize)).take pageSize)

/-- Files that fill their last page have an empty page behind it. -/
theorem Serves.isLastPage {replies : List Reply} {files : List ChangedFile}
    (h : Serves replies files) : IsLastPage replies (files.length / pageSize) := by
  refine ⟨fun i hi => ⟨_, h i (Nat.le_of_lt hi), ?_⟩, ?_⟩
  · rw [List.length_take, List.length_drop]
    rw [pageSize] at hi ⊢
    omega
  · rintro ⟨page, hpage, hfull⟩
    obtain rfl := Option.some.inj ((h _ (Nat.le_refl _)).symm.trans hpage)
    rw [List.length_take, List.length_drop, pageSize] at hfull
    omega

theorem Serves.filesUpTo_eq_take {replies : List Reply} {files : List ChangedFile}
    (h : Serves replies files) {k : Nat} (hk : k ≤ files.length / pageSize + 1) :
    filesUpTo replies k = files.take (k * pageSize) := by
  induction k with
  | zero =>
    rw [Nat.zero_mul, List.take_zero]
    rfl
  | succ k ih =>
    rw [filesUpTo_succ, ih (Nat.le_of_succ_le hk), h k (Nat.le_of_succ_le_succ hk),
      Option.getD_some, Nat.succ_mul, List.take_add]

/-- Nothing of what is served is lost, listed twice or out of order. -/
theorem Serves.filesUpTo_eq {replies : List Reply} {files : List ChangedFile}
    (h : Serves replies files) : filesUpTo replies (files.length / pageSize + 1) = files := by
  rw [h.filesUpTo_eq_take (Nat.le_refl _), List.take_of_length_le]
  rw [pageSize]
  omega

/-! ### What a reply says -/

theorem listed_of_failure {code : Nat} (h : isSuccess code = false) (body : String) :
    listed (.answer code body) = .error (.status code body) := by
  simp [listed, content, h]

theorem listed_of_unreadable {code : Nat} {body : String} (h : isSuccess code = true)
    (hbody : ChangedFile.listing? body = none) :
    listed (.answer code body) = .error .unreadableReply := by
  simp [listed, content, h, hbody]

/-- A reply that lists files is one that is taken for these files, and conversely. -/
theorem listed_eq_ok_iff {reply : Reply} {files : List ChangedFile} :
    listed reply = .ok files ↔ reply.files? = some files := by
  cases reply with
  | unreachable =>
    constructor
    · intro h
      cases h
    · intro h
      cases h
  | answer code body =>
    cases hcode : isSuccess code with
    | false =>
      rw [listed_of_failure hcode]
      simp [files?, hcode]
    | true =>
      cases hbody : ChangedFile.listing? body with
      | none =>
        rw [listed_of_unreadable hcode hbody]
        simp [files?, hcode, hbody]
      | some others => simp [listed, content, files?, hcode, hbody]

end Reply

/-! ### The query of a page -/

namespace Text

theorem formEncode_of_kept {cs : List Char} (h : cs.all keptInForm = true) :
    formEncode cs = cs := by
  induction cs with
  | nil => rfl
  | cons c cs ih =>
    obtain ⟨hc, hcs⟩ := Bool.and_eq_true_iff.1 h
    have hspace : c ≠ ' ' := by
      rintro rfl
      revert hc
      decide
    rw [formEncode, List.flatMap_cons, if_neg hspace, percentEncode, List.flatMap_singleton,
      if_pos hc]
    exact congrArg (c :: ·) (ih hcs)

/-- The digits of a number stand for themselves in a form. -/
theorem formEncode_toString (n : Nat) :
    formEncode (toString n).toList = (toString n).toList := by
  refine formEncode_of_kept (List.all_eq_true.2 fun c hc => ?_)
  rw [keptInForm, Char.isAlphanum, isDigit_of_mem_toString hc]
  simp

end Text

/-- An address up to the point where fields can be added to its query. -/
def Url.upToFields (url : Url) : List Char :=
  url.pathText ++ '?' ::
    match url.query with
    | none => []
    | some [] => []
    | some query => query ++ ['&']

theorem Url.requestTarget_withQueryFields (url : Url) (fields : List (String × String)) :
    (url.withQueryFields fields).requestTarget =
      url.upToFields ++ (Text.formBody fields).toList := by
  rw [requestTarget, withQueryFields, upToFields]
  rcases hquery : url.query with _ | _ | ⟨c, query⟩ <;> simp [pathText]

/-- **The request for a page.** Its query ends with the number of files in a full page and with the
number of the page. -/
theorem GitHub.Client.pageRequest_target (client : Client) (place : Url) (page : Nat) :
    (client.pageRequest place page).target =
      String.ofList place.upToFields ++ "per_page=100&page=" ++ toString page := by
  have hsize : Text.formEncode "per_page".toList = "per_page".toList :=
    Text.formEncode_of_kept (by decide)
  have hpage : Text.formEncode "page".toList = "page".toList :=
    Text.formEncode_of_kept (by decide)
  have hfields : (Text.formBody [("per_page", toString pageSize), ("page", toString page)]).toList =
      "per_page=100&page=".toList ++ (toString page).toList := by
    have hhundred : (toString pageSize).toList = "100".toList := rfl
    simp only [Text.formBody, List.map_cons, List.map_nil, Text.formEncode_toString, hsize, hpage]
    rw [hhundred]
    simp [String.intercalate_cons_cons]
  rw [pageRequest, Url.requestTarget_withQueryFields, hfields, String.ofList_append,
    String.ofList_append, String.ofList_toList, String.ofList_toList, String.append_assoc]

namespace GitHub.Client

open Reply

variable {client : Client} {place : Url}

/-! ### One page -/

/-- Behind a full page the next one is asked for. -/
theorem filesFrom_of_full {reply : Reply} {files : List ChangedFile}
    (hfiles : reply.files? = some files) (hfull : pageSize ≤ files.length) (page : Nat)
    (sent : List Request) (replies : List Reply) :
    client.filesFrom place page sent (reply :: replies) =
      Prod.map (·.map (files ++ ·)) id
        (client.filesFrom place (page + 1) (sent ++ [client.pageRequest place page]) replies) := by
  rw [filesFrom]
  simp only [listed_eq_ok_iff.2 hfiles]
  rw [if_neg (Nat.not_lt.2 hfull)]
  rfl

/-- Any other reply is the last one, and it decides the outcome. -/
theorem filesFrom_of_not_full {replies : List Reply} (h : ¬ (nth replies 0).IsFullPage)
    (page : Nat) (sent : List Request) :
    client.filesFrom place page sent replies =
      (listed (nth replies 0), ⟨replies.drop 1, sent ++ [client.pageRequest place page]⟩) := by
  cases replies with
  | nil => rfl
  | cons reply replies =>
    change client.filesFrom place page sent (reply :: replies) = (listed reply, ⟨replies, _⟩)
    rw [filesFrom]
    cases hlisted : listed reply with
    | error e => rfl
    | ok files =>
      have hshort : files.length < pageSize :=
        Nat.lt_of_not_le fun hfull => h ⟨files, listed_eq_ok_iff.1 hlisted, hfull⟩
      simp only [if_pos hshort]

/-! ### All pages -/

/-- The requests for `n` pages from some page on. -/
def pageRequests (client : Client) (place : Url) (page n : Nat) : List Request :=
  (List.range n).map fun i => client.pageRequest place (page + i)

@[simp] theorem length_pageRequests (client : Client) (place : Url) (page n : Nat) :
    (client.pageRequests place page n).length = n := by
  rw [pageRequests, List.length_map, List.length_range]

theorem pageRequests_succ (client : Client) (place : Url) (page n : Nat) :
    client.pageRequests place page (n + 1) =
      client.pageRequest place page :: client.pageRequests place (page + 1) n := by
  rw [pageRequests, List.range_succ_eq_map, List.map_cons, List.map_map, pageRequests]
  refine congrArg (client.pageRequest place page :: ·) (List.map_congr_left fun i _ => ?_)
  rw [Function.comp_apply, Nat.succ_eq_add_one, Nat.add_assoc, Nat.add_comm 1 i]

/-- **The run.** Each page up to the last one is asked for once, in order. The last one decides the
outcome, and the files of the full pages come before its own. -/
theorem filesFrom_of_isLastPage {replies : List Reply} {k : Nat} (h : IsLastPage replies k)
    (page : Nat) (sent : List Request) :
    client.filesFrom place page sent replies =
      ((listed (nth replies k)).map (filesUpTo replies k ++ ·),
        ⟨replies.drop (k + 1), sent ++ client.pageRequests place page (k + 1)⟩) := by
  -- on the place of the last page, since the replies behind it are never looked at
  induction k generalizing replies page sent with
  | zero =>
    rw [filesFrom_of_not_full h.last]
    cases listed (nth replies 0) <;> rfl
  | succ k ih =>
    cases replies with
    | nil => exact absurd (h.full 0 (Nat.succ_pos k)) not_isFullPage_exhausted
    | cons reply replies =>
      obtain ⟨⟨files, hfiles, hfull⟩, hrest⟩ := isLastPage_cons_succ_iff.1 h
      rw [filesFrom_of_full hfiles hfull, ih hrest, filesUpTo_cons_succ, hfiles,
        pageRequests_succ client place page (k + 1),
        List.append_cons sent _ (client.pageRequests place (page + 1) (k + 1))]
      refine Prod.ext ?_ rfl
      show ((listed (nth replies k)).map _).map _ = (listed (nth replies k)).map _
      cases listed (nth replies k) with
      | error e => rfl
      | ok rest => exact congrArg Except.ok (List.append_assoc _ _ _).symm

/-- The exchange behind asking for the first `k + 1` pages. -/
def exchangeBehind (client : Client) (place : Url) (exchange : Exchange) (k : Nat) : Exchange :=
  ⟨exchange.replies.drop (k + 1), exchange.sent ++ client.pageRequests place 1 (k + 1)⟩

theorem changedFiles_of_isLastPage {target : PullRequest} {exchange : Exchange}
    (hplace : client.locate (client.filesAddress target) = .ok place) {k : Nat}
    (h : IsLastPage exchange.replies k) :
    client.changedFiles target exchange =
      ((listed (nth exchange.replies k)).map (filesUpTo exchange.replies k ++ ·),
        client.exchangeBehind place exchange k) := by
  rw [changedFiles, hplace, exchangeBehind]
  exact filesFrom_of_isLastPage h 1 exchange.sent

/-- **Requests and outcome.** Nothing is sent if no request can be made of the address. Otherwise
the pages up to the first one that is not full are asked for, once each and in order. If that page
can be read, the outcome is what all of them list, in order; if not, it is that page's error. So
files that are served in pages are what comes out, with one page asked for behind the full ones. -/
theorem changedFiles_asks_and_lists (client : Client) (target : PullRequest)
    (exchange : Exchange) :
    (∀ e, client.locate (client.filesAddress target) = .error e →
      client.changedFiles target exchange = (.error e, exchange)) ∧
    ∀ place, client.locate (client.filesAddress target) = .ok place →
      (∃! k, IsLastPage exchange.replies k) ∧
      (∀ k, IsLastPage exchange.replies k →
        (client.changedFiles target exchange).2 = client.exchangeBehind place exchange k ∧
        (∀ files, (nth exchange.replies k).files? = some files →
          (client.changedFiles target exchange).1 = .ok (filesUpTo exchange.replies (k + 1))) ∧
        (∀ code body, nth exchange.replies k = .answer code body → isSuccess code = false →
          (client.changedFiles target exchange).1 = .error (.status code body)) ∧
        (∀ code body, nth exchange.replies k = .answer code body → isSuccess code = true →
          ChangedFile.listing? body = none →
          (client.changedFiles target exchange).1 = .error .unreadableReply) ∧
        (nth exchange.replies k = .unreachable →
          (client.changedFiles target exchange).1 = .error .unreachable)) ∧
      (∀ page, (client.pageRequest place page).method = .get ∧
        (client.pageRequest place page).target =
          String.ofList place.upToFields ++ "per_page=100&page=" ++ toString page) ∧
      ∀ files, Serves exchange.replies files →
        client.changedFiles target exchange =
          (.ok files, client.exchangeBehind place exchange (files.length / pageSize)) := by
  refine ⟨fun e he => ?_, fun place hplace => ⟨?_, fun k hk => ?_, fun page => ?_, ?_⟩⟩
  · rw [changedFiles, he]
  · obtain ⟨k, hk⟩ := exists_isLastPage exchange.replies
    exact ⟨k, hk, fun l hl => hl.unique hk⟩
  · rw [changedFiles_of_isLastPage hplace hk]
    refine ⟨rfl, fun files hfiles => ?_, fun code body hreply hcode => ?_,
      fun code body hreply hcode hbody => ?_, fun hreply => ?_⟩
    · rw [filesUpTo_succ, hfiles, listed_eq_ok_iff.2 hfiles]
      rfl
    · rw [hreply, listed_of_failure hcode]
      rfl
    · rw [hreply, listed_of_unreadable hcode hbody]
      rfl
    · rw [hreply]
      rfl
  · exact ⟨rfl, pageRequest_target client place page⟩
  · intro files hserves
    have hlast := hserves (files.length / pageSize) (Nat.le_refl _)
    rw [changedFiles_of_isLastPage hplace hserves.isLastPage, listed_eq_ok_iff.2 hlast]
    refine Prod.ext (congrArg Except.ok ?_) rfl
    have hall := hserves.filesUpTo_eq
    rwa [filesUpTo_succ, hlast] at hall

/-- A single short page: one request, and the one file that it lists. -/
theorem changedFiles_single_page :
    ∃ place, locate ⟨"https://api.github.com", "tok"⟩
        (filesAddress ⟨"https://api.github.com", "tok"⟩ ⟨"octo", "widgets", 7⟩) = .ok place ∧
      changedFiles ⟨"https://api.github.com", "tok"⟩ ⟨"octo", "widgets", 7⟩
          ⟨[.answer 200 "[\x7b\"filename\":\"src/A.cs\",\"patch\":\"+a\"\x7d]"], []⟩ =
        (.ok [⟨"src/A.cs", "+a"⟩],
          ⟨[], [pageRequest ⟨"https://api.github.com", "tok"⟩ place 1]⟩) := by
  have hlocated : (locate ⟨"https://api.github.com", "tok"⟩
      (filesAddress ⟨"https://api.github.com", "tok"⟩ ⟨"octo", "widgets", 7⟩)).isOk = true := by
    decide +kernel
  have hserves : Serves [.answer 200 "[\x7b\"filename\":\"src/A.cs\",\"patch\":\"+a\"\x7d]"]
      [⟨"src/A.cs", "+a"⟩] := by
    intro i hi
    obtain rfl : i = 0 := Nat.le_zero.1 hi
    decide +kernel
  cases hplace : locate ⟨"https://api.github.com", "tok"⟩
      (filesAddress ⟨"https://api.github.com", "tok"⟩ ⟨"octo", "widgets", 7⟩) with
  | error e =>
    rw [hplace] at hlocated
    cases hlocated
  | ok place =>
    refine ⟨place, rfl, ?_⟩
    exact ((changedFiles_asks_and_lists ⟨"https://api.github.com", "tok"⟩ ⟨"octo", "widgets", 7⟩
      ⟨_, []⟩).2 place hplace).2.2.2 _ hserves

end GitHub.Client

end PullReport
