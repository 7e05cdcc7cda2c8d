import Mathlib.Algebra.BigOperators.Group.Finset.Basic
import Mathlib.Data.Nat.Find
import PullReport.Login.Poll

/-!
# The timetable of a login

When the program asks for the outcome of a login follows from the interval that the server named and
from the replies, and it can be said without the asking itself: each wait is as long as the one
before, or five seconds longer if the reply between them asked to slow down, and a request is due
whenever a wait is over. The asking follows this timetable until a reply settles the login or the
next request would be due when the device code has expired.

Nothing in the asking bounds the number of requests; time does. A wait is a second long at least, so
that the due times grow past the lifetime of any device code.

The replies are an unending sequence here. A server cannot be asked more often than the lifetime
allows, so it is enough that it has its first few replies ready.

## Main definitions

* `Reply.token?`, `Reply.refusal?`: what a reply says to somebody who asks.
* `Reply.GoesOn`, `Reply.Settles`: whether a reply leaves the login open, and how else it settles
  it.
* `Login.wait`, `Login.due`: the timetable.
* `Login.Reaches`, `Login.Ending`: how far asking gets, and the two ways in which it ends.
* `Login.Poll.Punctual`: what it means to follow the timetable.

## Main results

* `Login.settles_iff`: a reply settles the login as its verdict does.
* `Login.pollFrom_of_expired`, `Login.pollFrom_of_outcome`, `Login.pollFrom_of_goesOn`: what one
  wait comes to.
* `Login.pollFrom_momentAt`: what a run of waits comes to.
* `Login.poll_punctual`: asking follows the timetable, whatever the replies.
-/

namespace PullReport

open Login

namespace Login.TokenReply

variable {parts : TokenReply} {token : String}

/-- The reply has no token, for an empty text is none. -/
def Tokenless (parts : TokenReply) : Prop := parts.token = none ∨ parts.token = some ""

instance : DecidablePred Tokenless := fun _ => inferInstanceAs (Decidable (_ ∨ _))

theorem token?_eq_none_iff : parts.token? = none ↔ parts.Tokenless := by
  rw [token?, Tokenless, Option.filter_eq_none_iff]
  cases parts.token <;> simp

theorem token?_eq_some_iff : parts.token? = some token ↔ parts.token = some token ∧ token ≠ "" := by
  simp [token?, Option.filter_eq_some_iff]

end Login.TokenReply

namespace Reply

/-! ### What a reply says -/

variable {reply : Reply}

/-- The parts of a reply, if it can be read. -/
def parts? : Reply → Option TokenReply
  | answer _ body => TokenReply.read? body
  | unreachable => none

/-- The token in a reply. -/
def token? (reply : Reply) : Option String :=
  reply.parts?.bind fun parts => if parts.Tokenless then none else parts.token

/-- The error in a reply without a token. -/
def refusal? (reply : Reply) : Option String :=
  reply.parts?.bind fun parts => if parts.Tokenless then parts.error else none

/-- The reply leaves the login open. -/
def GoesOn (reply : Reply) : Prop :=
  reply.refusal? = some "authorization_pending" ∨ reply.refusal? = some "slow_down"

instance : DecidablePred GoesOn := fun _ => inferInstanceAs (Decidable (_ ∨ _))

/-- The reply settles the login in some way. A token does, whatever else the reply says. Without one
an error does, unless it leaves the login open, and so does a reply that says nothing at all. -/
inductive Settles : Reply → Except Login.Error Login.Outcome → Prop
  | authorized {reply : Reply} {parts : TokenReply} {token : String}
      (read : reply.parts? = some parts) (given : parts.token = some token)
      (nonempty : token ≠ "") : Settles reply (.ok (.authorized token))
  | expired {reply : Reply} {parts : TokenReply} (read : reply.parts? = some parts)
      (tokenless : parts.Tokenless) (error : parts.error = some "expired_token") :
      Settles reply (.error .expired)
  | denied {reply : Reply} {parts : TokenReply} (read : reply.parts? = some parts)
      (tokenless : parts.Tokenless) (error : parts.error = some "access_denied") :
      Settles reply (.error .denied)
  /-- Any other error is told in the words of the reply, if it has any. -/
  | provider {reply : Reply} {parts : TokenReply} {code : String}
      (read : reply.parts? = some parts) (tokenless : parts.Tokenless)
      (error : parts.error = some code)
      (other : code ∉ ["authorization_pending", "slow_down", "expired_token", "access_denied"]) :
      Settles reply (.error (.provider (parts.description.getD code)))
  | silent {reply : Reply} {parts : TokenReply} (read : reply.parts? = some parts)
      (tokenless : parts.Tokenless) (error : parts.error = none) :
      Settles reply (.error (.provider "token response had neither a token nor an error"))
  | unreadable {status : Nat} {body : String} (unread : parts? (.answer status body) = none) :
      Settles (.answer status body) (.error .unreadableReply)
  | unreachable : Settles .unreachable (.error .unreachable)

theorem token?_eq_some_iff {token : String} :
    reply.token? = some token ↔
      ∃ parts, reply.parts? = some parts ∧ parts.token = some token ∧ token ≠ "" := by
  rw [token?, Option.bind_eq_some_iff]
  refine exists_congr fun parts => and_congr_right fun _ => ?_
  split_ifs with htokenless
  · rcases htokenless with hnone | hempty
    · simp [hnone]
    · simp +contextual [hempty, eq_comm]
  · refine (and_iff_left_of_imp fun htoken => ?_).symm
    rintro rfl
    exact htokenless (.inr htoken)

theorem refusal?_of_token? {token : String} (h : reply.token? = some token) :
    reply.refusal? = none := by
  obtain ⟨parts, hparts, htoken⟩ := token?_eq_some_iff.1 h
  have hsome := TokenReply.token?_eq_some_iff.2 htoken
  rw [refusal?, hparts, Option.bind_some, if_neg]
  rw [← TokenReply.token?_eq_none_iff, hsome]
  exact Option.some_ne_none token

/-- The verdict of a reply that can be read. -/
theorem verdict_of_parts? {parts : TokenReply} (h : reply.parts? = some parts) :
    verdict reply = parts.verdict := by
  cases reply with
  | unreachable => cases h
  | answer status body =>
    rw [parts?] at h
    rw [verdict, h]

theorem verdict_eq_token {token : String} (h : reply.token? = some token) :
    verdict reply = .token token := by
  obtain ⟨parts, hparts, htoken⟩ := token?_eq_some_iff.1 h
  rw [verdict_of_parts? hparts, TokenReply.verdict, TokenReply.token?_eq_some_iff.2 htoken]

theorem verdict_of_tokenless {parts : TokenReply} (hparts : reply.parts? = some parts)
    (h : parts.Tokenless) : verdict reply = verdictOfError parts.error parts.description := by
  rw [verdict_of_parts? hparts, TokenReply.verdict, TokenReply.token?_eq_none_iff.2 h]

/-- Without a token, the verdict is what the error says. -/
theorem verdict_of_token?_eq_none (h : reply.token? = none) {parts : TokenReply}
    (hparts : reply.parts? = some parts) :
    parts.Tokenless ∧ verdict reply = verdictOfError reply.refusal? parts.description := by
  have htokenless : parts.Tokenless := by
    rw [token?, hparts, Option.bind_some] at h
    split_ifs at h with htokenless
    · exact htokenless
    · exact absurd (.inl h) htokenless
  refine ⟨htokenless, ?_⟩
  rw [verdict_of_tokenless hparts htokenless, refusal?, hparts, Option.bind_some,
    if_pos htokenless]

theorem verdict_of_parts?_eq_none (h : reply.parts? = none) : ∃ e, verdict reply = .failed e := by
  cases reply with
  | unreachable => exact ⟨_, rfl⟩
  | answer status body =>
    rw [parts?] at h
    rw [verdict, h]
    exact ⟨_, rfl⟩

end Reply

namespace Login

open Reply

/-! ### How a verdict ends the asking -/

/-- How the asking ends with a verdict, if it does. -/
def Verdict.outcome? : Verdict → Option (Except Error Outcome)
  | token value => some (.ok (.authorized value))
  | failed error => some (.error error)
  | pending | slowDown => none

/-- By how many seconds a verdict makes the waits longer. -/
def Verdict.delay : Verdict → Nat
  | slowDown => slowDownStep
  | _ => 0

theorem outcome?_verdictOfError (error description : Option String) :
    (verdictOfError error description).outcome? = none ↔
      error = some "authorization_pending" ∨ error = some "slow_down" := by
  cases error with
  | none => simp [verdictOfError, Verdict.outcome?]
  | some code =>
    simp only [verdictOfError, Option.some.injEq]
    split_ifs <;> simp_all [Verdict.outcome?]

theorem delay_verdictOfError (error description : Option String) :
    (verdictOfError error description).delay = if error = some "slow_down" then 5 else 0 := by
  cases error with
  | none => rfl
  | some code =>
    simp only [verdictOfError, Option.some.injEq]
    split_ifs <;> simp_all [Verdict.delay, slowDownStep]

theorem outcome?_verdict_eq_none_iff {reply : Reply} :
    (verdict reply).outcome? = none ↔ reply.GoesOn := by
  cases htoken : reply.token? with
  | some token =>
    rw [verdict_eq_token htoken, GoesOn, refusal?_of_token? htoken]
    simp [Verdict.outcome?]
  | none =>
    cases hparts : reply.parts? with
    | some parts =>
      rw [(verdict_of_token?_eq_none htoken hparts).2, outcome?_verdictOfError, GoesOn]
    | none =>
      obtain ⟨e, he⟩ := verdict_of_parts?_eq_none hparts
      simp [he, Verdict.outcome?, GoesOn, refusal?, hparts]

theorem not_goesOn_of_outcome? {reply : Reply} {outcome : Except Error Outcome}
    (h : (verdict reply).outcome? = some outcome) : ¬ reply.GoesOn := by
  intro hopen
  rw [outcome?_verdict_eq_none_iff.2 hopen] at h
  cases h

/-- What settles the login has the verdict for it. -/
theorem outcome?_of_settles {reply : Reply} {outcome : Except Error Outcome}
    (h : reply.Settles outcome) : (verdict reply).outcome? = some outcome := by
  cases h with
  | authorized hparts hgiven hne =>
    rw [verdict_eq_token (token?_eq_some_iff.2 ⟨_, hparts, hgiven, hne⟩)]
    rfl
  | expired hparts htokenless herror =>
    rw [verdict_of_tokenless hparts htokenless, herror]
    rfl
  | denied hparts htokenless herror =>
    rw [verdict_of_tokenless hparts htokenless, herror]
    rfl
  | provider hparts htokenless herror hother =>
    rw [verdict_of_tokenless hparts htokenless, herror]
    simp only [List.mem_cons, List.not_mem_nil, or_false, not_or] at hother
    simp [verdictOfError, Verdict.outcome?, hother]
  | silent hparts htokenless herror =>
    rw [verdict_of_tokenless hparts htokenless, herror]
    rfl
  | unreadable hunread =>
    rw [parts?] at hunread
    rw [verdict, hunread]
    rfl
  | unreachable => rfl

/-- An error settles the login, unless it leaves it open. -/
theorem settles_of_error {reply : Reply} {parts : TokenReply} {code : String}
    {outcome : Except Error Outcome} (hparts : reply.parts? = some parts)
    (htokenless : parts.Tokenless) (herror : parts.error = some code)
    (h : (verdictOfError (some code) parts.description).outcome? = some outcome) :
    reply.Settles outcome := by
  rw [verdictOfError] at h
  split_ifs at h with hpending hslow hexpired hdenied
  · cases h
  · cases h
  · obtain rfl := Option.some.inj h
    exact .expired hparts htokenless (hexpired ▸ herror)
  · obtain rfl := Option.some.inj h
    exact .denied hparts htokenless (hdenied ▸ herror)
  · obtain rfl := Option.some.inj h
    exact .provider hparts htokenless herror (by simp [hpending, hslow, hexpired, hdenied])

/-- **A reply settles the login** if its verdict has an outcome, and then in this way. -/
theorem settles_iff {reply : Reply} {outcome : Except Error Outcome} :
    reply.Settles outcome ↔ (verdict reply).outcome? = some outcome := by
  refine ⟨outcome?_of_settles, fun h => ?_⟩
  cases hparts : reply.parts? with
  | none =>
    cases reply with
    | unreachable =>
      obtain rfl := Option.some.inj h
      exact .unreachable
    | answer status body =>
      have hunread : TokenReply.read? body = none := hparts
      rw [verdict, hunread] at h
      obtain rfl := Option.some.inj h
      exact .unreadable hparts
  | some parts =>
    by_cases htokenless : parts.Tokenless
    · rw [verdict_of_tokenless hparts htokenless] at h
      cases herror : parts.error with
      | none =>
        rw [herror] at h
        obtain rfl := Option.some.inj h
        exact .silent hparts htokenless herror
      | some code =>
        rw [herror] at h
        exact settles_of_error hparts htokenless herror h
    · obtain ⟨token, htoken⟩ := Option.ne_none_iff_exists'.1
        (mt TokenReply.token?_eq_none_iff.1 htokenless)
      obtain ⟨hgiven, hne⟩ := TokenReply.token?_eq_some_iff.1 htoken
      rw [verdict_eq_token (token?_eq_some_iff.2 ⟨parts, hparts, hgiven, hne⟩)] at h
      obtain rfl := Option.some.inj h
      exact .authorized hparts hgiven hne

theorem delay_verdict (reply : Reply) :
    (verdict reply).delay = if reply.refusal? = some "slow_down" then 5 else 0 := by
  cases htoken : reply.token? with
  | some token =>
    rw [verdict_eq_token htoken, refusal?_of_token? htoken]
    rfl
  | none =>
    cases hparts : reply.parts? with
    | some parts => rw [(verdict_of_token?_eq_none htoken hparts).2, delay_verdictOfError]
    | none =>
      obtain ⟨e, he⟩ := verdict_of_parts?_eq_none hparts
      simp [he, Verdict.delay, refusal?, hparts]

/-! ### One wait -/

/-- The interrupt does not come before the wait is over that begins at some moment. -/
structure Interrupt.Spares (interrupt : Interrupt) (moment : Moment) : Prop where
  notCome : interrupt.hasCome moment.times.length moment.now = false
  notInWait : interrupt.duringWait? moment.wake = none

theorem Interrupt.never_spares (moment : Moment) : never.Spares moment := ⟨rfl, rfl⟩

section Step

variable {schedule : Schedule} {moment : Moment} {sent : List Request} {replies : List Reply}

/-- The next request would come too late. -/
theorem pollFrom_of_expired (hspares : schedule.interrupt.Spares moment)
    (h : schedule.expiry ≤ moment.wake) :
    pollFrom schedule moment sent replies =
      (⟨.error .expired, moment.times, moment.wake⟩, ⟨replies, sent⟩) := by
  cases replies <;> simp [pollFrom, hspares.notCome, hspares.notInWait, h]

/-- The reply to the next request ends the asking. -/
theorem pollFrom_of_outcome (hspares : schedule.interrupt.Spares moment)
    (h : moment.wake < schedule.expiry) {outcome : Except Error Outcome}
    (houtcome : (verdict (nth replies 0)).outcome? = some outcome) :
    pollFrom schedule moment sent replies =
      (⟨outcome, moment.times ++ [moment.wake], moment.wake⟩,
        ⟨replies.drop 1, sent ++ [schedule.request]⟩) := by
  have hlate : ¬ schedule.expiry ≤ moment.wake := Nat.not_le.2 h
  cases replies with
  | nil =>
    rw [nth, List.getD_nil, verdict_exhausted] at houtcome
    obtain rfl := Option.some.inj houtcome
    simp [pollFrom, hspares.notCome, hspares.notInWait, hlate]
  | cons reply rest =>
    rw [nth, List.getD_cons_zero] at houtcome
    -- only a token and a failure have an outcome
    cases hverdict : verdict reply <;> rw [hverdict] at houtcome <;> cases houtcome <;>
      simp [pollFrom, hspares.notCome, hspares.notInWait, hlate, hverdict]

/-- The reply to the next request leaves the login open. -/
theorem pollFrom_of_goesOn (hspares : schedule.interrupt.Spares moment)
    (h : moment.wake < schedule.expiry)
    (houtcome : (verdict (nth replies 0)).outcome? = none) :
    pollFrom schedule moment sent replies =
      pollFrom schedule (moment.next (verdict (nth replies 0)).delay)
        (sent ++ [schedule.request]) (replies.drop 1) := by
  have hlate : ¬ schedule.expiry ≤ moment.wake := Nat.not_le.2 h
  cases replies with
  | nil =>
    rw [nth, List.getD_nil, verdict_exhausted] at houtcome
    cases houtcome
  | cons reply rest =>
    rw [nth, List.getD_cons_zero] at houtcome ⊢
    rw [pollFrom]
    cases hverdict : verdict reply <;> rw [hverdict] at houtcome <;> cases houtcome <;>
      simp [hspares.notCome, hspares.notInWait, hlate, hverdict, Verdict.delay]

end Step

/-! ### The timetable -/

section Timetable

variable (device : DeviceCode) (responses : ℕ → Reply)

/-- How long the program waits before its request behind `k` others. -/
def wait : ℕ → ℕ
  | 0 => max device.interval 1
  | k + 1 => if (responses k).refusal? = some "slow_down" then wait k + 5 else wait k

/-- The second at which the first `k` waits are over. -/
def due (k : ℕ) : ℕ := ∑ i ∈ Finset.range k, wait device responses i

theorem due_succ (k : ℕ) :
    due device responses (k + 1) = due device responses k + wait device responses k :=
  Finset.sum_range_succ _ k

/-- No wait is shorter than the first. -/
theorem le_wait (k : ℕ) : max device.interval 1 ≤ wait device responses k := by
  induction k with
  | zero => exact le_rfl
  | succ k ih =>
    rw [wait]
    split
    · omega
    · exact ih

theorem mul_le_due (k : ℕ) : k * max device.interval 1 ≤ due device responses k := by
  induction k with
  | zero => simp
  | succ k ih =>
    have hwait := le_wait device responses k
    rw [due_succ, Nat.succ_mul]
    omega

theorem due_mono : Monotone (due device responses) := by
  refine monotone_nat_of_le_succ fun k => ?_
  rw [due_succ]
  exact Nat.le_add_right _ _

theorem le_due (k : ℕ) : k ≤ due device responses k :=
  (Nat.le_mul_of_pos_right k (by omega)).trans (mul_le_due device responses k)

/-- **Why the asking ends.** There is no room for more requests before the device code expires. -/
theorem lt_of_due_lt {k : ℕ} (h : due device responses (k + 1) < device.lifetime) :
    k < (device.lifetime - 1) / max device.interval 1 := by
  have hmul : (k + 1) * max device.interval 1 ≤ device.lifetime - 1 :=
    (mul_le_due device responses (k + 1)).trans (Nat.le_sub_one_of_lt h)
  exact (Nat.le_div_iff_mul_le (by omega)).2 hmul

/-- The seconds of the first `n` requests. -/
def timetable (n : ℕ) : List ℕ := (List.range n).map fun i => due device responses (i + 1)

theorem timetable_succ (n : ℕ) :
    timetable device responses (n + 1) =
      timetable device responses n ++ [due device responses (n + 1)] := by
  rw [timetable, List.range_succ, List.map_append]
  rfl

@[simp] theorem length_timetable (n : ℕ) : (timetable device responses n).length = n := by
  rw [timetable, List.length_map, List.length_range]

/-- The program comes to wait behind `k` requests: these are in time, and the replies to them leave
the login open. -/
structure Reaches (k : ℕ) : Prop where
  goesOn : ∀ i < k, (responses i).GoesOn
  inTime : ∀ i < k, due device responses (i + 1) < device.lifetime

/-- The moment behind `k` requests. -/
def momentAt (k : ℕ) : Moment :=
  ⟨due device responses k, wait device responses k, timetable device responses k⟩

theorem wake_momentAt (k : ℕ) :
    (momentAt device responses k).wake = due device responses (k + 1) :=
  (due_succ device responses k).symm

theorem next_momentAt (k : ℕ) :
    (momentAt device responses k).next (verdict (responses k)).delay =
      momentAt device responses (k + 1) := by
  have hwait : wait device responses k + (verdict (responses k)).delay =
      wait device responses (k + 1) := by
    rw [delay_verdict, wait]
    split <;> rfl
  rw [Moment.next, wake_momentAt, momentAt, momentAt, hwait, timetable_succ]

end Timetable

/-! ### Any number of waits -/

section Run

variable {device : DeviceCode} {responses : ℕ → Reply} {schedule : Schedule}
  {sent : List Request} {replies : List Reply} {k : ℕ}

theorem Reaches.of_le {j : ℕ} (h : Reaches device responses k) (hjk : j ≤ k) :
    Reaches device responses j :=
  ⟨fun i hi => h.goesOn i (hi.trans_le hjk), fun i hi => h.inTime i (hi.trans_le hjk)⟩

theorem nth_drop (k j : ℕ) : nth (replies.drop k) j = nth replies (k + j) := by
  rw [nth, nth, List.getD_eq_getElem?_getD, List.getD_eq_getElem?_getD, List.getElem?_drop]

/-- **Any run of waits.** As far as the timetable goes, the asking goes from moment to moment. -/
theorem pollFrom_momentAt
    (hspares : ∀ i < k, schedule.interrupt.Spares (momentAt device responses i))
    (hexpiry : schedule.expiry = device.lifetime)
    (hreplies : ∀ i, due device responses (i + 1) < device.lifetime → nth replies i = responses i)
    (h : Reaches device responses k) :
    pollFrom schedule (momentAt device responses 0) sent replies =
      pollFrom schedule (momentAt device responses k)
        (sent ++ List.replicate k schedule.request) (replies.drop k) := by
  -- on the number of waits: each takes one reply off the list, so that the next is at its front
  induction k with
  | zero => simp
  | succ k ih =>
    have hgoesOn : (responses k).GoesOn := h.goesOn k (Nat.lt_succ_self k)
    have htime : due device responses (k + 1) < device.lifetime := h.inTime k (Nat.lt_succ_self k)
    have hreply : nth (replies.drop k) 0 = responses k := by
      rw [nth_drop, Nat.add_zero, hreplies k htime]
    have hopen : (verdict (nth (replies.drop k) 0)).outcome? = none := by
      rw [hreply]
      exact outcome?_verdict_eq_none_iff.2 hgoesOn
    have hwake : (momentAt device responses k).wake < schedule.expiry := by
      rw [wake_momentAt, hexpiry]
      exact htime
    rw [ih (fun i hi => hspares i (by omega)) (h.of_le k.le_succ),
      pollFrom_of_goesOn (hspares k (Nat.lt_succ_self k)) hwake hopen, hreply, next_momentAt,
      List.drop_drop, List.append_assoc, ← List.replicate_succ']

/-- There is a last wait: the reply behind it settles the login, or there is no time for one. -/
theorem exists_last_wait (device : DeviceCode) (responses : ℕ → Reply) :
    ∃ k, Reaches device responses k ∧
      (due device responses (k + 1) < device.lifetime → ¬ (responses k).GoesOn) := by
  let goesOn (k : ℕ) : Prop :=
    (responses k).GoesOn ∧ due device responses (k + 1) < device.lifetime
  -- even if every reply leaves the login open, time runs out
  have hstop : ∃ k, ¬ goesOn k := by
    refine ⟨device.lifetime, fun h => ?_⟩
    have hdue := le_due device responses (device.lifetime + 1)
    have htime := h.2
    omega
  have hbefore : ∀ i < Nat.find hstop, goesOn i := fun i hi => not_not.1 (Nat.find_min hstop hi)
  refine ⟨Nat.find hstop, ⟨fun i hi => (hbefore i hi).1, fun i hi => (hbefore i hi).2⟩, ?_⟩
  exact fun htime hgoesOn => Nat.find_spec hstop ⟨hgoesOn, htime⟩

end Run

/-! ### Endings -/

/-- The two ways in which asking ends: a reply settles the login, or the next request would come too
late. -/
inductive Ending (device : DeviceCode) (responses : ℕ → Reply) : Poll → Prop
  | settled (k : ℕ) (outcome : Except Error Outcome) (reaches : Reaches device responses k)
      (inTime : due device responses (k + 1) < device.lifetime)
      (settles : (verdict (responses k)).outcome? = some outcome) :
      Ending device responses
        ⟨outcome, timetable device responses (k + 1), due device responses (k + 1)⟩
  | expired (k : ℕ) (reaches : Reaches device responses k)
      (late : device.lifetime ≤ due device responses (k + 1)) :
      Ending device responses
        ⟨.error .expired, timetable device responses k, due device responses (k + 1)⟩

section Asking

variable {device : DeviceCode} {responses : ℕ → Reply} {interrupt : Interrupt}
  {exchange : Exchange} {k : ℕ}

/-- Asking comes to the wait behind `k` requests, unless the interrupt comes before that. -/
theorem poll_eq_pollFrom (endpoints : Endpoints) (clientId : String)
    (hspares : ∀ i < k, interrupt.Spares (momentAt device responses i))
    (hreplies : ∀ i, due device responses (i + 1) < device.lifetime →
      nth exchange.replies i = responses i)
    (h : Reaches device responses k) :
    poll endpoints clientId device interrupt exchange =
      pollFrom ⟨tokenRequest endpoints clientId device.code, device.lifetime, interrupt⟩
        (momentAt device responses k)
        (exchange.sent ++ List.replicate k (tokenRequest endpoints clientId device.code))
        (exchange.replies.drop k) :=
  pollFrom_momentAt hspares rfl hreplies h

/-- The reply behind the last wait settles the login. -/
theorem poll_of_settled (endpoints : Endpoints) (clientId : String)
    (hspares : ∀ i ≤ k, interrupt.Spares (momentAt device responses i))
    (hreplies : ∀ i, due device responses (i + 1) < device.lifetime →
      nth exchange.replies i = responses i)
    (h : Reaches device responses k) (htime : due device responses (k + 1) < device.lifetime)
    {outcome : Except Error Outcome} (houtcome : (verdict (responses k)).outcome? = some outcome) :
    poll endpoints clientId device interrupt exchange =
      (⟨outcome, timetable device responses (k + 1), due device responses (k + 1)⟩,
        ⟨exchange.replies.drop (k + 1), exchange.sent ++
          List.replicate (k + 1) (tokenRequest endpoints clientId device.code)⟩) := by
  have hwake := wake_momentAt device responses k
  have hsettles : (verdict (nth (exchange.replies.drop k) 0)).outcome? = some outcome := by
    rw [nth_drop, Nat.add_zero, hreplies k htime, houtcome]
  rw [poll_eq_pollFrom endpoints clientId (fun i hi => hspares i hi.le) hreplies h,
    pollFrom_of_outcome (hspares k le_rfl) (hwake.trans_lt htime) hsettles, hwake, List.drop_drop,
    List.append_assoc, ← List.replicate_succ', timetable_succ]
  rfl

/-- The device code expires during the last wait. -/
theorem poll_of_expired (endpoints : Endpoints) (clientId : String)
    (hspares : ∀ i ≤ k, interrupt.Spares (momentAt device responses i))
    (hreplies : ∀ i, due device responses (i + 1) < device.lifetime →
      nth exchange.replies i = responses i)
    (h : Reaches device responses k) (hlate : device.lifetime ≤ due device responses (k + 1)) :
    poll endpoints clientId device interrupt exchange =
      (⟨.error .expired, timetable device responses k, due device responses (k + 1)⟩,
        ⟨exchange.replies.drop k, exchange.sent ++
          List.replicate k (tokenRequest endpoints clientId device.code)⟩) := by
  have hwake := wake_momentAt device responses k
  rw [poll_eq_pollFrom endpoints clientId (fun i hi => hspares i hi.le) hreplies h,
    pollFrom_of_expired (hspares k le_rfl) (hlate.trans_eq hwake.symm), hwake]
  rfl

end Asking

/-- **How asking ends**, and that there is one request for each of the times. -/
theorem poll_ending (endpoints : Endpoints) (clientId : String) {device : DeviceCode}
    {exchange : Exchange} {responses : ℕ → Reply}
    (h : ∀ i, due device responses (i + 1) < device.lifetime →
      nth exchange.replies i = responses i) :
    let run := poll endpoints clientId device .never exchange
    Ending device responses run.1 ∧
      run.2.sent = exchange.sent ++
        List.replicate run.1.requests (tokenRequest endpoints clientId device.code) := by
  intro run
  obtain ⟨k, hreaches, hlast⟩ := exists_last_wait device responses
  have hspares : ∀ i ≤ k, Interrupt.never.Spares (momentAt device responses i) :=
    fun i _ => Interrupt.never_spares _
  by_cases htime : due device responses (k + 1) < device.lifetime
  · obtain ⟨outcome, houtcome⟩ := Option.ne_none_iff_exists'.1
      (mt outcome?_verdict_eq_none_iff.1 (hlast htime))
    have hrun : run = _ := poll_of_settled endpoints clientId hspares h hreaches htime houtcome
    rw [hrun, Poll.requests, length_timetable]
    exact ⟨.settled k outcome hreaches htime houtcome, rfl⟩
  · have hlate : device.lifetime ≤ due device responses (k + 1) := Nat.not_lt.1 htime
    have hrun : run = _ := poll_of_expired endpoints clientId hspares h hreaches hlate
    rw [hrun, Poll.requests, length_timetable]
    exact ⟨.expired k hreaches hlate, rfl⟩

/-! ### Punctuality -/

/-- What it means for an asking to follow the timetable. -/
structure Poll.Punctual (device : DeviceCode) (responses : ℕ → Reply) (poll : Poll) : Prop where
  /-- The request behind `k` others is made if their replies leave the login open and there is time,
  and only then. -/
  made_iff : ∀ k, k < poll.requests ↔
    (∀ i < k, (responses i).GoesOn) ∧ due device responses (k + 1) < device.lifetime
  /-- It is made when the waits up to it are over. -/
  times_eq : poll.times = timetable device responses poll.requests
  /-- The last reply settles the login at once, or else the device code expires before the next
  request. -/
  ends : (∃ k, poll.requests = k + 1 ∧ ¬ (responses k).GoesOn ∧
      (responses k).Settles poll.outcome ∧
      poll.seconds = due device responses (k + 1)) ∨
    (∀ i < poll.requests, (responses i).GoesOn) ∧ poll.outcome = .error .expired ∧
      device.lifetime ≤ due device responses (poll.requests + 1) ∧
      poll.seconds = due device responses (poll.requests + 1)
  /-- A token in the last reply outweighs any error in it. -/
  authorized : ∀ k token, poll.requests = k + 1 → (responses k).token? = some token →
    poll.outcome = .ok (.authorized token)
  /-- How often the program asks is bounded. -/
  requests_le : poll.requests ≤ (device.lifetime - 1) / max device.interval 1
  /-- No request is made when the device code has expired. -/
  inTime : ∀ time ∈ poll.times, time < device.lifetime
  /-- Between two requests lies at least the interval in force before the later one. -/
  spaced : ∀ j k s t, j < k → poll.times[j]? = some s → poll.times[k]? = some t →
    s + wait device responses k ≤ t

namespace Ending

variable {device : DeviceCode} {responses : ℕ → Reply} {poll : Poll}

theorem lt_requests_iff (h : Ending device responses poll) (k : ℕ) :
    k < poll.requests ↔
      (∀ i < k, (responses i).GoesOn) ∧ due device responses (k + 1) < device.lifetime := by
  cases h with
  | settled n outcome reaches inTime settles =>
    rw [Poll.requests, length_timetable]
    constructor
    · intro hk
      have hdue : due device responses (k + 1) ≤ due device responses (n + 1) :=
        due_mono device responses (by omega)
      exact ⟨fun i hi => reaches.goesOn i (by omega), hdue.trans_lt inTime⟩
    · rintro ⟨hgoesOn, -⟩
      by_contra hk
      exact not_goesOn_of_outcome? settles (hgoesOn n (by omega))
  | expired n reaches late =>
    rw [Poll.requests, length_timetable]
    constructor
    · intro hk
      exact ⟨fun i hi => reaches.goesOn i (by omega), reaches.inTime k hk⟩
    · rintro ⟨-, hdue⟩
      by_contra hk
      have hmono : due device responses (n + 1) ≤ due device responses (k + 1) :=
        due_mono device responses (by omega)
      omega

theorem times_eq (h : Ending device responses poll) :
    poll.times = timetable device responses poll.requests := by
  cases h with
  | settled => rw [Poll.requests, length_timetable]
  | expired => rw [Poll.requests, length_timetable]

/-- Each of the times is the second at which a request is due. -/
theorem of_times_getElem? (h : Ending device responses poll) {k time : ℕ}
    (htime : poll.times[k]? = some time) :
    time = due device responses (k + 1) ∧ time < device.lifetime := by
  rw [h.times_eq, timetable, List.getElem?_map] at htime
  obtain ⟨i, hi, rfl⟩ := Option.map_eq_some_iff.1 htime
  obtain ⟨hk, rfl⟩ := List.getElem?_eq_some_iff.1 hi
  rw [List.length_range] at hk
  rw [List.getElem_range]
  exact ⟨rfl, ((h.lt_requests_iff k).1 hk).2⟩

theorem settled_or_expired (h : Ending device responses poll) :
    (∃ k, poll.requests = k + 1 ∧ ¬ (responses k).GoesOn ∧
        (responses k).Settles poll.outcome ∧
        poll.seconds = due device responses (k + 1)) ∨
      (∀ i < poll.requests, (responses i).GoesOn) ∧ poll.outcome = .error .expired ∧
        device.lifetime ≤ due device responses (poll.requests + 1) ∧
        poll.seconds = due device responses (poll.requests + 1) := by
  cases h with
  | settled n outcome reaches inTime settles =>
    exact .inl ⟨n, length_timetable device responses (n + 1), not_goesOn_of_outcome? settles,
      settles_iff.2 settles, rfl⟩
  | expired n reaches late =>
    rw [Poll.requests, length_timetable]
    exact .inr ⟨reaches.goesOn, rfl, late, rfl⟩

theorem outcome_of_token? (h : Ending device responses poll) {k : ℕ} {token : String}
    (hk : poll.requests = k + 1) (htoken : (responses k).token? = some token) :
    poll.outcome = .ok (.authorized token) := by
  rcases h.settled_or_expired with ⟨n, hn, -, hsettles, -⟩ | ⟨hgoesOn, -⟩
  · obtain rfl : n = k := by omega
    have houtcome := settles_iff.1 hsettles
    rw [verdict_eq_token htoken] at houtcome
    exact (Option.some.inj houtcome).symm
  · -- a reply with a token settles the login, so it cannot be followed by another wait
    have hopen : (responses k).GoesOn := hgoesOn k (by omega)
    rw [Reply.GoesOn, refusal?_of_token? htoken] at hopen
    simp at hopen

theorem requests_le (h : Ending device responses poll) :
    poll.requests ≤ (device.lifetime - 1) / max device.interval 1 := by
  cases hrequests : poll.requests with
  | zero => exact Nat.zero_le _
  | succ n =>
    have hmade : n < poll.requests := by omega
    exact lt_of_due_lt device responses ((h.lt_requests_iff n).1 hmade).2

/-- However asking ends, it has followed the timetable. -/
theorem punctual (h : Ending device responses poll) : poll.Punctual device responses where
  made_iff := h.lt_requests_iff
  times_eq := h.times_eq
  ends := h.settled_or_expired
  authorized := fun _ _ hk htoken => h.outcome_of_token? hk htoken
  requests_le := h.requests_le
  inTime := by
    intro time hmem
    obtain ⟨k, hk⟩ := List.mem_iff_getElem?.1 hmem
    exact (h.of_times_getElem? hk).2
  spaced := by
    intro j k s t hjk hs ht
    have hmono : due device responses (j + 1) ≤ due device responses k :=
      due_mono device responses hjk
    rw [(h.of_times_getElem? hs).1, (h.of_times_getElem? ht).1, due_succ device responses k]
    omega

end Ending

/-- **Asking follows the timetable**, whatever the replies, if nobody interrupts it: every request
is made at the second at which it is due, and the asking ends with the first reply that settles the
login or with the device code. All requests are the same. -/
theorem poll_punctual (endpoints : Endpoints) (clientId : String) (device : DeviceCode)
    (exchange : Exchange) (responses : ℕ → Reply)
    (h : ∀ i < (device.lifetime - 1) / max device.interval 1,
      Reply.nth exchange.replies i = responses i) :
    let run := poll endpoints clientId device .never exchange
    run.1.Punctual device responses ∧
      run.2.sent = exchange.sent ++
        List.replicate run.1.requests (tokenRequest endpoints clientId device.code) := by
  have hready : ∀ i, due device responses (i + 1) < device.lifetime →
      nth exchange.replies i = responses i :=
    fun i hi => h i (lt_of_due_lt device responses hi)
  obtain ⟨hending, hsent⟩ := poll_ending endpoints clientId hready
  exact ⟨hending.punctual, hsent⟩

/-- With an interval of three seconds, a reply to the second request that asks to slow down and has
an empty text for a token, and a token in every reply from the third on, the third request is made
just before the device code expires. -/
theorem poll_slowed_down :
    let device : DeviceCode := ⟨"dev", "ABCD", "https://example.org", 3, 15⟩
    let pending : Reply := .answer 200 "\x7b\"error\":\"authorization_pending\"\x7d"
    let slowDown : Reply := .answer 200 "\x7b\"access_token\":\"\",\"error\":\"slow_down\"\x7d"
    let token : Reply := .answer 200 "\x7b\"access_token\":\"tok\",\"error\":\"slow_down\"\x7d"
    let responses : ℕ → Reply := fun i => [pending, slowDown].getD i token
    let exchange : Exchange := ⟨[pending, slowDown, token, token], []⟩
    let run := (poll endpoints "client" device .never exchange).1
    (∀ i < (device.lifetime - 1) / max device.interval 1,
        Reply.nth exchange.replies i = responses i) ∧
      run.Punctual device responses ∧ run.times = [3, 6, 14] ∧
        run.outcome = .ok (.authorized "tok") := by
  intro device pending slowDown token responses exchange run
  have hready : ∀ i < (device.lifetime - 1) / max device.interval 1,
      Reply.nth exchange.replies i = responses i := by decide
  have hpunctual := (poll_punctual endpoints "client" device exchange responses hready).1
  have htimes : run.times = [3, 6, 14] := by decide +kernel
  have htoken : (responses 2).token? = some "tok" := by decide +kernel
  exact ⟨hready, hpunctual, htimes,
    hpunctual.authorized 2 "tok" (congrArg List.length htimes) htoken⟩

end Login

end PullReport
