import Fauna.Dial.Onion
import Fauna.Lib.Polling

/-!
# Dialing over Tor by the clock

`connect_via_socks5_with_retry` with the clock it reads and the pauses it makes, and `join_network`
around it. What `join_network` does by the clock is what it does by some number of attempts, so all
that holds for every number of attempts holds of the code.

* `Polls.trace_retry`: a run of the loop without its clock.
* `Dialing`: the calls of the loop, attempt by attempt, with the errors of those that failed.
* `join_by_the_clock`: how many attempts there are, and what is reported of them.
-/

namespace Fauna.Dial

open Fauna.Lib Fauna.Core Fauna.Wire Fauna.Desktop Fauna.Tor Fauna.Dial.Action

/-! ## The code -/

/-- A routine of the programs that also reads the clock. -/
abbrev ClockAction (α : Type) := Routine (Timed.Answer Call.Answer) Fault α

/-- The body of the loop of `connect_via_socks5_with_retry`. -/
def dialAttempt (socksAddr host : Text) (port : UInt16) (onRetry : ℕ → Text → Action Unit)
    (attempt : ℕ) : Action (Option Unit) := do
  match ← (connectViaSocks5 socksAddr host port).attempt caught with
  | .ok () => return some ()
  | .error error => do
      onRetry attempt error
      return none

namespace Clock

/-- `connect_via_socks5_with_retry`; its loop looks at the clock at most `looks` times. -/
def connectViaSocks5WithRetry (looks : ℕ) (socksAddr host : Text) (port : UInt16) (seconds : ℕ)
    (onRetry : ℕ → Text → Action Unit) : ClockAction Unit := do
  match ← Routine.pollFor (1000 * seconds) 2000 (dialAttempt socksAddr host port onRetry) looks with
  | some () => return ()
  | none =>
      .fail (.error (hostPort host port ++ " onion adresine Tor uzerinden baglanilamadi".toList))

/-- `connect_to_invite_address`. -/
def connectToInviteAddress (looks : ℕ) (address torSocksAddr : Text) (events : Bool) :
    ClockAction Unit := do
  match ← Routine.ofExcept (parseOnionAddress address) with
  | some target => do
      (emit events (.status "Tor uzerinden onion adresine baglaniyor".toList)).timed
      connectViaSocks5WithRetry looks torSocksAddr target.host target.port 180 (reportRetry events)
  | none => Routine.timed do
      let address ← Routine.ofExcept (Desktop.normalizeAddress address)
      if isLoopback address then
        bail (address ++ (" sadece bu bilgisayari gosterir. Baska bilgisayarda kullanmak icin " ++
          "host tarafinda Tor modunu acip yeni davet olustur.").toList)
      else connect .direct address (address ++ " adresine baglanilamadi".toList)

/-- `join_network` up to the handshake, with the key that it goes on to expect. -/
def joinNetwork (C : Crates) (J : SerdeJson) (looks : ℕ) (inviteText torSocksAddr : Text) :
    ClockAction Text := do
  let invite ← (decodeInvite C J "davet linki okunamadi".toList inviteText).timed
  let address ← (firstAddress "davet linkinde adres yok".toList invite).timed
  connectToInviteAddress looks address torSocksAddr true
  Routine.timed (do
    orContext "socket klonlanamadi".toList (← ask .tryClone)
    return invite.publicKey)

end Clock

/-! ## Without the clock -/

/-- A pause as a call of the model that counts attempts. -/
def pauses (milliseconds : ℕ) : List (Routine.Answered Call.Answer) :=
  [⟨.sleep (milliseconds / 1000), ()⟩]

/-- The calls of a run by the clock, without its looks at the clock. -/
def withoutClock (history : List (Routine.Answered (Timed.Answer Call.Answer))) :
    List (Routine.Answered Call.Answer) :=
  history.flatMap (Routine.untimed pauses)

@[simp] theorem withoutClock_append
    (history history' : List (Routine.Answered (Timed.Answer Call.Answer))) :
    withoutClock (history ++ history') = withoutClock history ++ withoutClock history' :=
  List.flatMap_append

@[simp] theorem withoutClock_timedCalls (calls : List (Routine.Answered Call.Answer)) :
    withoutClock (Routine.timedCalls calls) = calls :=
  Routine.flatMap_untimed_timedCalls pauses calls

section Retry

variable {socksAddr host : Text} {port : UInt16} {onRetry : ℕ → Text → Action Unit}

/-- What `connect_via_socks5_with_retry` returns for what its loop has found. -/
def retryResult (host : Text) (port : UInt16) : Except Fault (Option Unit) → Except Fault Unit
  | .ok (some ()) => .ok ()
  | .ok none =>
      .error (.error (hostPort host port ++ " onion adresine Tor uzerinden baglanilamadi".toList))
  | .error fault => .error fault

/-- One round of the loop that counts attempts. -/
theorem connectViaSocks5WithRetry_succ (rounds attempt : ℕ) :
    connectViaSocks5WithRetry socksAddr host port onRetry (rounds + 1) attempt =
      dialAttempt socksAddr host port onRetry attempt >>= fun
        | some () => .done ()
        | none => .call (.sleep 2) fun _ =>
            connectViaSocks5WithRetry socksAddr host port onRetry rounds (attempt + 1) := by
  rw [connectViaSocks5WithRetry, dialAttempt, Routine.bind_assoc]
  refine congrArg _ (funext fun result => ?_)
  cases result with
  | ok _ => rfl
  | error error =>
      show (onRetry attempt error >>= _) = (onRetry attempt error >>= _) >>= _
      rw [Routine.bind_assoc]
      rfl

/-- A run of the loop by the clock is, without the clock, a run of the loop that counts as many
attempts. -/
theorem Polls.trace_retry {started timeout attempt count : ℕ}
    {history : List (Routine.Answered (Timed.Answer Call.Answer))}
    {found : Except Fault (Option Unit)}
    (h : Routine.Polls started timeout 2000 (dialAttempt socksAddr host port onRetry) attempt count
      history found) :
    Routine.Trace (connectViaSocks5WithRetry socksAddr host port onRetry count attempt)
      (withoutClock history) (.ofExcept (retryResult host port found)) := by
  induction h with
  | expired => exact .nil _
  | @ended attempt time calls found htime hbody hfound =>
      have hcalls : withoutClock (⟨.now, time⟩ :: Routine.timedCalls calls) = calls ++ [] := by
        rw [List.append_nil]
        exact withoutClock_timedCalls calls
      rw [hcalls, connectViaSocks5WithRetry_succ, Routine.trace_bind_iff]
      cases found with
      | error fault => exact Or.inr ⟨fault, by rwa [List.append_nil], rfl⟩
      | ok found =>
          cases found with
          | none => exact absurd rfl hfound
          | some _ => exact Or.inl ⟨some (), calls, [], rfl, hbody, .nil _⟩
  | @again attempt count time calls history found htime hbody hrest ih =>
      have hcalls : withoutClock (⟨.now, time⟩ :: (Routine.timedCalls calls ++
          ⟨.sleep 2000, ()⟩ :: history)) = calls ++ ⟨.sleep 2, ()⟩ :: withoutClock history := by
        show withoutClock (Routine.timedCalls calls ++ ⟨.sleep 2000, ()⟩ :: history) = _
        rw [withoutClock_append, withoutClock_timedCalls]
        rfl
      rw [hcalls, connectViaSocks5WithRetry_succ, Routine.trace_bind_iff]
      exact Or.inl ⟨none, calls, _, rfl, hbody, .call ih⟩

/-! ## What is reported -/

/-- The events that some calls emit. -/
def emitted (history : List (Routine.Answered Call.Answer)) : List NetworkEvent :=
  history.filterMap fun
    | ⟨.emit event, _⟩ => some event
    | _ => none

@[simp] theorem emitted_append (history history' : List (Routine.Answered Call.Answer)) :
    emitted (history ++ history') = emitted history ++ emitted history' :=
  List.filterMap_append

/-- The report of a failed attempt. -/
def retryStatus (attempt : ℕ) (error : Text) : NetworkEvent :=
  .status ("Tor baglantisi deneniyor (".toList ++ decimal attempt ++ "): ".toList ++ error)

/-- The reports of failed attempts, numbered from the first of them on. -/
def retryStatuses : ℕ → List Text → List NetworkEvent
  | _, [] => []
  | attempt, error :: errors => retryStatus attempt error :: retryStatuses (attempt + 1) errors

/-- The calls of a dialing over Tor from the attempt `attempt` on, the errors of its attempts that
failed, and what it comes to. An attempt that fails is one conversation with the proxy that ends in
its error, and is followed by its report and a pause. -/
inductive Dialing (socksAddr host : Text) (port : UInt16) :
    ℕ → List (Routine.Answered Call.Answer) → List Text → Except Fault Unit → Prop
  | expired {attempt : ℕ} : Dialing socksAddr host port attempt [] []
      (.error (.error (hostPort host port ++ " onion adresine Tor uzerinden baglanilamadi".toList)))
  | connected {attempt : ℕ} {calls : List (Routine.Answered Call.Answer)}
      (hdial : Routine.Trace (connectViaSocks5 socksAddr host port) calls (.done ())) :
      Dialing socksAddr host port attempt calls [] (.ok ())
  | failed {attempt : ℕ} {calls history : List (Routine.Answered Call.Answer)} {error : Text}
      {errors : List Text} {result : Except Fault Unit}
      (hdial : Routine.Trace (connectViaSocks5 socksAddr host port) calls (.fail (.error error)))
      (hrest : Dialing socksAddr host port (attempt + 1) history errors result) :
      Dialing socksAddr host port attempt
        (calls ++ ⟨.emit (retryStatus attempt error), ()⟩ :: ⟨.sleep 2, ()⟩ :: history)
        (error :: errors) result

/-- A call that emits nothing. -/
def Silent : Call → Prop
  | .emit _ => False
  | _ => True

/-- Nothing is emitted by calls that emit nothing. -/
theorem emitted_of_silent {α : Type} {action rest : Action α} (hall : action.All Silent)
    {history : List (Routine.Answered Call.Answer)} (ht : Routine.Trace action history rest) :
    emitted history = [] := by
  rw [emitted, List.filterMap_eq_nil_iff]
  rintro ⟨c, answer⟩ he
  have hsilent := hall.of_trace ht he
  cases c with
  | emit event => cases hsilent
  | _ => rfl

/-- Calls through the proxy emit nothing. -/
theorem silent_of_throughProxy {c : Call} (h : ThroughProxy c) : Silent c := by
  cases c with
  | emit event => exact h
  | _ => trivial

/-- An attempt connects, or fails with an error that it reports. -/
theorem trace_dialAttempt {attempt : ℕ} {history : List (Routine.Answered Call.Answer)}
    {found : Except Fault (Option Unit)}
    (ht : Routine.Trace (dialAttempt socksAddr host port (reportRetry true) attempt) history
      (.ofExcept found)) :
    found = .ok (some ()) ∧
        Routine.Trace (connectViaSocks5 socksAddr host port) history (.done ()) ∨
      found = .ok none ∧ ∃ error calls,
        Routine.Trace (connectViaSocks5 socksAddr host port) calls (.fail (.error error)) ∧
          history = calls ++ [⟨.emit (retryStatus attempt error), ()⟩] := by
  rcases Routine.trace_bind_iff.1 ht with
    ⟨outcome, calls, after, rfl, hdial, hafter⟩ | ⟨fault, hdial, -⟩
  · rcases Routine.trace_attempt_done_iff.1 hdial with
      ⟨_, rfl, hconnected⟩ | ⟨error, fault, rfl, hcaught, hfailed⟩
    · obtain ⟨rfl, rfl⟩ := Routine.trace_done_end_iff.1 hafter
      exact Or.inl ⟨rfl, by rwa [List.append_nil]⟩
    · obtain ⟨message, rfl⟩ := (raises_connectViaSocks5 socksAddr host port).of_trace hfailed
      obtain rfl : message = error := Option.some.inj hcaught
      obtain ⟨answer, rest, rfl, hdone⟩ := Routine.trace_call_end_iff.1 hafter
      obtain ⟨rfl, rfl⟩ := Routine.trace_done_end_iff.1 hdone
      exact Or.inr ⟨rfl, message, calls, hfailed, rfl⟩
  · -- every error of an attempt is caught
    obtain ⟨⟨message, rfl⟩, hcaught⟩ :=
      (raises_connectViaSocks5 socksAddr host port).attempt.of_trace hdial
    cases hcaught

/-- What the attempts do, one after the other. -/
theorem dialing_of_trace {rounds attempt : ℕ} {history : List (Routine.Answered Call.Answer)}
    {result : Except Fault Unit}
    (ht : Routine.Trace (connectViaSocks5WithRetry socksAddr host port (reportRetry true) rounds
      attempt) history (.ofExcept result)) :
    ∃ errors, Dialing socksAddr host port attempt history errors result ∧
      errors.length ≤ rounds ∧ (result = .ok () → errors.length < rounds) := by
  induction rounds generalizing attempt history with
  | zero =>
      obtain ⟨rfl, rfl⟩ := Routine.trace_fail_end_iff.1 ht
      exact ⟨[], .expired, le_rfl, nofun⟩
  | succ rounds ih =>
      rw [connectViaSocks5WithRetry_succ] at ht
      rcases Routine.trace_bind_iff.1 ht with
        ⟨found, before, after, rfl, hattempt, hafter⟩ | ⟨fault, hattempt, rfl⟩
      · rcases trace_dialAttempt (show Routine.Trace _ _ (.ofExcept (.ok found)) from hattempt) with
          ⟨hfound, hdial⟩ | ⟨hfound, error, calls, hdial, rfl⟩
        · obtain rfl := Except.ok.inj hfound
          obtain ⟨rfl, rfl⟩ := Routine.trace_done_end_iff.1 hafter
          rw [List.append_nil]
          exact ⟨[], .connected hdial, Nat.zero_le _, fun _ => Nat.succ_pos rounds⟩
        · obtain rfl := Except.ok.inj hfound
          obtain ⟨answer, rest, rfl, hrest⟩ := Routine.trace_call_end_iff.1 hafter
          obtain ⟨errors, hdialing, hlength, hconnected⟩ := ih hrest
          refine ⟨error :: errors, ?_, Nat.succ_le_succ hlength,
            fun hresult => Nat.succ_lt_succ (hconnected hresult)⟩
          rw [List.append_assoc]
          exact .failed hdial hdialing
      · rcases trace_dialAttempt
            (show Routine.Trace _ _ (.ofExcept (.error fault)) from hattempt) with
          ⟨hfound, -⟩ | ⟨hfound, -⟩ <;> cases hfound

/-- The time is over after one attempt, at which nobody listens for the proxy. -/
example (socksAddr host refusal : Text) (port : UInt16) :
    Dialing socksAddr host port 1
      [⟨.connect .proxy socksAddr, .error refusal⟩,
        ⟨.emit (retryStatus 1 ("Tor SOCKS adresine baglanilamadi: ".toList ++ socksAddr)), ()⟩,
        ⟨.sleep 2, ()⟩]
      ["Tor SOCKS adresine baglanilamadi: ".toList ++ socksAddr]
      (.error (.error (hostPort host port ++
        " onion adresine Tor uzerinden baglanilamadi".toList))) := by
  have hdial : Routine.Trace (connectViaSocks5 socksAddr host port)
      [⟨.connect .proxy socksAddr, .error refusal⟩]
      (.fail (.error ("Tor SOCKS adresine baglanilamadi: ".toList ++ socksAddr))) :=
    .call (.nil _)
  exact .failed hdial .expired

/-- What a dialing reports: its failed attempts, each with its own error. -/
theorem Dialing.emitted_eq {attempt : ℕ} {history : List (Routine.Answered Call.Answer)}
    {errors : List Text} {result : Except Fault Unit}
    (h : Dialing socksAddr host port attempt history errors result) :
    emitted history = retryStatuses attempt errors := by
  have hquiet {calls : List (Routine.Answered Call.Answer)} {rest : Action Unit}
      (hdial : Routine.Trace (connectViaSocks5 socksAddr host port) calls rest) :
      emitted calls = [] :=
    emitted_of_silent
      ((all_throughProxy socksAddr host port).mono fun _ => silent_of_throughProxy) hdial
  induction h with
  | expired => rfl
  | connected hdial => exact hquiet hdial
  | failed hdial _ ih =>
      rw [emitted_append, hquiet hdial, retryStatuses, ← ih]
      rfl

/-! ## By the clock -/

/-- What the loop finds decides what is returned. -/
theorem Clock.trace_retry {looks seconds : ℕ}
    {history : List (Routine.Answered (Timed.Answer Call.Answer))} {result : Except Fault Unit}
    (ht : Routine.Trace (Clock.connectViaSocks5WithRetry looks socksAddr host port seconds onRetry)
      history (.ofExcept result)) :
    ∃ found, Routine.Trace (Routine.pollFor (1000 * seconds) 2000
        (dialAttempt socksAddr host port onRetry) looks) history (.ofExcept found) ∧
      result = retryResult host port found := by
  rcases Routine.trace_bind_iff.1 ht with
    ⟨found, before, after, rfl, hpoll, hafter⟩ | ⟨fault, hpoll, rfl⟩
  · refine ⟨.ok found, ?_⟩
    cases found with
    | some _ =>
        obtain ⟨rfl, rfl⟩ := Routine.trace_done_end_iff.1 hafter
        exact ⟨by rwa [List.append_nil], rfl⟩
    | none =>
        obtain ⟨rfl, rfl⟩ := Routine.trace_fail_end_iff.1 hafter
        exact ⟨by rwa [List.append_nil], rfl⟩
  · exact ⟨.error fault, hpoll, rfl⟩

variable {σ : Type} {outside : Lts σ (Routine.Answered Call.Answer)} {s t : σ × ℕ}

/-- In 180 seconds there are at most 90 attempts. -/
theorem Clock.retry_untimed {looks : ℕ}
    {history : List (Routine.Answered (Timed.Answer Call.Answer))} {result : Except Fault Unit}
    (ht : Routine.Trace (Clock.connectViaSocks5WithRetry looks socksAddr host port 180 onRetry)
      history (.ofExcept result)) (hrun : (Routine.clocked outside).Run s history t) :
    ∃ rounds ≤ 90, Routine.Trace
      (Tor.connectViaSocks5WithRetry socksAddr host port onRetry rounds 1)
      (withoutClock history) (.ofExcept result) := by
  obtain ⟨found, hpoll, rfl⟩ := Clock.trace_retry ht
  obtain ⟨started, rest, rfl, ⟨count, hpolls⟩, -⟩ := Routine.trace_pollFor_iff.1 hpoll
  have htrace := Polls.trace_retry hpolls
  refine ⟨count, ?_, htrace⟩
  rcases Nat.eq_zero_or_pos count with rfl | hpos
  · exact Nat.zero_le 90
  · have hpauses := Routine.pollFor_attempts hpolls hrun hpos
    omega

end Retry

section Join

variable {σ : Type} {outside : Lts σ (Routine.Answered Call.Answer)} {s t : σ × ℕ}

/-- Without its looks at the clock, dialing an invite is a dial of ninety rounds at most. -/
theorem Clock.connectToInviteAddress_untimed {looks : ℕ} {address torSocksAddr : Text}
    {history : List (Routine.Answered (Timed.Answer Call.Answer))} {result : Except Fault Unit}
    (ht : Routine.Trace (Clock.connectToInviteAddress looks address torSocksAddr true) history
      (.ofExcept result)) (hrun : (Routine.clocked outside).Run s history t) :
    ∃ rounds ≤ 90, Routine.Trace (Dial.connectToInviteAddress rounds address torSocksAddr true)
      (withoutClock history) (.ofExcept result) := by
  unfold Clock.connectToInviteAddress at ht
  unfold Dial.connectToInviteAddress
  cases hparse : parseOnionAddress address with
  | error fault =>
      rw [hparse] at ht
      obtain ⟨rfl, rfl⟩ := Routine.trace_fail_end_iff.1 ht
      exact ⟨0, Nat.zero_le 90, .nil _⟩
  | ok target =>
      rw [hparse] at ht
      cases target with
      | some target =>
          rcases Routine.trace_timed_bind_iff.1 ht with
            ⟨_, calls, rest, rfl, hemit, hrest⟩ | ⟨fault, calls, rfl, hemit, rfl⟩
          · obtain ⟨u, -, hrun⟩ := hrun.split
            obtain ⟨rounds, hrounds, htrace⟩ := Clock.retry_untimed hrest hrun
            refine ⟨rounds, hrounds, ?_⟩
            rw [withoutClock_append, withoutClock_timedCalls]
            show Routine.Trace (emit true _ >>= fun _ =>
              Tor.connectViaSocks5WithRetry torSocksAddr target.host target.port _ rounds 1) _ _
            exact Routine.trace_bind_iff.2 (Or.inl ⟨(), calls, _, rfl, hemit, htrace⟩)
          · exact absurd hemit Routine.not_trace_ask_fail
      | none =>
          obtain ⟨calls, rfl, hcalls⟩ := Routine.trace_timed_iff.1 ht
          exact ⟨0, Nat.zero_le 90, by rwa [withoutClock_timedCalls]⟩

/-- Without its looks at the clock, joining is a join of ninety rounds at most. -/
theorem Clock.joinNetwork_untimed {C : Crates} {J : SerdeJson} {looks : ℕ}
    {inviteText torSocksAddr : Text}
    {history : List (Routine.Answered (Timed.Answer Call.Answer))} {result : Except Fault Text}
    (ht : Routine.Trace (Clock.joinNetwork C J looks inviteText torSocksAddr) history
      (.ofExcept result)) (hrun : (Routine.clocked outside).Run s history t) :
    ∃ rounds ≤ 90, Routine.Trace (Dial.joinNetwork C J rounds inviteText torSocksAddr)
      (withoutClock history) (.ofExcept result) := by
  rcases Routine.trace_timed_bind_iff.1 ht with
    ⟨invite, calls, rest, rfl, hinvite, hrest⟩ | ⟨fault, calls, rfl, hinvite, rfl⟩
  swap
  · exact ⟨0, Nat.zero_le 90, Routine.trace_bind_iff.2
      (Or.inr ⟨fault, by rwa [withoutClock_timedCalls], rfl⟩)⟩
  obtain ⟨u, -, hrun⟩ := hrun.split
  rcases Routine.trace_timed_bind_iff.1 hrest with
    ⟨address, calls', rest, rfl, haddress, hrest⟩ | ⟨fault, calls', rfl, haddress, rfl⟩
  swap
  · refine ⟨0, Nat.zero_le 90, ?_⟩
    rw [withoutClock_append, withoutClock_timedCalls, withoutClock_timedCalls]
    exact Routine.trace_bind_iff.2 (Or.inl ⟨invite, calls, calls', rfl, hinvite,
      Routine.trace_bind_iff.2 (Or.inr ⟨fault, haddress, rfl⟩)⟩)
  obtain ⟨v, -, hrun⟩ := hrun.split
  -- the dialing, by the clock and by its attempts
  have hdialed : ∃ rounds ≤ 90, Routine.Trace (do
      Dial.connectToInviteAddress rounds address torSocksAddr true
      orContext "socket klonlanamadi".toList (← ask .tryClone)
      return invite.publicKey) (withoutClock rest) (.ofExcept result) := by
    rcases Routine.trace_bind_iff.1 hrest with
      ⟨_, dialing, cloning, rfl, hdial, hclone⟩ | ⟨fault, hdial, rfl⟩
    · obtain ⟨w, hrun, -⟩ := hrun.split
      obtain ⟨rounds, hrounds, htrace⟩ :=
        Clock.connectToInviteAddress_untimed
          (show Routine.Trace _ _ (.ofExcept (.ok ())) from hdial) hrun
      obtain ⟨calls, rfl, hcalls⟩ := Routine.trace_timed_iff.1 hclone
      refine ⟨rounds, hrounds, Routine.trace_bind_iff.2 (Or.inl ⟨(), _, calls, ?_, htrace, hcalls⟩)⟩
      rw [withoutClock_append, withoutClock_timedCalls]
    · obtain ⟨rounds, hrounds, htrace⟩ :=
        Clock.connectToInviteAddress_untimed
          (show Routine.Trace _ _ (.ofExcept (.error fault)) from hdial) hrun
      exact ⟨rounds, hrounds, Routine.trace_bind_iff.2 (Or.inr ⟨fault, htrace, rfl⟩)⟩
  obtain ⟨rounds, hrounds, htrace⟩ := hdialed
  refine ⟨rounds, hrounds, ?_⟩
  rw [withoutClock_append, withoutClock_timedCalls, withoutClock_append, withoutClock_timedCalls]
  exact Routine.trace_bind_iff.2 (Or.inl ⟨invite, calls, _, rfl, hinvite,
    Routine.trace_bind_iff.2 (Or.inl ⟨address, calls', _, rfl, haddress, htrace⟩)⟩)

/-! ## The loop ends -/

/-- Ninety-one looks at the clock are enough for a join. -/
theorem Clock.joinNetwork_inRounds (C : Crates) (J : SerdeJson) (spare : ℕ)
    (inviteText torSocksAddr : Text) :
    Routine.InRounds outside (Clock.joinNetwork C J (91 + spare) inviteText torSocksAddr) s := by
  apply (Routine.InRounds.timed _).bind
  intro invite _
  apply (Routine.InRounds.timed _).bind
  intro address u
  have hdial : Routine.InRounds outside
      (Clock.connectToInviteAddress (91 + spare) address torSocksAddr true) u := by
    unfold Clock.connectToInviteAddress
    cases parseOnionAddress address with
    | error fault => trivial
    | ok target =>
        cases target with
        | none => exact .timed _
        | some target =>
            apply (Routine.InRounds.timed _).bind
            intro _ v
            apply Routine.InRounds.bind (Routine.pollFor_inRounds _ (by omega) (by omega))
            intro found _
            cases found <;> trivial
  exact hdial.bind fun _ _ => .timed _

/-! ## What a joiner's thread reports -/

/-- The invite's first address, which the joiner dials, is an onion address. -/
def OnionInvite (C : Crates) (J : SerdeJson) (inviteText : Text) (target : OnionTarget) : Prop :=
  ∃ invite address, inviteDecode C J inviteText = .ok invite ∧
    invite.addresses.head? = some address ∧ parseOnionAddress address = .ok (some target)

/-- The clone of the socket, and the key that the handshake goes on to expect. -/
def cloneThenExpect (publicKey : Text) : Action Text := do
  orContext "socket klonlanamadi".toList (← ask .tryClone)
  return publicKey

/-- The calls of a `join_network` that dials over Tor, with the errors of its failed attempts and
what it comes to: the dialing after its announcement, and where that connects, the clone of its
socket. -/
inductive Joining (torSocksAddr : Text) (target : OnionTarget) :
    List (Routine.Answered Call.Answer) → List Text → Except Fault Text → Prop
  | unreached {dialing : List (Routine.Answered Call.Answer)} {errors : List Text} {fault : Fault}
      (hdialing : Dialing torSocksAddr target.host target.port 1 dialing errors (.error fault)) :
      Joining torSocksAddr target
        (⟨.emit (.status "Tor uzerinden onion adresine baglaniyor".toList), ()⟩ :: dialing) errors
        (.error fault)
  | reached {dialing : List (Routine.Answered Call.Answer)} {errors : List Text}
      {cloned : Except Text Unit} {publicKey : Text} {result : Except Fault Text}
      (hdialing : Dialing torSocksAddr target.host target.port 1 dialing errors (.ok ()))
      (hclone : Routine.Trace (cloneThenExpect publicKey) [⟨.tryClone, cloned⟩]
        (.ofExcept result)) :
      Joining torSocksAddr target
        (⟨.emit (.status "Tor uzerinden onion adresine baglaniyor".toList), ()⟩ ::
          (dialing ++ [⟨.tryClone, cloned⟩])) errors result

/-- It reports that it dials over Tor, and each of its failed attempts. -/
theorem Joining.emitted_eq {torSocksAddr : Text} {target : OnionTarget}
    {history : List (Routine.Answered Call.Answer)} {errors : List Text}
    {result : Except Fault Text} (h : Joining torSocksAddr target history errors result) :
    emitted history =
      .status "Tor uzerinden onion adresine baglaniyor".toList :: retryStatuses 1 errors := by
  have hannounced (calls : List (Routine.Answered Call.Answer)) :
      emitted (⟨.emit (.status "Tor uzerinden onion adresine baglaniyor".toList), ()⟩ :: calls) =
        .status "Tor uzerinden onion adresine baglaniyor".toList :: emitted calls := rfl
  cases h with
  | unreached hdialing => rw [hannounced, hdialing.emitted_eq]
  | @reached dialing _ cloned _ _ hdialing =>
      have hquiet : emitted [⟨.tryClone, cloned⟩] = [] := rfl
      rw [hannounced, emitted_append, hdialing.emitted_eq, hquiet, List.append_nil]

/-- `connect_to_invite_address` at an onion address. -/
theorem connectToInviteAddress_onion {rounds : ℕ} {address torSocksAddr : Text}
    {target : OnionTarget} (hparse : parseOnionAddress address = .ok (some target)) :
    Dial.connectToInviteAddress rounds address torSocksAddr true =
      .call (.emit (.status "Tor uzerinden onion adresine baglaniyor".toList)) fun _ =>
        Tor.connectViaSocks5WithRetry torSocksAddr target.host target.port (reportRetry true) rounds
          1 := by
  unfold Dial.connectToInviteAddress
  rw [hparse]
  rfl

/-- At any other address it reports nothing. -/
theorem connectToInviteAddress_silent {rounds : ℕ} {address torSocksAddr : Text}
    (hparse : ∀ target, parseOnionAddress address ≠ .ok (some target)) :
    (Dial.connectToInviteAddress rounds address torSocksAddr true).All Silent := by
  rcases connectToInviteAddress_eq rounds address torSocksAddr true with
    ⟨target, honion, -⟩ | ⟨endpoint, -, -, -, heq⟩ | ⟨-, fault, heq⟩
  · exact absurd honion (hparse target)
  · rw [heq]
    exact ⟨trivial, fun answer => all_orContext _ answer⟩
  · rw [heq]
    trivial

/-- `join_network` fails at once, or goes on with the first address of its invite. -/
theorem joinNetwork_eq (C : Crates) (J : SerdeJson) (rounds : ℕ) (inviteText torSocksAddr : Text) :
    ((¬ ∃ target, OnionInvite C J inviteText target) ∧
      ∃ fault, Dial.joinNetwork C J rounds inviteText torSocksAddr = .fail fault) ∨
    ∃ publicKey address,
      (∀ target, OnionInvite C J inviteText target ↔
        parseOnionAddress address = .ok (some target)) ∧
      Dial.joinNetwork C J rounds inviteText torSocksAddr =
        Dial.connectToInviteAddress rounds address torSocksAddr true >>= fun _ =>
          cloneThenExpect publicKey := by
  unfold Dial.joinNetwork decodeInvite firstAddress OnionInvite
  cases hdecode : inviteDecode C J inviteText with
  | error e =>
      refine Or.inl ⟨?_, _, rfl⟩
      rintro ⟨target, invite, address, ⟨⟩, -⟩
  | ok invite =>
      cases haddresses : invite.addresses with
      | nil =>
          refine Or.inl ⟨?_, _, by simp only [Routine.done_bind, haddresses]; rfl⟩
          rintro ⟨target, _, address, ⟨⟩, haddress, -⟩
          rw [haddresses] at haddress
          cases haddress
      | cons address addresses =>
          refine Or.inr ⟨invite.publicKey, address, fun target => ?_,
            by simp only [Routine.done_bind, haddresses]; rfl⟩
          constructor
          · rintro ⟨_, address', ⟨⟩, haddress, hparse⟩
            rw [haddresses] at haddress
            cases haddress
            exact hparse
          · intro hparse
            exact ⟨invite, address, rfl, by rw [haddresses]; rfl, hparse⟩

/-- At an onion address it dials over Tor, and clones what it has connected. -/
theorem joining_of_onion {rounds : ℕ} {address torSocksAddr publicKey : Text} {target : OnionTarget}
    {history : List (Routine.Answered Call.Answer)} {result : Except Fault Text}
    (hparse : parseOnionAddress address = .ok (some target))
    (ht : Routine.Trace (Dial.connectToInviteAddress rounds address torSocksAddr true >>= fun _ =>
      cloneThenExpect publicKey) history (.ofExcept result)) :
    ∃ errors, Joining torSocksAddr target history errors result ∧ errors.length ≤ rounds ∧
      (result.isOk → errors.length < rounds) := by
  rw [connectToInviteAddress_onion hparse] at ht
  obtain ⟨answer, calls, rfl, hrest⟩ := Routine.trace_call_end_iff.1 ht
  rcases Routine.trace_bind_iff.1 hrest with
    ⟨_, before, after, rfl, hdial, hafter⟩ | ⟨fault, hdial, rfl⟩
  · obtain ⟨errors, hdialing, hlength, hconnected⟩ :=
      dialing_of_trace (show Routine.Trace _ _ (.ofExcept (.ok ())) from hdial)
    obtain ⟨cloned, rest, rfl, hdone⟩ := Routine.trace_call_end_iff.1 hafter
    obtain rfl : rest = [] := by
      cases cloned with
      | ok _ => exact (Routine.trace_done_end_iff.1 hdone).1
      | error message => exact (Routine.trace_fail_end_iff.1 hdone).1
    exact ⟨errors, .reached hdialing hafter, hlength, fun _ => hconnected rfl⟩
  · obtain ⟨errors, hdialing, hlength, -⟩ :=
      dialing_of_trace (show Routine.Trace _ _ (.ofExcept (.error fault)) from hdial)
    exact ⟨errors, .unreached hdialing, hlength, nofun⟩

/-- What a joiner's thread does before the handshake: it reports nothing where its invite has no
onion address, and dials over Tor where it has one. -/
theorem joining_of_trace {C : Crates} {J : SerdeJson} {rounds : ℕ}
    {inviteText torSocksAddr : Text} {history : List (Routine.Answered Call.Answer)}
    {result : Except Fault Text}
    (ht : Routine.Trace (Dial.joinNetwork C J rounds inviteText torSocksAddr) history
      (.ofExcept result)) :
    (¬ ∃ target, OnionInvite C J inviteText target) ∧ emitted history = [] ∨
      ∃ target errors, OnionInvite C J inviteText target ∧
        Joining torSocksAddr target history errors result ∧ errors.length ≤ rounds ∧
        (result.isOk → errors.length < rounds) := by
  rcases joinNetwork_eq C J rounds inviteText torSocksAddr with
    ⟨hnone, fault, heq⟩ | ⟨publicKey, address, hinvite, heq⟩
  · rw [heq] at ht
    obtain ⟨rfl, -⟩ := Routine.trace_fail_end_iff.1 ht
    exact Or.inl ⟨hnone, rfl⟩
  · rw [heq] at ht
    by_cases honion : ∃ target, parseOnionAddress address = .ok (some target)
    · obtain ⟨target, hparse⟩ := honion
      obtain ⟨errors, hjoining⟩ := joining_of_onion hparse ht
      exact Or.inr ⟨target, errors, (hinvite target).2 hparse, hjoining⟩
    · refine Or.inl ⟨fun ⟨target, h⟩ => honion ⟨target, (hinvite target).1 h⟩, ?_⟩
      have hclone : (cloneThenExpect publicKey).All Silent :=
        ⟨trivial, fun answer => (all_orContext _ answer).bind fun _ => trivial⟩
      have hdial : (Dial.connectToInviteAddress rounds address torSocksAddr true).All Silent :=
        connectToInviteAddress_silent fun target hparse => honion ⟨target, hparse⟩
      exact emitted_of_silent (hdial.bind fun _ => hclone) ht

/-- For every invite text and every outside whose clock never goes back and whose sleeps last: the
loop of the joiner's dialing looks at the clock no more often than its time allows, so it comes to
its end where every call of it is answered. Whatever it comes to, it comes to without the clock by
at most 90 attempts. It has reported nothing where the invite has no onion address; where it has
one, it has reported that it dials over Tor, and then its failed attempts, numbered from 1 on, each
with the error that its conversation with the proxy ended in. -/
theorem join_by_the_clock (C : Crates) (J : SerdeJson)
    (outside : Lts σ (Routine.Answered Call.Answer)) (spare : ℕ) (inviteText torSocksAddr : Text)
    (s : σ × ℕ) :
    Routine.InRounds outside (Clock.joinNetwork C J (91 + spare) inviteText torSocksAddr) s ∧
    ∀ history result t,
      Routine.Trace (Clock.joinNetwork C J (91 + spare) inviteText torSocksAddr) history
        (.ofExcept result) → (Routine.clocked outside).Run s history t →
      (∃ rounds ≤ 90, Routine.Trace (Dial.joinNetwork C J rounds inviteText torSocksAddr)
        (withoutClock history) (.ofExcept result)) ∧
      ((¬ ∃ target, OnionInvite C J inviteText target) ∧ emitted (withoutClock history) = [] ∨
        ∃ target errors, OnionInvite C J inviteText target ∧
          Joining torSocksAddr target (withoutClock history) errors result ∧
          errors.length ≤ 90 ∧ (result.isOk → errors.length < 90) ∧
          emitted (withoutClock history) =
            .status "Tor uzerinden onion adresine baglaniyor".toList :: retryStatuses 1 errors) := by
  refine ⟨Clock.joinNetwork_inRounds C J spare inviteText torSocksAddr, ?_⟩
  intro history result t ht hrun
  obtain ⟨rounds, hrounds, htrace⟩ := Clock.joinNetwork_untimed ht hrun
  refine ⟨⟨rounds, hrounds, htrace⟩, ?_⟩
  rcases joining_of_trace htrace with
    hquiet | ⟨target, errors, hinvite, hjoining, hlength, hconnected⟩
  · exact Or.inl hquiet
  · exact Or.inr ⟨target, errors, hinvite, hjoining, hlength.trans hrounds,
      fun hresult => (hconnected hresult).trans_le hrounds, hjoining.emitted_eq⟩

end Join

/-- By the clock, too, a joiner of an invite whose one address is that of an onion host dials it. -/
theorem Clock.joinNetwork_onion {C : Crates} {J : SerdeJson} {text host : Text} {port : UInt16}
    (hhost : ".onion".toList <:+: host) {invite : Invite Text}
    (hdecode : inviteDecode C J text = .ok invite)
    (haddress : invite.addresses = ["onion://".toList ++ host ++ ':' :: decimal port.toNat])
    (looks : ℕ) (torSocksAddr : Text) : Clock.joinNetwork C J looks text torSocksAddr = (do
      (emit true (.status "Tor uzerinden onion adresine baglaniyor".toList)).timed
      Clock.connectViaSocks5WithRetry looks torSocksAddr host port 180 (reportRetry true)
      (cloneThenExpect invite.publicKey).timed) := by
  have hinvite : decodeInvite C J "davet linki okunamadi".toList text = .done invite := by
    rw [decodeInvite, hdecode]
  have hfirst : firstAddress "davet linkinde adres yok".toList invite =
      .done ("onion://".toList ++ host ++ ':' :: decimal port.toNat) := by
    rw [firstAddress, haddress]
  unfold Clock.joinNetwork
  rw [hinvite]
  show (firstAddress "davet linkinde adres yok".toList invite).timed >>= (fun address =>
    Clock.connectToInviteAddress looks address torSocksAddr true >>= fun _ =>
      (cloneThenExpect invite.publicKey).timed) = _
  rw [hfirst]
  show Clock.connectToInviteAddress _ _ _ _ >>= _ = _
  unfold Clock.connectToInviteAddress
  rw [parseOnionAddress_onion hhost port]
  rfl

/-- What the first attempt of the dialing below ends in. -/
def unlistened : Text := "Tor SOCKS adresine baglanilamadi: 127.0.0.1:9150".toList

/-- A read that returns these bytes. -/
def readsOff (bytes : Bytes) : Routine.Answered (Timed.Answer Call.Answer) :=
  ⟨.call (.readExact bytes.length), .ok ⟨bytes, rfl⟩⟩

/-- The calls of a joiner whose proxy does not listen yet when it is dialed first, and grants the
connection two seconds later. -/
def secondAttempt : List (Routine.Answered (Timed.Answer Call.Answer)) :=
  [⟨.call (.emit (.status "Tor uzerinden onion adresine baglaniyor".toList)), ()⟩,
    ⟨.now, (0 : ℕ)⟩, ⟨.now, (0 : ℕ)⟩,
    ⟨.call (.connect .proxy "127.0.0.1:9150".toList), .error "refused".toList⟩,
    ⟨.call (.emit (retryStatus 1 unlistened)), ()⟩, ⟨.sleep 2000, ()⟩, ⟨.now, (2000 : ℕ)⟩,
    ⟨.call (.connect .proxy "127.0.0.1:9150".toList), .ok ()⟩,
    ⟨.call (.writeAll Socks5.greeting), .ok ()⟩, readsOff Socks5.noAuthentication,
    ⟨.call (.writeAll (connectRequest "a2.onion".toList 45123)), .ok ()⟩, readsOff [5, 0, 0, 1],
    readsOff (List.replicate 6 0), ⟨.call .tryClone, .ok ()⟩]

/-- It makes these calls by the clock. -/
theorem trace_secondAttempt : Routine.Trace (Clock.joinNetwork Crates.transparent SerdeJson.records
    91 onionText "127.0.0.1:9150".toList) secondAttempt
      (.ofExcept (.ok onionInvite.publicKey)) := by
  have hdecode : inviteDecode Crates.transparent SerdeJson.records onionText = .ok onionInvite :=
    inviteDecode_encode Crates.transparent (inviteEncode_eq onionInvite)
  have hhost : ".onion".toList <:+: "a2.onion".toList :=
    (List.suffix_append "a2".toList ".onion".toList).isInfix
  have haddress : onionInvite.addresses = ["onion://".toList ++ "a2.onion".toList ++
    ':' :: decimal (45123 : UInt16).toNat] := rfl
  rw [Clock.joinNetwork_onion hhost hdecode haddress]
  exact .call (.call (.call (.call (.call (.call (.call (.call (.call (.call (.call (.call (.call
    (.call (.nil _))))))))))))))

/-- A proxy that listens from the second time on that it is dialed, and has this to send. -/
def lateProxy : (c : Call) → ℕ × Stream → Option (c.Answer × (ℕ × Stream))
  | .connect .proxy _, (0, stream) => some (.error "refused".toList, (1, stream))
  | .emit _, s => some ((), s)
  | .tryClone, s => some (.ok (), s)
  | c, (dials, stream) => (Stream.answers c stream).map fun p => (p.1, (dials, p.2))

/-- The proxy answers these calls so. -/
theorem run_secondAttempt : (Routine.clocked (Routine.answering lateProxy)).Run
    ((0, ⟨[5, 0, 5, 0, 0, 1] ++ List.replicate 6 0, []⟩), 0) secondAttempt
    ((1, ⟨[], Socks5.greeting ++ connectRequest "a2.onion".toList 45123⟩), 2000) := by
  have hrun : (Routine.answering (Routine.ticking lateProxy)).Run
      ((0, ⟨[5, 0, 5, 0, 0, 1] ++ List.replicate 6 0, []⟩), 0) secondAttempt
      ((1, ⟨[], Socks5.greeting ++ connectRequest "a2.onion".toList 45123⟩), 2000) :=
    .cons rfl (.cons rfl (.cons rfl (.cons rfl (.cons rfl (.cons rfl (.cons rfl (.cons rfl (.cons rfl
      (.cons rfl (.cons rfl (.cons rfl (.cons rfl (.single rfl)))))))))))))
  exact hrun.mono fun _ _ _ => Routine.clocked_of_ticking

/-- Against that proxy the joiner has reported one failed attempt, with the error of its
conversation. -/
theorem join_by_the_clock_second_attempt :
    emitted (withoutClock secondAttempt) =
      [.status "Tor uzerinden onion adresine baglaniyor".toList, retryStatus 1 unlistened] ∧
    ∃ target errors, OnionInvite Crates.transparent SerdeJson.records onionText target ∧
      Joining "127.0.0.1:9150".toList target (withoutClock secondAttempt) errors
        (.ok onionInvite.publicKey) ∧ errors.length < 90 := by
  obtain ⟨-, hall⟩ := join_by_the_clock Crates.transparent SerdeJson.records
    (Routine.answering lateProxy) 0 onionText "127.0.0.1:9150".toList
    ((0, ⟨[5, 0, 5, 0, 0, 1] ++ List.replicate 6 0, []⟩), 0)
  obtain ⟨-, hquiet | ⟨target, errors, honion, hjoining, -, hconnected, -⟩⟩ :=
    hall _ _ _ trace_secondAttempt run_secondAttempt
  · cases hquiet.2
  · exact ⟨rfl, target, errors, honion, hjoining, hconnected rfl⟩

end Fauna.Dial
