import Fauna.Desktop.Shown

/-!
# Sending after the end of a session

`outbound.send` fails once the thread of `run_session` is past its send loop, which alone owns the
receiver of that channel. An `Error` is emitted after the thread is (`Ended.of_reachable`); a
`Disconnected` comes from the receive thread and says nothing about the send loop, which waits for
the next line. So after the end of a session nothing is shown as sent as long as no draft is sent
while the send loop still runs (`nothing_sent_after_end`), and a draft that is sent after a
`Disconnected` is shown as sent (`sent_after_disconnected`).
-/

namespace Fauna.Desktop

open Fauna.Lib Fauna.Core Fauna.Wire Fauna.Net FaunaApp

variable {C : Crates} {J : SerdeJson}

/-- A `Disconnected` or an `Error` of the connection has been handled. -/
def EndSeen (handled : List NetworkEvent) : Prop :=
  (∃ reason, .disconnected reason ∈ handled) ∨ ∃ message, .error message ∈ handled

/-- Nothing is shown as sent: the draft stays, no line of the user appears, and a draft that is not
blank is reported by the system. -/
structure NothingSent (app app' : FaunaApp) : Prop where
  draft : app'.draftMessage = app.draftMessage
  lines : linesOf .ofLocal app'.messages = linesOf .ofLocal app.messages
  report : trim app.draftMessage ≠ [] → ∃ report, app'.messages = app.messages ++ [⟨.ofSystem, report⟩]

/-- A draft that is sent after the end is blank, or the end was an `Error`, or the session thread
has left its send loop. -/
def SendsNoMore (world : World C) : Prop :=
  trim world.app.draftMessage = [] ∨ (∃ message, .error message ∈ world.handled) ∨
    ∀ session, world.session = some session → session.live = false

/-- Every draft that is sent after the end is one of these. -/
def NoMoreAfterEnd (world : World C) (act : Act C) : Prop :=
  act = .sendMessage → EndSeen world.handled → SendsNoMore world

/-! ## An error comes after the send loop -/

/-- A step that emits an `Error` ends the main thread. -/
theorem Change.error_events {s s' : Session C} {l : Label C} {bytes : Bytes}
    (h : Net.Change J s l s' bytes) {message : Text} (hmem : .error message ∈ s'.events) :
    .error message ∈ s.events ∨ s'.main = .ended := by
  have hmoved {t : Session C} (ht : s.Moved t) (hmem : .error message ∈ t.events) :
      .error message ∈ s.events := by
    obtain ⟨main, receiver, queue, rfl⟩ := ht
    exact hmem
  have htaken {t : Session C} {line rest : Bytes} (ht : Taken J s line rest t)
      (hmem : .error message ∈ t.events) : .error message ∈ s.events := by
    cases ht with
    | refused => exact hmoved (s.fail_moved _) hmem
    | broken => exact hmem
    | accepted => simpa [Session.accept] using hmem
    | reported => simpa [Session.report] using hmem
  cases h with
  | concluded => exact Or.inr rfl
  | exited => exact Or.inr rfl
  | announced hmain hevent =>
      left
      rcases hevent with ⟨text, rfl⟩ | ⟨text, rfl⟩ <;> simpa using hmem
  | @stopped fault =>
      left
      cases hprogram : s.config.program <;> cases fault <;>
        simpa [hprogram, receiverEvents, endEvents] using hmem
  | unsealed => exact Or.inl (hmoved (s.fail_moved _) hmem)
  | filled => exact Or.inl (hmoved (s.refill_moved _) hmem)
  | unread => exact Or.inl (hmoved (s.readFails_moved _) hmem)
  | read hreading | readLast hreading => exact Or.inl (htaken (.of_onLine hreading _ _) hmem)
  | typed | closed | lostInput | connected | unconnected | greeted | ungreeted | skipped | wrote |
    unsent | finished => exact Or.inl hmem

/-- Where an `Error` was emitted, the session thread has ended. -/
def Ended (world : World C) : Prop :=
  ∀ session, world.session = some session → ∀ message,
    .error message ∈ world.handled ++ session.events → session.main = .ended

/-- Every change keeps it so. -/
theorem Ended.step {world world' : World C} {act : Act C} (h : Ended world)
    (hchange : World.Change J world act world') : Ended world' := by
  intro session hsession message hmem
  cases hchange with
  | edited | refused => exact h session hsession message hmem
  | installed =>
      obtain rfl := Option.some.inj hsession
      cases hmem
  | sent =>
      obtain ⟨old, hold, rfl⟩ := Option.map_eq_some_iff.1 hsession
      have hsame : (submit old (world.app.sendMessage (world.session.any Session.live)).2).events =
          old.events ∧ (submit old (world.app.sendMessage
            (world.session.any Session.live)).2).main = old.main := by
        unfold submit
        split <;> exact ⟨rfl, rfl⟩
      rw [hsame.2]
      exact h old hold message (hsame.1 ▸ hmem)
  | drained =>
      obtain ⟨old, hold, rfl⟩ := Option.map_eq_some_iff.1 hsession
      exact h old hold message (by simpa [hold] using hmem)
  | @stepped old session' label bytes hold hlabel hchange =>
      obtain rfl := Option.some.inj hsession
      rcases List.mem_append.1 hmem with hmem | hmem
      · exact Change.main_ended hchange (h old hold message (List.mem_append_left _ hmem))
      · rcases Change.error_events hchange hmem with hmem | hended
        · exact Change.main_ended hchange (h old hold message (List.mem_append_right _ hmem))
        · exact hended

/-- Whenever an `Error` was emitted, the session thread has ended. -/
theorem Ended.of_reachable {world : World C} (h : (desktop C J).Reachable world) : Ended world := by
  refine h.invariant ?_ fun world act world' hended hstep => hended.step (World.step_cases hstep)
  rintro world rfl session hsession
  cases hsession

/-! ## What is shown as sent -/

/-- Sending shows nothing as sent exactly when the draft is blank or the channel has lost its
receiver. -/
theorem World.nothingSent_iff {world : World C} (h : world.Linked) :
    NothingSent world.app (world.app.sendMessage (world.session.any Session.live)).1 ↔
      trim world.app.draftMessage = [] ∨
        ∀ session, world.session = some session → session.live = false := by
  have halive : (∀ session, world.session = some session → session.live = false) ↔
      world.session.any Session.live = false := by
    cases world.session <;> simp
  rw [halive]
  rcases world.app.sendMessage_cases (world.session.any Session.live) with
    ⟨hblank, hsend⟩ | ⟨hbody, hdead, report, hsend⟩ | ⟨hbody, -, halive, hsend⟩
  · rw [hsend]
    exact iff_of_true ⟨rfl, rfl, fun hbody => absurd hblank hbody⟩ (Or.inl hblank)
  · rw [hsend]
    refine iff_of_true ⟨rfl, ?_, fun _ => ⟨report, rfl⟩⟩ (Or.inr ?_)
    · show linesOf .ofLocal (world.app.messages ++ [⟨.ofSystem, report⟩]) = _
      simp [linesOf]
    · rcases hdead with hnone | hdead
      · rw [h.connected.1 hnone]
        rfl
      · exact hdead
  · rw [hsend, halive]
    refine iff_of_false (fun hnothing => ?_) (by simp [hbody])
    have hlines := hnothing.lines
    rw [linesOf_append] at hlines
    simp [linesOf] at hlines

/-- Under any of the three conditions nothing is sent. -/
theorem SendsNoMore.nothingSent {world : World C} (hlinked : world.Linked) (hended : Ended world)
    (h : SendsNoMore world) :
    NothingSent world.app (world.app.sendMessage (world.session.any Session.live)).1 := by
  rw [World.nothingSent_iff hlinked]
  rcases h with hblank | ⟨message, hmem⟩ | hdead
  · exact Or.inl hblank
  · refine Or.inr fun session hsession => ?_
    have hmain := hended session hsession message (List.mem_append_left _ hmem)
    simp [Session.live, hmain]
  · exact Or.inr hdead

/-- A step after the end that installs no new connection shows nothing as sent. -/
theorem lines_of_step {world world' : World C} {act : Act C} (hlinked : world.Linked)
    (hended : Ended world) (hseen : EndSeen world.handled) (hkeep : NoMoreAfterEnd world act)
    (hchange : World.Change J world act world') :
    world'.started = world.started + 1 ∨ world'.started = world.started ∧
      linesOf .ofLocal world'.app.messages = linesOf .ofLocal world.app.messages ∧
      EndSeen world'.handled := by
  cases hchange with
  | installed => exact Or.inl rfl
  | edited => exact Or.inr ⟨rfl, rfl, hseen⟩
  | refused hstarts happ =>
      obtain ⟨lines, hlines, hsystem⟩ := happ.messages
      have hlocal : linesOf .ofLocal lines = [] := linesOf_system hsystem (by decide)
      refine Or.inr ⟨rfl, ?_, hseen⟩
      rw [hlines, linesOf_append, hlocal, List.append_nil]
  | sent => exact Or.inr ⟨rfl, ((hkeep rfl hseen).nothingSent hlinked hended).lines, hseen⟩
  | drained =>
      refine Or.inr ⟨rfl, ?_, ?_⟩
      · by_cases hconnection : world.app.connection = none
        · simp [drainNetworkEvents, hconnection]
        · obtain ⟨lines, hlines, -, hlocal⟩ := drainNetworkEvents_messages hconnection
            ((world.session.map Session.events).getD [])
          rw [hlines, linesOf_append, hlocal, List.append_nil]
      · rcases hseen with ⟨reason, hmem⟩ | ⟨message, hmem⟩
        · exact Or.inl ⟨reason, List.mem_append_left _ hmem⟩
        · exact Or.inr ⟨message, List.mem_append_left _ hmem⟩
  | stepped => exact Or.inr ⟨rfl, rfl, hseen⟩

/-- No step takes a connection back. -/
theorem World.Change.started_le {world world' : World C} {act : Act C}
    (h : World.Change J world act world') : world.started ≤ world'.started := by
  cases h with
  | installed => exact Nat.le_succ _
  | edited | refused | sent | drained | stepped => exact Nat.le_refl _

/-- Nor does a run. -/
theorem started_le_of_run {keep : World C → Act C → Prop} {world world' : World C}
    {acts : List (Act C)} (h : ((desktop C J).restrict keep).Run world acts world') :
    world.started ≤ world'.started := by
  induction h with
  | nil => exact Nat.le_refl _
  | cons hstep _ ih => exact (World.step_cases hstep.2).started_le.trans ih

/-- In every run in which a draft that is sent after the end of the connection is blank, or the end
was an `Error`, or the session thread has left its send loop: once a `Disconnected` or an `Error`
has been handled, `send_message` shows nothing as sent, and until a new connection is installed no
line of the user appears at all. A draft that is sent after the end under other circumstances is
shown as sent. -/
theorem nothing_sent_after_end :
    (∀ world, ((desktop C J).restrict NoMoreAfterEnd).Reachable world → EndSeen world.handled →
      (∀ world', ((desktop C J).restrict NoMoreAfterEnd).step world .sendMessage world' →
        NothingSent world.app world'.app) ∧
      ∀ acts world', ((desktop C J).restrict NoMoreAfterEnd).Run world acts world' →
        world'.started = world.started →
        linesOf .ofLocal world'.app.messages = linesOf .ofLocal world.app.messages) ∧
    ∀ world world', (desktop C J).Reachable world → (desktop C J).step world .sendMessage world' →
      ¬ NoMoreAfterEnd world .sendMessage → ¬ NothingSent world.app world'.app := by
  refine ⟨fun world h hseen => ⟨?_, ?_⟩, ?_⟩
  · rintro world' ⟨hkeep, hstep⟩
    obtain rfl := Option.some.inj hstep
    exact (hkeep rfl hseen).nothingSent (.of_reachable h.of_restrict) (.of_reachable h.of_restrict)
  · intro acts world' hrun hstarted
    induction hrun with
    | nil => rfl
    | cons hstep hrest ih =>
        have hchange := World.step_cases hstep.2
        have hle := started_le_of_run hrest
        rcases lines_of_step (.of_reachable h.of_restrict) (.of_reachable h.of_restrict) hseen hstep.1
          hchange with hnew | ⟨hsame, hlines, hseen'⟩
        · omega
        · rw [← hlines]
          exact ih (h.step hstep) hseen' (hstarted.trans hsame.symm)
  · intro world world' h hstep hkeep hnothing
    obtain rfl := Option.some.inj hstep
    apply hkeep
    intro _ _
    rcases (World.nothingSent_iff (.of_reachable h)).1 hnothing with hblank | hdead
    · exact Or.inl hblank
    · exact Or.inr (Or.inr hdead)

/-- Nobody could be accepted, and the window handles that. -/
def failActs : List (Act Crates.transparent) :=
  [.network (.failConnect "baglanti kabul edilemedi".toList), .network .finishMain,
    .drainNetworkEvents]

/-- The window after that, with a draft that the user has typed since. -/
def failedApp : FaunaApp :=
  { hosting.app.drainNetworkEvents [.error "baglanti kabul edilemedi".toList] with
    draftMessage := "a".toList }

/-- The app then: the session thread has returned its error. -/
def failed : World Crates.transparent :=
  ⟨failedApp, some { Session.new windowConfig .ended with events := [] }, 1,
    [.error "baglanti kabul edilemedi".toList]⟩

/-- A host whose listener fails reports an `Error`. -/
theorem run_fails : (desktop Crates.transparent SerdeJson.records).Run World.new
    (.startHost torStarts windowConfig :: (failActs ++ [.edit failedApp])) failed :=
  .cons step_hosting (.cons rfl (.cons rfl (.cons rfl (.single rfl))))

/-- The draft is sent after an `Error`: it stays, and is reported. -/
theorem nothing_sent_after_end_failed : trim failed.app.draftMessage = "a".toList ∧
    NothingSent failed.app (failed.app.sendMessage false).1 := by
  have hkeep (world : World Crates.transparent) (act : Act Crates.transparent)
      (h : act ≠ .sendMessage) : NoMoreAfterEnd world act := fun hsend => absurd hsend h
  have hrun := run_fails.to_restrict (show ∀ act ∈ _, act ≠ Act.sendMessage by simp [failActs])
  have hfailed : ((desktop Crates.transparent SerdeJson.records).restrict NoMoreAfterEnd).Reachable
      failed := ⟨World.new, _, rfl, hrun.weaken hkeep⟩
  have hseen : .error "baglanti kabul edilemedi".toList ∈ failed.handled := List.mem_cons_self
  have hstep : failed.step SerdeJson.records .sendMessage =
      some { failed with app := (failed.app.sendMessage false).1 } := by rfl
  exact ⟨by decide, (nothing_sent_after_end.1 _ hfailed (Or.inr ⟨_, hseen⟩)).1 _
    ⟨fun _ _ => Or.inr (Or.inl ⟨_, hseen⟩), hstep⟩⟩

/-! ## A message after `Disconnected` -/

/-- The peer closes the stream, and the window handles that. -/
def leaveActs : List (Act Crates.transparent) :=
  [.network .readEnd, .network .finishReceiver, .drainNetworkEvents]

/-- The window after that. -/
def leftApp : FaunaApp :=
  hostedApp.drainNetworkEvents [.disconnected "karsi taraf baglantiyi kapatti".toList]

/-- The app after that: the session thread is still in its send loop. -/
def left (key : SessionKey Crates.transparent.primitives) : World Crates.transparent :=
  ⟨leftApp, some { established windowConfig peerHello key with receiver := .ended, events := [] }, 1,
    [.connected "p".toList, .disconnected "karsi taraf baglantiyi kapatti".toList]⟩

/-- The peer leaves, and the receive thread reports `Disconnected`. -/
theorem run_leaves (key : SessionKey Crates.transparent.primitives) :
    (desktop Crates.transparent SerdeJson.records).Run (hosted key) leaveActs (left key) := by
  have hread : (hosted key).step SerdeJson.records (.network .readEnd) = some { hosted key with
      session := some { established windowConfig peerHello key with
        receiver := .returned (closed .desktop), events := [] } } := by rfl
  have hfinish : World.step SerdeJson.records { hosted key with
      session := some { established windowConfig peerHello key with
        receiver := .returned (closed .desktop), events := [] } } (.network .finishReceiver) =
      some { hosted key with
        session := some { established windowConfig peerHello key with
          receiver := .ended
          events := [.disconnected "karsi taraf baglantiyi kapatti".toList] } } := by rfl
  have hdrain : World.step SerdeJson.records { hosted key with
      session := some { established windowConfig peerHello key with
        receiver := .ended
        events := [.disconnected "karsi taraf baglantiyi kapatti".toList] } } .drainNetworkEvents =
      some (left key) := by rfl
  exact .cons hread (.cons hfinish (.single hdrain))

/-- That state is reached without sending anything. -/
theorem run_left {key : SessionKey Crates.transparent.primitives}
    (hkey : establish windowConfig.program windowConfig.exchange windowConfig.expected peerHello =
      .ok key) : ((desktop Crates.transparent SerdeJson.records).restrict
        fun _ act => act ≠ .sendMessage).Reachable (left key) := by
  have hrun : (desktop Crates.transparent SerdeJson.records).Run World.new
      (.startHost torStarts windowConfig :: (joinActs ++ leaveActs)) (left key) :=
    .cons step_hosting ((run_joins hkey).append (run_leaves key))
  exact ⟨World.new, _, rfl, hrun.to_restrict (by simp [joinActs, leaveActs])⟩

/-- The peer closes its end, the window handles the `Disconnected`, and what the user sends then is
shown as sent. -/
theorem sent_after_disconnected :
    ¬ ∀ (C : Crates) (J : SerdeJson) (world world' : World C), (desktop C J).Reachable world →
      EndSeen world.handled → (desktop C J).step world .sendMessage world' →
      NothingSent world.app world'.app := by
  intro h
  obtain ⟨key, hkey⟩ := exists_peerKey
  let typed : World Crates.transparent :=
    { left key with app := leftApp.edit { leftApp with draftMessage := "a".toList } }
  have hedit : (left key).step SerdeJson.records
      (.edit { leftApp with draftMessage := "a".toList }) = some typed := by rfl
  have hsend : typed.step SerdeJson.records .sendMessage = some { typed with
      app := (typed.app.sendMessage true).1
      session := typed.session.map fun session => submit session (some "a".toList) } := by rfl
  have hnothing := h _ _ _ _ ((run_left hkey).of_restrict.step hedit)
    (Or.inl ⟨_, List.mem_cons_of_mem _ List.mem_cons_self⟩) hsend
  have hdraft : [] = "a".toList := hnothing.draft
  exact absurd hdraft (by decide)

end Fauna.Desktop
