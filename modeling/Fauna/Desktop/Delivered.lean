import Fauna.Desktop.Chat

/-!
# Both windows show every line

Two windows that are joined by one session over a reliable stream. What the windows do with the
session (queueing a line, taking its events, dropping their handle) keeps what the two ends keep
(`Link.Steady.put`), so where their threads come to rest everything typed has been reported, and the
next frame of a window that still holds the session shows all of it. That the other window has
replaced its connection in the meantime loses nothing.

* `windows_show_every_line`: the result for every run.
-/

namespace Fauna.Desktop

open Fauna.Lib Fauna.Core Fauna.Wire Fauna.Net FaunaApp

variable {C : Crates} {J : SerdeJson} {handle : Side → ConnectionHandle}
  {config : Side → Config C}

/-- The step leaves the connection and the processes up, and comes to a connection. -/
def ChatAct.orderly : ChatAct C → Prop
  | .network move => move.orderly
  | _ => True

/-- A step that some thread takes by itself. -/
def ChatAct.internal : ChatAct C → Prop
  | .network move => move.internal
  | _ => False

variable (J handle config) in
/-- The chats of two desktop apps over a reliable stream. -/
def orderlyChats : Lts (Chat C) (ChatAct C) where
  init chat := chat.Begins handle ∧ chat.link = Link.new config .preparing
  step := ((chats C J handle).restrict fun _ act => act.orderly).step

/-! ## The invariant -/

variable (J config) in
/-- What the windows have appended fits to what the ends have taken and reported, and the ends are
those of a reliable stream. -/
structure Chat.Steady (chat : Chat C) : Prop where
  sound : chat.Sound J
  link : chat.link.Steady J config

/-- A start button keeps the chat steady. -/
theorem Chat.Steady.restarted {chat : Chat C} (h : chat.Steady J config) (side : Side)
    (app : FaunaApp) : (chat.restarted handle side app).Steady J config := by
  refine ⟨h.sound.restarted side app, ?_⟩
  have hrestarted : (chat.restarted handle side app).Sound J := h.sound.restarted side app
  have hsound := hrestarted.link
  unfold Chat.restarted at hsound ⊢
  split
  · next hreplaced =>
    rw [if_pos hreplaced] at hsound
    exact h.link.put side hsound rfl rfl rfl rfl rfl rfl rfl (h.link.complete side)
  · exact h.link

/-- Sending a line keeps the chat steady. -/
theorem Chat.Steady.sendMessage {chat : Chat C} (h : chat.Steady J config) (side : Side) :
    (chat.through side ((chat.app side).sendMessage (chat.link.session side).live).1
      (submit (chat.link.session side)
        ((chat.app side).sendMessage (chat.link.session side).live).2)).Steady J config := by
  have hsound := h.sound.sendMessage side
  refine ⟨hsound, ?_⟩
  obtain ⟨-, -, -, -, halive⟩ := sendMessage_lines (chat.link.session side).live (chat.app side)
  cases hqueued : ((chat.app side).sendMessage (chat.link.session side).live).2 with
  | none =>
      rw [hqueued] at hsound
      exact h.link.put side hsound.link rfl rfl rfl rfl rfl rfl rfl (h.link.complete side)
  | some body =>
      rw [hqueued] at hsound
      have hlive := halive (by rw [hqueued]; simp)
      exact h.link.put side hsound.link rfl rfl rfl rfl rfl rfl rfl
        fun hended => absurd (hlive.symm.trans hended) (by simp)

/-- Every orderly step keeps the chat steady. -/
theorem Chat.Steady.step (hinvited : Invited J config) (hseals : Seals C) {chat chat' : Chat C}
    {act : ChatAct C} (h : chat.Steady J config) (horderly : act.orderly)
    (hstep : chat.step J handle act = some chat') : chat'.Steady J config := by
  cases act with
  | edit side fields =>
      obtain rfl := Option.some.inj hstep
      exact ⟨h.sound.apart side _, h.link⟩
  | startHost side startManagedTor next | startJoin side startManagedTor next =>
      simp only [Chat.step, Option.ite_none_left_eq_some] at hstep
      obtain ⟨-, hstep⟩ := hstep
      obtain rfl := Option.some.inj hstep
      exact h.restarted side _
  | sendMessage side receiverAlive =>
      simp only [Chat.step] at hstep
      split_ifs at hstep with hjoined
      · obtain rfl := Option.some.inj hstep
        exact h.sendMessage side
      · obtain rfl := Option.some.inj hstep
        exact ⟨h.sound.apart side _, h.link⟩
  | drainNetworkEvents side events =>
      simp only [Chat.step] at hstep
      split_ifs at hstep with hjoined
      · obtain rfl := Option.some.inj hstep
        have hsound := h.sound.drain hjoined
        exact ⟨hsound, h.link.put side hsound.link rfl rfl rfl rfl rfl rfl rfl
          (h.link.complete side)⟩
      · obtain rfl := Option.some.inj hstep
        exact ⟨h.sound.apart side _, h.link⟩
  | network move =>
      have hsound := h.sound.step hstep
      simp only [Chat.step, Option.ite_none_right_eq_some] at hstep
      obtain ⟨-, hstep⟩ := hstep
      obtain ⟨link, hlink, rfl⟩ := Option.map_eq_some_iff.1 hstep
      exact ⟨hsound, h.link.step hinvited hseals horderly hlink⟩

/-- Over a reliable stream every reachable chat is steady. -/
theorem Chat.Steady.of_reachable (hinvited : Invited J config) (hseals : Seals C) {chat : Chat C}
    (h : (orderlyChats J handle config).Reachable chat) : chat.Steady J config := by
  refine h.invariant ?_ fun chat act chat' hsteady hstep =>
    hsteady.step hinvited hseals hstep.1 hstep.2
  rintro chat ⟨hbegins, hlink⟩
  refine ⟨hbegins.sound, ?_⟩
  rw [hlink]
  exact .new config

/-! ## Where the threads come to rest -/

/-- A step of the threads is one of the connection. -/
theorem Chat.step_internal {chat chat' : Chat C} {act : ChatAct C} (hinternal : act.internal)
    (hstep : chat.step J handle act = some chat') : ∃ move, move.internal ∧
      chat.link.step J move = some chat'.link ∧ chat' = { chat with link := chat'.link } := by
  cases act with
  | network move =>
      simp only [Chat.step, Option.ite_none_right_eq_some] at hstep
      obtain ⟨-, hstep⟩ := hstep
      obtain ⟨link, hlink, rfl⟩ := Option.map_eq_some_iff.1 hstep
      exact ⟨move, hinternal, hlink, rfl⟩
  | _ => cases hinternal

/-- The threads of a chat cannot go on forever. -/
theorem chats_acc (chat : Chat C) : Acc ((chats C J handle).Internal ChatAct.internal) chat := by
  have hlink := internal_acc (J := J) (fun side => (chat.link.session side).config) .preparing
    chat.link
  refine Subrelation.accessible ?_ (InvImage.accessible Chat.link hlink)
  rintro chat chat' ⟨act, hinternal, hstep⟩
  obtain ⟨move, hmove, hlink, -⟩ := Chat.step_internal hinternal hstep
  exact ⟨move, hmove, hlink⟩

/-- Where the threads of a chat go, those of its session go, and nothing is shown. -/
theorem Chat.run_internal {chat chat' : Chat C} {acts : List (ChatAct C)}
    (hinternal : ∀ act ∈ acts, act.internal) (hrun : (chats C J handle).Run chat acts chat') :
    ∃ moves, (∀ move ∈ moves, move.internal) ∧
      (network J config .preparing).Run chat.link moves chat'.link ∧
      chat' = { chat with link := chat'.link } := by
  induction hrun with
  | nil chat => exact ⟨[], by simp, .nil _, rfl⟩
  | @cons chat middle chat' act acts hstep hrest ih =>
      obtain ⟨moves, hmoves, hlinks, hsame⟩ := ih fun act hact => hinternal act (.tail _ hact)
      obtain ⟨move, hmove, hlink, hsame'⟩ := Chat.step_internal (hinternal act (.head _)) hstep
      refine ⟨move :: moves, ?_, .cons hlink hlinks, ?_⟩
      · intro m hm
        rcases List.mem_cons.1 hm with rfl | hm
        · exact hmove
        · exact hmoves m hm
      · rw [hsame, hsame']

/-- Where no thread of a chat can go on, none of its connection can. -/
theorem Chat.quiescent_link {chat : Chat C}
    (hquiet : (chats C J handle).Quiescent ChatAct.internal chat) :
    (network J config .preparing).Quiescent Move.internal chat.link := by
  intro move hmove ⟨link, hstep⟩
  have hchat : chat.step J handle (.network move) = some { chat with link := link } := by
    have hlink : chat.link.step J move = some link := hstep
    simp only [Chat.step, moveOfThreads_of_internal hmove, if_true, hlink, Option.map_some]
  exact hquiet.not_enabled (a := .network move) hmove hchat

/-- Two windows joined by one session over a reliable stream, in every interleaving and chunking,
whatever is typed, edited and pressed in them. The threads, left alone, come to rest. From where
both ends have their socket: once they rest, the next frame of a window that still holds the session
has shown every line that the other window has sent through it, whether the other one still holds
the session or has started another chat since. -/
theorem windows_show_every_line (hinvited : Invited J config) (hseals : Seals C) {chat : Chat C}
    (h : (orderlyChats J handle config).Reachable chat) :
    Acc ((chats C J handle).Internal ChatAct.internal) chat ∧
      ((∀ side, (chat.link.session side).main ≠ .preparing) → ∀ acts chat',
        (∀ act ∈ acts, act.internal) → (chats C J handle).Run chat acts chat' →
        (chats C J handle).Quiescent ChatAct.internal chat' →
        ∀ side, chat.joined handle side.other → ∀ waiting drained,
          (chats C J handle).step chat' (.drainNetworkEvents side.other waiting) drained →
          linesOf .ofRemote (drained.shown side.other) = linesOf .ofLocal (chat.shown side)) := by
  refine ⟨chats_acc chat, ?_⟩
  intro hconnected acts chat' hinternal hrun hquiet side hjoined waiting drained hstep
  have hsteady := Chat.Steady.of_reachable hinvited hseals h
  obtain ⟨moves, hmoves, hlinks, hsame⟩ : ∃ moves : List (Move C),
      (∀ move ∈ moves, move.internal) ∧
      (network J config .preparing).Run chat.link moves chat'.link ∧
      chat' = { chat with link := chat'.link } := Chat.run_internal hinternal hrun
  have hreported := (hsteady.link.delivered hinvited hseals hconnected hmoves hlinks
    (Chat.quiescent_link hquiet) side).2
  have hkeeps : ∀ (s : Chat C) (act : ChatAct C) (t : Chat C), s.Sound J →
      (chats C J handle).step s act t → t.Sound J := fun s act t hs hst => hs.step hst
  have hsound' := hrun.invariant hkeeps hsteady.sound
  have hjoined' : chat'.joined handle side.other := by
    rw [hsame]
    exact hjoined
  -- the frame takes everything that waits
  have hdrained : chat'.step J handle (.drainNetworkEvents side.other waiting) = some drained :=
    hstep
  simp only [Chat.step, if_pos hjoined', Option.some.injEq] at hdrained
  have hheard := (hsound'.drain hjoined').heard side.other
  rw [hdrained] at hheard
  have hsession : drained.link.session side.other =
      { chat'.link.session side.other with events := [] } := by
    rw [← hdrained]
    exact Link.put_session_self
  rw [hsession] at hheard
  calc linesOf .ofRemote (drained.shown side.other)
      = linesOf .ofRemote (drained.shown side.other) ++ incomings [] := (List.append_nil _).symm
    _ = (chat'.link.session side.other).reported := hheard
    _ = (chat.link.session side).kept (chat.link.session side).submitted := hreported
    _ = (chat.link.session side).submitted := hsteady.sound.kept side _
    _ = linesOf .ofLocal (chat.shown side) := (hsteady.sound.typed side).symm

/-- The two windows come to this state over a reliable stream. -/
theorem connectedChat_reachable : (orderlyChats SerdeJson.records (fun _ => ⟨0⟩)
    (transparentPair (fun _ => .desktop) fun _ => "Kivan".toList)).Reachable connectedChat := by
  refine ⟨pressedChat, [.sendMessage .host true, .network (.act .host .connect),
    .network (.act .joiner .connect)],
    ⟨⟨fun _ => rfl, ⟨_, fun _ => rfl, rfl⟩, fun _ => rfl⟩, rfl⟩, ?_⟩
  exact .cons ⟨trivial, rfl⟩ (.cons ⟨trivial, rfl⟩ (.single ⟨trivial, rfl⟩))

/-- From there the line of the host is shown in the window of the joiner. -/
theorem windows_show_every_line_connected :
    ∃ chat : Chat Crates.transparent, linesOf .ofRemote (chat.shown .joiner) = ["a".toList] := by
  obtain ⟨hacc, hrest⟩ := windows_show_every_line
    (transparentPair_invited (fun _ => .desktop) fun _ => "Kivan".toList) seals_transparent
    connectedChat_reachable
  obtain ⟨acts, chat, hinternal, hrun, hquiet⟩ := Lts.exists_quiescent hacc
  have hconnected : ∀ side, (connectedChat.link.session side).main ≠ .preparing := by
    rintro (side | side) <;> simp [connectedChat, Link.after]
  obtain ⟨drained, hdrained⟩ : ∃ drained, chat.step SerdeJson.records (fun _ => ⟨0⟩)
      (.drainNetworkEvents .joiner []) = some drained := by
    simp only [Chat.step]
    split_ifs <;> exact ⟨_, rfl⟩
  exact ⟨drained, hrest hconnected acts chat hinternal hrun hquiet .host rfl [] drained hdrained⟩

end Fauna.Desktop
