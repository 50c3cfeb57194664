import Fauna.Desktop.World
import Fauna.Net.Handshake

/-!
# The peer the window shows

`peer_name` is set by `Connected` and cleared by `Disconnected`; the start buttons replace the
connection and leave it as it is. So it names the peer of the current connection as long as no
start replaces a connection while a name is shown (`peer_shown_of_connection`), and the name stays
when one does (`old_peer_shown`).
-/

namespace Fauna.Desktop

open Fauna.Lib Fauna.Core Fauna.Wire Fauna.Net

variable {C : Crates} {J : SerdeJson}

/-- The connection has delivered `Connected(p)` and no later `Disconnected`. -/
def PeerOf (handled : List NetworkEvent) (p : Text) : Prop :=
  ∃ before after, handled = before ++ .connected p :: after ∧
    ∀ reason, .disconnected reason ∉ after

/-- The peer that is shown is the peer of the connection. -/
def World.PeerShown (world : World C) : Prop :=
  ∀ p, world.app.peerName = some p → PeerOf world.handled p

variable (J) in
/-- No start replaces the connection while a peer is shown. -/
def StartsUnshown (world : World C) (act : Act C) : Prop :=
  world.starts J act ≠ none → world.app.peerName = none

/-- No start button is pressed. -/
def Act.NoStart : Act C → Prop
  | .startHost _ _ | .startJoin _ _ => False
  | _ => True

/-- Where no start is pressed no peer is replaced. -/
theorem StartsUnshown.of_noStart {act : Act C} (h : act.NoStart) (world : World C) :
    StartsUnshown J world act := by
  intro hstarts
  cases act with
  | startHost | startJoin => cases h
  | _ => exact absurd rfl hstarts

/-- A peer stays that of the connection until `Disconnected` comes. -/
theorem PeerOf.concat {handled : List NetworkEvent} {p : Text} (h : PeerOf handled p)
    {event : NetworkEvent} (hevent : ∀ reason, event ≠ .disconnected reason) :
    PeerOf (handled ++ [event]) p := by
  obtain ⟨before, after, rfl, hafter⟩ := h
  refine ⟨before, after ++ [event], by simp, fun reason hmem => ?_⟩
  rcases List.mem_append.1 hmem with hmem | hmem
  · exact hafter reason hmem
  · exact hevent reason (List.mem_singleton.1 hmem).symm

/-- Handling one event keeps the name that is shown the name of the peer. -/
theorem FaunaApp.peerOf_handle {app : FaunaApp} {handled : List NetworkEvent}
    (h : ∀ p, app.peerName = some p → PeerOf handled p) (event : NetworkEvent) :
    ∀ p, (app.handle event).peerName = some p → PeerOf (handled ++ [event]) p := by
  intro p hp
  cases event with
  | connected q =>
      obtain rfl : q = p := Option.some.inj hp
      exact ⟨handled, [], rfl, fun reason hmem => by cases hmem⟩
  | disconnected reason => cases hp
  | inviteCreated invite =>
      have hsame : (app.handle (.inviteCreated invite)).peerName = app.peerName := by
        unfold FaunaApp.handle
        dsimp only
        split <;> rfl
      exact (h p (hsame.symm.trans hp)).concat nofun
  | status | incoming | error => exact (h p hp).concat nofun

/-- The peer shown after handling events is one that the connection has delivered. -/
theorem FaunaApp.peerOf_foldl {app : FaunaApp} {handled : List NetworkEvent}
    (h : ∀ p, app.peerName = some p → PeerOf handled p) (events : List NetworkEvent) :
    ∀ p, (events.foldl FaunaApp.handle app).peerName = some p → PeerOf (handled ++ events) p := by
  induction events generalizing app handled with
  | nil => simpa using h
  | cons event events ih =>
      have hrest := ih (FaunaApp.peerOf_handle h event)
      rw [List.append_assoc, List.singleton_append] at hrest
      exact hrest

/-- A step that replaces no connection while a peer is shown keeps the peer shown the right one. -/
theorem World.PeerShown.step {world world' : World C} {act : Act C} (h : world.PeerShown)
    (hlinked : world.Linked) (hkeep : StartsUnshown J world act)
    (hchange : World.Change J world act world') : world'.PeerShown := by
  cases hchange with
  | edited fields => exact h
  | refused hstarts happ =>
      intro p hp
      exact h p (happ.peerName ▸ hp)
  | installed hstarts hruns hpeer hconnection =>
      intro p hp
      have hnone := hkeep (by rw [hstarts]; exact nofun)
      cases (hpeer.trans hnone).symm.trans hp
  | sent =>
      intro p hp
      rcases world.app.sendMessage_cases (world.session.any Session.live) with
        ⟨-, hsend⟩ | ⟨-, -, report, hsend⟩ | ⟨-, -, -, hsend⟩
      · rw [hsend] at hp
        exact h p hp
      · rw [hsend] at hp
        exact h p hp
      · rw [hsend] at hp
        exact h p hp
  | drained =>
      intro p hp
      by_cases hconnection : world.app.connection = none
      · have hnone := hlinked.connected.1 hconnection
        simp only [FaunaApp.drainNetworkEvents, hconnection, Option.isNone_none, if_true] at hp
        simpa [hnone] using h p hp
      · rw [FaunaApp.drainNetworkEvents, if_neg (by simpa using hconnection)] at hp
        exact FaunaApp.peerOf_foldl h _ p hp
  | stepped => exact h

/-- In every run in which no start replaces the connection while a peer is shown, the peer that is
shown is the one that the current connection has announced, and not taken back, in every state; a
start that does replace it shows the old peer for the new connection. -/
theorem peer_shown_of_connection :
    (∀ world, ((desktop C J).restrict (StartsUnshown J)).Reachable world → world.PeerShown) ∧
    ∀ world act world', (desktop C J).step world act world' → ¬ StartsUnshown J world act →
      ¬ world'.PeerShown := by
  refine ⟨?_, ?_⟩
  · intro world h
    refine h.induction ?_ fun world act world' hreachable hshown hstep => ?_
    · rintro world rfl p hp
      cases hp
    · exact hshown.step (.of_reachable hreachable.of_restrict) hstep.1 (World.step_cases hstep.2)
  · intro world act world' hstep hkeep hshown
    unfold StartsUnshown at hkeep
    push Not at hkeep
    obtain ⟨hstarts, hpeer⟩ := hkeep
    obtain ⟨p, hp⟩ := Option.ne_none_iff_exists'.1 hpeer
    cases World.step_cases hstep with
    | installed hinstalled hruns hsame hconnection =>
        obtain ⟨before, after, hnil, -⟩ := hshown p (hsame.trans hp)
        cases before <;> cases hnil
    | refused hnone happ => exact hstarts hnone
    | edited | sent | drained | stepped => exact hstarts rfl

/-! ## The old peer stays -/

/-- A Tor that starts. -/
def torStarts (_exeHint : Option Text) : Except Text TorRuntime := .ok ⟨[], []⟩

/-- The session of the window's first button press, and one that a peer of the name `p` runs. -/
def windowConfig : Config Crates.transparent :=
  transparentPair (fun _ => .desktop) (fun _ => "Kivan".toList) .host

def peerHello : HelloFrame Text := (transparentPair (fun _ => .cli) (fun _ => "p".toList) .joiner).hello

/-- The greeting of the peer in the example is accepted. -/
theorem exists_peerKey : ∃ key, establish windowConfig.program windowConfig.exchange
    windowConfig.expected peerHello = .ok key := by
  have hanyone : ∀ e, (none : Option Text) = some e → e = transparentIdentity.publicKeyBase64 :=
    nofun
  obtain ⟨key, hkey, -⟩ := establish_createHello Crates.transparent.lawful .desktop .cli
    transparentIdentity transparentIdentity "Kivan".toList "p".toList transparentExchange
    transparentExchange hanyone hanyone
  exact ⟨key, hkey⟩

/-- The app after the first button press. -/
def hosting : World Crates.transparent :=
  ⟨(FaunaApp.new.startHost torStarts ⟨0⟩).1, some (.new windowConfig .preparing), 1, []⟩

/-- The window after it has hosted a chat and shown who joined it. -/
def hostedApp : FaunaApp := hosting.app.drainNetworkEvents [.connected "p".toList]

/-- The app then, with the session established and its event handled. -/
def hosted (key : SessionKey Crates.transparent.primitives) : World Crates.transparent :=
  ⟨hostedApp, some { established windowConfig peerHello key with events := [] }, 1,
    [.connected "p".toList]⟩

/-- Pressing the button starts a hosted session. -/
theorem step_hosting : World.new.step SerdeJson.records (.startHost torStarts windowConfig) =
    some hosting := by rfl

/-- The peer joins, and its event is handled. -/
def joinActs : List (Act Crates.transparent) :=
  [.network .connect, .network .writeHello,
    .network (.fill (jsonLine SerdeJson.records (helloRecord peerHello))), .network .readLine,
    .drainNetworkEvents]

/-- No start is pressed while the peer joins. -/
theorem joinActs_noStart : ∀ act ∈ joinActs, act.NoStart := by simp [joinActs, Act.NoStart]

/-- The peer joins and its name is shown. -/
theorem run_joins {key : SessionKey Crates.transparent.primitives}
    (hkey : establish windowConfig.program windowConfig.exchange windowConfig.expected peerHello =
      .ok key) : (desktop Crates.transparent SerdeJson.records).Run hosting joinActs (hosted key) := by
  have hsession : hosting.session = some (.new windowConfig .preparing) := rfl
  have hdrain : World.step SerdeJson.records
      { hosting with session := some (established windowConfig peerHello key) }
      .drainNetworkEvents = some (hosted key) := by rfl
  exact (World.run_connects hsession hkey).append (.single hdrain)

/-- The shown peer of a hosted session is its own. -/
theorem peer_shown_of_connection_hosted : ∃ key, (hosted key).PeerShown := by
  obtain ⟨key, hkey⟩ := exists_peerKey
  have hjoins := (run_joins hkey).to_restrict joinActs_noStart
  refine ⟨key, peer_shown_of_connection.1 _ ⟨World.new, _, rfl, .cons ⟨fun _ => rfl, step_hosting⟩
    (hjoins.weaken fun world act h => StartsUnshown.of_noStart h world)⟩⟩

/-- The user hosts a chat, a peer joins it, and the user hosts another one: the window goes on
showing the old peer, and what is typed waits for whoever joins next. -/
theorem old_peer_shown :
    ¬ ∀ (C : Crates) (J : SerdeJson) (world : World C), (desktop C J).Reachable world →
      world.PeerShown := by
  intro h
  obtain ⟨key, hkey⟩ := exists_peerKey
  have hstart : (hosted key).step SerdeJson.records (.startHost torStarts windowConfig) =
      some ⟨(hostedApp.startHost torStarts ⟨1⟩).1, some (.new windowConfig .preparing), 2, []⟩ := by
    rfl
  have hhosted : (desktop Crates.transparent SerdeJson.records).Reachable (hosted key) :=
    ⟨World.new, _, rfl, .cons step_hosting (run_joins hkey)⟩
  obtain ⟨before, after, hnil, -⟩ := h _ _ _ (hhosted.step hstart) "p".toList rfl
  cases before <;> cases hnil

end Fauna.Desktop
