import Fauna.Desktop.Chat
import Fauna.Desktop.Shown
import Fauna.Net.Closing

/-!
# Every session of a running app

`Process` is the window with all the sessions that it has started: the one that its connection
belongs to, and those that a start button has replaced. A window that replaces its connection drops
its handle: nothing more can be typed into the old session, and nobody reads what it emits. Its
threads go on, with its listener, its socket and the lines that are still queued.

* `Process.Sound`: the messages of the window are the sessions' portions, one after the other.
* `messages_by_session`: what the user typed for one session goes out in that session only.
-/

namespace Fauna.Desktop

open Fauna.Lib Fauna.Core Fauna.Wire Fauna.Net FaunaApp

/-- A running desktop app with every session it has started. -/
structure Process (C : Crates) where
  world : World C
  /-- The sessions whose connection was replaced, in the order they were started. -/
  replaced : List (Session C)

/-- What happens in it. -/
inductive ProcessAct (C : Crates)
  | act (act : Act C)
  /-- A step of the threads of a session whose connection was replaced. -/
  | replaced (index : ℕ) (label : Label C)

variable {C : Crates} {J : SerdeJson}

/-- All of its sessions. -/
def Process.sessions (process : Process C) : List (Session C) :=
  process.replaced ++ process.world.session.toList

/-- The window has dropped its handle of the session. -/
def dropHandle (session : Session C) : Session C := { session with inputOpen := false }

variable (J) in
/-- One step of a running app. -/
def Process.step (process : Process C) : ProcessAct C → Option (Process C)
  | .act act => (process.world.step J act).map fun world =>
      { world := world
        replaced :=
          if world.started = process.world.started then process.replaced
          else process.replaced ++ (process.world.session.map dropHandle).toList }
  | .replaced index label =>
      match process.replaced[index]? with
      | some session =>
          if ofThreads label then
            (session.react J label).map fun p =>
              { process with replaced := process.replaced.set index p.1 }
          else none
      | none => none

variable (C J) in
/-- The desktop app from its start on, with every session it starts. -/
def processes : Lts (Process C) (ProcessAct C) :=
  .ofStep (· = ⟨World.new, []⟩) (Process.step J)

/-! ## What a step can do -/

/-- The window and the session of its connection know nothing of the replaced ones. -/
theorem Process.step_cases {process process' : Process C} {act : ProcessAct C}
    (h : process.step J act = some process') :
    (∃ a, act = .act a ∧ process.world.step J a = some process'.world ∧
      (process'.world.started = process.world.started ∧ process'.replaced = process.replaced ∨
        process'.world.started ≠ process.world.started ∧ process'.replaced =
          process.replaced ++ (process.world.session.map dropHandle).toList)) ∨
    ∃ before session after label session' bytes, process.replaced = before ++ session :: after ∧
      ofThreads label = true ∧ Net.Change J session label session' bytes ∧
      process' = { process with replaced := before ++ session' :: after } := by
  cases act with
  | act a =>
      left
      obtain ⟨world, hworld, rfl⟩ := Option.map_eq_some_iff.1 h
      refine ⟨a, rfl, hworld, ?_⟩
      by_cases hstarted : world.started = process.world.started
      · exact Or.inl ⟨hstarted, if_pos hstarted⟩
      · exact Or.inr ⟨hstarted, if_neg hstarted⟩
  | replaced index label =>
      right
      simp only [Process.step] at h
      split at h
      · next session hsession =>
        rw [Option.ite_none_right_eq_some] at h
        obtain ⟨hlabel, h⟩ := h
        obtain ⟨⟨session', bytes⟩, hreact, rfl⟩ := Option.map_eq_some_iff.1 h
        obtain ⟨hindex, hget⟩ := List.getElem?_eq_some_iff.1 hsession
        refine ⟨process.replaced.take index, session, process.replaced.drop (index + 1), label,
          session', bytes, ?_, hlabel, .of_react hreact, ?_⟩
        · rw [← hget, List.cons_getElem_drop_succ, List.take_append_drop]
        · rw [List.set_eq_take_append_cons_drop, if_pos hindex]
      · cases h

/-! ## What the window shows of a session -/

/-- The lines of the window that belong to a session. -/
structure Portion (lines : List MessageLine) (session : Session C) : Prop where
  /-- The lines of the user are those that were queued. -/
  typed : linesOf .ofLocal lines = session.submitted
  heard : linesOf .ofRemote lines <+: session.reported

/-- A session that the window can see all of. -/
structure Live (lines : List MessageLine) (session : Session C) : Prop where
  typed : linesOf .ofLocal lines = session.submitted
  /-- The lines of the peer and the bodies still waiting are the bodies reported. -/
  heard : linesOf .ofRemote lines ++ incomings session.events = session.reported

/-- What the window has shown of a session stays a portion of it when it is replaced. -/
theorem Live.portion {lines : List MessageLine} {session : Session C} (h : Live lines session) :
    Portion lines (dropHandle session) :=
  ⟨h.typed, ⟨_, h.heard⟩⟩

/-- Nothing is typed into a session whose handle was dropped; it may report more. -/
theorem Portion.of_change {lines : List MessageLine} {session session' : Session C}
    {label : Label C} {bytes : Bytes} (h : Portion lines session)
    (hchange : Net.Change J session label session' bytes) (hthreads : ofThreads label = true) :
    Portion lines session' := by
  obtain ⟨hsubmitted, bodies, hreported, -⟩ := Change.heard hchange hthreads
  refine ⟨h.typed.trans hsubmitted.symm, h.heard.trans ?_⟩
  rw [hreported]
  exact List.prefix_append _ _

/-- A step of the threads leaves what the window has shown and what waits in step. -/
theorem Live.of_change {lines : List MessageLine} {session session' : Session C}
    {label : Label C} {bytes : Bytes} (h : Live lines session)
    (hchange : Net.Change J session label session' bytes) (hthreads : ofThreads label = true) :
    Live lines session' := by
  obtain ⟨hsubmitted, bodies, hreported, hevents⟩ := Change.heard hchange hthreads
  refine ⟨h.typed.trans hsubmitted.symm, ?_⟩
  rw [hreported, hevents, ← h.heard, List.append_assoc]

/-- Lines of the system belong to no session. -/
theorem Live.append_system {lines lines' : List MessageLine} {session : Session C}
    (h : Live lines session) (hsystem : ∀ line ∈ lines', line.author = .ofSystem) :
    Live (lines ++ lines') session := by
  refine ⟨?_, ?_⟩
  · rw [linesOf_append, linesOf_system hsystem (by decide), List.append_nil, h.typed]
  · rw [linesOf_append, linesOf_system hsystem (by decide), List.append_nil, h.heard]

/-! ## The invariant -/

/-- The messages of the window before there is a session, and then a portion for each session. -/
inductive Process.Told (process : Process C) : Prop
  | unstarted (hsession : process.world.session = none) (hreplaced : process.replaced = [])
      (hmessages : ∀ line ∈ process.world.app.messages, line.author = .ofSystem)
  | started {session before earlier current} (hsession : process.world.session = some session)
      (hmessages : process.world.app.messages = before ++ (earlier.flatten ++ current))
      (hbefore : ∀ line ∈ before, line.author = .ofSystem)
      (hearlier : List.Forall₂ Portion earlier process.replaced) (hcurrent : Live current session)

/-- What a running app keeps of its sessions and of its messages. -/
structure Process.Sound (process : Process C) : Prop where
  linked : process.world.Linked
  well : ∀ session ∈ process.sessions, session.Well ∧ session.config.program = .desktop
  dropped : ∀ session ∈ process.replaced, session.inputOpen = false
  told : process.Told

/-- A start button appends lines of the system. -/
theorem World.messages_of_started {world world' : World C} {act : Act C}
    (h : world.step J act = some world') (hstarted : world'.started ≠ world.started) :
    ∃ lines, world'.app.messages = world.app.messages ++ lines ∧
      ∀ line ∈ lines, line.author = .ofSystem := by
  have hinstall {result : FaunaApp × Option Start} {config : Config C}
      (hresult : FaunaApp.Starts ⟨world.started⟩ world.app result)
      (h : world.install J result config = some world') :
      ∃ lines, world'.app.messages = world.app.messages ++ lines ∧
        ∀ line ∈ lines, line.author = .ofSystem := by
    unfold World.install at h
    split at h
    · obtain rfl := Option.some.inj h
      exact hresult.messages
    · rw [Option.ite_none_right_eq_some] at h
      obtain ⟨-, h⟩ := h
      obtain rfl := Option.some.inj h
      exact hresult.messages
  cases act with
  | startHost startManagedTor config => exact hinstall (FaunaApp.startHost_starts _ _ _) h
  | startJoin startManagedTor config => exact hinstall (FaunaApp.startJoin_starts C J _ _ _) h
  | edit | sendMessage | drainNetworkEvents =>
      obtain rfl := Option.some.inj h
      exact absurd rfl hstarted
  | network label =>
      simp only [World.step] at h
      split at h
      · rw [Option.ite_none_right_eq_some] at h
        obtain ⟨-, h⟩ := h
        obtain ⟨p, -, rfl⟩ := Option.map_eq_some_iff.1 h
        exact absurd rfl hstarted
      · cases h

/-- The window has done something that started nothing. -/
theorem Process.Told.quiet {process : Process C} {world : World C} (h : process.Told)
    (hsession : world.session = process.world.session)
    (hmessages : ∃ lines, world.app.messages = process.world.app.messages ++ lines ∧
      ∀ line ∈ lines, line.author = .ofSystem) :
    Process.Told { process with world := world } := by
  obtain ⟨lines, hlines, hsystem⟩ := hmessages
  cases h with
  | unstarted hnone hreplaced hsystem' =>
      refine .unstarted (hsession.trans hnone) hreplaced ?_
      rw [hlines]
      exact fun line hline => (List.mem_append.1 hline).elim (hsystem' line) (hsystem line)
  | @started session before earlier current hsome hmessages hbefore hearlier hcurrent =>
      refine .started (hsession.trans hsome) ?_ hbefore hearlier (hcurrent.append_system hsystem)
      rw [hlines, hmessages, List.append_assoc, List.append_assoc]

/-- The window has done something with the session of its connection. -/
theorem Process.Told.current {process : Process C} {world : World C} {session session' : Session C}
    {lines : List MessageLine} (h : process.Told) (hsession : process.world.session = some session)
    (hsession' : world.session = some session')
    (hmessages : world.app.messages = process.world.app.messages ++ lines)
    (hlive : ∀ shown, Live shown session → Live (shown ++ lines) session') :
    Process.Told { process with world := world } := by
  cases h with
  | unstarted hnone => cases hnone.symm.trans hsession
  | @started _ before earlier current hsome hshown hbefore hearlier hcurrent =>
      obtain rfl := Option.some.inj (hsome.symm.trans hsession)
      refine .started hsession' ?_ hbefore hearlier (hlive current hcurrent)
      rw [hmessages, hshown, List.append_assoc, List.append_assoc]

/-- A session that is started keeps itself well formed, also where its thread returns at once. -/
theorem Start.well_new (start : Start) (config : Config C) :
    (Session.new config (start.main J)).Well := by
  have hpreparing : (Session.new config (.preparing : Main C)).Well := .new config (Or.inl rfl)
  cases start with
  | host => exact hpreparing
  | join name invite torSocksAddr =>
      unfold Start.main
      dsimp only
      split
      · split
        · exact hpreparing.leave _
        · exact hpreparing
      · exact hpreparing.leave _

/-- Queueing a line keeps a session well formed. -/
theorem well_submit {session : Session C} (h : session.Well) {body : Option Text}
    (hlive : body ≠ none → session.live = true) : (submit session body).Well := by
  cases body with
  | none => exact h
  | some body => exact h.submit (hlive nofun) body

/-- So does handling its events. -/
theorem well_drained {session : Session C} (h : session.Well) :
    ({ session with events := [] } : Session C).Well :=
  h.stop rfl rfl rfl rfl rfl rfl (Or.inl ⟨rfl, rfl⟩) (Or.inl rfl)

/-- So does dropping its handle. -/
theorem well_dropHandle {session : Session C} (h : session.Well) : (dropHandle session).Well :=
  h.stop rfl rfl rfl rfl rfl rfl (Or.inl ⟨rfl, rfl⟩) (Or.inl rfl)

/-- Queueing a line does not change the configuration. -/
theorem program_submit (session : Session C) (body : Option Text) :
    (submit session body).config = session.config := by
  cases body <;> rfl

/-- A line that is sent is typed into the session of the connection. -/
theorem Live.submit {shown lines : List MessageLine} {session : Session C} {body : Option Text}
    (h : Live shown session) (hremote : linesOf .ofRemote lines = [])
    (hlocal : linesOf .ofLocal lines = body.toList) :
    Live (shown ++ lines) (submit session body) := by
  refine ⟨?_, ?_⟩
  · rw [linesOf_append, hlocal, h.typed]
    cases body with
    | none => exact List.append_nil _
    | some body => rfl
  · rw [linesOf_append, hremote, List.append_nil]
    cases body <;> exact h.heard

/-- What the window shows of the session of its connection, after what starts nothing: what it
showed, with lines of the system, or what goes with a change of the session. -/
def World.Shows (world world' : World C) : Prop :=
  (world'.session = world.session ∧ ∃ lines, world'.app.messages = world.app.messages ++ lines ∧
      ∀ line ∈ lines, line.author = .ofSystem) ∨
    ∃ session session' lines, world.session = some session ∧ world'.session = some session' ∧
      world'.app.messages = world.app.messages ++ lines ∧
      (session.Well → session'.Well) ∧ session'.config = session.config ∧
      ∀ shown, Live shown session → Live (shown ++ lines) session'

/-- The line that is sent is the line that is shown. -/
theorem World.shows_sent {world : World C} (hlinked : world.Linked) :
    world.Shows { world with
      app := (world.app.sendMessage (world.session.any Session.live)).1
      session := world.session.map fun session =>
        submit session (world.app.sendMessage (world.session.any Session.live)).2 } := by
  obtain ⟨lines, hmessages, hremote, hlocal, halive⟩ :=
    sendMessage_lines (world.session.any Session.live) world.app
  rcases world.session.eq_none_or_eq_some with hsession | ⟨session, hsession⟩
  · -- nothing is sent without a connection
    have hquiet : FaunaApp.Quiet world.app
        (world.app.sendMessage (world.session.any Session.live)).1 := by
      rcases world.app.sendMessage_cases (world.session.any Session.live) with
        ⟨-, hsend⟩ | ⟨-, -, report, hsend⟩ | ⟨-, hconnection, -⟩
      · rw [hsend]
        exact .refl _
      · rw [hsend]
        exact world.app.pushSystem_quiet report
      · exact absurd (hlinked.connected.2 hsession) hconnection
    refine Or.inl ⟨?_, hquiet.messages⟩
    dsimp only
    rw [hsession]
    rfl
  · refine Or.inr ⟨session, _, lines, hsession, by dsimp only; rw [hsession]; rfl, hmessages, ?_,
      program_submit _ _, fun shown hshown => hshown.submit hremote hlocal⟩
    exact fun hwell => well_submit hwell fun hsent => by simpa [hsession] using halive hsent

/-- The bodies that are handled are those that are shown. -/
theorem World.shows_drained {world : World C} (hlinked : world.Linked) :
    world.Shows { world with
      app := world.app.drainNetworkEvents ((world.session.map Session.events).getD [])
      session := world.session.map fun session => { session with events := [] }
      handled := world.handled ++ (world.session.map Session.events).getD [] } := by
  rcases world.session.eq_none_or_eq_some with hsession | ⟨session, hsession⟩
  · have hquiet : world.app.drainNetworkEvents ((world.session.map Session.events).getD []) =
        world.app := by
      simp [drainNetworkEvents, hlinked.connected.2 hsession]
    refine Or.inl ⟨?_, [], ?_, by simp⟩
    · dsimp only
      rw [hsession]
      rfl
    · dsimp only
      rw [hquiet, List.append_nil]
  · have hconnection : world.app.connection ≠ none := by
      simp [Ne, hlinked.connected, hsession]
    obtain ⟨lines, hmessages, hremote, hlocal⟩ :=
      drainNetworkEvents_messages hconnection session.events
    refine Or.inr ⟨session, { session with events := [] }, lines, hsession, ?_, ?_, well_drained,
      rfl, fun shown hshown => ⟨?_, ?_⟩⟩
    · dsimp only
      rw [hsession]
      rfl
    · dsimp only
      rw [hsession]
      exact hmessages
    · rw [linesOf_append, hlocal, List.append_nil, hshown.typed]
    · rw [linesOf_append, hremote, List.append_assoc]
      exact (congrArg _ (List.append_nil _)).trans hshown.heard

/-- Whatever starts nothing changes what is shown along with the session. -/
theorem World.Change.shows {world world' : World C} {act : Act C}
    (h : World.Change J world act world') (hlinked : world.Linked)
    (hstarted : world'.started = world.started) : world.Shows world' := by
  cases h with
  | edited fields => exact Or.inl ⟨rfl, [], by simp [edit], by simp⟩
  | refused hstarts happ => exact Or.inl ⟨rfl, happ.messages⟩
  | installed => exact absurd hstarted (Nat.succ_ne_self _)
  | sent => exact World.shows_sent hlinked
  | drained => exact World.shows_drained hlinked
  | @stepped session session' label bytes hsession hlabel hchange =>
      refine Or.inr ⟨session, session', [], hsession, rfl, (List.append_nil _).symm,
        fun hwell => hwell.of_change hchange, hchange.writes.1, fun shown hshown => ?_⟩
      rw [List.append_nil]
      exact hshown.of_change hchange hlabel

/-- What the window does with the session of its connection leaves the others alone. -/
theorem Process.Sound.changed {process : Process C} {act : Act C} {world : World C}
    (h : process.Sound) (hchange : World.Change J process.world act world)
    (hstarted : world.started = process.world.started) :
    Process.Sound { process with world := world } := by
  have hlinked := h.linked.step hchange
  have hwell (hcurrent : ∀ session ∈ world.session.toList,
      session.Well ∧ session.config.program = .desktop) :
      ∀ session ∈ ({ process with world := world } : Process C).sessions,
        session.Well ∧ session.config.program = .desktop := by
    intro session hmem
    rcases List.mem_append.1 hmem with hmem | hmem
    · exact h.well session (List.mem_append_left _ hmem)
    · exact hcurrent session hmem
  rcases hchange.shows h.linked hstarted with ⟨hsession, hmessages⟩ |
    ⟨session, session', lines, hsession, hsession', hmessages, hkeeps, hconfig, hlive⟩
  · refine ⟨hlinked, hwell fun session hmem => ?_, h.dropped, h.told.quiet hsession hmessages⟩
    rw [hsession] at hmem
    exact h.well session (List.mem_append_right _ hmem)
  · refine ⟨hlinked, hwell fun session'' hmem => ?_, h.dropped,
      h.told.current hsession hsession' hmessages hlive⟩
    obtain ⟨hsessionWell, hdesktop⟩ :=
      h.well session (List.mem_append_right _ (Option.mem_toList.2 hsession))
    rw [hsession', Option.toList_some, List.mem_singleton] at hmem
    rw [hmem, hconfig]
    exact ⟨hkeeps hsessionWell, hdesktop⟩

/-- A start button replaces the connection. -/
theorem Process.Sound.replacing {process : Process C} {act : Act C} {world : World C}
    (h : process.Sound) (hstep : process.world.step J act = some world)
    (hstarted : world.started ≠ process.world.started) :
    Process.Sound ⟨world,
      process.replaced ++ (process.world.session.map dropHandle).toList⟩ := by
  have hlinked := h.linked.step (World.step_cases hstep)
  obtain ⟨lines, hlines, hsystem⟩ := World.messages_of_started hstep hstarted
  cases World.step_cases hstep with
  | edited | refused | sent | drained | stepped => exact absurd rfl hstarted
  | @installed _ app config start hstarts hruns hpeer hconnection =>
      have hprogram : config.program = .desktop := hruns.1
      refine ⟨hlinked, ?_, ?_, ?_⟩
      · intro session hmem
        rcases List.mem_append.1 hmem with hmem | hmem
        · rcases List.mem_append.1 hmem with hmem | hmem
          · exact h.well session (List.mem_append_left _ hmem)
          · obtain ⟨session, hsession, rfl⟩ := Option.map_eq_some_iff.1 (Option.mem_toList.1 hmem)
            obtain ⟨hwell, hdesktop⟩ :=
              h.well session (List.mem_append_right _ (Option.mem_toList.2 hsession))
            exact ⟨well_dropHandle hwell, hdesktop⟩
        · obtain rfl := List.mem_singleton.1 hmem
          exact ⟨start.well_new config, hprogram⟩
      · intro session hmem
        rcases List.mem_append.1 hmem with hmem | hmem
        · exact h.dropped session hmem
        · obtain ⟨session, hsession, rfl⟩ := Option.map_eq_some_iff.1 (Option.mem_toList.1 hmem)
          rfl
      · have hnew : Live [] (Session.new config (start.main J)) := ⟨rfl, rfl⟩
        have hshown : app.messages = process.world.app.messages ++ lines := hlines
        cases h.told with
        | unstarted hnone hreplaced hquiet =>
            have hmessages : app.messages =
                (process.world.app.messages ++ lines) ++ (([] : List (List MessageLine)).flatten ++
                  []) := by simpa using hshown
            refine .started rfl hmessages ?_ ?_ hnew
            · exact fun line hline =>
                (List.mem_append.1 hline).elim (hquiet line) (hsystem line)
            · simp [hreplaced, hnone]
        | @started session before earlier current hsession hmessages hbefore hearlier hcurrent =>
            have hmessages' : app.messages =
                before ++ ((earlier ++ [current ++ lines]).flatten ++ []) := by
              simp [hshown, hmessages]
            refine .started rfl hmessages' hbefore ?_ hnew
            simp only [hsession, Option.map_some, Option.toList_some]
            exact List.rel_append hearlier
              (.cons (hcurrent.append_system hsystem).portion .nil)

/-- One of the entries on the right may be replaced by what all on the left accept as well. -/
theorem forall₂_replace {α β : Type} {R : α → β → Prop} {as : List α} {before after : List β}
    {b b' : β} (h : List.Forall₂ R as (before ++ b :: after)) (hb : ∀ a, R a b → R a b') :
    List.Forall₂ R as (before ++ b' :: after) := by
  induction before generalizing as with
  | nil =>
      cases h with
      | cons hhead htail => exact .cons (hb _ hhead) htail
  | cons c before ih =>
      cases h with
      | cons hhead htail => exact .cons hhead (ih htail)

/-- The threads of a session whose connection was replaced go on. -/
theorem Process.Sound.stepped {process : Process C} {before after : List (Session C)}
    {session session' : Session C} {label : Label C} {bytes : Bytes} (h : process.Sound)
    (hreplaced : process.replaced = before ++ session :: after)
    (hlabel : ofThreads label = true) (hchange : Net.Change J session label session' bytes) :
    Process.Sound { process with replaced := before ++ session' :: after } := by
  have hmem : session ∈ process.replaced := by
    rw [hreplaced]
    exact List.mem_append_right _ List.mem_cons_self
  have hothers {s : Session C} (hs : s ∈ before ++ session' :: after) (hne : s ≠ session') :
      s ∈ process.replaced := by
    rw [hreplaced]
    rcases List.mem_append.1 hs with hs | hs
    · exact List.mem_append_left _ hs
    · exact List.mem_append_right _ (List.mem_cons_of_mem _ (List.mem_of_ne_of_mem hne hs))
  refine ⟨h.linked, ?_, ?_, ?_⟩
  · intro s hs
    by_cases hs' : s = session'
    · obtain ⟨hwell, hdesktop⟩ := h.well session (List.mem_append_left _ hmem)
      rw [hs']
      exact ⟨hwell.of_change hchange, by rw [hchange.writes.1, hdesktop]⟩
    · rcases List.mem_append.1 hs with hs | hs
      · exact h.well s (List.mem_append_left _ (hothers hs hs'))
      · exact h.well s (List.mem_append_right _ hs)
  · intro s hs
    by_cases hs' : s = session'
    · rw [hs']
      exact hchange.inputOpen (h.dropped session hmem)
    · exact h.dropped s (hothers hs hs')
  · cases h.told with
    | unstarted hnone hnil => simp [hreplaced] at hnil
    | started hsession hmessages hbefore hearlier hcurrent =>
        rw [hreplaced] at hearlier
        exact .started hsession hmessages hbefore
          (forall₂_replace hearlier fun portion hportion => hportion.of_change hchange hlabel)
          hcurrent

/-- Every step of the app keeps it. -/
theorem Process.Sound.step {process process' : Process C} {act : ProcessAct C}
    (h : process.Sound) (hstep : process.step J act = some process') : process'.Sound := by
  rcases Process.step_cases hstep with ⟨a, rfl, hworld, ⟨hstarted, hsame⟩ | ⟨hstarted, hmore⟩⟩ |
    ⟨before, session, after, label, session', bytes, hreplaced, hlabel, hchange, rfl⟩
  · obtain ⟨world, replaced⟩ := process'
    obtain rfl : replaced = process.replaced := hsame
    exact h.changed (World.step_cases hworld) hstarted
  · obtain ⟨world, replaced⟩ := process'
    obtain rfl : replaced = _ := hmore
    exact h.replacing hworld hstarted
  · exact h.stepped hreplaced hlabel hchange

/-- It holds of an app that has been running from its start on. -/
theorem Process.Sound.of_reachable {process : Process C} (h : (processes C J).Reachable process) :
    process.Sound := by
  refine h.invariant ?_ fun process act process' hsound hstep => hsound.step hstep
  rintro process rfl
  refine ⟨World.Linked.of_reachable (.of_init (L := desktop C J) rfl), fun session hmem => ?_,
    fun session hmem => ?_, ?_⟩
  · cases hmem
  · cases hmem
  · exact .unstarted rfl rfl (by simp [World.new, FaunaApp.new])

/-! ## The result -/

/-- How a part of the window's messages goes with a session: the lines of the user in it are what
was typed for the session, the lines of the peer were reported by it, and what it has written is its
hello and then frames that were sealed, under its own key, from lines of the user in this part. -/
structure Chatted (lines : List MessageLine) (session : Session C) : Prop where
  typed : linesOf .ofLocal lines = session.submitted
  heard : linesOf .ofRemote lines <+: session.reported
  written : session.written = [] ∨ ∃ frames : List (Text × ChatFrame Text),
    session.written = helloRecord session.config.hello :: (frames.map fun m => chatRecord m.2) ∧
      frames.map Prod.fst <+: linesOf .ofLocal lines ∧
      ∀ m ∈ frames, ∃ hello key nonce, session.peer = some (hello, key) ∧
        sealChat key nonce m.1 = .ok m.2

/-- A portion says what its session has written. -/
theorem Portion.chatted {lines : List MessageLine} {session : Session C}
    (h : Portion lines session) (hwell : session.Well)
    (hdesktop : session.config.program = .desktop) : Chatted lines session := by
  have hkept : session.kept session.submitted = session.submitted := by
    simp [Session.kept, skips, hdesktop]
  refine ⟨h.typed, h.heard, ?_⟩
  rcases hwell.history with ⟨hnone, -⟩ | hwritten
  · exact Or.inl hnone
  · refine Or.inr ⟨session.sent, hwritten, ?_, hwell.sealed_sent⟩
    rw [h.typed, ← hkept]
    exact hwell.typed

/-- Nothing is typed into a session whose connection was replaced. -/
theorem Process.submitted_replaced {process process' : Process C} {act : ProcessAct C}
    (hstep : process.step J act = some process') :
    process.replaced.map Session.submitted <+: process'.replaced.map Session.submitted := by
  rcases Process.step_cases hstep with ⟨a, -, -, ⟨-, hsame⟩ | ⟨-, hmore⟩⟩ |
    ⟨before, session, after, label, session', bytes, hreplaced, hlabel, hchange, rfl⟩
  · rw [hsame]
  · rw [hmore, List.map_append]
    exact List.prefix_append _ _
  · have hsubmitted := (Change.heard hchange hlabel).1
    simp [hreplaced, hsubmitted]

/-- In every state that a running app can reach, whatever the user presses and types, whatever its
threads do, those of replaced sessions too, and whatever comes from the network: the messages of the
window are lines of the system and then one part for each session it has started, in order. What the
user typed in one part goes out in that session only, under its key; what the peer said in one part
was reported by that session. And once its connection is replaced, nothing more is ever typed into a
session. -/
theorem messages_by_session {process : Process C} (h : (processes C J).Reachable process) :
    (∃ before parts, process.world.app.messages = before ++ parts.flatten ∧
      (∀ line ∈ before, line.author = .ofSystem) ∧
      List.Forall₂ Chatted parts process.sessions) ∧
    ∀ acts process', (processes C J).Run process acts process' →
      process.replaced.map Session.submitted <+: process'.replaced.map Session.submitted := by
  have hsound := Process.Sound.of_reachable h
  refine ⟨?_, ?_⟩
  · cases hsound.told with
    | unstarted hsession hreplaced hmessages =>
        refine ⟨process.world.app.messages, [], (List.append_nil _).symm, hmessages, ?_⟩
        rw [Process.sessions, hsession, hreplaced]
        exact .nil
    | @started session before earlier current hsession hmessages hbefore hearlier hcurrent =>
        refine ⟨before, earlier ++ [current], by simp [hmessages], hbefore, ?_⟩
        have hportions : List.Forall₂ Portion (earlier ++ [current]) process.sessions := by
          rw [Process.sessions, hsession]
          exact List.rel_append hearlier (.cons ⟨hcurrent.typed, ⟨_, hcurrent.heard⟩⟩ .nil)
        rw [List.forall₂_iff_zip] at hportions ⊢
        refine ⟨hportions.1, fun {lines s} hmem => ?_⟩
        obtain ⟨hwell, hdesktop⟩ := hsound.well s (List.of_mem_zip hmem).2
        exact (hportions.2 hmem).chatted hwell hdesktop
  · intro acts process' hrun
    have hstep : ∀ (s : Process C) (act : ProcessAct C) (t : Process C),
        process.replaced.map Session.submitted <+: s.replaced.map Session.submitted →
        (processes C J).step s act t →
        process.replaced.map Session.submitted <+: t.replaced.map Session.submitted :=
      fun s act t hs hst => hs.trans (Process.submitted_replaced hst)
    exact hrun.invariant hstep (List.prefix_refl _)

/-- The user hosts a chat, types a line and hosts another one before anybody has joined. -/
def hostedTwice : Process Crates.transparent where
  world := ⟨((FaunaApp.sendMessage true
      (hosting.app.edit { hosting.app with draftMessage := "a".toList })).1.startHost torStarts
        ⟨1⟩).1, some (.new windowConfig .preparing), 2, []⟩
  replaced := [dropHandle (submit (.new windowConfig .preparing) (some "a".toList))]

/-- The app comes to this state. -/
theorem hostedTwice_reachable :
    (processes Crates.transparent SerdeJson.records).Reachable hostedTwice := by
  refine ⟨⟨World.new, []⟩, [.act (.startHost torStarts windowConfig),
    .act (.edit { hosting.app with draftMessage := "a".toList }), .act .sendMessage,
    .act (.startHost torStarts windowConfig)], rfl, ?_⟩
  exact .cons rfl (.cons rfl (.cons rfl (.single rfl)))

/-- The line typed for the first host is that of the replaced session. -/
theorem messages_by_session_hosted_twice :
    hostedTwice.replaced.map Session.submitted = [["a".toList]] ∧
      ∃ before parts, hostedTwice.world.app.messages = before ++ parts.flatten ∧
        (∀ line ∈ before, line.author = .ofSystem) ∧
        List.Forall₂ Chatted parts hostedTwice.sessions :=
  ⟨rfl, (messages_by_session hostedTwice_reachable).1⟩

end Fauna.Desktop
