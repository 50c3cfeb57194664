import Fauna.Net.Steps
import Mathlib.Logic.Function.Basic

/-!
# Two sessions and the connection between them

The two parties of a session, each with the bytes it has written and the other has not read.
A read takes any non-empty prefix of those bytes, so a stream is delivered in order and in any
chunking. It ends only when the writer is `closed`, that is when no clone of its socket is left,
or when the connection was cut; a cut may lose any tail of what is in flight. Calls on the socket
fail only where the connection was cut or the other party is gone.
-/

namespace Fauna.Net

open Fauna.Lib Fauna.Core Fauna.Wire

/-- The two ends of a connection. -/
inductive Side
  | host
  | joiner
  deriving DecidableEq, Repr

/-- The end across. -/
def Side.other : Side → Side
  | .host => .joiner
  | .joiner => .host

@[simp] theorem Side.other_other (side : Side) : side.other.other = side := by cases side <;> rfl

@[simp] theorem Side.other_ne (side : Side) : side.other ≠ side := by cases side <;> decide

@[simp] theorem Side.ne_other (side : Side) : side ≠ side.other := by cases side <;> decide

/-- There are only the two ends. -/
theorem Side.eq_or_eq_other (side side' : Side) : side' = side ∨ side' = side.other := by
  cases side <;> cases side' <;> simp [Side.other]

/-- Two sessions and what is between them. -/
structure Link (C : Crates) where
  session : Side → Session C
  /-- What a side has written and the other has not read yet. -/
  wire : Side → Bytes
  /-- Nothing that this side writes arrives any more. -/
  cut : Side → Bool

/-- A step of one party, or a cut of one direction after `count` of the bytes in flight. -/
inductive Move (C : Crates)
  | act (side : Side) (label : Label C)
  | sever (side : Side) (count : ℕ)

variable {C : Crates}

/-- A connection before the first step. -/
def Link.new (config : Side → Config C) (main : Main C) : Link C where
  session side := .new (config side) main
  wire _ := []
  cut _ := false

/-- The other side comes to the end of what `side` wrote. -/
def Link.ended (link : Link C) (side : Side) : Bool :=
  link.cut side || (link.session side).closed

/-- A call on the socket of `side` can fail. -/
def Link.broken (link : Link C) (side : Side) : Bool :=
  link.cut side || link.ended side.other

/-- What the connection lets `side` do. -/
def Link.allows (link : Link C) (side : Side) : Label C → Prop
  | .fill bytes => bytes <+: link.wire side.other
  | .readEnd => link.wire side.other = [] ∧ link.ended side.other = true
  | .failRead _ | .failHello _ _ | .failSend _ _ _ => link.broken side = true
  | _ => True

instance (link : Link C) (side : Side) : DecidablePred (link.allows side) := fun label => by
  cases label <;> unfold Link.allows <;> infer_instance

/-- The bytes a step takes off the wire. -/
def Label.taken : Label C → Bytes
  | .fill bytes => bytes
  | _ => []

/-- The step was a write that failed. -/
def Label.fails : Label C → Bool
  | .failHello _ _ | .failSend _ _ _ => true
  | _ => false

/-- What is in flight from a side that writes `bytes`. -/
def inFlight (cut : Bool) (wire bytes : Bytes) : Bytes := if cut then wire else wire ++ bytes

/-- The connection after a step of `side` that left it in `session` and wrote `bytes`. After a
write that failed nothing more gets through. -/
def Link.after (link : Link C) (side : Side) (label : Label C) (session : Session C)
    (bytes : Bytes) : Link C where
  session := Function.update link.session side session
  wire t := if t = side then inFlight (link.cut side) (link.wire side) bytes
    else (link.wire t).drop label.taken.length
  cut t := link.cut t || (decide (t = side) && label.fails)

/-- The connection with another state of one session. -/
def Link.put (link : Link C) (side : Side) (session : Session C) : Link C :=
  { link with session := Function.update link.session side session }

/-- One step of the parties or of the network. -/
def Link.step (J : SerdeJson) (link : Link C) : Move C → Option (Link C)
  | .act side label =>
      if link.allows side label then
        ((link.session side).react J label).map fun p => link.after side label p.1 p.2
      else none
  | .sever side count => some { link with
      wire := Function.update link.wire side ((link.wire side).take count)
      cut := Function.update link.cut side true }

/-- Two parties that begin at `main`, over a network that may cut the connection. -/
def network (J : SerdeJson) (config : Side → Config C) (main : Main C) : Lts (Link C) (Move C) :=
  .ofStep (· = Link.new config main) (Link.step J)

/-- What comes from outside: a user, the end of the process, a failing stdin, and all that leads
to there being a connection. -/
def Label.external : Label C → Bool
  | .submit _ | .closeInput | .exit | .failInput _ => true
  | .announce _ | .connect | .failConnect _ => true
  | _ => false

/-- A step that some thread takes by itself. -/
def Move.internal : Move C → Prop
  | .act _ label => label.external = false
  | .sever _ _ => False

variable {J : SerdeJson} {link link' : Link C}

/-- A step of the connection is a step of one party that the connection allows, or a cut. -/
theorem Link.step_act {side : Side} {label : Label C}
    (h : link.step J (.act side label) = some link') :
    link.allows side label ∧ ∃ session bytes, Change J (link.session side) label session bytes ∧
      link' = link.after side label session bytes := by
  rw [Link.step, Option.ite_none_right_eq_some] at h
  obtain ⟨hallows, h⟩ := h
  obtain ⟨⟨session, bytes⟩, hreact, rfl⟩ := Option.map_eq_some_iff.1 h
  exact ⟨hallows, session, bytes, .of_react hreact, rfl⟩

/-- What a session can do and the connection allows is a step. -/
theorem Link.step_of_react {side : Side} {label : Label C} {session : Session C} {bytes : Bytes}
    (hallows : link.allows side label)
    (hreact : (link.session side).react J label = some (session, bytes)) :
    link.step J (.act side label) = some (link.after side label session bytes) := by
  rw [Link.step, if_pos hallows, hreact]
  rfl

/-- At rest, a party can do nothing by itself that the connection allows. -/
theorem Link.react_eq_none {config : Side → Config C} {main : Main C}
    (hquiet : (network J config main).Quiescent Move.internal link) (side : Side) (label : Label C)
    (hinternal : label.external = false) (hallows : link.allows side label) :
    (link.session side).react J label = none := by
  cases hreact : (link.session side).react J label with
  | none => rfl
  | some p =>
      have hstep := Link.step_of_react (J := J) hallows hreact
      exact absurd hstep (hquiet.not_enabled (a := .act side label) hinternal)

/-- At rest, a party that reads has no whole line, and nothing is in flight towards it. -/
theorem Link.drained {config : Side → Config C} {main : Main C}
    (hquiet : (network J config main).Quiescent Move.internal link) {side : Side} {buffer : Bytes}
    (hreading : (link.session side).reading = some buffer) :
    takeLine buffer = none ∧ link.wire side.other = [] := by
  have hline : takeLine buffer = none := by
    have hnone := Link.react_eq_none hquiet side .readLine rfl trivial
    cases htaken : takeLine buffer with
    | none => rfl
    | some p => simp [Session.react, hreading, htaken] at hnone
  refine ⟨hline, ?_⟩
  have hnone := Link.react_eq_none hquiet side (.fill (link.wire side.other)) rfl
    (List.prefix_refl _)
  simpa [Session.react, hreading, hline] using hnone

/-- At rest, a send loop that runs has written all that was queued. -/
theorem Link.queue_eq_nil {config : Side → Config C} {main : Main C}
    (hquiet : (network J config main).Quiescent Move.internal link) {side : Side}
    {key : SessionKey C.primitives} (hmain : (link.session side).main = .sending key) :
    (link.session side).queue = [] := by
  have nonce : Nonce C.primitives := ⟨List.replicate 24 0, by simp⟩
  cases hqueue : (link.session side).queue with
  | nil => rfl
  | cons line rest =>
      have hnone := Link.react_eq_none hquiet side (.sendNext nonce) rfl trivial
      simp only [Session.react, hmain, hqueue] at hnone
      split_ifs at hnone
      split at hnone <;> cases hnone

variable {side : Side} {label : Label C} {session : Session C} {bytes : Bytes}

@[simp] theorem Link.put_session_self : (link.put side session).session side = session :=
  Function.update_self ..

@[simp] theorem Link.put_session_other :
    (link.put side session).session side.other = link.session side.other :=
  Function.update_of_ne side.other_ne ..

@[simp] theorem Link.after_session_self :
    (link.after side label session bytes).session side = session := Function.update_self ..

@[simp] theorem Link.after_session_other :
    (link.after side label session bytes).session side.other = link.session side.other :=
  Function.update_of_ne side.other_ne ..

@[simp] theorem Link.after_wire_self : (link.after side label session bytes).wire side =
    inFlight (link.cut side) (link.wire side) bytes := if_pos rfl

@[simp] theorem Link.after_wire_other : (link.after side label session bytes).wire side.other =
    (link.wire side.other).drop label.taken.length := if_neg side.other_ne

@[simp] theorem Link.after_cut_self : (link.after side label session bytes).cut side =
    (link.cut side || label.fails) := by simp [Link.after]

@[simp] theorem Link.after_cut_other :
    (link.after side label session bytes).cut side.other = link.cut side.other := by
  simp [Link.after]

/-- A step leaves a session as it is, or is a step of that session. -/
theorem Link.session_step {move : Move C} (hstep : link.step J move = some link') (side : Side) :
    link'.session side = link.session side ∨ ∃ label bytes, move = .act side label ∧
      Change J (link.session side) label (link'.session side) bytes := by
  cases move with
  | act t label =>
      obtain ⟨-, session, bytes, hchange, rfl⟩ := Link.step_act hstep
      rcases t.eq_or_eq_other side with rfl | rfl
      · right
        rw [Link.after_session_self]
        exact ⟨label, bytes, rfl, hchange⟩
      · exact Or.inl Link.after_session_other
  | sever t count =>
      obtain rfl := Option.some.inj hstep
      exact Or.inl rfl

end Fauna.Net
