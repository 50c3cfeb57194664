import Fauna.Net.Link
import Mathlib.Data.Prod.Lex
import Mathlib.Order.WellFounded

/-!
# The threads of a connection cannot go on forever

Left alone, the threads of two sessions come to rest: every step a thread takes by itself brings
it further, or empties the wire, or empties a buffer (`internal_acc`). What they come to rest in is
the subject of the modules that follow.
-/

namespace Fauna.Net

open Fauna.Lib Fauna.Core Fauna.Wire

variable {C : Crates} {J : SerdeJson}

/-- How far a main thread is from its end. Accepting a hello starts a receive thread. -/
def Main.weight : Main C → ℕ
  | .preparing => 8
  | .starting => 7
  | .awaitingHello _ => 6
  | .sending _ => 2
  | .returned _ => 1
  | .ended => 0

/-- How far a receive thread is from its end. -/
def Receiver.weight : Receiver C → ℕ
  | .looping _ _ => 2
  | .returned _ => 1
  | .unspawned | .ended => 0

/-- What the threads of a session have before them, apart from what they read. -/
def Session.weight (s : Session C) : ℕ := s.main.weight + s.receiver.weight + s.queue.length

/-- The bytes the thread that reads has buffered. -/
def Session.buffered (s : Session C) : ℕ := (s.reading.getD []).length

/-- What a step of a thread leaves before it: less, or the same with something taken off the wire,
or the same with less in its buffer. -/
def Lighter (s s' : Session C) (l : Label C) (bytes : Bytes) : Prop :=
  s'.weight < s.weight ∨
    s'.weight = s.weight ∧ bytes = [] ∧
      (l.taken ≠ [] ∨ l.taken = [] ∧ s'.buffered < s.buffered)

/-- A session that fails has at most its return and its receive thread before it. -/
theorem Session.fail_weight (s : Session C) (fault : Fault) :
    (s.fail fault).weight ≤ 1 + s.receiver.weight := by
  cases fault <;> simp [Session.weight, Session.fail, Session.leave, Main.weight]

/-- What was read into a buffer weighs nothing. -/
theorem Session.refill_weight (s : Session C) (buffer : Bytes) :
    (s.refill buffer).weight = s.weight := by
  unfold Session.refill
  split
  · next hmain => simp [Session.weight, hmain, Main.weight]
  · next hreceiver _ => simp [Session.weight, hreceiver, Receiver.weight]
  · rfl

/-- Taking a line makes a session lighter. -/
theorem Taken.lighter {s s' : Session C} {buffer line rest : Bytes}
    (h : Taken J s line rest s') (hreading : s.reading = some buffer)
    (hrest : line ≠ [] → rest.length < buffer.length) :
    s'.weight < s.weight ∨ s'.weight = s.weight ∧ s'.buffered < s.buffered := by
  cases h with
  | accepted hmain hgreet =>
      left
      simp [Session.weight, Session.accept, hmain, Main.weight, Receiver.weight]
      omega
  | @refused _ fault hmain hgreet =>
      left
      have := s.fail_weight fault
      simp only [Session.weight, hmain, Main.weight] at this ⊢
      omega
  | @reported key b body hmain hreceiver hbody =>
      right
      have hline : line ≠ [] := by
        rintro rfl
        simp at hbody
      have hreading' : (s.report key rest body).reading = some rest := by
        unfold Session.reading Session.report
        split
        · next hm => exact absurd hm (hmain _)
        · rfl
      refine ⟨?_, ?_⟩
      · simp [Session.weight, Session.report, hreceiver, Receiver.weight]
      · rw [Session.buffered, Session.buffered, hreading', hreading]
        exact hrest hline
  | broken hmain hreceiver hbody =>
      left
      simp [Session.weight, hreceiver, Receiver.weight]

/-- Every step of a thread by itself makes its session lighter. -/
theorem Change.lighter {s s' : Session C} {l : Label C} {bytes : Bytes}
    (h : Change J s l s' bytes) (hinternal : l.external = false) : Lighter s s' l bytes := by
  cases h with
  | typed | closed | exited | lostInput | announced | connected | unconnected => cases hinternal
  | greeted hmain =>
      left
      simp [Session.weight, Session.wroteHello, hmain, Main.weight]
  | ungreeted hmain =>
      left
      simp [Session.weight, Session.wroteHello, Session.leave, hmain, Main.weight]
      omega
  | skipped hmain hqueue hskips =>
      left
      simp [Session.weight, hqueue]
  | wrote hmain hqueue hskips hseal =>
      left
      simp [Session.weight, Session.wrote, hqueue]
  | @unsealed _ _ _ _ fault hmain hqueue hskips hseal =>
      left
      have := s.fail_weight fault
      simp only [Session.weight, hmain, hqueue, Main.weight, List.length_cons] at this ⊢
      omega
  | unsent hmain hqueue hskips hseal =>
      left
      simp [Session.weight, Session.wrote, Session.leave, hmain, hqueue, Main.weight]
      omega
  | finished hmain hqueue hclosed =>
      left
      simp [Session.weight, Session.leave, hmain, hqueue, Main.weight]
  | filled hreading hne hline => exact Or.inr ⟨s.refill_weight _, rfl, Or.inl hne⟩
  | @read buffer line rest hreading hline =>
      have hjoin := congrArg List.length (takeLine_join hline)
      have hlength : line ≠ [] → rest.length < buffer.length := by
        intro hne
        have := List.length_pos_iff.2 hne
        rw [List.length_append] at hjoin
        omega
      rcases (Taken.of_onLine (J := J) hreading line rest).lighter hreading hlength with hw | hw
      · exact Or.inl hw
      · exact Or.inr ⟨hw.1, rfl, Or.inr ⟨rfl, hw.2⟩⟩
  | @readLast buffer hreading hline =>
      rcases (Taken.of_onLine (J := J) hreading buffer []).lighter hreading
        (fun hne => List.length_pos_iff.2 hne) with hw | hw
      · exact Or.inl hw
      · exact Or.inr ⟨hw.1, rfl, Or.inr ⟨rfl, hw.2⟩⟩
  | @unread buffer message hreading hline =>
      left
      unfold Session.readFails
      split
      · next hmain =>
        simp [Session.weight, Session.leave, hmain, Main.weight]
        omega
      · next hmain =>
        unfold Session.reading at hreading
        split at hreading
        · next hm => exact absurd hm (hmain _)
        · obtain ⟨key, hreceiver⟩ := Receiver.buffer_eq_some.1 hreading
          simp [Session.weight, hreceiver, Receiver.weight]
  | concluded hmain hjoined =>
      left
      simp [Session.weight, hmain, Main.weight]
  | stopped hreceiver =>
      left
      simp [Session.weight, hreceiver, Receiver.weight]

/-! ## Both sides -/

/-- A sum over the two sides. -/
def total (f : Side → ℕ) : ℕ := f .host + f .joiner

/-- The sum read from either end. -/
theorem total_eq (f : Side → ℕ) (side : Side) : total f = f side + f side.other := by
  cases side
  · rfl
  · exact Nat.add_comm _ _

/-- What the threads of a connection have before them, most significant first. -/
def Link.rank (link : Link C) : ℕ ×ₗ ℕ ×ₗ ℕ :=
  toLex (total fun side => (link.session side).weight,
    toLex (total fun side => (link.wire side).length,
      total fun side => (link.session side).buffered))

/-- A step that makes a session lighter lowers the rank. -/
theorem Link.rank_lt {link : Link C} {side : Side} {label : Label C} {session : Session C}
    {bytes : Bytes} (hallows : link.allows side label)
    (h : Lighter (link.session side) session label bytes) :
    (link.after side label session bytes).rank < link.rank := by
  have hfill : label.taken <+: link.wire side.other := by
    cases label with
    | fill bytes => exact hallows
    | _ => exact List.nil_prefix
  have hlength := hfill.length_le
  simp only [Link.rank, Prod.Lex.toLex_lt_toLex, total_eq _ side, after_session_self,
    after_session_other, after_wire_self, after_wire_other, List.length_drop]
  rcases h with hweight | ⟨hweight, rfl, htaken⟩
  · exact Or.inl (Nat.add_lt_add_right hweight _)
  · have hwire : inFlight (link.cut side) (link.wire side) [] = link.wire side := by
      unfold inFlight
      split <;> simp
    rw [hwire, hweight]
    refine Or.inr ⟨rfl, ?_⟩
    rcases htaken with hne | ⟨hnil, hbuffered⟩
    · have := List.length_pos_iff.2 hne
      left
      omega
    · rw [hnil]
      exact Or.inr ⟨rfl, Nat.add_lt_add_right hbuffered _⟩

/-- There is no endless run of the threads by themselves. -/
theorem internal_acc (config : Side → Config C) (main : Main C) (link : Link C) :
    Acc ((network J config main).Internal Move.internal) link := by
  have hwf : WellFounded fun link' link : Link C => link'.rank < link.rank :=
    InvImage.wf Link.rank wellFounded_lt
  refine Subrelation.accessible ?_ (hwf.apply link)
  rintro link' link ⟨move, hinternal, hstep⟩
  cases move with
  | act side label =>
      obtain ⟨hallows, session, bytes, hchange, rfl⟩ := Link.step_act hstep
      exact Link.rank_lt hallows (hchange.lighter hinternal)
  | sever side count => cases hinternal

end Fauna.Net
